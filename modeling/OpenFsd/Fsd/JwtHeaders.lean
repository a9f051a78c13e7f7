import OpenFsd.Go.JsonText
import OpenFsd.Fsd.Fields
import OpenFsd.Fsd.Jwt
import OpenFsd.Symbolic

namespace OpenFsd
namespace Fsd

open JsonText

/-!
# Which tokens are recognized

A token in the compact serialization is written in the base64 of URLs, without
padding.  `mostLikelyJwt` decodes the header of a token with the standard
base64, which has two other characters in its alphabet and demands padding.
Here it is settled which headers it decodes nevertheless, and which of these
it finds in order.
-/

/-! ## The base64 of URLs -/

/-- A text in groups of six bits, the last of them filled up with zeros. -/
def sextets : Bytes -> List UInt8
  | [] => []
  | [a] => [a / 4, a % 4 * 16]
  | [a, b] => [a / 4, a % 4 * 16 + b / 16, b % 16 * 4]
  | a :: b :: c :: rest =>
      a / 4 :: (a % 4 * 16 + b / 16) :: (b % 16 * 4 + c / 64) :: c % 64 :: sextets rest

/-- The character for six bits in `base64.RawURLEncoding`. -/
def urlDigit (value : UInt8) : UInt8 :=
  (bytes "ABCDEFGHIJKLMNOPQRSTUVWXYZabcdefghijklmnopqrstuvwxyz0123456789-_").getD value.toNat 0

/-- `base64.RawURLEncoding.EncodeToString` -/
def base64url (text : Bytes) : Bytes :=
  (sextets text).map urlDigit

theorem group_lt (a b c : UInt8) :
    (a / 4).toNat < 64 ∧ (a % 4 * 16 + b / 16).toNat < 64 ∧
      (b % 16 * 4 + c / 64).toNat < 64 ∧ (c % 64).toNat < 64 := by
  have boundA := a.toNat_lt
  have boundB := b.toNat_lt
  have boundC := c.toNat_lt
  simp only [UInt8.toNat_add, UInt8.toNat_mul, UInt8.toNat_mod, UInt8.toNat_div,
    UInt8.reduceToNat]
  omega

theorem sextets_lt {text : Bytes} : forall value, value ∈ sextets text -> value.toNat < 64 := by
  induction text using sextets.induct with
  | case1 =>
      intro value member
      cases member
  | case2 a =>
      rcases group_lt a 0 0 with ⟨first, second, _⟩
      rw [UInt8.zero_div, UInt8.add_zero] at second
      rw [sextets, List.forall_mem_cons, List.forall_mem_singleton]
      exact ⟨first, second⟩
  | case3 a b =>
      rcases group_lt a b 0 with ⟨first, second, third, _⟩
      rw [UInt8.zero_div, UInt8.add_zero] at third
      rw [sextets, List.forall_mem_cons, List.forall_mem_cons, List.forall_mem_singleton]
      exact ⟨first, second, third⟩
  | case4 a b c rest inductionHypothesis =>
      rcases group_lt a b c with ⟨first, second, third, fourth⟩
      rw [sextets, List.forall_mem_cons, List.forall_mem_cons, List.forall_mem_cons,
        List.forall_mem_cons]
      exact ⟨first, second, third, fourth, inductionHypothesis⟩

/-- What the table says of every six bits. -/
theorem forall_sextet {Q : UInt8 -> Prop} (table : forall index : Fin 64, Q (UInt8.ofNat index))
    {value : UInt8} (small : value.toNat < 64) : Q value := by
  have here := table ⟨value.toNat, small⟩
  rwa [UInt8.ofNat_toNat] at here

/-- The two alphabets differ in their last two characters. -/
theorem base64Value_urlDigit {value decoded : UInt8} (small : value.toNat < 64) :
    base64Value (urlDigit value) = some decoded ↔ decoded = value ∧ value.toNat < 62 := by
  have table : base64Value (urlDigit value) = if value.toNat < 62 then some value else none := by
    revert value
    exact forall_sextet (Q := fun value => base64Value (urlDigit value) =
      if value.toNat < 62 then some value else none) (by decide +kernel)
  rw [table, Option.ite_none_right_eq_some, Option.some.injEq, and_comm, eq_comm]

theorem urlDigit_not_mem {value : UInt8} (small : value.toNat < 64) :
    urlDigit value ∉ [carriageReturn, lineFeed, byte '=', byte '.'] := by
  revert value
  exact forall_sextet (Q := fun value =>
    urlDigit value ∉ [carriageReturn, lineFeed, byte '=', byte '.']) (by decide +kernel)

theorem urlDigit_ne_padding {value : UInt8} (small : value.toNat < 64) :
    urlDigit value ≠ byte '=' := by
  intro same
  have absent := urlDigit_not_mem small
  rw [same] at absent
  revert absent
  decide

theorem not_mem_base64url {character : UInt8} (mark : character ∈
    [carriageReturn, lineFeed, byte '=', byte '.']) (text : Bytes) :
    character ∉ base64url text := by
  intro member
  rcases List.mem_map.mp member with ⟨value, listed, same⟩
  rw [← same] at mark
  exact urlDigit_not_mem (sextets_lt value listed) mark

/-! ## The standard decoder on it -/

/-- A quantum without padding. -/
theorem decodeQuanta_unpadded {a b c d : UInt8} (third : c ≠ byte '=') (fourth : d ≠ byte '=')
    {rest decoded : Bytes} :
    decodeQuanta (a :: b :: c :: d :: rest) = some decoded ↔
      Exists fun va => Exists fun vb => Exists fun vc => Exists fun vd => Exists fun tail =>
        base64Value a = some va ∧ base64Value b = some vb ∧ base64Value c = some vc ∧
          base64Value d = some vd ∧ decodeQuanta rest = some tail ∧
            (va * 4 + vb / 16) :: (vb * 16 + vc / 4) :: (vc * 64 + vd) :: tail = decoded := by
  rw [decodeQuanta]
  simp only [if_neg third, if_neg fourth]
  cases base64Value a with
  | none => simp
  | some va =>
      cases base64Value b with
      | none => simp
      | some vb =>
          cases base64Value c with
          | none => simp
          | some vc => cases base64Value d <;> simp

/-- The four groups of six bits, put together. -/
theorem rejoin (a b c : UInt8) :
    a / 4 * 4 + (a % 4 * 16 + b / 16) / 16 = a ∧
      (a % 4 * 16 + b / 16) * 16 + (b % 16 * 4 + c / 64) / 4 = b ∧
        (b % 16 * 4 + c / 64) * 64 + c % 64 = c := by
  have boundA := a.toNat_lt
  have boundB := b.toNat_lt
  have boundC := c.toNat_lt
  refine ⟨UInt8.toNat_inj.mp ?_, UInt8.toNat_inj.mp ?_, UInt8.toNat_inj.mp ?_⟩
  all_goals
    simp only [UInt8.toNat_add, UInt8.toNat_mul, UInt8.toNat_mod, UInt8.toNat_div,
      UInt8.reduceToNat]
    omega

/-- The text divides into quanta, and no group of six bits is one on which
the two alphabets differ. -/
def ReadAlike (text : Bytes) : Prop :=
  text.length % 3 = 0 ∧ forall value, value ∈ sextets text -> value.toNat < 62

instance : DecidablePred ReadAlike :=
  fun _ => inferInstanceAs (Decidable (_ ∧ _))

theorem readAlike_cons {a b c : UInt8} {rest : Bytes} :
    ReadAlike (a :: b :: c :: rest) ↔
      ((a / 4).toNat < 62 ∧ (a % 4 * 16 + b / 16).toNat < 62 ∧
        (b % 16 * 4 + c / 64).toNat < 62 ∧ (c % 64).toNat < 62) ∧ ReadAlike rest := by
  unfold ReadAlike
  have length : (a :: b :: c :: rest).length % 3 = rest.length % 3 := Nat.add_mod_right _ 3
  rw [sextets, length, List.forall_mem_cons, List.forall_mem_cons, List.forall_mem_cons,
    List.forall_mem_cons]
  constructor
  · rintro ⟨divides, commonA, commonB, commonC, commonD, others⟩
    exact ⟨⟨commonA, commonB, commonC, commonD⟩, divides, others⟩
  · rintro ⟨⟨commonA, commonB, commonC, commonD⟩, divides, others⟩
    exact ⟨divides, commonA, commonB, commonC, commonD, others⟩

/-- The standard decoder decodes these texts, and only these. -/
theorem decodeQuanta_base64url {text decoded : Bytes} :
    decodeQuanta (base64url text) = some decoded ↔ decoded = text ∧ ReadAlike text := by
  unfold base64url
  induction text using sextets.induct generalizing decoded with
  | case1 =>
      constructor
      · intro same
        cases same
        exact ⟨rfl, by decide +kernel⟩
      · rintro ⟨same, _⟩
        exact congrArg some same.symm
  | case2 a =>
      constructor
      · intro impossible
        cases impossible
      · rintro ⟨_, divides, _⟩
        cases divides
  | case3 a b =>
      constructor
      · intro impossible
        cases impossible
      · rintro ⟨_, divides, _⟩
        cases divides
  | case4 a b c rest inductionHypothesis =>
      rcases group_lt a b c with ⟨smallA, smallB, smallC, smallD⟩
      rcases rejoin a b c with ⟨first, second, third⟩
      rw [sextets, List.map_cons, List.map_cons, List.map_cons, List.map_cons,
        decodeQuanta_unpadded (urlDigit_ne_padding smallC) (urlDigit_ne_padding smallD),
        readAlike_cons]
      simp only [base64Value_urlDigit smallA, base64Value_urlDigit smallB,
        base64Value_urlDigit smallC, base64Value_urlDigit smallD, inductionHypothesis]
      constructor
      · rintro ⟨va, vb, vc, vd, tail, ⟨same, commonA⟩, ⟨sameB, commonB⟩, ⟨sameC, commonC⟩,
          ⟨sameD, commonD⟩, ⟨sameTail, alike⟩, joined⟩
        rw [same, sameB, sameC, sameD, sameTail, first, second, third] at joined
        exact ⟨joined.symm, ⟨commonA, commonB, commonC, commonD⟩, alike⟩
      · rintro ⟨same, ⟨commonA, commonB, commonC, commonD⟩, alike⟩
        refine ⟨_, _, _, _, rest, ⟨rfl, commonA⟩, ⟨rfl, commonB⟩, ⟨rfl, commonC⟩,
          ⟨rfl, commonD⟩, ⟨rfl, alike⟩, ?_⟩
        rw [first, second, third, same]

theorem base64Decode_base64url {text decoded : Bytes} :
    base64Decode (base64url text) = some decoded ↔ decoded = text ∧ ReadAlike text := by
  unfold base64Decode
  have kept : (base64url text).filter (fun b => !(b == carriageReturn || b == lineFeed)) =
      base64url text := by
    rw [List.filter_eq_self]
    intro character member
    have noReturn : character ≠ carriageReturn := fun same =>
      not_mem_base64url (by decide) text (same ▸ member)
    have noFeed : character ≠ lineFeed := fun same =>
      not_mem_base64url (by decide) text (same ▸ member)
    rw [beq_eq_false_iff_ne.mpr noReturn, beq_eq_false_iff_ne.mpr noFeed]
    rfl
  rw [kept]
  exact decodeQuanta_base64url

/-! ## Headers -/

/-- Upper case, for the names of members.  No other letter folds to one of
`alg` or `typ`. -/
def foldName (name : Bytes) : Bytes :=
  name.map fun b => if byte 'a' ≤ b ∧ b ≤ byte 'z' then b - 32 else b

/-- A `string` takes a string, and ignores `null`. -/
def storeString (old : Bytes) : JsonValue -> Option Bytes
  | .text value => some value
  | .null => some old
  | _ => none

def storeMember (header : JwtHeader) (member : Bytes × JsonValue) : Option JwtHeader :=
  if foldName member.1 = foldName (bytes "alg") then
    (storeString header.alg member.2).map fun alg => { header with alg }
  else if foldName member.1 = foldName (bytes "typ") then
    (storeString header.typ member.2).map fun typ => { header with typ }
  else some header

def maxNestingDepth : Nat := 10000

/-- `json.Unmarshal` into an empty `jwtHeader`. -/
def unmarshalJwtHeader (text : Bytes) : Option JwtHeader :=
  match readDocument maxNestingDepth text with
  | some (.object members) => members.foldlM storeMember ⟨[], []⟩
  | some .null => some ⟨[], []⟩
  | _ => none

/-- The values under a name, in any case. -/
def valuesOf (name : Bytes) (members : List (Bytes × JsonValue)) : List JsonValue :=
  (members.filter fun member => decide (foldName member.1 = foldName name)).map Prod.snd

def isTextOrNull : JsonValue -> Bool
  | .text _ => true
  | .null => true
  | _ => false

def textOf : JsonValue -> Option Bytes
  | .text value => some value
  | _ => none

theorem foldlM_storeString {values : List JsonValue} {old value : Bytes} :
    values.foldlM storeString old = some value ↔
      (forall other, other ∈ values -> isTextOrNull other = true) ∧
        (values.filterMap textOf).getLastD old = value := by
  induction values generalizing old with
  | nil => simp
  | cons head rest inductionHypothesis =>
      rw [List.foldlM_cons, List.forall_mem_cons]
      cases head with
      | text found =>
          have cons : (JsonValue.text found :: rest).filterMap textOf =
              found :: rest.filterMap textOf := rfl
          rw [cons, List.getLastD_cons]
          exact inductionHypothesis.trans (by simp [isTextOrNull])
      | null =>
          have cons : (JsonValue.null :: rest).filterMap textOf = rest.filterMap textOf := rfl
          rw [cons]
          exact inductionHypothesis.trans (by simp [isTextOrNull])
      | bool | number | array | object =>
          constructor
          · intro impossible
            cases impossible
          · rintro ⟨⟨impossible, _⟩, _⟩
            cases impossible

theorem valuesOf_cons_of_eq {name : Bytes} {member : Bytes × JsonValue}
    (named : foldName member.1 = foldName name) (rest : List (Bytes × JsonValue)) :
    valuesOf name (member :: rest) = member.2 :: valuesOf name rest := by
  unfold valuesOf
  rw [List.filter_cons, if_pos (decide_eq_true named), List.map_cons]

theorem valuesOf_cons_of_ne {name : Bytes} {member : Bytes × JsonValue}
    (other : foldName member.1 ≠ foldName name) (rest : List (Bytes × JsonValue)) :
    valuesOf name (member :: rest) = valuesOf name rest := by
  unfold valuesOf
  rw [List.filter_cons, if_neg (fun named => other (of_decide_eq_true named))]

/-- The two fields of the header are stored independently. -/
theorem foldlM_storeMember {members : List (Bytes × JsonValue)} {header result : JwtHeader} :
    members.foldlM storeMember header = some result ↔
      (valuesOf (bytes "alg") members).foldlM storeString header.alg = some result.alg ∧
        (valuesOf (bytes "typ") members).foldlM storeString header.typ = some result.typ := by
  have distinct : foldName (bytes "alg") ≠ foldName (bytes "typ") := by decide
  induction members generalizing header with
  | nil =>
      cases header
      cases result
      simp [valuesOf]
  | cons member rest inductionHypothesis =>
      rw [List.foldlM_cons]
      by_cases alg : foldName member.1 = foldName (bytes "alg")
      · have other : foldName member.1 ≠ foldName (bytes "typ") := fun same =>
          distinct (alg.symm.trans same)
        rw [storeMember, if_pos alg, valuesOf_cons_of_eq alg, valuesOf_cons_of_ne other,
          List.foldlM_cons]
        cases storeString header.alg member.2 with
        | none => simp
        | some stored => exact inductionHypothesis
      · rw [storeMember, if_neg alg, valuesOf_cons_of_ne alg]
        by_cases typ : foldName member.1 = foldName (bytes "typ")
        · rw [if_pos typ, valuesOf_cons_of_eq typ, List.foldlM_cons]
          cases storeString header.typ member.2 with
          | none => simp
          | some stored => exact inductionHypothesis
        · rw [if_neg typ, valuesOf_cons_of_ne typ]
          exact inductionHypothesis

/-- A member with this name is a string with something in it. -/
def HasText (name : Bytes) (members : List (Bytes × JsonValue)) : Prop :=
  Exists fun value => (name, JsonValue.text value) ∈ members ∧ value ≠ []

instance (name : Bytes) : DecidablePred (HasText name) := fun members =>
  decidable_of_iff (Exists fun member => member ∈ members ∧ member.1 = name ∧
      textOf member.2 ≠ none ∧ textOf member.2 ≠ some []) <| by
    constructor
    · rintro ⟨⟨other, value⟩, member, same, text, filled⟩
      cases value with
      | text value =>
          cases same
          exact ⟨value, member, fun empty => filled (congrArg some empty)⟩
      | _ => exact absurd rfl text
    · rintro ⟨value, member, filled⟩
      exact ⟨_, member, rfl, Option.some_ne_none value, fun empty => filled (Option.some.inj empty)⟩

/-- All values under a name are strings or `null`, and the last string has
something in it. -/
def Legible (name : Bytes) (members : List (Bytes × JsonValue)) : Prop :=
  (forall value, value ∈ valuesOf name members -> isTextOrNull value = true) ∧
    ((valuesOf name members).filterMap textOf).getLast? ≠ some []

instance (name : Bytes) : DecidablePred (Legible name) :=
  fun _ => inferInstanceAs (Decidable (_ ∧ _))

/-- What is stored of the values under a name that has a string. -/
theorem exists_foldlM_storeString {name : Bytes} {members : List (Bytes × JsonValue)}
    (given : HasText name members) :
    (Exists fun stored => (valuesOf name members).foldlM storeString [] = some stored ∧
      stored ≠ []) ↔ Legible name members := by
  rcases given with ⟨value, member, _⟩
  have listed : value ∈ (valuesOf name members).filterMap textOf := by
    rw [List.mem_filterMap]
    refine ⟨.text value, List.mem_map.mpr ⟨_, List.mem_filter.mpr ⟨member, ?_⟩, rfl⟩, rfl⟩
    exact decide_eq_true rfl
  rcases Option.ne_none_iff_exists'.mp
    (List.getLast?_eq_none_iff.not.mpr (List.ne_nil_of_mem listed)) with ⟨last, found⟩
  unfold Legible
  simp only [foldlM_storeString, List.getLastD_eq_getLast?, found, Option.getD_some]
  constructor
  · rintro ⟨stored, ⟨kinds, same⟩, filled⟩
    rw [← same] at filled
    exact ⟨kinds, fun empty => filled (Option.some.inj empty)⟩
  · rintro ⟨kinds, filled⟩
    exact ⟨last, ⟨kinds, rfl⟩, fun empty => filled (congrArg some empty)⟩

/-- Which JSON objects are a header in order. -/
theorem unmarshalJwtHeader_object {limit : Nat} {members : List (Bytes × JsonValue)} {text : Bytes}
    (document : Document limit (.object members) text) (alg : HasText (bytes "alg") members)
    (typ : HasText (bytes "typ") members) :
    (Exists fun header => unmarshalJwtHeader text = some header ∧ header.alg ≠ [] ∧
      header.typ ≠ []) ↔
      nestedWithin maxNestingDepth (.object members) = true ∧ Legible (bytes "alg") members ∧
        Legible (bytes "typ") members := by
  unfold unmarshalJwtHeader
  rw [readDocument_of_document document, ← exists_foldlM_storeString alg,
    ← exists_foldlM_storeString typ]
  by_cases nested : nestedWithin maxNestingDepth (.object members) = true
  · simp only [if_pos nested, foldlM_storeMember]
    constructor
    · rintro ⟨header, ⟨storedAlg, storedTyp⟩, filledAlg, filledTyp⟩
      exact ⟨nested, ⟨_, storedAlg, filledAlg⟩, ⟨_, storedTyp, filledTyp⟩⟩
    · rintro ⟨_, ⟨storedAlg, algSame, filledAlg⟩, ⟨storedTyp, typSame, filledTyp⟩⟩
      exact ⟨⟨storedAlg, storedTyp⟩, ⟨algSame, typSame⟩, filledAlg, filledTyp⟩
  · simp only [if_neg nested]
    constructor
    · rintro ⟨header, impossible, _⟩
      cases impossible
    · rintro ⟨within, _⟩
      exact absurd within nested

/-! ## Tokens -/

/-- The compact serialization. -/
def compact (header payload signature : Bytes) : Bytes :=
  base64url header ++ byte '.' :: (base64url payload ++ byte '.' :: base64url signature)

theorem countByte_compact (header payload signature : Bytes) :
    countByte (compact header payload signature) (byte '.') = 2 := by
  have none : forall text, (base64url text).count (byte '.') = 0 := by
    intro text
    exact List.count_eq_zero.mpr (not_mem_base64url (by decide) text)
  unfold countByte compact
  rw [List.count_append, List.count_cons_self, List.count_append, List.count_cons_self, none, none,
    none]

/-- What is recognized is a header in order, decoded by the standard base64. -/
theorem mostLikelyJwt_compact {P : Platform} {header payload signature : Bytes} :
    mostLikelyJwt P (compact header payload signature) = true ↔
      ReadAlike header ∧ Exists fun found => P.unmarshalJwtHeader header = some found ∧
        found.alg ≠ [] ∧ found.typ ≠ [] := by
  have cut : (compact header payload signature).take
      (indexByte (compact header payload signature) (byte '.')).toNat = base64url header := by
    unfold compact
    rw [indexByte_append_cons (not_mem_base64url (by decide) header), Int.toNat_natCast,
      List.take_left]
  unfold mostLikelyJwt
  rw [countByte_compact, if_neg (fun different => different rfl), cut]
  by_cases alike : ReadAlike header
  · have decoded := base64Decode_base64url.mpr ⟨rfl, alike⟩
    simp only [decoded, alike, true_and]
    cases P.unmarshalJwtHeader header with
    | none => simp
    | some found => simp
  · have refused : base64Decode (base64url header) = none := by
      rw [Option.eq_none_iff_forall_ne_some]
      intro decoded accepted
      exact alike (base64Decode_base64url.mp accepted).2
    simp only [refused, alike, false_and]
    constructor
    · intro impossible
      cases impossible
    · exact False.elim

/-- A token is recognized exactly if the two base64 read its header alike, the
header is not nested too deeply, and no member whose name is `alg` or `typ` in
another case, or once more, stands in the way of these two. -/
theorem mostLikelyJwt_compact_iff {P : Platform}
    (decoder : P.unmarshalJwtHeader = unmarshalJwtHeader) :
    (forall token, countByte token (byte '.') ≠ 2 -> mostLikelyJwt P token = false) ∧
    forall {limit : Nat} {members : List (Bytes × JsonValue)} {header : Bytes},
      Document limit (.object members) header -> HasText (bytes "alg") members ->
        HasText (bytes "typ") members -> forall payload signature,
          (mostLikelyJwt P (compact header payload signature) = true ↔
            ReadAlike header ∧ nestedWithin maxNestingDepth (.object members) = true ∧
              Legible (bytes "alg") members ∧ Legible (bytes "typ") members) := by
  constructor
  · intro token other
    exact if_pos other
  · intro limit members header document alg typ payload signature
    rw [mostLikelyJwt_compact, decoder, unmarshalJwtHeader_object document alg typ]

/-- A text that is read as an object, and what is checked of its members. -/
theorem exists_document (limit : Nat) (text : Bytes) (Q : List (Bytes × JsonValue) -> Prop)
    [DecidablePred Q] (checked : (match readDocument limit text with
      | some (.object members) => decide (Q members)
      | _ => false) = true) :
    Exists fun members => Document limit (.object members) text ∧ Q members := by
  split at checked
  · next members read => exact ⟨members, readDocument_eq_some.mp read, of_decide_eq_true checked⟩
  · cases checked

namespace Recognition

/-- A platform on which headers are decoded as they are. -/
def platform : Platform :=
  { Symbolic.platform with unmarshalJwtHeader := unmarshalJwtHeader }

def usualHeader : Bytes :=
  bytes "\x7b\"alg\":\"HS256\",\"typ\":\"JWT\"\x7d"

/-- With the name of a key, ten bytes longer. -/
def keyedHeader : Bytes :=
  bytes "\x7b\"alg\":\"HS256\",\"kid\":\"1\",\"typ\":\"JWT\"\x7d"

end Recognition

theorem mostLikelyJwt_compact_usual :
    mostLikelyJwt Recognition.platform
      (compact Recognition.usualHeader (bytes "\x7b\x7d") [1, 2, 3]) = true := by
  rcases exists_document 1 Recognition.usualHeader
    (fun members => HasText (bytes "alg") members ∧ HasText (bytes "typ") members ∧
      nestedWithin maxNestingDepth (.object members) = true ∧ Legible (bytes "alg") members ∧
        Legible (bytes "typ") members) (by decide +kernel) with
    ⟨members, document, alg, typ, nested, legibleAlg, legibleTyp⟩
  refine ((mostLikelyJwt_compact_iff rfl).2 document alg typ _ _).mpr ?_
  exact ⟨by decide +kernel, nested, legibleAlg, legibleTyp⟩

theorem keyed_token_is_not_recognized :
    Exists fun header => Exists fun members =>
      Document 1 (.object members) header ∧ HasText (bytes "alg") members ∧
        HasText (bytes "typ") members ∧
          mostLikelyJwt Recognition.platform
            (compact header (bytes "\x7b\x7d") [1, 2, 3]) = false := by
  rcases exists_document 1 Recognition.keyedHeader
    (fun members => HasText (bytes "alg") members ∧ HasText (bytes "typ") members)
    (by decide +kernel) with ⟨members, document, alg, typ⟩
  refine ⟨Recognition.keyedHeader, members, document, alg, typ, ?_⟩
  have unlike : ¬ ReadAlike Recognition.keyedHeader := by decide +kernel
  rw [Bool.eq_false_iff]
  intro recognized
  exact unlike (mostLikelyJwt_compact.mp recognized).1

end Fsd
end OpenFsd
