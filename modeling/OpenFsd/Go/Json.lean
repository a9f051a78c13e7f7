import OpenFsd.Go.Float

namespace OpenFsd

/-!
# `encoding/json`

A document is a tree.  A leaf is the value that its literal denotes, so what
the encoder writes for a scalar the decoder reads back as it was, with two
exceptions that the package documents: the encoder refuses a `float64` that is
not finite, and it replaces what is no UTF-8 in a string.  Where it refuses a
value, `Encode` writes nothing at all.

The encoders and decoders are those of the kinds of values that the source
uses, and a struct is the list of its fields.
-/

/-! ## UTF-8 -/

/-- A continuation byte of UTF-8. -/
def isTail (b : UInt8) : Bool :=
  0x80 ≤ b && b ≤ 0xBF

/-- How many bytes the character at the start has, or 0 if there is none. -/
def runeWidth : Bytes -> Nat
  | [] => 0
  | first :: rest =>
      if first < 0x80 then 1
      else
        match rest with
        | [] => 0
        | second :: rest =>
            if 0xC2 ≤ first ∧ first ≤ 0xDF ∧ isTail second then 2
            else
              match rest with
              | [] => 0
              | third :: rest =>
                  let low : UInt8 := if first = 0xE0 then 0xA0 else 0x80
                  let high : UInt8 := if first = 0xED then 0x9F else 0xBF
                  if 0xE0 ≤ first ∧ first ≤ 0xEF ∧ low ≤ second ∧ second ≤ high ∧ isTail third then 3
                  else
                    match rest with
                    | [] => 0
                    | fourth :: _ =>
                        let low : UInt8 := if first = 0xF0 then 0x90 else 0x80
                        let high : UInt8 := if first = 0xF4 then 0x8F else 0xBF
                        if 0xF0 ≤ first ∧ first ≤ 0xF4 ∧ low ≤ second ∧ second ≤ high ∧
                            isTail third ∧ isTail fourth then 4
                        else 0

/-- `utf8.RuneError`, encoded. -/
def replacement : Bytes := [0xEF, 0xBF, 0xBD]

/-- Keep this many bytes, and replace every later byte that starts no
character. -/
def keepRunes : Nat -> Bytes -> Bytes
  | _, [] => []
  | pending + 1, head :: rest => head :: keepRunes pending rest
  | 0, head :: rest =>
      match runeWidth (head :: rest) with
      | 0 => replacement ++ keepRunes 0 rest
      | width + 1 => head :: keepRunes width rest

/-- The string that a decoder makes of what the encoder writes. -/
def toValidUTF8 (text : Bytes) : Bytes :=
  keepRunes 0 text

theorem toValidUTF8_of_ascii {text : Bytes} (ascii : forall b, b ∈ text -> b < 0x80) :
    toValidUTF8 text = text := by
  unfold toValidUTF8
  induction text with
  | nil => rfl
  | cons head rest inductionHypothesis =>
      have low : head < 0x80 := ascii head List.mem_cons_self
      have width : runeWidth (head :: rest) = 1 := by
        unfold runeWidth
        exact if_pos low
      rw [keepRunes, width]
      exact congrArg (List.cons head)
        (inductionHypothesis fun b member => ascii b (List.mem_cons_of_mem head member))

/-! ## Documents -/

inductive Json (F : Type)
  | integer (value : Int)
  | number (value : F)
  | text (value : Bytes)
  /-- A string in the format of RFC 3339. -/
  | instant (value : Int)
  | array (items : List (Json F))
  | object (fields : List (Bytes × Json F))

namespace Json

variable {F : Type} {X : Type}

def ofInt (value : Int) : Option (Json F) :=
  some (.integer value)

def ofFloat [GoFloat F] (value : F) : Option (Json F) :=
  if GoFloat.isFinite value then some (.number value) else none

def ofString (value : Bytes) : Option (Json F) :=
  some (.text (toValidUTF8 value))

def ofTime (value : Int) : Option (Json F) :=
  some (.instant value)

/-- All of these, or nothing. -/
def all : List (Option X) -> Option (List X)
  | [] => some []
  | none :: _ => none
  | some item :: rest => (all rest).map fun items => item :: items

def ofSlice (encode : X -> Option (Json F)) (items : List X) : Option (Json F) :=
  (all (items.map encode)).map Json.array

def ofStruct (fields : List (Bytes × Option (Json F))) : Option (Json F) :=
  (all (fields.map fun field => field.2.map fun value => (field.1, value))).map Json.object

def toInt : Json F -> Option Int
  | .integer value => some value
  | _ => none

def toFloat : Json F -> Option F
  | .number value => some value
  | _ => none

def toString : Json F -> Option Bytes
  | .text value => some value
  | _ => none

def toTime : Json F -> Option Int
  | .instant value => some value
  | _ => none

def toSlice (decode : Json F -> Option X) : Json F -> Option (List X)
  | .array items => all (items.map decode)
  | _ => none

/-- A field of a struct keeps its zero value where the object lacks it. -/
def field (name : Bytes) (decode : Json F -> Option X) (zero : X) : Json F -> Option X
  | .object fields =>
      match fields.lookup name with
      | none => some zero
      | some value => decode value
  | _ => none

/-! ## Lists of values -/

theorem all_eq_some {items : List (Option X)} {values : List X} :
    all items = some values ↔ items = values.map some := by
  induction items generalizing values with
  | nil =>
      rw [all, Option.some.injEq, eq_comm, eq_comm (a := ([] : List (Option X))),
        List.map_eq_nil_iff]
  | cons head rest inductionHypothesis =>
      cases head with
      | none =>
          constructor
          · intro impossible
            cases impossible
          · intro same
            cases values <;> cases same
      | some item =>
          rw [all, Option.map_eq_some_iff]
          constructor
          · rintro ⟨others, same, cons⟩
            rw [← cons, inductionHypothesis.mp same, List.map_cons]
          · intro same
            cases values with
            | nil => cases same
            | cons first others =>
                rw [List.map_cons, List.cons.injEq] at same
                refine ⟨others, inductionHypothesis.mpr same.2, ?_⟩
                rw [Option.some.inj same.1]

/-- A slice is encoded exactly if each of its items is. -/
theorem ofSlice_isSome {encode : X -> Option (Json F)} {items : List X} :
    (ofSlice encode items).isSome = true ↔ forall item, item ∈ items -> (encode item).isSome = true := by
  unfold ofSlice
  rw [Option.isSome_map]
  induction items with
  | nil => simp [all]
  | cons head rest inductionHypothesis =>
      rw [List.map_cons, List.forall_mem_cons, ← inductionHypothesis]
      cases encode head <;> simp [all]

/-- What a decoder makes of the items that an encoder has written, it makes of
the slice. -/
theorem toSlice_ofSlice {Y : Type} {encode : X -> Option (Json F)} {decode : Json F -> Option Y}
    {read : X -> Y} (agree : forall item json, encode item = some json -> decode json = some (read item))
    {items : List X} {json : Json F} (written : ofSlice encode items = some json) :
    toSlice decode json = some (items.map read) := by
  rcases Option.map_eq_some_iff.mp written with ⟨values, encoded, same⟩
  rw [← same, toSlice, all_eq_some]
  rw [all_eq_some] at encoded
  clear same written
  induction items generalizing values with
  | nil =>
      cases values with
      | nil => rfl
      | cons first others => cases encoded
  | cons head rest inductionHypothesis =>
      cases values with
      | nil => cases encoded
      | cons first others =>
          rw [List.map_cons, List.map_cons, List.cons.injEq] at encoded
          rw [List.map_cons, List.map_cons, List.map_cons, agree head first encoded.1,
            inductionHypothesis others encoded.2]

end Json
end OpenFsd
