import OpenFsd.Db.Repository
import Mathlib.Data.Nat.Digits.Defs

namespace OpenFsd

/-!
# A platform with transparent tokens and hashes

In the symbolic reading of cryptography a signed token is the list of its
claims and its key, and a hash is the pair of a salt and a password.  The
platform below is this reading, over an injective packing of byte strings into
one.  It meets both assumptions that the results name about a platform, and
everything in it can be evaluated.  The database at the end has one user, an
administrator with CID 1.
-/

/-! ## Packing byte strings -/

/-- One packed item: every byte is announced, and the end is marked. -/
def packItem : Bytes -> Bytes
  | [] => [0]
  | head :: rest => 1 :: head :: packItem rest

def pack (items : List Bytes) : Bytes :=
  items.flatMap packItem

/-- Read packed items, given the part of the first one that is already read. -/
def unpackFrom : Bytes -> Bytes -> List Bytes
  | current, mark :: rest =>
      if mark = 0 then current :: unpackFrom [] rest
      else
        match rest with
        | [] => []
        | head :: rest => unpackFrom (current ++ [head]) rest
  | _, [] => []

def unpack (text : Bytes) : List Bytes :=
  unpackFrom [] text

theorem unpackFrom_packItem (current item rest : Bytes) :
    unpackFrom current (packItem item ++ rest) = (current ++ item) :: unpackFrom [] rest := by
  induction item generalizing current with
  | nil =>
      rw [packItem, List.append_nil, List.singleton_append, unpackFrom.eq_def]
      exact if_pos rfl
  | cons head tail inductionHypothesis =>
      rw [packItem, List.cons_append, List.cons_append, unpackFrom.eq_def]
      have later := inductionHypothesis (current ++ [head])
      rw [List.append_assoc] at later
      exact (if_neg (by decide)).trans later

theorem unpack_pack (items : List Bytes) : unpack (pack items) = items := by
  induction items with
  | nil => rfl
  | cons item rest inductionHypothesis =>
      have first := unpackFrom_packItem [] item (pack rest)
      exact first.trans (congrArg (List.cons item) inductionHypothesis)

/-- A magnitude as bytes, the lowest one first. -/
def magnitudeItem (magnitude : Nat) : Bytes :=
  (Nat.digits 256 magnitude).map UInt8.ofNat

def itemMagnitude (item : Bytes) : Nat :=
  Nat.ofDigits 256 (item.map UInt8.toNat)

theorem itemMagnitude_magnitudeItem (magnitude : Nat) :
    itemMagnitude (magnitudeItem magnitude) = magnitude := by
  have kept : ((Nat.digits 256 magnitude).map UInt8.ofNat).map UInt8.toNat =
      Nat.digits 256 magnitude := by
    rw [List.map_map]
    refine (List.map_congr_left ?_).trans (List.map_id _)
    intro digit member
    have small : digit < 256 := Nat.digits_lt_base (by decide) member
    exact UInt8.toNat_ofNat_of_lt' small
  unfold itemMagnitude magnitudeItem
  rw [kept, Nat.ofDigits_digits]

/-- An integer as an item: its sign, and its magnitude. -/
def intItem : Int -> Bytes
  | .ofNat magnitude => 0 :: magnitudeItem magnitude
  | .negSucc magnitude => 1 :: magnitudeItem magnitude

def itemInt : Bytes -> Int
  | [] => 0
  | sign :: magnitude =>
      if sign = 0 then .ofNat (itemMagnitude magnitude) else .negSucc (itemMagnitude magnitude)

theorem itemInt_intItem (number : Int) : itemInt (intItem number) = number := by
  cases number with
  | ofNat magnitude =>
      rw [intItem, itemInt, if_pos rfl, itemMagnitude_magnitudeItem]
  | negSucc magnitude =>
      rw [intItem, itemInt, if_neg (by decide), itemMagnitude_magnitudeItem]

/-- An optional integer as an item, empty when it is absent. -/
def optionItem : Option Int -> Bytes
  | none => []
  | some number => intItem number

def itemOption (item : Bytes) : Option Int :=
  if item = [] then none else some (itemInt item)

theorem itemOption_optionItem (number : Option Int) : itemOption (optionItem number) = number := by
  cases number with
  | none => rfl
  | some value =>
      have present : intItem value ≠ [] := by
        cases value <;> exact List.cons_ne_nil _ _
      rw [optionItem, itemOption, if_neg present, itemInt_intItem]

/-! ## The platform -/

namespace Symbolic

def signedString (claims : CustomClaims) (key : Bytes) : Bytes :=
  pack [key, claims.issuer, optionItem claims.expiresAt, optionItem claims.notBefore,
    optionItem claims.issuedAt, claims.jti, claims.tokenType, intItem claims.cid, claims.firstName,
    claims.lastName, intItem claims.networkRating]

def payload (raw : Bytes) : Option CustomClaims :=
  match unpack raw with
  | [_, issuer, expiresAt, notBefore, issuedAt, jti, tokenType, cid, firstName, lastName, rating] =>
      some {
        issuer := issuer
        expiresAt := itemOption expiresAt
        notBefore := itemOption notBefore
        issuedAt := itemOption issuedAt
        jti := jti
        tokenType := tokenType
        cid := itemInt cid
        firstName := firstName
        lastName := lastName
        networkRating := itemInt rating }
  | _ => none

def verifies (raw key : Bytes) : Bool :=
  decide ((unpack raw).head? = some key)

/-- Passwords of more than 72 bytes are refused. -/
def generateFromPassword (salt password : Bytes) : Option Bytes :=
  if 72 < password.length then none else some (pack [salt, password])

def compareHashAndPassword (hash password : Bytes) : Bool :=
  match unpack hash with
  | [_, hashed] => decide (hashed = password)
  | _ => false

/-- The first sixteen bytes stand for the digest. -/
def md5 (text : Bytes) : List.Vector UInt8 16 :=
  ⟨(text ++ List.replicate 16 0).take 16, by
    rw [List.length_take, List.length_append, List.length_replicate]
    omega⟩

def platform : Platform where
  md5 := md5
  unmarshalJwtHeader := fun _ => none
  signedString := fun claims key => some (signedString claims key)
  payload := payload
  verifies := verifies
  generateFromPassword := generateFromPassword
  compareHashAndPassword := compareHashAndPassword
  nilPassesMinMax := false

theorem payload_signedString (claims : CustomClaims) (key : Bytes) :
    payload (signedString claims key) = some claims := by
  unfold payload signedString
  rw [unpack_pack]
  simp only [itemOption_optionItem, itemInt_intItem]

theorem platform_faithfulTokens : platform.FaithfulTokens := by
  intro claims key raw signed
  rw [← Option.some.inj signed]
  constructor
  · show verifies (signedString claims key) key = true
    unfold verifies signedString
    rw [unpack_pack]
    exact decide_eq_true rfl
  · exact ⟨claims, payload_signedString claims key, rfl, rfl, rfl⟩

theorem platform_idealHashing : platform.IdealHashing := by
  intro salt password hash generated presented
  have hashed : generateFromPassword salt password = some hash := generated
  unfold generateFromPassword at hashed
  split at hashed
  · cases hashed
  · rw [← Option.some.inj hashed]
    show compareHashAndPassword (pack [salt, password]) presented = true ↔ presented = password
    unfold compareHashAndPassword
    rw [unpack_pack]
    simp only [decide_eq_true_eq]
    exact eq_comm

/-! ## A database on the platform -/

/-- A user whose hash was made from this password with an empty salt. -/
def userRow (password : Bytes) (networkRating : Int) : Db.UserRow :=
  ⟨pack [[], password], none, none, networkRating⟩

def userTable (row : Db.UserRow) : Db.UserTable where
  rows := AList.singleton 1 row
  nextCid := 2
  below := by
    intro cid member
    have same : cid = 1 := List.mem_singleton.mp member
    omega

theorem lookup_userTable {row found : Db.UserRow} {cid : Int}
    (stored : (userTable row).rows.lookup cid = some found) : cid = 1 ∧ found = row := by
  have member : cid ∈ (userTable row).rows := AList.lookup_isSome.mp (by rw [stored]; rfl)
  have own : cid = 1 := List.mem_singleton.mp member
  subst own
  have first : (userTable row).rows.lookup 1 = some row := rfl
  exact ⟨rfl, Option.some.inj (stored.symm.trans first)⟩

def database : Db.Database where
  users := userTable (userRow (bytes "secret") 12)
  config := AList.singleton Db.configJwtSecretKey (bytes "key")

end Symbolic
end OpenFsd
