import OpenFsd.Go.Bytes
import Mathlib.Algebra.Group.Int.Defs
import Mathlib.Algebra.Group.Nat.Defs

namespace OpenFsd

/-!
# Numbers in byte strings

The package `strconv` reads and writes the numeric fields.  Two conventions
of it reach the server's callers.  A value that is out of range is reported
as an error *together with* the nearest value of the target type, and
`handlePilotPosition` uses the value although it ignores the error.  The
digits are read from the left, so an overflow is reported before a later
invalid character is seen.
-/

/-- The two errors of `strconv`: `ErrSyntax` and `ErrRange`. -/
inductive NumError
  | invalid
  | range
  deriving DecidableEq, Repr

/-- A parsed value with the error that accompanies it, if any. -/
structure Parsed (X : Type) where
  value : X
  err : Option NumError
  deriving DecidableEq, Repr

/-- The value of one digit: decimal digits, then letters of either case. -/
def digitValue (digit : UInt8) : Option Nat :=
  if 48 ≤ digit ∧ digit ≤ 57 then some (digit.toNat - 48)
  else if 97 ≤ digit ∧ digit ≤ 122 then some (digit.toNat - 87)
  else if 65 ≤ digit ∧ digit ≤ 90 then some (digit.toNat - 55)
  else none

/-- The digit loop of `ParseUint`, with the value read so far. -/
def parseDigits (base maxVal : Nat) : Nat -> Bytes -> Parsed Nat
  | accumulated, [] => ⟨accumulated, none⟩
  | accumulated, digit :: rest =>
      match digitValue digit with
      | none => ⟨0, some .invalid⟩
      | some value =>
          if base ≤ value then ⟨0, some .invalid⟩
          else if maxVal < accumulated * base + value then ⟨maxVal, some .range⟩
          else parseDigits base maxVal (accumulated * base + value) rest

/-- `strconv.ParseUint` for an explicit base. -/
def parseUint (text : Bytes) (base bitSize : Nat) : Parsed Nat :=
  if text.isEmpty then ⟨0, some .invalid⟩
  else parseDigits base (2 ^ bitSize - 1) 0 text

/-- Split an optional sign from the digits. -/
def splitSign : Bytes -> Bool × Bytes
  | [] => (false, [])
  | head :: rest =>
      if head == byte '+' then (false, rest)
      else if head == byte '-' then (true, rest)
      else (false, head :: rest)

/-- `strconv.ParseInt` for an explicit base. -/
def parseInt (text : Bytes) (base bitSize : Nat) : Parsed Int :=
  let (negative, digits) := splitSign text
  let magnitude := parseUint digits base bitSize
  let cutoff := 2 ^ (bitSize - 1)
  if magnitude.err = some .invalid then ⟨0, some .invalid⟩
  else if !negative && decide (cutoff ≤ magnitude.value) then ⟨cutoff - 1, some .range⟩
  else if negative && decide (cutoff < magnitude.value) then ⟨-cutoff, some .range⟩
  else ⟨if negative then -(magnitude.value : Int) else magnitude.value, none⟩

/-- `strconv.Atoi` where `int` has 64 bits. -/
def atoi (text : Bytes) : Parsed Int :=
  parseInt text 10 64

/-- The decimal digits of a natural number. -/
def digits (number : Nat) : Bytes :=
  (Nat.toDigits 10 number).map byte

/-- `strconv.Itoa`, and the verb `%d`. -/
def itoa (number : Int) : Bytes :=
  if number < 0 then byte '-' :: digits number.natAbs else digits number.natAbs

/-- The conversion `int32(x)` keeps the low 32 bits. -/
def wrapInt32 (number : Int) : Int :=
  (number + 2 ^ 31) % 2 ^ 32 - 2 ^ 31

example : atoi (bytes "+100") = ⟨100, none⟩ := by decide
example : (parseInt (bytes "-2147483649") 10 32).err = some .range := by decide

end OpenFsd
