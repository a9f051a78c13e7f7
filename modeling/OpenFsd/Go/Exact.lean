import OpenFsd.Go.Float
import OpenFsd.Go.Strconv
import Mathlib.Analysis.SpecialFunctions.Trigonometric.Basic
import Mathlib.Analysis.SpecialFunctions.Complex.Arg

namespace OpenFsd

/-!
# Positions in exact arithmetic

The operations of `float64` read in the real numbers, where nothing is rounded
and there is no NaN.  The reading is lawful, so every result about the spatial
index applies to it.

The second reading has NaN as well, where an operation is undefined and where
the input spells it.
-/

/-- A decimal numeral with an optional fraction. -/
def parseDecimal (text : Bytes) : Option Rat :=
  let (negative, magnitude) := splitSign text
  let signed (value : Rat) : Rat := if negative then -value else value
  match splitByte (byte '.') magnitude with
  | [whole] =>
      let parsed := parseUint whole 10 64
      if parsed.err.isSome then none else some (signed parsed.value)
  | [whole, fraction] =>
      let parsed := parseUint (whole ++ fraction) 10 64
      if parsed.err.isSome then none else some (signed (parsed.value / 10 ^ fraction.length))
  | _ => none

noncomputable instance : GoFloat Real where
  identical := Classical.decEq Real
  eq := fun left right => decide (left = right)
  lt := fun left right => decide (left < right)
  sin := Real.sin
  cos := Real.cos
  sqrt := Real.sqrt
  atan2 := fun y x => Complex.arg ⟨x, y⟩
  ofRat := fun value => value
  degToRad := Real.pi / (180 : Nat)
  metersPerDegreeLat := Real.pi * (6371000 : Nat) / (180 : Nat)
  maxFloat64 := (2 ^ 1024 - 2 ^ 971 : Nat)
  isFinite := fun _ => true
  parseFloat := fun text => (parseDecimal text).map fun value => (value : Real)
  truncate := fun value => if 0 ≤ value then ⌊value⌋ else ⌈value⌉

instance : LawfulGoFloat Real where
  eq_symm := fun _ _ equal => decide_eq_true (of_decide_eq_true equal).symm
  eq_trans := fun _ _ _ left right =>
    decide_eq_true ((of_decide_eq_true left).trans (of_decide_eq_true right))
  lt_irrefl := fun value => decide_eq_false (lt_irrefl value)
  lt_trans := fun _ _ _ left right =>
    decide_eq_true (lt_trans (of_decide_eq_true left) (of_decide_eq_true right))
  lt_congr_left := fun _ _ other equal =>
    congrArg (fun value => GoFloat.lt value other) (of_decide_eq_true equal)
  lt_congr_right := fun _ _ other equal =>
    congrArg (fun value => GoFloat.lt other value) (of_decide_eq_true equal)

theorem parseFloat_real {text : Bytes} {value : Rat} (parsed : parseDecimal text = some value) :
    (GoFloat.parseFloat text : Option Real) = some (value : Real) := by
  have reduced : (GoFloat.parseFloat text : Option Real) =
      (parseDecimal text).map fun value => (value : Real) := rfl
  rw [reduced, parsed]
  rfl

/-! ## With NaN -/

/-- A real number, or NaN. -/
def RealOrNaN := Option Real

namespace RealOrNaN

/-- What is spelled `nan`, in letters of any case. -/
def isNaN (text : Bytes) : Bool :=
  text.map (fun letter => letter ||| 0x20) = bytes "nan"

noncomputable instance : GoFloat RealOrNaN where
  add := Option.map₂ fun left right => left + right
  sub := Option.map₂ fun left right => left - right
  mul := Option.map₂ fun left right => left * right
  div := fun left right =>
    left.bind fun numerator => right.bind fun denominator =>
      if denominator = 0 then none else some (numerator / denominator)
  identical := Classical.decEq _
  eq := fun left right =>
    (Option.map₂ (fun left right : Real => decide (left = right)) left right).getD false
  lt := fun left right =>
    (Option.map₂ (fun left right : Real => decide (left < right)) left right).getD false
  sin := Option.map Real.sin
  cos := Option.map Real.cos
  sqrt := fun value => value.bind fun value : Real => if value < 0 then none else some (Real.sqrt value)
  atan2 := Option.map₂ fun y x => Complex.arg ⟨x, y⟩
  ofRat := fun value => some value
  degToRad := some (Real.pi / (180 : Nat))
  metersPerDegreeLat := some (Real.pi * (6371000 : Nat) / (180 : Nat))
  maxFloat64 := some (2 ^ 1024 - 2 ^ 971 : Nat)
  isFinite := Option.isSome
  parseFloat := fun text =>
    if isNaN text then some none else (parseDecimal text).map fun value => some (value : Real)
  truncate := fun value =>
    match value with
    | none => -2 ^ 63
    | some value => if 0 ≤ value then ⌊value⌋ else ⌈value⌉

/-- The reading of a number. -/
def real (value : Real) : RealOrNaN :=
  some value

/-- A numeral that does not spell NaN is a number. -/
theorem parseFloat_of_decimal {text : Bytes} {value : Rat} (spelled : isNaN text = false)
    (parsed : parseDecimal text = some value) :
    (GoFloat.parseFloat text : Option RealOrNaN) = some (real value) := by
  have reduced : (GoFloat.parseFloat text : Option RealOrNaN) =
      if isNaN text then some none else (parseDecimal text).map fun value => some (value : Real) :=
    rfl
  rw [reduced, spelled, parsed]
  rfl

/-! The operations on numbers. -/

theorem div_real {denominator : Real} (nonzero : denominator ≠ 0) (numerator : Real) :
    real numerator / real denominator = real (numerator / denominator) :=
  if_neg nonzero

theorem sqrt_real {value : Real} (nonneg : 0 ≤ value) :
    GoFloat.sqrt (real value) = real (Real.sqrt value) :=
  if_neg (not_lt.mpr nonneg)

theorem atan2_real (y x : Real) :
    GoFloat.atan2 (real y) (real x) = real (Complex.arg ⟨x, y⟩) :=
  rfl

/-! NaN spreads, and is beyond no bound. -/

def nan : RealOrNaN :=
  none

theorem div_zero (numerator : Real) : real numerator / real 0 = nan :=
  if_pos rfl

theorem add_nan (value : RealOrNaN) : value + nan = nan := by
  cases value <;> rfl

theorem sub_nan (value : RealOrNaN) : value - nan = nan := by
  cases value <;> rfl

theorem lt_nan (value : RealOrNaN) : GoFloat.lt value nan = false := by
  cases value <;> rfl

theorem nan_lt (value : RealOrNaN) : GoFloat.lt nan value = false := by
  cases value <;> rfl

theorem lt_real (left right : Real) :
    GoFloat.lt (real left) (real right) = decide (left < right) :=
  rfl

theorem eq_iff {left right : RealOrNaN} :
    GoFloat.eq left right = true ↔ Exists fun value => left = real value ∧ right = real value := by
  constructor
  · intro equal
    match left, right with
    | none, _ => cases equal
    | some _, none => cases equal
    | some first, some second =>
        have same : first = second := of_decide_eq_true equal
        exact ⟨first, rfl, congrArg some same.symm⟩
  · rintro ⟨value, rfl, rfl⟩
    exact decide_eq_true rfl

theorem lt_iff {left right : RealOrNaN} :
    GoFloat.lt left right = true ↔ Exists fun first => Exists fun second =>
      left = real first ∧ right = real second ∧ first < second := by
  constructor
  · intro less
    match left, right with
    | none, _ => cases less
    | some _, none => cases less
    | some first, some second => exact ⟨first, second, rfl, rfl, of_decide_eq_true less⟩
  · rintro ⟨first, second, rfl, rfl, less⟩
    exact decide_eq_true less

theorem real_inj {first second : Real} (same : real first = real second) : first = second :=
  Option.some.inj same

instance : LawfulGoFloat RealOrNaN where
  eq_symm := by
    intro left right equal
    rcases eq_iff.mp equal with ⟨value, first, second⟩
    exact eq_iff.mpr ⟨value, second, first⟩
  eq_trans := by
    intro first second third left right
    rcases eq_iff.mp left with ⟨value, atFirst, atSecond⟩
    rcases eq_iff.mp right with ⟨other, again, atThird⟩
    rw [real_inj (atSecond.symm.trans again)] at atFirst
    exact eq_iff.mpr ⟨other, atFirst, atThird⟩
  lt_irrefl := by
    intro value
    apply Bool.eq_false_of_not_eq_true
    intro less
    rcases lt_iff.mp less with ⟨first, second, atFirst, atSecond, below⟩
    rw [real_inj (atFirst.symm.trans atSecond)] at below
    exact lt_irrefl second below
  lt_trans := by
    intro first second third left right
    rcases lt_iff.mp left with ⟨low, middle, atLow, atMiddle, below⟩
    rcases lt_iff.mp right with ⟨again, high, atAgain, atHigh, above⟩
    rw [← real_inj (atMiddle.symm.trans atAgain)] at above
    exact lt_iff.mpr ⟨low, high, atLow, atHigh, below.trans above⟩
  lt_congr_left := by
    intro first second other equal
    rcases eq_iff.mp equal with ⟨value, atFirst, atSecond⟩
    rw [atFirst, atSecond]
  lt_congr_right := by
    intro first second other equal
    rcases eq_iff.mp equal with ⟨value, atFirst, atSecond⟩
    rw [atFirst, atSecond]

end RealOrNaN
end OpenFsd
