import OpenFsd.Go.Strconv
import Mathlib.Data.List.Basic
import Mathlib.Data.Nat.Init
import Mathlib.Algebra.Order.Group.Int

namespace OpenFsd

/-!
# Reading back what was written

`Itoa` writes a number in decimal digits, most significant digit first, and
`Atoi` reads them from the left.  What was written is read back, as long as
the number is an `int`.
-/

/-- The numbers of a 64-bit `int`. -/
def IsInt64 (number : Int) : Prop :=
  -2 ^ 63 ≤ number ∧ number < 2 ^ 63

/-! ## Digits -/

theorem isDigit_of_mem_digits {number : Nat} {b : UInt8} (member : b ∈ digits number) :
    48 ≤ b.toNat ∧ b.toNat ≤ 57 := by
  rcases List.mem_map.mp member with ⟨character, inDigits, same⟩
  have digit : character.isDigit = true := Nat.isDigit_of_mem_toDigits (by decide) (by decide) inDigits
  rw [Char.isDigit, Bool.and_eq_true, decide_eq_true_eq, decide_eq_true_eq] at digit
  have lower : 48 ≤ character.toNat := digit.1
  have upper : character.toNat ≤ 57 := digit.2
  rw [← same, byte, UInt8.toNat_ofNat']
  omega

theorem digits_ne_nil (number : Nat) : digits number ≠ [] := by
  unfold digits
  intro none
  exact Nat.toDigits_ne_nil (List.map_eq_nil_iff.mp none)

theorem digits_of_lt {number : Nat} (small : number < 10) :
    digits number = [byte number.digitChar] := by
  unfold digits
  rw [Nat.toDigits_of_lt_base small]
  rfl

/-- The last digit stands behind those of the quotient. -/
theorem digits_of_le {number : Nat} (large : 10 ≤ number) :
    digits number = digits (number / 10) ++ [byte (number % 10).digitChar] := by
  unfold digits
  rw [Nat.toDigits_of_base_le (by decide) large, List.map_append]
  rfl

theorem digitValue_digitChar {value : Nat} (small : value < 10) :
    digitValue (byte value.digitChar) = some value := by
  have each : forall digit : Fin 10, digitValue (byte digit.val.digitChar) = some digit.val := by
    decide
  exact each ⟨value, small⟩

/-! ## Reading digits -/

theorem parseDigits_append {base maxVal accumulated value : Nat} {first : Bytes}
    (read : parseDigits base maxVal accumulated first = ⟨value, none⟩) (second : Bytes) :
    parseDigits base maxVal accumulated (first ++ second) = parseDigits base maxVal value second := by
  induction first generalizing accumulated with
  | nil =>
      cases read
      rfl
  | cons digit rest inductionHypothesis =>
      rw [List.cons_append, parseDigits]
      rw [parseDigits] at read
      cases valued : digitValue digit with
      | none =>
          simp only [valued] at read
          cases read
      | some added =>
          simp only [valued] at read ⊢
          split
          · next large =>
              rw [if_pos large] at read
              cases read
          · next fits =>
              rw [if_neg fits] at read
              split
              · next beyond =>
                  rw [if_pos beyond] at read
                  cases read
              · next within =>
                  rw [if_neg within] at read
                  exact inductionHypothesis read

theorem parseDigits_single {maxVal accumulated value : Nat} (small : value < 10)
    (within : accumulated * 10 + value ≤ maxVal) :
    parseDigits 10 maxVal accumulated [byte value.digitChar] = ⟨accumulated * 10 + value, none⟩ := by
  simp only [parseDigits, digitValue_digitChar small, if_neg (Nat.not_le_of_lt small),
    if_neg (Nat.not_lt_of_le within)]

theorem parseDigits_digits {maxVal : Nat} (number : Nat) (within : number ≤ maxVal) :
    parseDigits 10 maxVal 0 (digits number) = ⟨number, none⟩ := by
  induction number using Nat.strongRecOn with
  | ind number inductionHypothesis =>
      rcases Nat.lt_or_ge number 10 with small | large
      · rw [digits_of_lt small, parseDigits_single small (by omega), Nat.zero_mul, Nat.zero_add]
      · have quotient := inductionHypothesis (number / 10) (by omega) (by omega)
        rw [digits_of_le large, parseDigits_append quotient,
          parseDigits_single (Nat.mod_lt _ (by decide)) (by omega), Nat.div_add_mod']

theorem parseUint_digits {number : Nat} (within : number < 2 ^ 64) :
    parseUint (digits number) 10 64 = ⟨number, none⟩ := by
  unfold parseUint
  rw [if_neg (by simpa using digits_ne_nil number)]
  exact parseDigits_digits number (Nat.le_sub_one_of_lt within)

/-! ## Signs -/

/-- Digits have no sign. -/
theorem splitSign_digits (number : Nat) : splitSign (digits number) = (false, digits number) := by
  cases written : digits number with
  | nil => rfl
  | cons head rest =>
      have member : head ∈ digits number := by
        rw [written]
        exact List.mem_cons_self
      have range := isDigit_of_mem_digits member
      have plus : (head == byte '+') = false := by
        apply beq_false_of_ne
        intro same
        rw [same] at range
        exact absurd range.1 (by decide)
      have minus : (head == byte '-') = false := by
        apply beq_false_of_ne
        intro same
        rw [same] at range
        exact absurd range.1 (by decide)
      simp only [splitSign, plus, minus, Bool.false_eq_true, if_false]

/-- A minus sign with digits that are small enough. -/
theorem atoi_of_negative {text magnitude : Bytes} {value : Nat}
    (split : splitSign text = (true, magnitude))
    (read : parseUint magnitude 10 64 = ⟨value, none⟩) (within : value ≤ 2 ^ 63) :
    atoi text = ⟨-(value : Int), none⟩ := by
  unfold atoi parseInt
  simp only [split, read, if_false, Bool.not_true, Bool.false_and, Bool.true_and,
    decide_eq_true_eq, if_neg (Nat.not_lt_of_le within), Bool.false_eq_true, if_true, reduceCtorEq]

/-- Digits without a minus sign that are small enough. -/
theorem atoi_of_nonnegative {text magnitude : Bytes} {value : Nat}
    (split : splitSign text = (false, magnitude))
    (read : parseUint magnitude 10 64 = ⟨value, none⟩) (within : value < 2 ^ 63) :
    atoi text = ⟨value, none⟩ := by
  unfold atoi parseInt
  simp only [split, read, if_false, Bool.not_false, Bool.false_and, Bool.true_and,
    decide_eq_true_eq, if_neg (Nat.not_le_of_lt within), Bool.false_eq_true, reduceCtorEq]

/-- What `Itoa` writes, `Atoi` reads. -/
theorem atoi_itoa {number : Int} (fits : IsInt64 number) : atoi (itoa number) = ⟨number, none⟩ := by
  rcases fits with ⟨lower, upper⟩
  have magnitude : parseUint (digits number.natAbs) 10 64 = ⟨number.natAbs, none⟩ :=
    parseUint_digits (by omega)
  unfold itoa
  split
  · next negative =>
      have same : -(number.natAbs : Int) = number := by omega
      rw [atoi_of_negative rfl magnitude (by omega), same]
  · next nonnegative =>
      have same : (number.natAbs : Int) = number := by omega
      rw [atoi_of_nonnegative (splitSign_digits _) magnitude (by omega), same]

/-- What `Atoi` reads is an `int`. -/
theorem isInt64_atoi (text : Bytes) : IsInt64 (atoi text).value := by
  unfold atoi parseInt IsInt64
  dsimp only
  split
  · decide
  · split
    · decide
    · split
      · decide
      · next below above =>
          simp only [Bool.and_eq_true, decide_eq_true_eq, Bool.not_eq_true', not_and, not_le,
            not_lt] at below above
          cases negative : (splitSign text).1 with
          | true =>
              have small := above negative
              simp only [if_true]
              omega
          | false =>
              have small := below negative
              simp only [Bool.false_eq_true, if_false]
              omega

theorem isInt64_of_atoi {text : Bytes} {number : Int} (read : atoi text = ⟨number, none⟩) :
    IsInt64 number := by
  have fits := isInt64_atoi text
  rwa [read] at fits

end OpenFsd
