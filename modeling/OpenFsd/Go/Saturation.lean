import OpenFsd.Go.Decimal

namespace OpenFsd

/-!
# Numbers that do not fit

`Atoi` answers a number of any length with the nearest `int`.  A conversion to
`int32` then keeps the low 32 bits, and the two together give the nearest
`int32` for some numbers only.
-/

/-- The nearest integer of this many bits. -/
def nearest (bitSize : Nat) (number : Int) : Int :=
  max (-2 ^ (bitSize - 1)) (min number (2 ^ (bitSize - 1) - 1))

/-- The numbers of a 32-bit `int32`. -/
def IsInt32 (number : Int) : Prop :=
  -2 ^ 31 ≤ number ∧ number < 2 ^ 31

/-! ## Decimal integers -/

/-- The digits as they are written, most significant digit first. -/
def numeral (figures : List (Fin 10)) : Bytes :=
  figures.map fun figure => byte figure.val.digitChar

/-- The value of the digits behind a number that has been read. -/
def valueAfter (accumulated : Nat) (figures : List (Fin 10)) : Nat :=
  figures.foldl (fun value figure => value * 10 + figure.val) accumulated

/-- A text of digits with an optional sign, and its value.  There may be any
number of digits, and zeros in front. -/
inductive DecimalInteger : Bytes -> Int -> Prop
  | unsigned (figures : List (Fin 10)) (some : figures ≠ []) :
      DecimalInteger (numeral figures) (valueAfter 0 figures)
  | plus (figures : List (Fin 10)) (some : figures ≠ []) :
      DecimalInteger (byte '+' :: numeral figures) (valueAfter 0 figures)
  | minus (figures : List (Fin 10)) (some : figures ≠ []) :
      DecimalInteger (byte '-' :: numeral figures) (-(valueAfter 0 figures : Int))

theorem le_valueAfter (accumulated : Nat) (figures : List (Fin 10)) :
    accumulated ≤ valueAfter accumulated figures := by
  induction figures generalizing accumulated with
  | nil => exact Nat.le_refl accumulated
  | cons figure rest inductionHypothesis =>
      have later := inductionHypothesis (accumulated * 10 + figure.val)
      show accumulated ≤ valueAfter (accumulated * 10 + figure.val) rest
      omega

/-- The digit loop stops at the largest value. -/
theorem parseDigits_numeral {maxVal accumulated : Nat} (figures : List (Fin 10))
    (within : accumulated ≤ maxVal) :
    (parseDigits 10 maxVal accumulated (numeral figures)).value =
        min maxVal (valueAfter accumulated figures) ∧
      (parseDigits 10 maxVal accumulated (numeral figures)).err ≠ some .invalid := by
  induction figures generalizing accumulated with
  | nil => exact ⟨(Nat.min_eq_right within).symm, nofun⟩
  | cons figure rest inductionHypothesis =>
      have small := figure.isLt
      have later := le_valueAfter (accumulated * 10 + figure.val) rest
      simp only [numeral, List.map_cons, parseDigits, digitValue_digitChar small,
        if_neg (Nat.not_le_of_lt small)]
      split
      · next beyond =>
          refine ⟨?_, by simp⟩
          show maxVal = min maxVal (valueAfter (accumulated * 10 + figure.val) rest)
          omega
      · next within => exact inductionHypothesis (Nat.le_of_not_lt within)

theorem parseUint_numeral {figures : List (Fin 10)} (some : figures ≠ []) :
    (parseUint (numeral figures) 10 64).value = min (2 ^ 64 - 1) (valueAfter 0 figures) ∧
      (parseUint (numeral figures) 10 64).err ≠ .some .invalid := by
  unfold parseUint
  rw [if_neg (by simpa [numeral] using some)]
  exact parseDigits_numeral figures (Nat.zero_le _)

theorem splitSign_numeral (figures : List (Fin 10)) :
    splitSign (numeral figures) = (false, numeral figures) := by
  cases figures with
  | nil => rfl
  | cons figure rest =>
      have unsigned : forall digit : Fin 10, (byte digit.val.digitChar == byte '+') = false ∧
          (byte digit.val.digitChar == byte '-') = false := by
        decide
      simp [numeral, splitSign, unsigned figure]

/-- The sign decides on which side a number is out of range. -/
theorem atoi_of_split {text magnitude : Bytes} {negative : Bool} {value : Nat}
    (split : splitSign text = (negative, magnitude))
    (read : (parseUint magnitude 10 64).value = min (2 ^ 64 - 1) value)
    (digits : (parseUint magnitude 10 64).err ≠ some .invalid) :
    (atoi text).value = nearest 64 (if negative then -(value : Int) else value) := by
  unfold atoi parseInt nearest
  simp only [split, read, if_neg digits]
  cases negative <;> simp only [Bool.not_true, Bool.not_false, Bool.true_and, Bool.false_and,
    Bool.false_eq_true, if_false, if_true, decide_eq_true_eq] <;> split <;> dsimp only <;> omega

/-- `Atoi` reads the nearest `int`. -/
theorem atoi_of_decimal {text : Bytes} {number : Int} (spelled : DecimalInteger text number) :
    (atoi text).value = nearest 64 number := by
  cases spelled with
  | unsigned figures some =>
      rcases parseUint_numeral some with ⟨read, digits⟩
      exact atoi_of_split (splitSign_numeral figures) read digits
  | plus figures some =>
      rcases parseUint_numeral some with ⟨read, digits⟩
      exact atoi_of_split rfl read digits
  | minus figures some =>
      rcases parseUint_numeral some with ⟨read, digits⟩
      exact atoi_of_split rfl read digits

/-! ## Short texts -/

theorem parseDigits_lt (maxVal accumulated : Nat) (text : Bytes) :
    (parseDigits 10 maxVal accumulated text).value < (accumulated + 1) * 10 ^ text.length := by
  induction text generalizing accumulated with
  | nil => simp [parseDigits]
  | cons digit rest inductionHypothesis =>
      have positive : 0 < (accumulated + 1) * 10 ^ (rest.length + 1) :=
        Nat.mul_pos (Nat.succ_pos _) (Nat.pow_pos (by decide))
      have room : (accumulated + 1) * 10 ≤ (accumulated + 1) * 10 ^ (rest.length + 1) := by
        apply Nat.mul_le_mul_left
        exact Nat.le_self_pow (Nat.succ_ne_zero _) 10
      rw [parseDigits, List.length_cons]
      split
      · exact positive
      · next value valued =>
          split
          · exact positive
          · next small =>
              split
              · next beyond =>
                  show maxVal < _
                  omega
              · calc
                  _ < (accumulated * 10 + value + 1) * 10 ^ rest.length :=
                    inductionHypothesis (accumulated * 10 + value)
                  _ ≤ (accumulated + 1) * 10 * 10 ^ rest.length := by
                    apply Nat.mul_le_mul_right
                    omega
                  _ = (accumulated + 1) * 10 ^ (rest.length + 1) := by
                    rw [Nat.pow_succ', Nat.mul_assoc]

theorem length_splitSign_le (text : Bytes) : (splitSign text).2.length ≤ text.length := by
  cases text with
  | nil => exact Nat.le_refl 0
  | cons head rest =>
      rw [splitSign]
      split
      · exact Nat.le_succ _
      · split
        · exact Nat.le_succ _
        · exact Nat.le_refl _

/-- A number takes as many digits as it has. -/
theorem atoi_lt (text : Bytes) : (atoi text).value < 10 ^ text.length := by
  have magnitude : (parseUint (splitSign text).2 10 64).value < 10 ^ text.length := by
    have longer := Nat.pow_le_pow_right (show 0 < 10 by decide) (length_splitSign_le text)
    unfold parseUint
    split
    · exact Nat.pow_pos (by decide)
    · have below := parseDigits_lt (2 ^ 64 - 1) 0 (splitSign text).2
      omega
  have cast : ((parseUint (splitSign text).2 10 64).value : Int) < 10 ^ text.length := by
    exact_mod_cast magnitude
  unfold atoi parseInt
  dsimp only
  split
  · show (0 : Int) < _
    omega
  · split
    · next above =>
        simp only [Bool.and_eq_true, decide_eq_true_eq] at above
        dsimp only
        omega
    · split
      · dsimp only
        omega
      · dsimp only
        split <;> omega

/-! ## Narrowing -/

/-- The low 32 bits are those of the nearest `int32`. -/
def SurvivesNarrowing (number : Int) : Prop :=
  IsInt32 number ∨ (IsInt64 number ∧
    ((2 ^ 31 ≤ number ∧ number % 2 ^ 32 = 2 ^ 31 - 1) ∨
      (number < -2 ^ 31 ∧ number % 2 ^ 32 = 2 ^ 31)))

theorem wrapInt32_nearest_iff (number : Int) :
    wrapInt32 (nearest 64 number) = nearest 32 number ↔ SurvivesNarrowing number := by
  unfold wrapInt32 nearest SurvivesNarrowing IsInt32 IsInt64
  omega

/-- A field that is read with `Atoi` and stored as an `int32`. -/
theorem stored_nearest_iff {text : Bytes} {number : Int} (spelled : DecimalInteger text number) :
    wrapInt32 (atoi text).value = nearest 32 number ↔ SurvivesNarrowing number := by
  rw [atoi_of_decimal spelled]
  exact wrapInt32_nearest_iff number

end OpenFsd
