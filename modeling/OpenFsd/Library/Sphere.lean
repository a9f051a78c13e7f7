import Mathlib.Analysis.SpecialFunctions.Complex.Arg
import Mathlib.Analysis.SpecialFunctions.Trigonometric.Inverse

namespace OpenFsd
namespace Sphere

/-!
# The haversine formula

The central angle between two points of the unit sphere, from their latitudes
and longitudes in radians.  Between the poles the quantity under the root lies
between 0 and 1, so the formula is defined everywhere, and two points are never
closer than their circles of latitude.
-/

/-- The haversine of the central angle. -/
noncomputable def haversine (lat1 lon1 lat2 lon2 : Real) : Real :=
  Real.sin ((lat2 - lat1) / 2) ^ 2 +
    Real.cos lat1 * Real.cos lat2 * Real.sin ((lon2 - lon1) / 2) ^ 2

noncomputable def centralAngle (lat1 lon1 lat2 lon2 : Real) : Real :=
  2 * Real.arcsin (Real.sqrt (haversine lat1 lon1 lat2 lon2))

/-- A latitude: no circle of latitude has a negative radius. -/
def IsLatitude (lat : Real) : Prop :=
  -(Real.pi / 2) ≤ lat ∧ lat ≤ Real.pi / 2

theorem IsLatitude.cos_nonneg {lat : Real} (between : IsLatitude lat) : 0 ≤ Real.cos lat :=
  Real.cos_nonneg_of_neg_pi_div_two_le_of_le between.1 between.2

variable {lat1 lon1 lat2 lon2 : Real}

theorem cos_mul_cos_nonneg (first : IsLatitude lat1) (second : IsLatitude lat2) :
    0 ≤ Real.cos lat1 * Real.cos lat2 :=
  mul_nonneg first.cos_nonneg second.cos_nonneg

/-- The haversine of the difference in latitude is part of the haversine. -/
theorem sin_sq_le_haversine (first : IsLatitude lat1) (second : IsLatitude lat2) :
    Real.sin ((lat2 - lat1) / 2) ^ 2 ≤ haversine lat1 lon1 lat2 lon2 :=
  le_add_of_nonneg_right (mul_nonneg (cos_mul_cos_nonneg first second) (sq_nonneg _))

theorem haversine_nonneg (first : IsLatitude lat1) (second : IsLatitude lat2) :
    0 ≤ haversine lat1 lon1 lat2 lon2 :=
  (sq_nonneg _).trans (sin_sq_le_haversine first second)

theorem haversine_le_one (first : IsLatitude lat1) (second : IsLatitude lat2) :
    haversine lat1 lon1 lat2 lon2 ≤ 1 := by
  have widest : Real.cos lat1 * Real.cos lat2 * Real.sin ((lon2 - lon1) / 2) ^ 2 ≤
      Real.cos lat1 * Real.cos lat2 :=
    mul_le_of_le_one_right (cos_mul_cos_nonneg first second) (Real.sin_sq_le_one _)
  have halved : Real.sin ((lat2 - lat1) / 2) ^ 2 = (1 - Real.cos (lat2 - lat1)) / 2 := by
    rw [Real.sin_sq_eq_half_sub, mul_div_cancel₀ _ (two_ne_zero' Real)]
    ring
  have difference : Real.cos (lat2 - lat1) =
      Real.cos lat2 * Real.cos lat1 + Real.sin lat2 * Real.sin lat1 := Real.cos_sub lat2 lat1
  have sum : Real.cos (lat2 + lat1) =
      Real.cos lat2 * Real.cos lat1 - Real.sin lat2 * Real.sin lat1 := Real.cos_add lat2 lat1
  have bounded := Real.cos_le_one (lat2 + lat1)
  unfold haversine
  rw [halved]
  linarith

/-- Two points are never closer than their latitudes. -/
theorem abs_sub_le_centralAngle (first : IsLatitude lat1) (second : IsLatitude lat2) :
    |lat2 - lat1| ≤ centralAngle lat1 lon1 lat2 lon2 := by
  have apart : |lat2 - lat1| ≤ Real.pi := by
    rw [abs_le]
    constructor
    · linarith [first.2, second.1]
    · linarith [first.1, second.2]
  have positive := abs_nonneg (lat2 - lat1)
  have half : Real.arcsin (Real.sin (|lat2 - lat1| / 2)) = |lat2 - lat1| / 2 := by
    apply Real.arcsin_sin
    · linarith [Real.pi_pos]
    · linarith
  have root : Real.sin (|lat2 - lat1| / 2) ≤ Real.sqrt (haversine lat1 lon1 lat2 lon2) := by
    apply Real.le_sqrt_of_sq_le
    have even : Real.sin (|lat2 - lat1| / 2) ^ 2 = Real.sin ((lat2 - lat1) / 2) ^ 2 := by
      rcases abs_choice (lat2 - lat1) with same | negated
      · rw [same]
      · rw [negated, neg_div, Real.sin_neg, neg_sq]
    rw [even]
    exact sin_sq_le_haversine first second
  have monotone := Real.monotone_arcsin root
  rw [half] at monotone
  unfold centralAngle
  linarith

/-- The angle of a quarter circle, from its two legs. -/
theorem arg_sqrt {value : Real} (nonneg : 0 ≤ value) (le : value ≤ 1) :
    Complex.arg ⟨Real.sqrt (1 - value), Real.sqrt value⟩ = Real.arcsin (Real.sqrt value) := by
  have unit : ‖(⟨Real.sqrt (1 - value), Real.sqrt value⟩ : Complex)‖ = 1 := by
    rw [Complex.norm_def, Complex.normSq_mk, Real.mul_self_sqrt (sub_nonneg.mpr le),
      Real.mul_self_sqrt nonneg, sub_add_cancel, Real.sqrt_one]
  rw [Complex.arg_of_re_nonneg (Real.sqrt_nonneg _), unit, div_one]

end Sphere
end OpenFsd
