import OpenFsd.Go.Bytes

namespace OpenFsd

/-!
# The arithmetic of `float64`

Positions, ranges and distances are `float64` values.  The code is written
over any type with the operations that it uses, so that it can be read in
IEEE arithmetic, where NaN and the infinities occur, and in exact real
arithmetic.  `==` and `<` are the comparisons of Go, which are not the
identity and the order of a mathematical type: NaN is not equal to itself,
and the two zeros are equal.

`LawfulGoFloat` states the few facts of IEEE comparison that the results
about the spatial index use.  No fact about rounding is assumed anywhere.
-/

/-- The operations and constants of `float64` and `math` that occur in the
source. -/
class GoFloat (F : Type) extends Add F, Sub F, Mul F, Div F where
  /-- Identity of values, finer than Go's `==`. -/
  [identical : DecidableEq F]
  /-- Go's `==` -/
  eq : F -> F -> Bool
  /-- Go's `<` -/
  lt : F -> F -> Bool
  sin : F -> F
  cos : F -> F
  sqrt : F -> F
  atan2 : F -> F -> F
  /-- The value of a rational constant expression. -/
  ofRat : Rat -> F
  /-- `degToRad = math.Pi / 180` -/
  degToRad : F
  /-- `metersPerDegreeLat = (math.Pi * earthRadius) / 180` -/
  metersPerDegreeLat : F
  /-- `math.MaxFloat64` -/
  maxFloat64 : F
  isFinite : F -> Bool
  /-- `strconv.ParseFloat(s, 64)`, without a value when it reports an error -/
  parseFloat : Bytes -> Option F
  /-- The conversion `int(x)` -/
  truncate : F -> Int

-- A type that has its own arithmetic keeps it.
attribute [instance (100)] GoFloat.toAdd GoFloat.toSub GoFloat.toMul GoFloat.toDiv

namespace GoFloat

variable {F : Type} [GoFloat F]

instance : DecidableEq F := identical

/-- Go's `>` -/
def gt (left right : F) : Bool := lt right left

/-- Two values that no comparison of the source tells apart from a shared
origin: identical ones, NaN included, and the two zeros. -/
def Same (left right : F) : Prop := left = right ∨ eq left right = true

instance (left right : F) : Decidable (Same left right) :=
  inferInstanceAs (Decidable (_ ∨ _))

end GoFloat

/-- IEEE comparison: `==` is symmetric and transitive (but not reflexive),
`<` is a strict order that does not separate equal values. -/
class LawfulGoFloat (F : Type) [GoFloat F] : Prop where
  eq_symm : forall left right : F, GoFloat.eq left right = true -> GoFloat.eq right left = true
  eq_trans : forall first second third : F, GoFloat.eq first second = true ->
    GoFloat.eq second third = true -> GoFloat.eq first third = true
  lt_irrefl : forall value : F, GoFloat.lt value value = false
  lt_trans : forall first second third : F, GoFloat.lt first second = true ->
    GoFloat.lt second third = true -> GoFloat.lt first third = true
  lt_congr_left : forall first second other : F, GoFloat.eq first second = true ->
    GoFloat.lt first other = GoFloat.lt second other
  lt_congr_right : forall first second other : F, GoFloat.eq first second = true ->
    GoFloat.lt other first = GoFloat.lt other second

namespace GoFloat

variable {F : Type} [GoFloat F]

theorem same_refl (value : F) : Same value value :=
  Or.inl rfl

variable [LawfulGoFloat F]

theorem same_symm {left right : F} (same : Same left right) : Same right left := by
  rcases same with identical | equal
  · exact Or.inl identical.symm
  · exact Or.inr (LawfulGoFloat.eq_symm left right equal)

theorem same_trans {first second third : F} (left : Same first second)
    (right : Same second third) : Same first third := by
  rcases left with identical | equal
  · exact identical ▸ right
  · rcases right with identical' | equal'
    · exact identical' ▸ Or.inr equal
    · exact Or.inr (LawfulGoFloat.eq_trans first second third equal equal')

/-- Values that are the same compare the same on either side. -/
theorem lt_same {first second third fourth : F} (left : Same first second)
    (right : Same third fourth) : lt first third = lt second fourth := by
  have atLeft : lt first third = lt second third := by
    rcases left with identical | equal
    · rw [identical]
    · exact LawfulGoFloat.lt_congr_left first second third equal
  have atRight : lt second third = lt second fourth := by
    rcases right with identical | equal
    · rw [identical]
    · exact LawfulGoFloat.lt_congr_right third fourth second equal
  exact atLeft.trans atRight

end GoFloat
end OpenFsd
