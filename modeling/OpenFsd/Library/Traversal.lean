import Mathlib.Data.List.Basic

namespace OpenFsd
namespace Traversal

/-!
# Traversals with a callback that may stop them

Iteration by callback visits the items in turn, threads a state, and ends
early when the callback answers `false`.  With a callback that never stops
the traversal is a left fold; and a relation that every visit preserves
holds between the first and the last state, wherever the traversal stops.

A fold that keeps the lesser of its state and the next measure ends in the
least measure below its start, for any strict order.  Measures may be
incomparable, as NaN is.
-/

universe u v

variable {A : Type u} {B : Type v}

/-- Visit the items from the left until the callback answers `false`. -/
def foldUntil (visit : B -> A -> B × Bool) : B -> List A -> B
  | state, [] => state
  | state, item :: rest =>
      if (visit state item).2 then foldUntil visit (visit state item).1 rest
      else (visit state item).1

theorem foldUntil_of_always {visit : B -> A -> B × Bool}
    (always : forall state item, (visit state item).2 = true) (state : B) (items : List A) :
    foldUntil visit state items = items.foldl (fun current item => (visit current item).1) state := by
  induction items generalizing state with
  | nil => rfl
  | cons item rest inductionHypothesis =>
      rw [foldUntil, if_pos (always state item), List.foldl_cons]
      exact inductionHypothesis _

/-- What relates the start to the current state, and survives one visit,
relates the start to the result. -/
theorem foldUntil_induction {visit : B -> A -> B × Bool} (related : B -> Prop) {items : List A}
    (preserved : forall state item, item ∈ items -> related state -> related (visit state item).1)
    {state : B} (initially : related state) : related (foldUntil visit state items) := by
  induction items generalizing state with
  | nil => exact initially
  | cons item rest inductionHypothesis =>
      have visited := preserved state item List.mem_cons_self initially
      rw [foldUntil]
      by_cases goOn : (visit state item).2 = true
      · rw [if_pos goOn]
        exact inductionHypothesis
          (fun next other member => preserved next other (List.mem_cons_of_mem item member)) visited
      · rw [if_neg goOn]
        exact visited

/-- A fold that appends a singleton for every selected item collects the
selected items in order. -/
theorem foldl_collect (selects : A -> Bool) (make : A -> B) (collected : List B) (items : List A) :
    items.foldl (fun current item => if selects item then current ++ [make item] else current)
        collected =
      collected ++ (items.filter selects).map make := by
  induction items generalizing collected with
  | nil => exact (List.append_nil collected).symm
  | cons item rest inductionHypothesis =>
      rw [List.foldl_cons, inductionHypothesis]
      cases selected : selects item <;>
        simp only [List.filter_cons, selected, if_true, Bool.false_eq_true, if_false,
          List.map_cons, List.append_assoc, List.cons_append, List.nil_append]

/-! ## The least measure -/

/-- The value is the least of the measures below the bound, and the bound
itself when no measure lies below it. -/
structure Least (lt : B -> B -> Bool) (bound : B) (measures : List B) (value : B) : Prop where
  attained : forall measure, measure ∈ measures -> lt measure bound = true -> value ∈ measures
  least : forall measure, measure ∈ measures -> lt measure value = false
  bounded : (forall measure, measure ∈ measures -> lt measure bound = false) -> value = bound

/-- Keep the lesser value. -/
def lesser (lt : B -> B -> Bool) (current measure : B) : B :=
  if lt measure current then measure else current

section

variable {lt : B -> B -> Bool} (irreflexive : forall value, lt value value = false)
  (transitive : forall first second third, lt first second = true -> lt second third = true ->
    lt first third = true)

include transitive in
/-- Nothing that lies below the result lay above, or beside, the start. -/
theorem lt_of_lt_foldl_lesser {value bound : B} {measures : List B}
    (below : lt value (measures.foldl (lesser lt) bound) = true) : lt value bound = true := by
  induction measures generalizing bound with
  | nil => exact below
  | cons measure rest inductionHypothesis =>
      have belowNext : lt value (lesser lt bound measure) = true := inductionHypothesis below
      unfold lesser at belowNext
      split at belowNext
      · next lower => exact transitive value measure bound belowNext lower
      · exact belowNext

include irreflexive transitive in
theorem least_foldl_lesser (bound : B) (measures : List B) :
    Least lt bound measures (measures.foldl (lesser lt) bound) := by
  induction measures generalizing bound with
  | nil => exact ⟨fun _ member _ => absurd member List.not_mem_nil,
      fun _ member => absurd member List.not_mem_nil, fun _ => rfl⟩
  | cons measure rest inductionHypothesis =>
      have tail := inductionHypothesis (lesser lt bound measure)
      rw [List.foldl_cons]
      by_cases lower : lt measure bound = true
      · have taken : lesser lt bound measure = measure := if_pos lower
        rw [taken] at tail ⊢
        have member : rest.foldl (lesser lt) measure ∈ measure :: rest := by
          by_cases further : Exists fun other => other ∈ rest ∧ lt other measure = true
          · rcases further with ⟨other, otherMember, otherLower⟩
            exact List.mem_cons_of_mem measure (tail.attained other otherMember otherLower)
          · have same := tail.bounded fun other otherMember =>
              Bool.not_eq_true _ ▸ fun otherLower => further ⟨other, otherMember, otherLower⟩
            rw [same]
            exact List.mem_cons_self
        constructor
        · exact fun _ _ _ => member
        · intro other otherMember
          rcases List.mem_cons.mp otherMember with same | inRest
          · rw [same, ← Bool.not_eq_true]
            intro below
            have self := lt_of_lt_foldl_lesser transitive below
            rw [irreflexive measure] at self
            cases self
          · exact tail.least other inRest
        · intro none
          rw [none measure List.mem_cons_self] at lower
          cases lower
      · have kept : lesser lt bound measure = bound := if_neg lower
        rw [kept] at tail ⊢
        constructor
        · intro other otherMember otherLower
          rcases List.mem_cons.mp otherMember with same | inRest
          · exact absurd (same ▸ otherLower) lower
          · exact List.mem_cons_of_mem measure (tail.attained other inRest otherLower)
        · intro other otherMember
          rcases List.mem_cons.mp otherMember with same | inRest
          · rw [same, ← Bool.not_eq_true]
            exact fun below => lower (lt_of_lt_foldl_lesser transitive below)
          · exact tail.least other inRest
        · exact fun none => tail.bounded fun other inRest => none other (List.mem_cons_of_mem _ inRest)

end

end Traversal
end OpenFsd
