import Mathlib.Data.List.Forall2

namespace OpenFsd
namespace Machine

/-!
# Machines that answer their inputs

A machine is given by one function that answers an input in a state, with the
next state.  If its states can be related to those of another machine, so
that related states answer alike and stay related, the two answer every list
of inputs alike, however long, and end in related states.  The inputs and the
answers may be presented differently on the two sides: in general by a
relation, and in a simulation by a function.
-/

universe u v w x y z

variable {S : Type u} {T : Type v} {I : Type w} {J : Type x} {A : Type y} {B : Type z}

/-- The answers to a list of inputs, in order. -/
def answers (step : S -> I -> S × A) : S -> List I -> List A
  | _, [] => []
  | state, input :: rest => (step state input).2 :: answers step (step state input).1 rest

/-- The state after a list of inputs. -/
def final (step : S -> I -> S × A) : S -> List I -> S
  | state, [] => state
  | state, input :: rest => final step (step state input).1 rest

/-- Related states answer paired inputs alike, and stay related. -/
structure Coupled (related : S -> T -> Prop) (paired : I -> J -> Prop) (alike : A -> B -> Prop)
    (step : S -> I -> S × A) (other : T -> J -> T × B) : Prop where
  answer : forall state mirror input twin, related state mirror -> paired input twin ->
    alike (step state input).2 (other mirror twin).2
  next : forall state mirror input twin, related state mirror -> paired input twin ->
    related (step state input).1 (other mirror twin).1

section Coupling

variable {related : S -> T -> Prop} {paired : I -> J -> Prop} {alike : A -> B -> Prop}
  {step : S -> I -> S × A} {other : T -> J -> T × B} {state : S} {mirror : T}
  {inputs : List I} {twins : List J}

/-- Coupled machines answer paired inputs alike, one by one. -/
theorem Coupled.forall₂_answers (coupled : Coupled related paired alike step other)
    (start : related state mirror) (same : List.Forall₂ paired inputs twins) :
    List.Forall₂ alike (answers step state inputs) (answers other mirror twins) := by
  induction same generalizing state mirror with
  | nil => exact List.Forall₂.nil
  | cons pair _ inductionHypothesis =>
      apply List.Forall₂.cons
      · exact coupled.answer _ _ _ _ start pair
      · exact inductionHypothesis (coupled.next _ _ _ _ start pair)

/-- They end in related states. -/
theorem Coupled.related_final (coupled : Coupled related paired alike step other)
    (start : related state mirror) (same : List.Forall₂ paired inputs twins) :
    related (final step state inputs) (final other mirror twins) := by
  induction same generalizing state mirror with
  | nil => exact start
  | cons pair _ inductionHypothesis =>
      exact inductionHypothesis (coupled.next _ _ _ _ start pair)

/-- Where the answers to two lists are alike, every input of the first one has
been answered like its twin, in some states of the two machines. -/
theorem exists_alike_of_mem (same : List.Forall₂ paired inputs twins)
    (answered : List.Forall₂ alike (answers step state inputs) (answers other mirror twins))
    {input : I} (member : input ∈ inputs) :
    Exists fun before => Exists fun behind => Exists fun twin =>
      paired input twin ∧ alike (step before input).2 (other behind twin).2 := by
  induction same generalizing state mirror with
  | nil => cases member
  | cons pair _ inductionHypothesis =>
      rcases List.forall₂_cons.mp answered with ⟨first, later⟩
      rcases List.mem_cons.mp member with here | there
      · subst here
        exact ⟨_, _, _, pair, first⟩
      · exact inductionHypothesis later there

end Coupling

/-- Whatever the machine does, the other one does on the translated input. -/
structure Simulated (related : S -> T -> Prop) (step : S -> I -> S × A) (other : T -> J -> T × B)
    (translate : I -> J) (present : B -> A) : Prop where
  answer : forall state mirror input, related state mirror ->
    (step state input).2 = present (other mirror (translate input)).2
  next : forall state mirror input, related state mirror ->
    related (step state input).1 (other mirror (translate input)).1

theorem Simulated.coupled {related : S -> T -> Prop} {step : S -> I -> S × A}
    {other : T -> J -> T × B} {translate : I -> J} {present : B -> A}
    (simulated : Simulated related step other translate present) :
    Coupled related (fun input twin => translate input = twin)
      (fun answer shown => answer = present shown) step other where
  answer := by
    intro state mirror input twin start pair
    subst pair
    exact simulated.answer state mirror input start
  next := by
    intro state mirror input twin start pair
    subst pair
    exact simulated.next state mirror input start

/-- Related states answer every list of inputs alike. -/
theorem Simulated.answers_eq {related : S -> T -> Prop} {step : S -> I -> S × A}
    {other : T -> J -> T × B} {translate : I -> J} {present : B -> A}
    (simulated : Simulated related step other translate present) {state : S} {mirror : T}
    (start : related state mirror) (inputs : List I) :
    answers step state inputs = (answers other mirror (inputs.map translate)).map present := by
  have same : List.Forall₂ (fun input twin => translate input = twin) inputs
      (inputs.map translate) := by
    rw [List.forall₂_map_right_iff]
    exact List.forall₂_same.mpr fun _ _ => rfl
  have alike := simulated.coupled.forall₂_answers start same
  rw [← List.forall₂_map_right_iff, List.forall₂_eq_eq_eq] at alike
  exact alike

end Machine
end OpenFsd
