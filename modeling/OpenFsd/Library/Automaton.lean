import Mathlib.Data.List.Basic

namespace OpenFsd

/-!
# Tokens of an automaton

A deterministic automaton that may fail to step cuts a token off the front of
an input: it goes on as long as it can, and must then be in an accepting
state.  What it cuts off is a word of the automaton, and it cuts off every
word behind which it cannot go on.
-/

universe u v

structure Automaton (Q : Type u) (S : Type v) where
  step : Q -> S -> Option Q
  accepts : Q -> Bool

namespace Automaton

variable {Q : Type u} {S : Type v} (M : Automaton Q S)

/-- The word leads from this state to an accepting one. -/
def Spells (state : Q) (word : List S) : Prop :=
  Exists fun final => word.foldlM M.step state = some final ∧ M.accepts final = true

/-- No word goes on here. -/
def Stops (rest : List S) : Prop :=
  forall symbol, rest.head? = some symbol ->
    forall state, M.accepts state = true -> M.step state symbol = none

/-- The longest word of the automaton at the front, and what follows it. -/
def munch : Q -> List S -> Option (List S × List S)
  | state, [] => if M.accepts state then some ([], []) else none
  | state, symbol :: rest =>
      match M.step state symbol with
      | some next => (munch next rest).map fun (word, rest) => (symbol :: word, rest)
      | none => if M.accepts state then some ([], symbol :: rest) else none

variable {M}

theorem spells_nil {state : Q} : M.Spells state [] ↔ M.accepts state = true := by
  constructor
  · rintro ⟨final, same, accepting⟩
    cases same
    exact accepting
  · intro accepting
    exact ⟨state, rfl, accepting⟩

theorem spells_cons {state : Q} {symbol : S} {word : List S} :
    M.Spells state (symbol :: word) ↔
      Exists fun next => M.step state symbol = some next ∧ M.Spells next word := by
  unfold Spells
  rw [List.foldlM_cons]
  cases M.step state symbol with
  | none => simp
  | some next => simp

theorem munch_stop {state : Q} (accepting : M.accepts state = true) {rest : List S}
    (stops : M.Stops rest) : M.munch state rest = some ([], rest) := by
  cases rest with
  | nil =>
      rw [munch]
      exact if_pos accepting
  | cons symbol rest =>
      rw [munch, stops symbol rfl state accepting]
      exact if_pos accepting

theorem munch_complete {state : Q} {word rest : List S} (spelled : M.Spells state word)
    (stops : M.Stops rest) : M.munch state (word ++ rest) = some (word, rest) := by
  induction word generalizing state with
  | nil => exact munch_stop (spells_nil.mp spelled) stops
  | cons symbol word inductionHypothesis =>
      rcases spells_cons.mp spelled with ⟨next, stepped, later⟩
      rw [List.cons_append, munch, stepped]
      simp only [inductionHypothesis later, Option.map_some]

theorem munch_sound {state : Q} {input word rest : List S}
    (cut : M.munch state input = some (word, rest)) :
    input = word ++ rest ∧ M.Spells state word := by
  induction input generalizing state word with
  | nil =>
      rw [munch] at cut
      split at cut
      · next accepting =>
          cases cut
          exact ⟨rfl, spells_nil.mpr accepting⟩
      · cases cut
  | cons symbol input inductionHypothesis =>
      rw [munch] at cut
      cases stepped : M.step state symbol with
      | none =>
          simp only [stepped] at cut
          split at cut
          · next accepting =>
              cases cut
              exact ⟨rfl, spells_nil.mpr accepting⟩
          · cases cut
      | some next =>
          simp only [stepped, Option.map_eq_some_iff] at cut
          rcases cut with ⟨⟨tail, remaining⟩, later, same⟩
          cases same
          rcases inductionHypothesis later with ⟨split, spelled⟩
          exact ⟨congrArg (List.cons symbol) split, spells_cons.mpr ⟨next, stepped, spelled⟩⟩

end Automaton
end OpenFsd
