import Mathlib.Logic.Basic
import Mathlib.Data.List.Infix
import Mathlib.Data.Option.Basic

namespace OpenFsd
namespace Transition

/-!
# Finite runs of labelled partial transitions

A system is given by one function that answers, for a state and a label,
the next state, or nothing when the label is not enabled there.  Everything
a concurrent system may do next is a choice of label, so a statement about
every list of labels is a statement about every interleaving.

The module has the run of a list of labels, reachability, and two rules for
invariants.  The second rule is relative: `Along` says that every executed
step of a run satisfies a condition on the state before it and its label,
and an invariant only has to survive the steps that do.
-/

universe u v w

variable {S : Type u} {L : Type v}

/-- Execute the labels from left to right.  The run is absent when some
label is not enabled at its turn. -/
def run (step : S -> L -> Option S) : S -> List L -> Option S
  | state, [] => some state
  | state, label :: rest =>
      match step state label with
      | none => none
      | some next => run step next rest

/-- Some run leads from the first state to the second. -/
def Reaches (step : S -> L -> Option S) (start state : S) : Prop :=
  Exists fun labels => run step start labels = some state

/-- Every step that the run executes satisfies the condition, which sees the
state before the step. -/
def Along (step : S -> L -> Option S) (condition : S -> L -> Prop) : S -> List L -> Prop
  | _, [] => True
  | state, label :: rest =>
      condition state label ∧
        forall next, step state label = some next -> Along step condition next rest

@[simp] theorem run_nil (step : S -> L -> Option S) (state : S) : run step state [] = some state :=
  rfl

theorem run_cons (step : S -> L -> Option S) (state : S) (label : L) (rest : List L) :
    run step state (label :: rest) = (step state label).bind fun next => run step next rest := by
  cases enabled : step state label <;> simp only [run, enabled, Option.bind]

theorem run_cons_of_step {step : S -> L -> Option S} {state next : S} {label : L}
    (enabled : step state label = some next) (rest : List L) :
    run step state (label :: rest) = run step next rest := by
  simp only [run, enabled]

theorem run_append (step : S -> L -> Option S) (state : S) (first second : List L) :
    run step state (first ++ second) =
      (run step state first).bind fun middle => run step middle second := by
  induction first generalizing state with
  | nil => rfl
  | cons label rest inductionHypothesis =>
      rw [List.cons_append, run_cons, run_cons]
      cases enabled : step state label with
      | none => rfl
      | some next => exact inductionHypothesis next

namespace Reaches

variable {step : S -> L -> Option S}

theorem refl (state : S) : Reaches step state state :=
  ⟨[], rfl⟩

theorem single {state next : S} {label : L} (enabled : step state label = some next) :
    Reaches step state next :=
  ⟨[label], by rw [run_cons_of_step enabled]; rfl⟩

theorem trans {first second third : S} (left : Reaches step first second)
    (right : Reaches step second third) : Reaches step first third := by
  rcases left with ⟨leftLabels, leftRun⟩
  rcases right with ⟨rightLabels, rightRun⟩
  refine ⟨leftLabels ++ rightLabels, ?_⟩
  rw [run_append, leftRun]
  exact rightRun

theorem tail {start state next : S} {label : L} (reached : Reaches step start state)
    (enabled : step state label = some next) : Reaches step start next :=
  reached.trans (single enabled)

end Reaches

theorem along_of_forall {step : S -> L -> Option S} {condition : L -> Prop} {labels : List L}
    (all : forall label, label ∈ labels -> condition label) (start : S) :
    Along step (fun _ label => condition label) start labels := by
  induction labels generalizing start with
  | nil => exact True.intro
  | cons label rest inductionHypothesis =>
      exact ⟨all label List.mem_cons_self, fun next _ => inductionHypothesis
        (fun other member => all other (List.mem_cons_of_mem label member)) next⟩

theorem Along.mono {step : S -> L -> Option S} {first second : S -> L -> Prop}
    (implies : forall state label, first state label -> second state label) {start : S}
    {labels : List L} (along : Along step first start labels) : Along step second start labels := by
  induction labels generalizing start with
  | nil => exact True.intro
  | cons label rest inductionHypothesis =>
      exact ⟨implies start label along.1,
        fun next taken => inductionHypothesis (along.2 next taken)⟩

theorem Along.and {step : S -> L -> Option S} {first second : S -> L -> Prop} {start : S}
    {labels : List L} (left : Along step first start labels)
    (right : Along step second start labels) :
    Along step (fun state label => first state label ∧ second state label) start labels := by
  induction labels generalizing start with
  | nil => exact True.intro
  | cons label rest inductionHypothesis =>
      exact ⟨⟨left.1, right.1⟩,
        fun next taken => inductionHypothesis (left.2 next taken) (right.2 next taken)⟩

theorem Along.append {step : S -> L -> Option S} {condition : S -> L -> Prop} {start middle : S}
    {first second : List L} (along : Along step condition start first)
    (executed : run step start first = some middle) (further : Along step condition middle second) :
    Along step condition start (first ++ second) := by
  induction first generalizing start with
  | nil =>
      cases executed
      exact further
  | cons label rest inductionHypothesis =>
      refine ⟨along.1, ?_⟩
      intro next taken
      rw [run_cons_of_step taken] at executed
      exact inductionHypothesis (along.2 next taken) executed

/-- An invariant that survives every step that meets the condition holds at
the end of every run along which the condition holds. -/
theorem invariant_along {step : S -> L -> Option S} {condition : S -> L -> Prop}
    {invariant : S -> Prop}
    (preserved : forall state label next, step state label = some next ->
      condition state label -> invariant state -> invariant next)
    {start state : S} {labels : List L} (initially : invariant start)
    (along : Along step condition start labels) (executed : run step start labels = some state) :
    invariant state := by
  induction labels generalizing start with
  | nil =>
      cases executed
      exact initially
  | cons label rest inductionHypothesis =>
      cases enabled : step start label with
      | none =>
          rw [run_cons, enabled] at executed
          cases executed
      | some next =>
          rw [run_cons_of_step enabled] at executed
          exact inductionHypothesis (preserved start label next enabled along.1 initially)
            (along.2 next enabled) executed

/-- Where an invariant survives every step that meets the condition, and the
two together imply a relation between the states of the step, the relation
holds at every step of a run along which the condition holds. -/
theorem along_of_invariant {step : S -> L -> Option S} {condition : S -> L -> Prop}
    {invariant : S -> Prop} {related : S -> S -> Prop}
    (preserved : forall state label next, step state label = some next ->
      condition state label -> invariant state -> invariant next)
    (concluded : forall state label next, step state label = some next ->
      condition state label -> invariant state -> related state next)
    {start : S} {labels : List L} (initially : invariant start)
    (along : Along step condition start labels) :
    Along step (fun state label => forall next, step state label = some next -> related state next)
      start labels := by
  induction labels generalizing start with
  | nil => exact True.intro
  | cons label rest inductionHypothesis =>
      constructor
      · intro next taken
        exact concluded start label next taken along.1 initially
      · intro next taken
        exact inductionHypothesis (preserved start label next taken along.1 initially)
          (along.2 next taken)

/-- An invariant that survives every step holds in every reachable state. -/
theorem invariant_of_reaches {step : S -> L -> Option S} {invariant : S -> Prop}
    (preserved : forall state label next, step state label = some next ->
      invariant state -> invariant next)
    {start state : S} (initially : invariant start) (reached : Reaches step start state) :
    invariant state := by
  rcases reached with ⟨labels, executed⟩
  induction labels generalizing start with
  | nil =>
      cases executed
      exact initially
  | cons label rest inductionHypothesis =>
      cases enabled : step start label with
      | none =>
          rw [run_cons, enabled] at executed
          cases executed
      | some next =>
          rw [run_cons_of_step enabled] at executed
          exact inductionHypothesis (preserved start label next enabled initially) executed

/-! ## The states of a run -/

/-- The state occurs in the run, before its first step or after one of them. -/
def Visits (step : S -> L -> Option S) (start : S) (labels : List L) (state : S) : Prop :=
  Exists fun before => before <+: labels ∧ run step start before = some state

theorem visits_nil {step : S -> L -> Option S} {start state : S} :
    Visits step start [] state ↔ state = start := by
  constructor
  · rintro ⟨before, initial, executed⟩
    rw [List.prefix_nil.mp initial] at executed
    exact (Option.some.inj executed).symm
  · intro same
    exact ⟨[], List.nil_prefix, congrArg some same.symm⟩

theorem visits_cons {step : S -> L -> Option S} {start state : S} {label : L} {rest : List L} :
    Visits step start (label :: rest) state ↔ state = start ∨
      Exists fun next => step start label = some next ∧ Visits step next rest state := by
  constructor
  · rintro ⟨before, initial, executed⟩
    cases before with
    | nil => exact Or.inl (Option.some.inj executed).symm
    | cons first before =>
        rcases List.cons_prefix_cons.mp initial with ⟨same, initial⟩
        rw [same, run_cons, Option.bind_eq_some_iff] at executed
        rcases executed with ⟨next, taken, executed⟩
        exact Or.inr ⟨next, taken, before, initial, executed⟩
  · rintro (same | ⟨next, taken, before, initial, executed⟩)
    · exact ⟨[], List.nil_prefix, congrArg some same.symm⟩
    · exact ⟨label :: before, List.cons_prefix_cons.mpr ⟨rfl, initial⟩,
        (run_cons_of_step taken before).trans executed⟩

/-- Where a step from a good state meets the condition exactly if it leads to
a good state, the states of a run are all good exactly if all of its steps
meet the condition. -/
theorem forall_visited_iff {step : S -> L -> Option S} {condition : S -> L -> Prop}
    {invariant good : S -> Prop}
    (preserved : forall state label next, step state label = some next ->
      invariant state -> invariant next)
    (kept : forall state label next, step state label = some next -> invariant state ->
      good state -> (condition state label ↔ good next))
    (disabled : forall state label, step state label = none -> condition state label)
    {start : S} {labels : List L} (initially : invariant start) (fine : good start) :
    (forall state, Visits step start labels state -> good state) ↔
      Along step condition start labels := by
  induction labels generalizing start with
  | nil =>
      constructor
      · exact fun _ => True.intro
      · intro _ state visited
        rw [visits_nil.mp visited]
        exact fine
  | cons label rest inductionHypothesis =>
      constructor
      · intro always
        cases taken : step start label with
        | none =>
            refine ⟨disabled start label taken, ?_⟩
            intro next impossible
            cases taken.symm.trans impossible
        | some next =>
            have goodNext := always next
              (visits_cons.mpr (Or.inr ⟨next, taken, [], List.nil_prefix, rfl⟩))
            refine ⟨(kept start label next taken initially fine).mpr goodNext, ?_⟩
            intro other takenOther
            cases taken.symm.trans takenOther
            exact (inductionHypothesis (preserved start label next taken initially) goodNext).mp
              fun state visited => always state (visits_cons.mpr (Or.inr ⟨next, taken, visited⟩))
      · intro along state visited
        rcases visits_cons.mp visited with same | ⟨next, taken, visited⟩
        · rw [same]
          exact fine
        · have goodNext := (kept start label next taken initially fine).mp along.1
          exact (inductionHypothesis (preserved start label next taken initially) goodNext).mpr
            (along.2 next taken) state visited

/-! ## The last write of a run -/

section LastWrite

variable {V : Type w}

/-- The value is what a step of the run writes, and no later step writes. -/
def Latest (step : S -> L -> Option S) (writes : S -> L -> Option V) (start : S) (labels : List L)
    (value : V) : Prop :=
  Exists fun before => Exists fun label => Exists fun after => Exists fun middle =>
    Exists fun next => labels = before ++ label :: after ∧ run step start before = some middle ∧
      writes middle label = some value ∧ step middle label = some next ∧
        Along step (fun state other => writes state other = none) next after

/-- The value that the last writing step of a run writes. -/
def lastWrite (step : S -> L -> Option S) (writes : S -> L -> Option V) : S -> List L -> Option V
  | _, [] => none
  | state, label :: rest =>
      match step state label with
      | none => none
      | some next => (lastWrite step writes next rest).or (writes state label)

variable {step : S -> L -> Option S} {writes : S -> L -> Option V}

theorem lastWrite_cons_of_step {state next : S} {label : L} (taken : step state label = some next)
    (rest : List L) : lastWrite step writes state (label :: rest) =
      (lastWrite step writes next rest).or (writes state label) := by
  simp only [lastWrite, taken]

theorem lastWrite_eq_none_iff {start state : S} {labels : List L}
    (executed : run step start labels = some state) :
    lastWrite step writes start labels = none ↔
      Along step (fun current label => writes current label = none) start labels := by
  induction labels generalizing start with
  | nil => exact ⟨fun _ => True.intro, fun _ => rfl⟩
  | cons label rest inductionHypothesis =>
      cases taken : step start label with
      | none =>
          rw [run_cons, taken] at executed
          cases executed
      | some next =>
          rw [run_cons_of_step taken] at executed
          rw [lastWrite_cons_of_step taken, Option.or_eq_none_iff, inductionHypothesis executed]
          constructor
          · rintro ⟨along, silent⟩
            refine ⟨silent, fun other same => ?_⟩
            cases taken.symm.trans same
            exact along
          · intro along
            exact ⟨along.2 next taken, along.1⟩

theorem latest_cons_iff {start next : S} {label : L} {rest : List L} {value : V}
    (taken : step start label = some next) :
    Latest step writes start (label :: rest) value ↔ Latest step writes next rest value ∨
      writes start label = some value ∧
        Along step (fun state other => writes state other = none) next rest := by
  constructor
  · rintro ⟨before, written, after, middle, reached, split, executed, wrote, stepped, silent⟩
    cases before with
    | nil =>
        cases Option.some.inj executed
        rcases List.cons.inj split with ⟨rfl, rfl⟩
        cases taken.symm.trans stepped
        exact Or.inr ⟨wrote, silent⟩
    | cons first before =>
        rcases List.cons.inj split with ⟨rfl, rfl⟩
        rw [run_cons_of_step taken] at executed
        exact Or.inl ⟨before, written, after, middle, reached, rfl, executed, wrote, stepped, silent⟩
  · rintro (⟨before, written, after, middle, reached, rfl, executed, wrote, stepped, silent⟩ |
      ⟨wrote, silent⟩)
    · exact ⟨label :: before, written, after, middle, reached, rfl,
        (run_cons_of_step taken before).trans executed, wrote, stepped, silent⟩
    · exact ⟨[], label, rest, start, next, rfl, rfl, wrote, taken, silent⟩

theorem lastWrite_eq_some_iff {start state : S} {labels : List L} {value : V}
    (executed : run step start labels = some state) :
    lastWrite step writes start labels = some value ↔ Latest step writes start labels value := by
  induction labels generalizing start with
  | nil =>
      constructor
      · nofun
      · rintro ⟨before, label, after, _, _, split, _⟩
        exact absurd split.symm (List.append_ne_nil_of_right_ne_nil before (List.cons_ne_nil label after))
  | cons label rest inductionHypothesis =>
      cases taken : step start label with
      | none =>
          rw [run_cons, taken] at executed
          cases executed
      | some next =>
          rw [run_cons_of_step taken] at executed
          rw [lastWrite_cons_of_step taken, Option.or_eq_some_iff, latest_cons_iff taken,
            inductionHypothesis executed, lastWrite_eq_none_iff executed, and_comm (a := _ = some value)]

/-- Where each step leaves in a register what it writes, or else what was
there, the register holds the last write of the run. -/
theorem read_eq_lastWrite {invariant : S -> Prop} {read : S -> V}
    (preserved : forall state label next, step state label = some next ->
      invariant state -> invariant next)
    (stored : forall state label next, step state label = some next -> invariant state ->
      read next = (writes state label).getD (read state))
    {start state : S} {labels : List L} (initially : invariant start)
    (executed : run step start labels = some state) :
    read state = (lastWrite step writes start labels).getD (read start) := by
  induction labels generalizing start with
  | nil =>
      cases executed
      rfl
  | cons label rest inductionHypothesis =>
      cases taken : step start label with
      | none =>
          rw [run_cons, taken] at executed
          cases executed
      | some next =>
          rw [run_cons_of_step taken] at executed
          rw [inductionHypothesis (preserved start label next taken initially) executed,
            stored start label next taken initially, lastWrite_cons_of_step taken]
          cases lastWrite step writes next rest <;> rfl

end LastWrite

/-! ## Restricted systems and progress -/

/-- The system in which only some labels are enabled. -/
def restrict (allowed : L -> Bool) (step : S -> L -> Option S) (state : S) (label : L) : Option S :=
  if allowed label then step state label else none

theorem restrict_eq_some {allowed : L -> Bool} {step : S -> L -> Option S} {state next : S}
    {label : L} : restrict allowed step state label = some next ↔
      allowed label = true ∧ step state label = some next := by
  unfold restrict
  by_cases permitted : allowed label = true
  · rw [if_pos permitted]
    exact ⟨fun taken => ⟨permitted, taken⟩, fun both => both.2⟩
  · rw [if_neg permitted]
    constructor
    · intro impossible
      cases impossible
    · exact fun both => absurd both.1 permitted

/-- Where every state that has not arrived can go on to a smaller one, and the
invariant is kept on the way, some run arrives. -/
theorem exists_arrival {step : S -> L -> Option S} {smaller : S -> S -> Prop}
    (wellFounded : WellFounded smaller) {invariant arrived : S -> Prop}
    (progress : forall state, invariant state -> ¬ arrived state ->
      Exists fun next => Reaches step state next ∧ invariant next ∧ smaller next state)
    {start : S} (initially : invariant start) :
    Exists fun state => Reaches step start state ∧ invariant state ∧ arrived state := by
  induction start using wellFounded.induction with
  | _ start inductionHypothesis =>
      by_cases done : arrived start
      · exact ⟨start, Reaches.refl start, initially, done⟩
      · rcases progress start initially done with ⟨next, reached, held, less⟩
        rcases inductionHypothesis next less held with ⟨state, further, kept, arrival⟩
        exact ⟨state, reached.trans further, kept, arrival⟩

end Transition
end OpenFsd
