import OpenFsd.Library.Transition

namespace OpenFsd
namespace Transition

/-!
# What a run has done

A step of a run is known by the state before it and its label.  `Performed`
holds of the steps that a run has taken, so that a state can be said to owe
something to its past without a record of the past in the state.

`accounted_of_run` is the rule for such statements.  The past is a predicate on
steps that the invariant takes as an argument, and each step adds itself.  The
rules at the end are for statements about what the steps of a run do, and about
states that show the last write of their run.
-/

universe u v w u'

variable {S : Type u} {L : Type v} {step : S -> L -> Option S}

/-- The run takes a step with this label, from this state. -/
def Performed (step : S -> L -> Option S) (start : S) (labels : List L) (state : S) (label : L) :
    Prop :=
  Exists fun before => before ++ [label] <+: labels ∧ run step start before = some state

theorem not_performed_nil {start state : S} {label : L} : ¬ Performed step start [] state label := by
  rintro ⟨before, initial, _⟩
  exact List.append_ne_nil_of_right_ne_nil before (List.cons_ne_nil label [])
    (List.prefix_nil.mp initial)

theorem performed_cons {start state : S} {first label : L} {rest : List L} :
    Performed step start (first :: rest) state label ↔ (state = start ∧ label = first) ∨
      Exists fun next => step start first = some next ∧ Performed step next rest state label := by
  constructor
  · rintro ⟨before, initial, executed⟩
    cases before with
    | nil =>
        rcases List.cons_prefix_cons.mp initial with ⟨same, _⟩
        exact Or.inl ⟨(Option.some.inj executed).symm, same⟩
    | cons head before =>
        rcases List.cons_prefix_cons.mp initial with ⟨same, initial⟩
        rw [same, run_cons, Option.bind_eq_some_iff] at executed
        rcases executed with ⟨next, taken, executed⟩
        exact Or.inr ⟨next, taken, before, initial, executed⟩
  · rintro (⟨sameState, sameLabel⟩ | ⟨next, taken, before, initial, executed⟩)
    · rw [sameState, sameLabel]
      exact ⟨[], List.cons_prefix_cons.mpr ⟨rfl, List.nil_prefix⟩, rfl⟩
    · exact ⟨first :: before, List.cons_prefix_cons.mpr ⟨rfl, initial⟩,
        (run_cons_of_step taken before).trans executed⟩

/-- A step of a run in two parts is a step of one of them. -/
theorem performed_append {start state : S} {label : L} {first second : List L} :
    Performed step start (first ++ second) state label ↔ Performed step start first state label ∨
      Exists fun middle => run step start first = some middle ∧
        Performed step middle second state label := by
  induction first generalizing start with
  | nil =>
      constructor
      · exact fun performed => Or.inr ⟨start, rfl, performed⟩
      · rintro (impossible | ⟨middle, same, performed⟩)
        · exact absurd impossible not_performed_nil
        · cases same
          exact performed
  | cons head rest inductionHypothesis =>
      rw [List.cons_append, performed_cons, performed_cons, run_cons]
      constructor
      · rintro (here | ⟨next, taken, performed⟩)
        · exact Or.inl (Or.inl here)
        · rcases inductionHypothesis.mp performed with earlier | ⟨middle, executed, later⟩
          · exact Or.inl (Or.inr ⟨next, taken, earlier⟩)
          · exact Or.inr ⟨middle, by rw [taken]; exact executed, later⟩
      · rintro ((here | ⟨next, taken, earlier⟩) | ⟨middle, executed, later⟩)
        · exact Or.inl here
        · exact Or.inr ⟨next, taken, inductionHypothesis.mpr (Or.inl earlier)⟩
        · rcases Option.bind_eq_some_iff.mp executed with ⟨next, taken, executed⟩
          exact Or.inr ⟨next, taken, inductionHypothesis.mpr (Or.inr ⟨middle, executed, later⟩)⟩

/-- What holds along a run holds along each start of it. -/
theorem along_of_append {condition : S -> L -> Prop} {start : S} {first second : List L}
    (along : Along step condition start (first ++ second)) : Along step condition start first := by
  induction first generalizing start with
  | nil => exact True.intro
  | cons label rest inductionHypothesis =>
      exact ⟨along.1, fun next taken => inductionHypothesis (along.2 next taken)⟩

theorem Performed.mem {start state : S} {labels : List L} {label : L}
    (performed : Performed step start labels state label) : label ∈ labels := by
  rcases performed with ⟨before, initial, _⟩
  exact initial.subset (List.mem_append_right before List.mem_cons_self)

theorem Performed.visits {start state : S} {labels : List L} {label : L}
    (performed : Performed step start labels state label) : Visits step start labels state := by
  rcases performed with ⟨before, initial, executed⟩
  exact ⟨before, (List.prefix_append before [label]).trans initial, executed⟩

/-- The past with one more step. -/
def Extend (past : S -> L -> Prop) (state : S) (label : L) (earlier : S) (done : L) : Prop :=
  past earlier done ∨ (earlier = state ∧ done = label)

/-- What every step keeps accounted for by the past, including itself, is
accounted for by the run. -/
theorem accounted_of_run {condition : S -> L -> Prop} {accounts : (S -> L -> Prop) -> S -> Prop}
    (preserved : forall past state label next, step state label = some next ->
      condition state label -> accounts past state -> accounts (Extend past state label) next)
    {start state : S} {labels : List L} (initially : accounts (fun _ _ => False) start)
    (along : Along step condition start labels) (executed : run step start labels = some state) :
    accounts (Performed step start labels) state := by
  have general : forall past, accounts past start ->
      accounts (fun earlier done => past earlier done ∨ Performed step start labels earlier done)
        state := by
    clear initially
    induction labels generalizing start with
    | nil =>
        intro past held
        have same : (fun earlier done => past earlier done ∨ Performed step start [] earlier done) =
            past := by
          funext earlier done
          simp only [not_performed_nil, or_false]
        rw [same, ← Option.some.inj executed]
        exact held
    | cons label rest inductionHypothesis =>
        intro past held
        cases taken : step start label with
        | none =>
            rw [run_cons, taken] at executed
            cases executed
        | some next =>
            rw [run_cons_of_step taken] at executed
            have later := inductionHypothesis (along.2 next taken) executed _
              (preserved past start label next taken along.1 held)
            have same : (fun earlier done => Extend past start label earlier done ∨
                Performed step next rest earlier done) =
                fun earlier done => past earlier done ∨
                  Performed step start (label :: rest) earlier done := by
              funext earlier done
              have split : Performed step start (label :: rest) earlier done ↔
                  (earlier = start ∧ done = label) ∨ Performed step next rest earlier done := by
                rw [performed_cons, taken]
                simp only [Option.some.injEq, exists_eq_left']
              rw [split, Extend, or_assoc]
            rw [← same]
            exact later
  have whole := general _ initially
  simpa only [false_or] using whole

theorem reaches_of_restrict {allowed : L -> Bool} {start state : S}
    (reached : Reaches (restrict allowed step) start state) : Reaches step start state := by
  apply invariant_of_reaches _ (Reaches.refl start) reached
  intro middle label next taken earlier
  exact earlier.tail (restrict_eq_some.mp taken).2

/-- Where each step is mirrored by a run, as long as the states are related, every
reachable state is related to a reachable one. -/
theorem reaches_mirrored {T : Type w} {M : Type u'} {other : T -> M -> Option T}
    {related : S -> T -> Prop}
    (mirrored : forall state label next mirror, step state label = some next ->
      related state mirror -> Exists fun reflected => Reaches other mirror reflected ∧
        related next reflected)
    {start state : S} {mirror : T} (initially : related start mirror)
    (reached : Reaches step start state) :
    Exists fun reflected => Reaches other mirror reflected ∧ related state reflected := by
  rcases reached with ⟨labels, executed⟩
  induction labels generalizing start mirror with
  | nil =>
      cases executed
      exact ⟨mirror, Reaches.refl mirror, initially⟩
  | cons label rest inductionHypothesis =>
      cases taken : step start label with
      | none =>
          rw [run_cons, taken] at executed
          cases executed
      | some next =>
          rw [run_cons_of_step taken] at executed
          rcases mirrored start label next mirror taken initially with ⟨reflected, earlier, kept⟩
          rcases inductionHypothesis kept executed with ⟨further, later, same⟩
          exact ⟨further, earlier.trans later, same⟩

/-- Where a step that writes leads to a state that shows the value, and every other
step leads on to a state that shows what was shown before, the end of a run shows
its last write. -/
theorem shows_lastWrite {V : Type w} {writes : S -> L -> Option V} {condition : S -> L -> Prop}
    {invariant : S -> Prop} {shows : Option V -> S -> Prop}
    (preserved : forall state label next, step state label = some next -> condition state label ->
      invariant state -> invariant next)
    (wrote : forall state label next value, step state label = some next ->
      condition state label -> invariant state -> writes state label = some value ->
        shows (some value) next)
    (kept : forall state label next held, step state label = some next ->
      condition state label -> invariant state -> writes state label = none ->
        shows held state -> shows held next)
    {start state : S} {labels : List L} (initially : invariant start)
    (along : Along step condition start labels) (executed : run step start labels = some state)
    {held : Option V} (shown : shows held start) :
    shows ((lastWrite step writes start labels).or held) state := by
  induction labels generalizing start held with
  | nil =>
      cases executed
      exact shown
  | cons label rest inductionHypothesis =>
      cases taken : step start label with
      | none =>
          rw [run_cons, taken] at executed
          cases executed
      | some next =>
          rw [run_cons_of_step taken] at executed
          have invariantNext := preserved start label next taken along.1 initially
          have shownNext : shows ((writes start label).or held) next := by
            cases written : writes start label with
            | none => exact kept start label next held taken along.1 initially written shown
            | some value => exact wrote start label next value taken along.1 initially written
          rw [lastWrite_cons_of_step taken, Option.or_assoc]
          exact inductionHypothesis invariantNext (along.2 next taken) executed shownNext

/-! ## Records that only grow -/

/-- What the steps of a run give, in order. -/
def collected {V : Type w} (step : S -> L -> Option S) (gives : S -> L -> List V) :
    S -> List L -> List V
  | _, [] => []
  | state, label :: rest => gives state label ++
      match step state label with
      | none => []
      | some next => collected step gives next rest

theorem collected_cons_of_step {V : Type w} {gives : S -> L -> List V} {state next : S} {label : L}
    (taken : step state label = some next) (rest : List L) :
    collected step gives state (label :: rest) =
      gives state label ++ collected step gives next rest := by
  rw [collected, taken]

/-- Where each step under the condition appends what it gives to a record, the
record of a run has grown by what its steps gave, in order. -/
theorem record_of_run {V : Type w} {gives : S -> L -> List V} {condition : S -> L -> Prop}
    {invariant : S -> Prop} {record : S -> List V}
    (preserved : forall state label next, step state label = some next -> condition state label ->
      invariant state -> invariant next)
    (appended : forall state label next, step state label = some next -> condition state label ->
      invariant state -> record next = record state ++ gives state label)
    {start state : S} {labels : List L} (initially : invariant start)
    (along : Along step condition start labels) (executed : run step start labels = some state) :
    record state = record start ++ collected step gives start labels := by
  induction labels generalizing start with
  | nil =>
      cases executed
      exact (List.append_nil _).symm
  | cons label rest inductionHypothesis =>
      cases taken : step start label with
      | none =>
          rw [run_cons, taken] at executed
          cases executed
      | some next =>
          rw [run_cons_of_step taken] at executed
          have later := inductionHypothesis
            (preserved start label next taken along.1 initially) (along.2 next taken) executed
          rw [later, appended start label next taken along.1 initially,
            collected_cons_of_step taken, List.append_assoc]

end Transition
end OpenFsd
