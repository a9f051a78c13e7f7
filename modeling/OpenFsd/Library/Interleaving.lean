import OpenFsd.Library.Transition

namespace OpenFsd
namespace Interleaving

/-!
# Programs that share a store

A program is a finite tree of calls: it is done, or it makes a call and goes on
with the answer.  A call is atomic, and any number of programs may be under
way, so a run is an interleaving of their calls.  The pool keeps a journal of
all calls with their answers.

Two facts reduce a statement about all runs to one about a program and one
about a sequence of calls.  The journal explains the store: replayed from the
beginning, its calls have these answers and lead to this store.  And the calls
of one task in the journal are a path through its program.  So what a program
does on each of its paths (`Follows`), a task does in each run.
-/

variable {Call : Type} {Answer : Call -> Type} {A B S R M : Type}

inductive Prog (Answer : Call -> Type) (A : Type)
  | done (result : A)
  | call (request : Call) (next : Answer request -> Prog Answer A)

namespace Prog

def bind : Prog Answer A -> (A -> Prog Answer B) -> Prog Answer B
  | .done result, next => next result
  | .call request later, next => .call request fun answer => (later answer).bind next

@[simp] theorem bind_done (result : A) (next : A -> Prog Answer B) :
    (Prog.done result : Prog Answer A).bind next = next result :=
  rfl

@[simp] theorem bind_call (request : Call) (later : Answer request -> Prog Answer A)
    (next : A -> Prog Answer B) :
    (Prog.call request later).bind next = .call request fun answer => (later answer).bind next :=
  rfl

/-- Execute a program without interruption. -/
def atomically (exec : S -> (request : Call) -> Answer request × S) : Prog Answer A -> S -> A × S
  | .done result, store => (result, store)
  | .call request next, store =>
      (next (exec store request).1).atomically exec (exec store request).2

theorem atomically_bind (exec : S -> (request : Call) -> Answer request × S)
    (program : Prog Answer A) (next : A -> Prog Answer B) (store : S) :
    (program.bind next).atomically exec store =
      (next (program.atomically exec store).1).atomically exec
        (program.atomically exec store).2 := by
  induction program generalizing store with
  | done result => rfl
  | call request later inductionHypothesis => exact inductionHypothesis _ _

end Prog

/-- A call that a task has made, with its answer. -/
structure Entry (Answer : Call -> Type) where
  task : Nat
  request : Call
  answer : Answer request

/-- A program under way, with what it was made from. -/
structure Task (R : Type) (Answer : Call -> Type) (A : Type) where
  origin : R
  rest : Prog Answer A

structure Pool (S R : Type) (Answer : Call -> Type) (A : Type) where
  store : S
  tasks : List (Task R Answer A)
  journal : List (Entry Answer)

inductive Label (R : Type)
  | begin (origin : R)
  | advance (index : Nat)

namespace Pool

/-- Nothing is under way. -/
def start (store : S) : Pool S R Answer A :=
  ⟨store, [], []⟩

/-- The transition function: a task begins, or a task makes its next call. -/
def step (exec : S -> (request : Call) -> Answer request × S) (program : R -> Prog Answer A)
    (pool : Pool S R Answer A) : Label R -> Option (Pool S R Answer A)
  | .begin origin => some { pool with tasks := pool.tasks ++ [⟨origin, program origin⟩] }
  | .advance index =>
      match pool.tasks[index]? with
      | none => none
      | some task =>
          match task.rest with
          | .done _ => none
          | .call request next => some {
              store := (exec pool.store request).2
              tasks := pool.tasks.set index { task with rest := next (exec pool.store request).1 }
              journal := pool.journal ++ [⟨index, request, (exec pool.store request).1⟩] }

end Pool

/-- The store after the calls of a journal. -/
def replay (exec : S -> (request : Call) -> Answer request × S) (store : S) :
    List (Entry Answer) -> S
  | [] => store
  | entry :: rest => replay exec (exec store entry.request).2 rest

/-- The calls of one task. -/
def callsOf (index : Nat) (journal : List (Entry Answer)) : List (Entry Answer) :=
  journal.filter fun entry => decide (entry.task = index)

/-- The calls lead from the program to what is left of it. -/
inductive Path : Prog Answer A -> List (Entry Answer) -> Prog Answer A -> Prop
  | stay (program : Prog Answer A) : Path program [] program
  | call {request : Call} {next : Answer request -> Prog Answer A} {index : Nat}
      {answer : Answer request} {entries : List (Entry Answer)} {rest : Prog Answer A}
      (later : Path (next answer) entries rest) :
      Path (.call request next) (⟨index, request, answer⟩ :: entries) rest

/-! ## What the journal explains -/

section Replay

variable {exec : S -> (request : Call) -> Answer request × S}

theorem replay_append (store : S) (first second : List (Entry Answer)) :
    replay exec store (first ++ second) = replay exec (replay exec store first) second := by
  induction first generalizing store with
  | nil => rfl
  | cons entry rest inductionHypothesis => exact inductionHypothesis _

/-- Every entry before the last one is where it was. -/
theorem getElem?_concat_cases {X : Type} {items : List X} {last item : X} {index : Nat}
    (found : (items ++ [last])[index]? = some item) :
    (index < items.length ∧ items[index]? = some item) ∨ (index = items.length ∧ item = last) := by
  rcases Nat.lt_trichotomy index items.length with before | here | after
  · rw [List.getElem?_append_left before] at found
    exact Or.inl ⟨before, found⟩
  · rw [here, List.getElem?_concat_length] at found
    exact Or.inr ⟨here, (Option.some.inj found).symm⟩
  · rw [List.getElem?_eq_none (by rw [List.length_append]; exact after)] at found
    cases found

/-- The store is that of the journal, and so is every answer in it. -/
structure Explained (exec : S -> (request : Call) -> Answer request × S) (store : S)
    (pool : Pool S R Answer A) : Prop where
  stored : pool.store = replay exec store pool.journal
  answers : forall index entry, pool.journal[index]? = some entry ->
    entry.answer = (exec (replay exec store (pool.journal.take index)) entry.request).1

/-- The calls of every task are a path through its program. -/
structure Traced (program : R -> Prog Answer A) (pool : Pool S R Answer A) : Prop where
  begun : forall entry, entry ∈ pool.journal -> entry.task < pool.tasks.length
  path : forall index task, pool.tasks[index]? = some task ->
    Path (program task.origin) (callsOf index pool.journal) task.rest

variable {program : R -> Prog Answer A} {pool next : Pool S R Answer A} {label : Label R}

/-- Every outcome of a step. -/
inductive Stepped (exec : S -> (request : Call) -> Answer request × S)
    (program : R -> Prog Answer A) (pool : Pool S R Answer A) :
    Label R -> Pool S R Answer A -> Prop
  | begun (origin : R) :
      Stepped exec program pool (.begin origin)
        { pool with tasks := pool.tasks ++ [⟨origin, program origin⟩] }
  | advanced (index : Nat) (origin : R) (request : Call) (later : Answer request -> Prog Answer A)
      (current : pool.tasks[index]? = some ⟨origin, .call request later⟩) :
      Stepped exec program pool (.advance index)
        { store := (exec pool.store request).2
          tasks := pool.tasks.set index ⟨origin, later (exec pool.store request).1⟩
          journal := pool.journal ++ [⟨index, request, (exec pool.store request).1⟩] }

theorem stepped_of_step (taken : Pool.step exec program pool label = some next) :
    Stepped exec program pool label next := by
  cases label with
  | begin origin =>
      rw [← Option.some.inj taken]
      exact .begun origin
  | advance index =>
      rw [Pool.step] at taken
      split at taken
      · cases taken
      · next task current =>
          rcases task with ⟨origin, rest⟩
          cases rest with
          | done result => cases taken
          | call request later =>
              rw [← Option.some.inj taken]
              exact .advanced index origin request later current

theorem Explained.step {store : S} (explained : Explained exec store pool)
    (taken : Pool.step exec program pool label = some next) : Explained exec store next := by
  cases stepped_of_step taken with
  | begun origin => exact ⟨explained.stored, explained.answers⟩
  | advanced index origin request later current =>
      constructor
      · rw [replay_append, ← explained.stored]
        rfl
      · intro position entry found
        rcases getElem?_concat_cases found with ⟨before, old⟩ | ⟨here, last⟩
        · rw [List.take_append_of_le_length (Nat.le_of_lt before)]
          exact explained.answers position entry old
        · rw [here, List.take_left, ← explained.stored, last]

theorem explained_of_reaches {store : S}
    (reached : Transition.Reaches (Pool.step exec program) (Pool.start store) pool) :
    Explained exec store pool := by
  refine Transition.invariant_of_reaches
    (fun _ _ _ taken (held : Explained exec store _) => held.step taken) ⟨rfl, ?_⟩ reached
  intro index entry impossible
  cases impossible

/-! ## Paths -/

theorem Path.concat {origin : Prog Answer A} {entries : List (Entry Answer)} {request : Call}
    {later : Answer request -> Prog Answer A} (path : Path origin entries (.call request later))
    (index : Nat) (answer : Answer request) :
    Path origin (entries ++ [⟨index, request, answer⟩]) (later answer) := by
  generalize same : Prog.call request later = rest at path
  induction path with
  | stay =>
      subst same
      exact .call (.stay _)
  | call _ inductionHypothesis => exact .call (inductionHypothesis same)

theorem callsOf_eq_nil {index : Nat} {journal : List (Entry Answer)}
    (others : forall entry, entry ∈ journal -> entry.task ≠ index) :
    callsOf index journal = [] := by
  apply List.filter_eq_nil_iff.mpr
  intro entry member own
  exact others entry member (of_decide_eq_true own)

theorem callsOf_concat_self (index : Nat) (journal : List (Entry Answer)) (request : Call)
    (answer : Answer request) :
    callsOf index (journal ++ [⟨index, request, answer⟩]) =
      callsOf index journal ++ [⟨index, request, answer⟩] := by
  simp [callsOf]

theorem callsOf_concat_other {index : Nat} (journal : List (Entry Answer)) {entry : Entry Answer}
    (different : entry.task ≠ index) :
    callsOf index (journal ++ [entry]) = callsOf index journal := by
  simp [callsOf, different]

theorem Traced.step (traced : Traced program pool)
    (taken : Pool.step exec program pool label = some next) : Traced program next := by
  cases stepped_of_step taken with
  | begun origin =>
      constructor
      · intro entry member
        have below := traced.begun entry member
        rw [List.length_append]
        exact Nat.lt_add_right 1 below
      · intro index task found
        rcases getElem?_concat_cases found with ⟨_, old⟩ | ⟨here, last⟩
        · exact traced.path index task old
        · have silent : callsOf index pool.journal = [] := by
            apply callsOf_eq_nil
            intro entry member own
            have below := traced.begun entry member
            omega
          show Path (program task.origin) (callsOf index pool.journal) task.rest
          rw [silent, last]
          exact .stay _
  | advanced advancing origin request later current =>
      have below := (List.getElem?_eq_some_iff.mp current).1
      constructor
      · intro entry member
        rw [List.length_set]
        rcases List.mem_append.mp member with old | last
        · exact traced.begun entry old
        · rw [List.mem_singleton.mp last]
          exact below
      · intro index task found
        by_cases own : advancing = index
        · subst own
          rw [List.getElem?_set_self below] at found
          rw [← Option.some.inj found, callsOf_concat_self]
          exact (traced.path advancing _ current).concat advancing _
        · rw [List.getElem?_set_ne own] at found
          rw [callsOf_concat_other pool.journal own]
          exact traced.path index task found

theorem traced_of_reaches {store : S}
    (reached : Transition.Reaches (Pool.step exec program) (Pool.start store) pool) :
    Traced program pool := by
  refine Transition.invariant_of_reaches
    (fun _ _ _ taken (held : Traced program _) => held.step taken) ⟨?_, ?_⟩ reached
  · intro entry impossible
    cases impossible
  · intro index task impossible
    cases impossible

end Replay

/-! ## What a program does on every path -/

/-- A record of the calls that a program has made so far: which calls are legal
with it, and how it goes on with an answer. -/
structure Monitor (Answer : Call -> Type) (M : Type) where
  legal : M -> Call -> Prop
  update : M -> (request : Call) -> Answer request -> M

namespace Monitor

/-- The record after some calls. -/
def after (monitor : Monitor Answer M) (record : M) : List (Entry Answer) -> M
  | [] => record
  | entry :: rest => monitor.after (monitor.update record entry.request entry.answer) rest

/-- Whatever the answers, the program makes legal calls, and ends with a result
that fits the record. -/
def Follows (monitor : Monitor Answer M) (ends : M -> A -> Prop) : M -> Prog Answer A -> Prop
  | record, .done result => ends record result
  | record, .call request next =>
      monitor.legal record request ∧
        forall answer, monitor.Follows ends (monitor.update record request answer) (next answer)

variable {monitor : Monitor Answer M} {ends : M -> A -> Prop}

theorem after_append (record : M) (first second : List (Entry Answer)) :
    monitor.after record (first ++ second) = monitor.after (monitor.after record first) second := by
  induction first generalizing record with
  | nil => rfl
  | cons entry rest inductionHypothesis => exact inductionHypothesis _

/-- The rule of sequence. -/
theorem Follows.bind {concluded : M -> B -> Prop} {record : M} {program : Prog Answer A}
    {next : A -> Prog Answer B} (first : monitor.Follows ends record program)
    (second : forall record result, ends record result ->
      monitor.Follows concluded record (next result)) :
    monitor.Follows concluded record (program.bind next) := by
  induction program generalizing record with
  | done result => exact second record result first
  | call request later inductionHypothesis =>
      exact ⟨first.1, fun answer => inductionHypothesis answer (first.2 answer)⟩

/-- The rule of consequence. -/
theorem Follows.mono {weaker : M -> A -> Prop} {record : M} {program : Prog Answer A}
    (follows : monitor.Follows ends record program)
    (implies : forall record result, ends record result -> weaker record result) :
    monitor.Follows weaker record program := by
  induction program generalizing record with
  | done result => exact implies record result follows
  | call request later inductionHypothesis =>
      exact ⟨follows.1, fun answer => inductionHypothesis answer (follows.2 answer)⟩

/-- What is left of the program follows the record of the calls so far. -/
theorem Follows.path {record : M} {origin rest : Prog Answer A} {entries : List (Entry Answer)}
    (follows : monitor.Follows ends record origin) (path : Path origin entries rest) :
    monitor.Follows ends (monitor.after record entries) rest := by
  induction path generalizing record with
  | stay => exact follows
  | call _ inductionHypothesis => exact inductionHypothesis (follows.2 _)

/-- Every call on the path was legal. -/
theorem Follows.legal {record : M} {origin rest : Prog Answer A}
    {before later : List (Entry Answer)} {entry : Entry Answer}
    (follows : monitor.Follows ends record origin)
    (path : Path origin (before ++ entry :: later) rest) :
    monitor.legal (monitor.after record before) entry.request := by
  induction before generalizing record origin with
  | nil =>
      cases path with
      | call further => exact follows.1
  | cons first before inductionHypothesis =>
      cases path with
      | call further => exact inductionHypothesis (follows.2 _) further

section Tasks

variable {exec : S -> (request : Call) -> Answer request × S} {program : R -> Prog Answer A}
  {store : S} {pool : Pool S R Answer A}

/-- Every entry of the journal is one of a task. -/
theorem exists_task_of_entry
    (reached : Transition.Reaches (Pool.step exec program) (Pool.start store) pool)
    {entry : Entry Answer} (member : entry ∈ pool.journal) :
    Exists fun task => pool.tasks[entry.task]? = some task :=
  ⟨_, List.getElem?_eq_getElem ((traced_of_reaches reached).begun entry member)⟩

/-- A task whose program follows the monitor has made only legal calls. -/
theorem legal_of_reaches
    (reached : Transition.Reaches (Pool.step exec program) (Pool.start store) pool) {record : M}
    {position : Nat} {entry : Entry Answer} {task : Task R Answer A}
    (made : pool.journal[position]? = some entry) (current : pool.tasks[entry.task]? = some task)
    (follows : monitor.Follows ends record (program task.origin)) :
    monitor.legal (monitor.after record (callsOf entry.task (pool.journal.take position)))
      entry.request := by
  have path := (traced_of_reaches reached).path entry.task task current
  have split : callsOf entry.task pool.journal =
      callsOf entry.task (pool.journal.take position) ++
        entry :: callsOf entry.task (pool.journal.drop (position + 1)) := by
    rcases List.getElem?_eq_some_iff.mp made with ⟨below, here⟩
    have cut : pool.journal =
        pool.journal.take position ++ entry :: pool.journal.drop (position + 1) := by
      rw [← here, List.getElem_cons_drop, List.take_append_drop]
    conv => lhs; rw [cut]
    simp [callsOf]
  rw [split] at path
  exact follows.legal path

/-- A task that is done has a result that fits the record of its calls. -/
theorem ends_of_reaches
    (reached : Transition.Reaches (Pool.step exec program) (Pool.start store) pool) {record : M}
    {index : Nat} {origin : R} {result : A}
    (follows : monitor.Follows ends record (program origin))
    (found : pool.tasks[index]? = some ⟨origin, .done result⟩) :
    ends (monitor.after record (callsOf index pool.journal)) result :=
  follows.path ((traced_of_reaches reached).path index _ found)

end Tasks

end Monitor
end Interleaving
end OpenFsd
