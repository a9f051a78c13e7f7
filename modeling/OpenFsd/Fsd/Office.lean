import OpenFsd.Fsd.PostOffice
import OpenFsd.Go.Exact
import OpenFsd.Library.Transition

namespace OpenFsd
namespace Fsd

open Transition

/-!
# The post office under concurrency

The map and the tree have a lock each, and `register`, `updatePosition` and
`release` use them one after the other.  Here every critical section is a step
of its own, and any session may take the next step.  A session runs its
operations in order: it registers once, then updates its position any number
of times, and releases once.

The phase of a session says where it is in this order.  For each phase the
invariant fixes what the map and the tree hold for the session; the steps of
other sessions do not touch either.
-/

variable {F : Type}

/-- Where a session is in its sequence of operations. -/
inductive Phase (F : Type)
  | fresh
  | rejected
  | mapped
  | registered
  | moving (oldBox newBox : Box F)
  | leaving
  | released

/-- No operation of the session is in progress. -/
def Phase.Idle : Phase F -> Prop
  | .fresh => True
  | .rejected => True
  | .registered => True
  | .released => True
  | _ => False

/-- The session has registered, and has not yet been deleted from the map. -/
def Phase.Live : Phase F -> Prop
  | .mapped => True
  | .registered => True
  | .moving _ _ => True
  | .leaving => True
  | _ => False

/-- One critical section, or the stores of `updatePosition` that precede its
own. -/
inductive Section (F : Type)
  | registerMap
  | registerTree
  | storePosition (newCenter : F × F) (newVisRange : F)
  | reindex
  | releaseTree
  | releaseMap

structure Office (F : Type) where
  server : Server F
  phase : SessionId -> Phase F

namespace Office

def start (heap : SessionId -> Client F) : Office F :=
  ⟨⟨heap, ⟨∅, []⟩, []⟩, fun _ => .fresh⟩

/-- The session moves on to a phase, with this server. -/
def advance (id : SessionId) (server : Server F) (phase : Phase F) (office : Office F) : Office F :=
  ⟨server, Function.update office.phase id phase⟩

theorem phase_advance (office : Office F) (id : SessionId) (server : Server F) (phase : Phase F) :
    (office.advance id server phase).phase id = phase := by
  unfold advance
  exact Function.update_self id phase office.phase

theorem phase_advance_other (office : Office F) {id other : SessionId} (server : Server F)
    (phase : Phase F) (different : other ≠ id) :
    (office.advance id server phase).phase other = office.phase other := by
  unfold advance
  exact Function.update_of_ne different phase office.phase

variable [GoFloat F]

/-- A session takes its next step.  The label carries the session. -/
def step (office : Office F) : SessionId × Section F -> Option (Office F)
  | (id, action) =>
      match office.phase id, action with
      | .fresh, .registerMap =>
          match office.server.registerMap id with
          | none => some (office.advance id office.server .rejected)
          | some mapped => some (office.advance id mapped .mapped)
      | .mapped, .registerTree =>
          some (office.advance id (office.server.registerTree id) .registered)
      | .registered, .storePosition newCenter newVisRange =>
          let oldBox := office.server.currentBox id
          let newBox := calculateBoundingBox newCenter newVisRange
          let stored := office.server.storePosition id newCenter newVisRange
          some (office.advance id stored
            (if Box.eq oldBox newBox then .registered else .moving oldBox newBox))
      | .moving oldBox newBox, .reindex =>
          some (office.advance id (office.server.reindex id oldBox newBox) .registered)
      | .registered, .releaseTree =>
          some (office.advance id (office.server.releaseTree id) .leaving)
      | .leaving, .releaseMap =>
          some (office.advance id (office.server.releaseMap id) .released)
      | _, _ => none

end Office

namespace Server

/-- The entries of one client in the tree. -/
def entriesOf (s : Server F) (id : SessionId) : List (Entry F) :=
  s.postOffice.tree.filter fun entry => decide (entry.client = id)

theorem mem_entriesOf {s : Server F} {entry : Entry F} (member : entry ∈ s.postOffice.tree) :
    entry ∈ s.entriesOf entry.client :=
  List.mem_filter.mpr ⟨member, decide_eq_true rfl⟩

theorem entriesOf_treeInsert (s : Server F) (box : Box F) (id : SessionId) :
    (s.treeInsert box id).entriesOf id = ⟨box, id⟩ :: s.entriesOf id :=
  List.filter_cons_of_pos (decide_eq_true rfl)

theorem entriesOf_treeInsert_other (s : Server F) (box : Box F) {id other : SessionId}
    (different : other ≠ id) : (s.treeInsert box id).entriesOf other = s.entriesOf other := by
  apply List.filter_cons_of_neg
  intro same
  exact different (of_decide_eq_true same).symm

variable [GoFloat F]

/-- The entries that `treeDelete` looks for. -/
def deletes (box : Box F) (id : SessionId) (entry : Entry F) : Bool :=
  decide (entry.client = id) && decide (Box.Same box entry.box)

theorem tree_treeDelete (s : Server F) (box : Box F) (id : SessionId) :
    (s.treeDelete box id).postOffice.tree = s.postOffice.tree.eraseP (deletes box id) :=
  rfl

/-- Deleting for a client leaves the entries of the others. -/
theorem entriesOf_treeDelete_other (s : Server F) (box : Box F) {id other : SessionId}
    (different : other ≠ id) : (s.treeDelete box id).entriesOf other = s.entriesOf other := by
  unfold entriesOf
  rw [tree_treeDelete]
  rcases List.exists_or_eq_self_of_eraseP (deletes box id) s.postOffice.tree with
    same | ⟨entry, before, after, _, found, split, erased⟩
  · rw [same]
  · have own : entry.client = id := of_decide_eq_true (Bool.and_eq_true_iff.mp found).1
    have skipped : (entry :: after).filter (fun current => decide (current.client = other)) =
        after.filter fun current => decide (current.client = other) := by
      apply List.filter_cons_of_neg
      rw [own]
      exact fun same => different (of_decide_eq_true same).symm
    rw [erased, split, List.filter_append, List.filter_append, skipped]

/-- Deleting a client's only entry, under a box with the same coordinates,
leaves it without one. -/
theorem entriesOf_treeDelete_only {s : Server F} {box : Box F} {id : SessionId} {entry : Entry F}
    (only : s.entriesOf id = [entry]) (same : Box.Same box entry.box) :
    (s.treeDelete box id).entriesOf id = [] := by
  have member : entry ∈ s.entriesOf id := by
    rw [only]
    exact List.mem_singleton_self entry
  have own : entry.client = id := of_decide_eq_true (List.mem_filter.mp member).2
  have found : deletes box id entry = true :=
    Bool.and_eq_true_iff.mpr ⟨decide_eq_true own, decide_eq_true same⟩
  have erased : (s.treeDelete box id).entriesOf id = (s.entriesOf id).eraseP (deletes box id) := by
    unfold entriesOf
    rw [tree_treeDelete, List.eraseP_filter]
    congr 2
    funext other
    unfold deletes
    cases decide (other.client = id) <;> simp
  rw [erased, only, List.eraseP_cons_of_pos found]

end Server

namespace Office

/-! ## The invariant -/

/-- What the map and the tree hold for a session in this phase. -/
def Holds [GoFloat F] (s : Server F) (id : SessionId) : Phase F -> Prop
  | .mapped => s.Registered id ∧ s.entriesOf id = []
  | .registered => s.Registered id ∧
      Exists fun entry => s.entriesOf id = [entry] ∧ Box.Same entry.box (s.currentBox id)
  | .moving oldBox newBox => s.Registered id ∧ newBox = s.currentBox id ∧
      Exists fun entry => s.entriesOf id = [entry] ∧ Box.Same entry.box oldBox
  | .leaving => s.Registered id ∧ s.entriesOf id = []
  | _ => s.entriesOf id = []

/-- The invariant of the reachable states. -/
structure Consistent [GoFloat F] (office : Office F) : Prop where
  mapped : forall callsign id, office.server.postOffice.clientMap.lookup callsign = some id ->
    (office.server.clients id).callsign = callsign ∧ (office.phase id).Live
  holds : forall id, Holds office.server id (office.phase id)

/-- What a step of one session leaves alone. -/
structure Untouched [GoFloat F] (s next : Server F) (id : SessionId) : Prop where
  callsigns : forall other, (next.clients other).callsign = (s.clients other).callsign
  boxes : forall other, other ≠ id -> next.currentBox other = s.currentBox other
  entries : forall other, other ≠ id -> next.entriesOf other = s.entriesOf other
  lookups : forall callsign other, other ≠ id ->
    (next.postOffice.clientMap.lookup callsign = some other ↔
      s.postOffice.clientMap.lookup callsign = some other)

variable [GoFloat F]

/-- What is held for a session depends on its registration, its entries and
its box. -/
theorem Holds.congr {s next : Server F} {id : SessionId}
    (registered : s.Registered id -> next.Registered id)
    (entries : next.entriesOf id = s.entriesOf id) (box : next.currentBox id = s.currentBox id)
    {phase : Phase F} (before : Holds s id phase) : Holds next id phase := by
  cases phase with
  | fresh => exact entries.trans before
  | rejected => exact entries.trans before
  | released => exact entries.trans before
  | mapped => exact ⟨registered before.1, entries.trans before.2⟩
  | leaving => exact ⟨registered before.1, entries.trans before.2⟩
  | registered =>
      rcases before with ⟨found, entry, only, same⟩
      refine ⟨registered found, entry, entries.trans only, ?_⟩
      rw [box]
      exact same
  | moving oldBox newBox =>
      rcases before with ⟨found, current, entry, only, same⟩
      exact ⟨registered found, current.trans box.symm, entry, entries.trans only, same⟩

/-- The other sessions do not notice. -/
theorem Untouched.holds {s next : Server F} {id other : SessionId} (untouched : Untouched s next id)
    (different : other ≠ id) {phase : Phase F} (before : Holds s other phase) :
    Holds next other phase := by
  refine before.congr ?_ (untouched.entries other different) (untouched.boxes other different)
  intro found
  unfold Server.Registered at found ⊢
  rw [untouched.callsigns other]
  exact (untouched.lookups _ other different).mpr found

/-- A step of one session that leaves the others alone keeps the invariant, if
it establishes what its next phase holds. -/
theorem Consistent.advance {office : Office F} (consistent : Consistent office) {id : SessionId}
    {next : Server F} {phase : Phase F} (untouched : Untouched office.server next id)
    (holds : Holds next id phase)
    (mapped : forall callsign, next.postOffice.clientMap.lookup callsign = some id ->
      (next.clients id).callsign = callsign ∧ phase.Live) :
    Consistent (office.advance id next phase) := by
  constructor
  · intro callsign other found
    by_cases own : other = id
    · subst own
      rw [office.phase_advance]
      exact mapped callsign found
    · have before := consistent.mapped callsign other
        ((untouched.lookups callsign other own).mp found)
      rw [office.phase_advance_other next phase own]
      exact ⟨(untouched.callsigns other).trans before.1, before.2⟩
  · intro other
    by_cases own : other = id
    · subst own
      rw [office.phase_advance]
      exact holds
    · rw [office.phase_advance_other next phase own]
      exact untouched.holds own (consistent.holds other)

/-! ## The steps -/

/-- What a session's step does, by the phase it is taken in. -/
inductive Stepped (office : Office F) (id : SessionId) : Section F -> Office F -> Prop
  | rejected (phase : office.phase id = .fresh) (inUse : office.server.registerMap id = none) :
      Stepped office id .registerMap (office.advance id office.server .rejected)
  | mapped (phase : office.phase id = .fresh) (server : Server F)
      (stored : office.server.registerMap id = some server) :
      Stepped office id .registerMap (office.advance id server .mapped)
  | registered (phase : office.phase id = .mapped) :
      Stepped office id .registerTree
        (office.advance id (office.server.registerTree id) .registered)
  | stored (phase : office.phase id = .registered) (newCenter : F × F) (newVisRange : F) :
      Stepped office id (.storePosition newCenter newVisRange)
        (office.advance id (office.server.storePosition id newCenter newVisRange)
          (if Box.eq (office.server.currentBox id) (calculateBoundingBox newCenter newVisRange) then
            .registered
          else .moving (office.server.currentBox id) (calculateBoundingBox newCenter newVisRange)))
  | reindexed (oldBox newBox : Box F) (phase : office.phase id = .moving oldBox newBox) :
      Stepped office id .reindex
        (office.advance id (office.server.reindex id oldBox newBox) .registered)
  | unindexed (phase : office.phase id = .registered) :
      Stepped office id .releaseTree (office.advance id (office.server.releaseTree id) .leaving)
  | released (phase : office.phase id = .leaving) :
      Stepped office id .releaseMap (office.advance id (office.server.releaseMap id) .released)

theorem stepped_of_step {office next : Office F} {id : SessionId} {action : Section F}
    (taken : step office (id, action) = some next) : Stepped office id action next := by
  unfold step at taken
  dsimp only at taken
  split at taken
  · next phase =>
      cases stored : office.server.registerMap id with
      | none =>
          simp only [stored, Option.some.injEq] at taken
          rw [← taken]
          exact .rejected phase stored
      | some server =>
          simp only [stored, Option.some.injEq] at taken
          rw [← taken]
          exact .mapped phase server stored
  · next phase =>
      rw [← Option.some.inj taken]
      exact .registered phase
  · next newCenter newVisRange phase =>
      rw [← Option.some.inj taken]
      exact .stored phase newCenter newVisRange
  · next oldBox newBox phase =>
      rw [← Option.some.inj taken]
      exact .reindexed oldBox newBox phase
  · next phase =>
      rw [← Option.some.inj taken]
      exact .unindexed phase
  · next phase =>
      rw [← Option.some.inj taken]
      exact .released phase
  · cases taken

theorem untouched_tree {s : Server F} {id : SessionId} {tree : List (Entry F)}
    (entries : forall other, other ≠ id ->
      (tree.filter fun entry => decide (entry.client = other)) = s.entriesOf other) :
    Untouched s { s with postOffice := { s.postOffice with tree := tree } } id where
  callsigns := fun _ => rfl
  boxes := fun _ _ => rfl
  entries := entries
  lookups := fun _ _ _ => Iff.rfl

theorem untouched_treeInsert (s : Server F) (box : Box F) (id : SessionId) :
    Untouched s (s.treeInsert box id) id :=
  untouched_tree fun _ different => s.entriesOf_treeInsert_other box different

theorem untouched_treeDelete (s : Server F) (box : Box F) (id : SessionId) :
    Untouched s (s.treeDelete box id) id :=
  untouched_tree fun _ different => s.entriesOf_treeDelete_other box different

theorem Untouched.trans {s middle next : Server F} {id : SessionId} (left : Untouched s middle id)
    (right : Untouched middle next id) : Untouched s next id where
  callsigns := fun other => (right.callsigns other).trans (left.callsigns other)
  boxes := fun other different => (right.boxes other different).trans (left.boxes other different)
  entries := fun other different =>
    (right.entries other different).trans (left.entries other different)
  lookups := fun callsign other different =>
    (right.lookups callsign other different).trans (left.lookups callsign other different)

theorem untouched_storePosition (s : Server F) (id : SessionId) (newCenter : F × F)
    (newVisRange : F) : Untouched s (s.storePosition id newCenter newVisRange) id where
  callsigns := by
    intro other
    unfold Server.storePosition
    by_cases own : other = id
    · rw [own, Server.modifyClient_same]
    · rw [s.modifyClient_other _ own]
  boxes := by
    intro other different
    unfold Server.storePosition Server.currentBox
    rw [s.modifyClient_other _ different]
  entries := fun _ _ => rfl
  lookups := fun _ _ _ => Iff.rfl

theorem currentBox_storePosition (s : Server F) (id : SessionId) (newCenter : F × F)
    (newVisRange : F) : (s.storePosition id newCenter newVisRange).currentBox id =
      calculateBoundingBox newCenter newVisRange := by
  unfold Server.storePosition Server.currentBox
  rw [Server.modifyClient_same]

/-- A stored registration, and what it leaves alone. -/
theorem untouched_registerMap {s next : Server F} {id : SessionId}
    (stored : s.registerMap id = some next) :
    Untouched s next id ∧ next.Registered id ∧ next.entriesOf id = s.entriesOf id ∧
      forall callsign, next.postOffice.clientMap.lookup callsign = some id ->
        (next.clients id).callsign = callsign ∨
          s.postOffice.clientMap.lookup callsign = some id := by
  unfold Server.registerMap at stored
  cases free : s.postOffice.clientMap.lookup (s.clients id).callsign with
  | some other =>
      simp only [free] at stored
      cases stored
  | none =>
      simp only [free, Option.some.injEq] at stored
      subst stored
      refine ⟨?_, AList.lookup_insert _, rfl, ?_⟩
      · constructor
        · exact fun _ => rfl
        · exact fun _ _ => rfl
        · exact fun _ _ => rfl
        · intro callsign other different
          by_cases own : callsign = (s.clients id).callsign
          · rw [own, AList.lookup_insert, free]
            constructor
            · intro same
              exact absurd (Option.some.inj same).symm different
            · intro impossible
              cases impossible
          · rw [AList.lookup_insert_ne own]
      · intro callsign found
        by_cases own : callsign = (s.clients id).callsign
        · exact Or.inl own.symm
        · rw [AList.lookup_insert_ne own] at found
          exact Or.inr found

/-- Deleting a session's own entry of the map leaves the others alone. -/
theorem untouched_releaseMap {s : Server F} {id : SessionId} (registered : s.Registered id) :
    Untouched s (s.releaseMap id) id where
  callsigns := fun _ => rfl
  boxes := fun _ _ => rfl
  entries := fun _ _ => rfl
  lookups := by
    intro callsign other different
    unfold Server.releaseMap
    by_cases own : callsign = (s.clients id).callsign
    · unfold Server.Registered at registered
      rw [own, AList.lookup_erase, registered]
      constructor
      · intro impossible
        cases impossible
      · intro same
        exact absurd (Option.some.inj same).symm different
    · rw [AList.lookup_erase_ne own]

/-! ## What the invariant says about the map and the tree -/

theorem Holds.registered {s : Server F} {id : SessionId} {phase : Phase F}
    (holds : Holds s id phase) (live : phase.Live) : s.Registered id := by
  cases phase with
  | mapped => exact holds.1
  | registered => exact holds.1
  | moving oldBox newBox => exact holds.1
  | leaving => exact holds.1
  | fresh => cases live
  | rejected => cases live
  | released => cases live

/-- A session with an entry has one entry, and is registered. -/
theorem Holds.only {s : Server F} {id : SessionId} {phase : Phase F} (holds : Holds s id phase)
    (occupied : s.entriesOf id ≠ []) :
    s.Registered id ∧ Exists fun entry => s.entriesOf id = [entry] := by
  cases phase with
  | registered => exact ⟨holds.1, holds.2.imp fun _ found => found.1⟩
  | moving oldBox newBox => exact ⟨holds.1, holds.2.2.imp fun _ found => found.1⟩
  | mapped => exact absurd holds.2 occupied
  | leaving => exact absurd holds.2 occupied
  | fresh => exact absurd holds occupied
  | rejected => exact absurd holds occupied
  | released => exact absurd holds occupied

theorem Consistent.registered {office : Office F} (consistent : Consistent office)
    {id : SessionId} (live : (office.phase id).Live) : office.server.Registered id :=
  (consistent.holds id).registered live

theorem Consistent.live {office : Office F} (consistent : Consistent office) {id : SessionId}
    (registered : office.server.Registered id) : (office.phase id).Live :=
  (consistent.mapped _ id registered).2

/-- Between operations a registered session has its entry, at its box. -/
theorem Consistent.indexed {office : Office F} (consistent : Consistent office) {id : SessionId}
    (idle : (office.phase id).Idle) (registered : office.server.Registered id) :
    Exists fun entry => office.server.entriesOf id = [entry] ∧
      Box.Same entry.box (office.server.currentBox id) := by
  have live := consistent.live registered
  have holds := consistent.holds id
  cases phase : office.phase id with
  | registered =>
      rw [phase] at holds
      exact holds.2
  | fresh => rw [phase] at live; cases live
  | rejected => rw [phase] at live; cases live
  | released => rw [phase] at live; cases live
  | mapped => rw [phase] at idle; cases idle
  | moving oldBox newBox => rw [phase] at idle; cases idle
  | leaving => rw [phase] at idle; cases idle

/-- What one session's step leaves of the map entries of the others. -/
theorem Stepped.lookups {office next : Office F} (consistent : Consistent office)
    {id other : SessionId} {action : Section F} (stepped : Stepped office id action next)
    (different : other ≠ id) (callsign : Bytes) :
    next.server.postOffice.clientMap.lookup callsign = some other ↔
      office.server.postOffice.clientMap.lookup callsign = some other := by
  cases stepped with
  | rejected phase inUse => exact Iff.rfl
  | mapped phase server stored =>
      exact (untouched_registerMap stored).1.lookups callsign other different
  | registered phase => exact Iff.rfl
  | stored phase newCenter newVisRange => exact Iff.rfl
  | reindexed oldBox newBox phase => exact Iff.rfl
  | unindexed phase => exact Iff.rfl
  | released phase =>
      have registered : office.server.Registered id := by
        apply consistent.registered
        rw [phase]
        exact True.intro
      exact (untouched_releaseMap registered).lookups callsign other different

/-- Only its own last section ends the life of a session. -/
theorem Stepped.live {office next : Office F} {id mover : SessionId} {action : Section F}
    (stepped : Stepped office mover action next) (live : (office.phase id).Live)
    (stays : (mover, action) ≠ (id, .releaseMap)) : (next.phase id).Live := by
  by_cases own : id = mover
  · subst own
    cases stepped with
    | rejected phase inUse => rw [phase] at live; cases live
    | mapped phase server stored => rw [office.phase_advance]; exact True.intro
    | registered phase => rw [office.phase_advance]; exact True.intro
    | stored phase newCenter newVisRange =>
        rw [office.phase_advance]
        split <;> exact True.intro
    | reindexed oldBox newBox phase => rw [office.phase_advance]; exact True.intro
    | unindexed phase => rw [office.phase_advance]; exact True.intro
    | released phase => exact absurd rfl stays
  · cases stepped with
    | rejected phase inUse => rw [office.phase_advance_other _ _ own]; exact live
    | mapped phase server stored => rw [office.phase_advance_other _ _ own]; exact live
    | registered phase => rw [office.phase_advance_other _ _ own]; exact live
    | stored phase newCenter newVisRange => rw [office.phase_advance_other _ _ own]; exact live
    | reindexed oldBox newBox phase => rw [office.phase_advance_other _ _ own]; exact live
    | unindexed phase => rw [office.phase_advance_other _ _ own]; exact live
    | released phase => rw [office.phase_advance_other _ _ own]; exact live

/-- A live session stays live along every run in which its own last section
is not executed. -/
theorem live_of_run {office later : Office F} {id : SessionId}
    {labels : List (SessionId × Section F)} (live : (office.phase id).Live)
    (stays : (id, Section.releaseMap) ∉ labels) (executed : run step office labels = some later) :
    (later.phase id).Live := by
  induction labels generalizing office with
  | nil =>
      cases executed
      exact live
  | cons label rest inductionHypothesis =>
      rw [List.mem_cons, not_or] at stays
      rw [run_cons] at executed
      rcases Option.bind_eq_some_iff.mp executed with ⟨next, taken, remaining⟩
      exact inductionHypothesis
        ((stepped_of_step taken).live live fun same => stays.1 same.symm) stays.2 remaining

/-! ## The invariant is kept -/

/-- A step that leaves the map alone keeps what is known about its entries. -/
theorem Consistent.mapped_of_map {office : Office F} (consistent : Consistent office)
    {id : SessionId} {next : Server F} {phase : Phase F} (live : phase.Live)
    (callsign : (next.clients id).callsign = (office.server.clients id).callsign)
    (map : next.postOffice.clientMap = office.server.postOffice.clientMap) (name : Bytes)
    (found : next.postOffice.clientMap.lookup name = some id) :
    (next.clients id).callsign = name ∧ phase.Live := by
  rw [map] at found
  exact ⟨callsign.trans (consistent.mapped name id found).1, live⟩

variable [LawfulGoFloat F]

theorem Consistent.stepped {office next : Office F} (consistent : Consistent office)
    {id : SessionId} {action : Section F} (stepped : Stepped office id action next) :
    Consistent next := by
  have holds := consistent.holds id
  cases stepped with
  | rejected phase inUse =>
      rw [phase] at holds
      refine consistent.advance ⟨fun _ => rfl, fun _ _ => rfl, fun _ _ => rfl,
        fun _ _ _ => Iff.rfl⟩ holds ?_
      intro callsign found
      have live := (consistent.mapped callsign id found).2
      rw [phase] at live
      cases live
  | mapped phase server stored =>
      rw [phase] at holds
      rcases untouched_registerMap stored with ⟨untouched, registered, entries, lookups⟩
      refine consistent.advance untouched ⟨registered, entries.trans holds⟩ ?_
      intro callsign found
      rcases lookups callsign found with own | old
      · exact ⟨own, True.intro⟩
      · have live := (consistent.mapped callsign id old).2
        rw [phase] at live
        cases live
  | registered phase =>
      rw [phase] at holds
      refine consistent.advance (untouched_treeInsert _ _ id) ?_
        (consistent.mapped_of_map True.intro rfl rfl)
      refine ⟨holds.1, ⟨office.server.currentBox id, id⟩, ?_, Box.same_refl _⟩
      exact (office.server.entriesOf_treeInsert _ id).trans (congrArg (List.cons _) holds.2)
  | stored phase newCenter newVisRange =>
      rw [phase] at holds
      rcases holds with ⟨registered, entry, only, same⟩
      have untouched := untouched_storePosition office.server id newCenter newVisRange
      have box := currentBox_storePosition office.server id newCenter newVisRange
      have kept : (office.server.storePosition id newCenter newVisRange).Registered id := by
        unfold Server.Registered at registered ⊢
        rw [untouched.callsigns id]
        exact registered
      by_cases redundant : Box.eq (office.server.currentBox id)
          (calculateBoundingBox newCenter newVisRange) = true
      · rw [if_pos redundant]
        refine consistent.advance untouched ⟨kept, entry, only, ?_⟩
          (consistent.mapped_of_map True.intro (untouched.callsigns id) rfl)
        rw [box]
        exact Box.same_trans same (Box.same_of_eq redundant)
      · rw [if_neg redundant]
        exact consistent.advance untouched ⟨kept, box.symm, entry, only, same⟩
          (consistent.mapped_of_map True.intro (untouched.callsigns id) rfl)
  | reindexed oldBox newBox phase =>
      rw [phase] at holds
      rcases holds with ⟨registered, current, entry, only, same⟩
      have deleted := Server.entriesOf_treeDelete_only only (Box.same_symm same)
      have untouched := (untouched_treeDelete office.server oldBox id).trans
        (untouched_treeInsert _ newBox id)
      refine consistent.advance untouched ⟨registered, ⟨newBox, id⟩, ?_, ?_⟩
        (consistent.mapped_of_map True.intro rfl rfl)
      · exact (Server.entriesOf_treeInsert _ newBox id).trans (congrArg (List.cons _) deleted)
      · show Box.Same newBox _
        rw [current]
        exact Box.same_refl _
  | unindexed phase =>
      rw [phase] at holds
      rcases holds with ⟨registered, entry, only, same⟩
      exact consistent.advance (untouched_treeDelete _ _ id)
        ⟨registered, Server.entriesOf_treeDelete_only only (Box.same_symm same)⟩
        (consistent.mapped_of_map True.intro rfl rfl)
  | released phase =>
      rw [phase] at holds
      refine consistent.advance (untouched_releaseMap holds.1) holds.2 ?_
      intro callsign found
      by_cases own : callsign = (office.server.clients id).callsign
      · rw [own] at found
        cases (AList.lookup_erase _ _).symm.trans found
      · have old := (AList.lookup_erase_ne own).symm.trans found
        exact absurd (consistent.mapped callsign id old).1.symm own

theorem consistent_of_reaches {heap : SessionId -> Client F} {office : Office F}
    (reached : Reaches step (start heap) office) : Consistent office := by
  have initially : Consistent (start heap) := by
    constructor
    · intro callsign id found
      cases found
    · exact fun _ => rfl
  refine invariant_of_reaches ?_ initially reached
  intro current label next taken consistent
  exact consistent.stepped (stepped_of_step taken)

/-- In every state that the sessions reach, in any interleaving: a map entry
leads to a client with its callsign; a registered session stays registered
along every run without its own last section, and no step of another session
touches its entries; a client in the tree is registered, and is there once;
and when no operation is in progress, every registered client has exactly one
entry, at its current box. -/
theorem office_invariant {heap : SessionId -> Client F} {office : Office F}
    (reached : Reaches step (start heap) office) :
    (forall callsign id, office.server.postOffice.clientMap.lookup callsign = some id ->
      (office.server.clients id).callsign = callsign) ∧
    (forall id, (office.phase id).Live -> office.server.Registered id) ∧
    (forall id labels later, office.server.Registered id -> run step office labels = some later ->
      (id, Section.releaseMap) ∉ labels -> later.server.Registered id) ∧
    (forall mover action next, step office (mover, action) = some next ->
      forall callsign other, other ≠ mover ->
        (next.server.postOffice.clientMap.lookup callsign = some other ↔
          office.server.postOffice.clientMap.lookup callsign = some other)) ∧
    (forall entry, entry ∈ office.server.postOffice.tree ->
      office.server.Registered entry.client ∧ office.server.entriesOf entry.client = [entry]) ∧
    ((forall id, (office.phase id).Idle) -> forall id, office.server.Registered id ->
      Exists fun entry => office.server.entriesOf id = [entry] ∧
        Box.Same entry.box (office.server.currentBox id)) := by
  have consistent := consistent_of_reaches reached
  refine ⟨?_, ?_, ?_, ?_, ?_, ?_⟩
  · intro callsign id found
    exact (consistent.mapped callsign id found).1
  · intro id live
    exact consistent.registered live
  · intro id labels later registered executed stays
    have live := live_of_run (consistent.live registered) stays executed
    exact (consistent_of_reaches (reached.trans ⟨labels, executed⟩)).registered live
  · intro mover action next taken callsign other different
    exact (stepped_of_step taken).lookups consistent different callsign
  · intro entry member
    have own := Server.mem_entriesOf member
    have occupied : office.server.entriesOf entry.client ≠ [] := List.ne_nil_of_mem own
    rcases (consistent.holds entry.client).only occupied with ⟨registered, single, only⟩
    refine ⟨registered, ?_⟩
    rw [only] at own ⊢
    rw [List.mem_singleton.mp own]
  · intro idle id registered
    exact consistent.indexed (idle id) registered

/-- Two clients of one callsign. -/
noncomputable def contended : Office Real :=
  start fun _ => newClient [] ⟨[], [], 0, [], 0, 0, 100, 0, 0, false⟩

/-- One of them registers, and the other is refused. -/
theorem exists_contended : Exists fun office => run step contended
    [(0, .registerMap), (0, .registerTree), (1, .registerMap)] = some office :=
  ⟨_, rfl⟩

theorem office_invariant_contended : Exists fun office =>
    run step contended [(0, .registerMap), (0, .registerTree), (1, .registerMap)] = some office ∧
      forall entry, entry ∈ office.server.postOffice.tree ->
        office.server.Registered entry.client ∧ office.server.entriesOf entry.client = [entry] := by
  rcases exists_contended with ⟨office, executed⟩
  exact ⟨office, executed, (office_invariant ⟨_, executed⟩).2.2.2.2.1⟩

end Office
end Fsd
end OpenFsd
