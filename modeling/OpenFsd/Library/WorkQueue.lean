import OpenFsd.Library.History
import Mathlib.Data.Fintype.Basic
import Mathlib.Data.Finset.Card

namespace OpenFsd

/-!
# A bounded queue with workers

Requests are put into a queue of limited capacity.  Each of a number of workers
takes the oldest request, keeps it in its hands until it is finished, and takes
another one.  Requests are known by the order in which they were put, and the
queue has those that have not been taken yet.

`Exact` is the invariant: every request that was taken is in the hands of one
worker or was finished once, and not both.  Some requests may be stuck, and are
never finished.  `servable_iff` says exactly which of the others can be: those
that have fewer stuck requests before them than there are workers.
-/

universe u

structure WorkQueue (R : Type u) (workers : Nat) where
  /-- The requests that have been put, in their order. -/
  accepted : List R
  /-- How many of them have been taken. -/
  taken : Nat
  hands : Fin workers -> Option Nat
  finished : List Nat

namespace WorkQueue

inductive Label (R : Type u) (workers : Nat)
  | put (request : R)
  | take (worker : Fin workers)
  | finish (worker : Fin workers)

variable {R : Type u} {workers : Nat}

def start : WorkQueue R workers :=
  ⟨[], 0, fun _ => none, []⟩

/-- Whether the request with this number is one of those that are stuck. -/
def stuckAt (stuck : R -> Bool) (accepted : List R) (index : Nat) : Bool :=
  (accepted[index]?.map stuck).getD false

def step (capacity : Nat) (stuck : R -> Bool) (queue : WorkQueue R workers) :
    Label R workers -> Option (WorkQueue R workers)
  | .put request =>
      if queue.accepted.length < queue.taken + capacity then
        some { queue with accepted := queue.accepted ++ [request] }
      else none
  | .take worker =>
      if queue.hands worker = none ∧ queue.taken < queue.accepted.length then
        some { queue with
          hands := Function.update queue.hands worker (some queue.taken)
          taken := queue.taken + 1 }
      else none
  | .finish worker =>
      match queue.hands worker with
      | none => none
      | some index =>
          if stuckAt stuck queue.accepted index then none
          else some { queue with
            hands := Function.update queue.hands worker none
            finished := queue.finished ++ [index] }

/-- The steps of the workers. -/
def Label.serves : Label R workers -> Bool
  | .put _ => false
  | .take _ => true
  | .finish _ => true

/-- The numbers of the requests in some worker's hands. -/
def held (hands : Fin workers -> Option Nat) : List Nat :=
  (List.finRange workers).filterMap hands

/-- Every request that was taken is in somebody's hands or finished, and just once. -/
structure Exact (capacity : Nat) (queue : WorkQueue R workers) : Prop where
  once : (queue.finished ++ held queue.hands).Perm (List.range queue.taken)
  bounded : queue.taken ≤ queue.accepted.length
  room : queue.accepted.length ≤ queue.taken + capacity

/-- The stuck requests before this one that are not finished. -/
def stuckAhead (stuck : R -> Bool) (queue : WorkQueue R workers) (index : Nat) : Finset Nat :=
  (Finset.range index).filter fun earlier =>
    stuckAt stuck queue.accepted earlier = true ∧ earlier ∉ queue.finished

/-! ## Hands -/

/-- One more pair of hands is full. -/
theorem filterMap_update_perm {A B : Type} [DecidableEq A] {items : List A} (nodup : items.Nodup)
    {item : A} (member : item ∈ items) {hands : A -> Option B} (free : hands item = none)
    (index : B) :
    (items.filterMap (Function.update hands item (some index))).Perm
      (index :: items.filterMap hands) := by
  induction items with
  | nil => cases member
  | cons head rest inductionHypothesis =>
      rcases List.nodup_cons.mp nodup with ⟨fresh, others⟩
      by_cases here : head = item
      · have kept : rest.filterMap (Function.update hands item (some index)) =
            rest.filterMap hands := by
          apply List.filterMap_congr
          intro other inside
          apply Function.update_of_ne
          intro same
          rw [here, ← same] at fresh
          exact fresh inside
        rw [here, List.filterMap_cons_some (Function.update_self item (some index) hands), kept,
          List.filterMap_cons_none free]
      · have inside : item ∈ rest := by
          rcases List.mem_cons.mp member with same | inside
          · exact absurd same.symm here
          · exact inside
        have later := inductionHypothesis others inside
        have other : Function.update hands item (some index) head = hands head :=
          Function.update_of_ne here _ _
        cases holds : hands head with
        | none =>
            rw [List.filterMap_cons_none (other.trans holds), List.filterMap_cons_none holds]
            exact later
        | some number =>
            rw [List.filterMap_cons_some (other.trans holds), List.filterMap_cons_some holds]
            exact (List.Perm.cons number later).trans (List.Perm.swap index number _)

variable {hands : Fin workers -> Option Nat} {worker : Fin workers} {index : Nat}

theorem held_take (free : hands worker = none) (index : Nat) :
    (held (Function.update hands worker (some index))).Perm (index :: held hands) :=
  filterMap_update_perm (List.nodup_finRange workers) (List.mem_finRange worker) free index

theorem held_finish (holds : hands worker = some index) :
    (held hands).Perm (index :: held (Function.update hands worker none)) := by
  have again := held_take (Function.update_self worker none hands) index
  rw [Function.update_idem, ← holds, Function.update_eq_self] at again
  exact again

theorem mem_held : index ∈ held hands ↔ Exists fun worker => hands worker = some index := by
  simp [held]

theorem length_held_le (hands : Fin workers -> Option Nat) : (held hands).length ≤ workers := by
  have bound := List.length_filterMap_le hands (List.finRange workers)
  rwa [List.length_finRange] at bound

/-- All hands are full. -/
theorem length_held_of_full (full : forall worker, hands worker ≠ none) :
    (held hands).length = workers := by
  unfold held
  rw [List.length_filterMap_eq_countP, List.countP_eq_length.mpr, List.length_finRange]
  intro worker _
  exact Option.isSome_iff_ne_none.mpr (full worker)

theorem length_held_lt (free : hands worker = none) : (held hands).length < workers := by
  have more := (held_take free 0).length_eq
  have bound := length_held_le (Function.update hands worker (some 0))
  rw [more] at bound
  exact bound

/-! ## The invariant -/

section Invariant

variable {capacity : Nat} {stuck : R -> Bool} {queue next : WorkQueue R workers}

theorem exact_start : Exact capacity (start : WorkQueue R workers) where
  once := by
    have empty : held (fun _ : Fin workers => none) = [] := by
      unfold held
      rw [List.filterMap_eq_nil_iff]
      exact fun _ _ => rfl
    unfold start
    dsimp only
    rw [empty]
    exact List.Perm.refl []
  bounded := Nat.le_refl 0
  room := Nat.zero_le _

/-- What a step does. -/
inductive Stepped (capacity : Nat) (stuck : R -> Bool) (queue : WorkQueue R workers) :
    Label R workers -> WorkQueue R workers -> Prop
  | put (request : R) (room : queue.accepted.length < queue.taken + capacity) :
      Stepped capacity stuck queue (.put request)
        { queue with accepted := queue.accepted ++ [request] }
  | take (worker : Fin workers) (free : queue.hands worker = none)
      (waiting : queue.taken < queue.accepted.length) :
      Stepped capacity stuck queue (.take worker) { queue with
        hands := Function.update queue.hands worker (some queue.taken)
        taken := queue.taken + 1 }
  | finish (worker : Fin workers) (index : Nat) (holds : queue.hands worker = some index)
      (moving : stuckAt stuck queue.accepted index = false) :
      Stepped capacity stuck queue (.finish worker) { queue with
        hands := Function.update queue.hands worker none
        finished := queue.finished ++ [index] }

theorem stepped_of_step {label : Label R workers}
    (taken : step capacity stuck queue label = some next) :
    Stepped capacity stuck queue label next := by
  cases label with
  | put request =>
      unfold step at taken
      rw [Option.ite_none_right_eq_some, Option.some.injEq] at taken
      rw [← taken.2]
      exact .put request taken.1
  | take worker =>
      unfold step at taken
      rw [Option.ite_none_right_eq_some, Option.some.injEq] at taken
      rw [← taken.2]
      exact .take worker taken.1.1 taken.1.2
  | finish worker =>
      cases holds : queue.hands worker with
      | none =>
          rw [WorkQueue.step, holds] at taken
          cases taken
      | some index =>
          rw [WorkQueue.step, holds] at taken
          dsimp only at taken
          rw [Option.ite_none_left_eq_some, Option.some.injEq, Bool.not_eq_true] at taken
          rw [← taken.2]
          exact .finish worker index holds taken.1

theorem step_take {worker : Fin workers} (free : queue.hands worker = none)
    (waiting : queue.taken < queue.accepted.length) :
    step capacity stuck queue (.take worker) = some { queue with
      hands := Function.update queue.hands worker (some queue.taken)
      taken := queue.taken + 1 } :=
  if_pos ⟨free, waiting⟩

theorem step_finish {worker : Fin workers} {index : Nat} (holds : queue.hands worker = some index)
    (moving : stuckAt stuck queue.accepted index = false) :
    step capacity stuck queue (.finish worker) = some { queue with
      hands := Function.update queue.hands worker none
      finished := queue.finished ++ [index] } := by
  rw [step, holds]
  dsimp only
  rw [moving]
  rfl

theorem Exact.step {label : Label R workers} (exact : queue.Exact capacity)
    (taken : step capacity stuck queue label = some next) : next.Exact capacity := by
  cases stepped_of_step taken with
  | put request room =>
      refine ⟨exact.once, ?_, ?_⟩
      · rw [List.length_append]
        exact exact.bounded.trans (Nat.le_add_right _ _)
      · rw [List.length_append]
        exact room
  | take worker free waiting =>
      refine ⟨?_, waiting, ?_⟩
      · rw [List.range_succ]
        have moved := (held_take free queue.taken).append_left queue.finished
        have swapped : (queue.finished ++ queue.taken :: held queue.hands).Perm
            ((queue.finished ++ held queue.hands) ++ [queue.taken]) :=
          List.perm_middle.trans (List.perm_append_singleton _ _).symm
        exact moved.trans (swapped.trans (exact.once.append_right [queue.taken]))
      · dsimp only
        have room := exact.room
        omega
  | finish worker index holds moving =>
      refine ⟨?_, exact.bounded, exact.room⟩
      have moved := (held_finish holds).append_left queue.finished
      have joined : (queue.finished ++ [index] ++
          held (Function.update queue.hands worker none)).Perm
            (queue.finished ++ held queue.hands) := by
        rw [List.append_assoc]
        exact moved.symm
      exact joined.trans exact.once

/-- A request that was taken and is not finished is in some worker's hands. -/
theorem Exact.exists_holding {index : Nat} (exact : queue.Exact capacity)
    (before : index < queue.taken) (unfinished : index ∉ queue.finished) :
    Exists fun worker => queue.hands worker = some index := by
  have member := exact.once.mem_iff.mpr (List.mem_range.mpr before)
  rcases List.mem_append.mp member with done | holding
  · exact absurd done unfinished
  · exact mem_held.mp holding

/-- What is in somebody's hands was taken and is not finished. -/
theorem Exact.of_mem_held {index : Nat} (exact : queue.Exact capacity)
    (holding : index ∈ held queue.hands) : index < queue.taken ∧ index ∉ queue.finished := by
  constructor
  · exact List.mem_range.mp (exact.once.mem_iff.mp (List.mem_append_right _ holding))
  · intro done
    have nodup := exact.once.nodup_iff.mpr List.nodup_range
    exact List.disjoint_of_nodup_append nodup done holding

theorem Exact.nodup_held (exact : queue.Exact capacity) : (held queue.hands).Nodup := by
  have nodup := exact.once.nodup_iff.mpr (List.nodup_range (n := queue.taken))
  exact (List.nodup_append.mp nodup).2.1

theorem Exact.taken_of_finished {index : Nat} (exact : queue.Exact capacity)
    (done : index ∈ queue.finished) : index < queue.taken :=
  List.mem_range.mp (exact.once.mem_iff.mp (List.mem_append_left _ done))

end Invariant

/-! ## Requests that are stuck -/

section Stuck

variable {capacity : Nat} {stuck : R -> Bool} {queue next : WorkQueue R workers} {index : Nat}

theorem stuckAt_append (accepted : List R) (request : R) {earlier : Nat}
    (before : earlier < accepted.length) :
    stuckAt stuck (accepted ++ [request]) earlier = stuckAt stuck accepted earlier := by
  unfold stuckAt
  rw [List.getElem?_append_left before]

theorem mem_stuckAhead {earlier : Nat} : earlier ∈ queue.stuckAhead stuck index ↔
    earlier < index ∧ stuckAt stuck queue.accepted earlier = true ∧ earlier ∉ queue.finished := by
  unfold stuckAhead
  rw [Finset.mem_filter, Finset.mem_range]

/-- No step changes which stuck requests are ahead. -/
theorem stuckAhead_step {label : Label R workers} (present : index ≤ queue.accepted.length)
    (taken : step capacity stuck queue label = some next) :
    next.stuckAhead stuck index = queue.stuckAhead stuck index := by
  cases stepped_of_step taken with
  | put request room =>
      ext earlier
      rw [mem_stuckAhead, mem_stuckAhead]
      apply and_congr_right
      intro before
      rw [stuckAt_append _ _ (Nat.lt_of_lt_of_le before present)]
  | take worker free waiting => rfl
  | finish worker other holds moving =>
      ext earlier
      rw [mem_stuckAhead, mem_stuckAhead]
      apply and_congr_right
      intro _
      apply and_congr_right
      intro isStuck
      have different : earlier ≠ other := by
        intro same
        rw [same, moving] at isStuck
        cases isStuck
      simp [different]

/-- The stuck requests that were taken are all in somebody's hands. -/
theorem Exact.stuckAhead_subset (exact : queue.Exact capacity) (before : index ≤ queue.taken) :
    queue.stuckAhead stuck index ⊆ (held queue.hands).toFinset := by
  intro earlier member
  rcases mem_stuckAhead.mp member with ⟨ahead, _, unfinished⟩
  rw [List.mem_toFinset, mem_held]
  exact exact.exists_holding (Nat.lt_of_lt_of_le ahead before) unfinished

/-- No worker gets as far as a request with as many stuck ones before it as there
are workers. -/
theorem untaken_step {label : Label R workers} (exact : queue.Exact capacity)
    (behind : workers ≤ (queue.stuckAhead stuck index).card) (waits : queue.taken ≤ index)
    (taken : step capacity stuck queue label = some next) : next.taken ≤ index := by
  cases stepped_of_step taken with
  | put request room => exact waits
  | finish worker other holds moving => exact waits
  | take worker free waiting =>
      rcases Nat.lt_or_eq_of_le waits with earlier | reached
      · exact earlier
      · have inside : queue.stuckAhead stuck index ⊆ (held queue.hands).toFinset :=
          exact.stuckAhead_subset (Nat.le_of_eq reached.symm)
        have covered := Finset.card_le_card inside
        have few := List.toFinset_card_le (held queue.hands)
        have spare := length_held_lt free
        omega

/-- As long as fewer stuck requests are ahead than there are workers, some step
brings an unfinished request closer to its end. -/
theorem exists_closer (exact : queue.Exact capacity) (present : index < queue.accepted.length)
    (unfinished : index ∉ queue.finished)
    (moving : stuckAt stuck queue.accepted index = false)
    (few : (queue.stuckAhead stuck index).card < workers) :
    Exists fun label => Exists fun next => step capacity stuck queue label = some next ∧
      label.serves = true ∧ next.accepted = queue.accepted ∧
        (index ∈ next.finished ∨
          2 * (index + 1 - next.taken) + (held next.hands).length <
            2 * (index + 1 - queue.taken) + (held queue.hands).length) := by
  by_cases before : index < queue.taken
  · rcases exact.exists_holding before unfinished with ⟨worker, holds⟩
    exact ⟨.finish worker, _, step_finish holds moving, rfl, rfl,
      Or.inl (List.mem_append_right _ (List.mem_singleton_self index))⟩
  · have waits : queue.taken ≤ index := Nat.not_lt.mp before
    by_cases full : forall worker, queue.hands worker ≠ none
    · have exists_moving : Exists fun other => other ∈ held queue.hands ∧
          stuckAt stuck queue.accepted other = false := by
        by_contra none_moving
        have all : (held queue.hands).toFinset ⊆ queue.stuckAhead stuck index := by
          intro other member
          have holding := List.mem_toFinset.mp member
          rcases exact.of_mem_held holding with ⟨early, notDone⟩
          refine mem_stuckAhead.mpr ⟨Nat.lt_of_lt_of_le early waits, ?_, notDone⟩
          by_contra free
          exact none_moving ⟨other, holding, Bool.eq_false_iff.mpr free⟩
        have count := Finset.card_le_card all
        rw [List.toFinset_card_of_nodup exact.nodup_held, length_held_of_full full] at count
        omega
      rcases exists_moving with ⟨other, holding, free⟩
      rcases mem_held.mp holding with ⟨worker, holds⟩
      refine ⟨.finish worker, _, step_finish holds free, rfl, rfl, Or.inr ?_⟩
      have fewer := (held_finish holds).length_eq
      rw [List.length_cons] at fewer
      dsimp only
      omega
    · rcases not_forall.mp full with ⟨worker, notFull⟩
      have free := not_not.mp notFull
      have waiting : queue.taken < queue.accepted.length := Nat.lt_of_le_of_lt waits present
      refine ⟨.take worker, _, step_take free waiting, rfl, rfl, Or.inr ?_⟩
      have more := (held_take free queue.taken).length_eq
      rw [List.length_cons] at more
      dsimp only
      omega

/-- With as many stuck requests ahead, it is still in the queue. -/
theorem Exact.taken_le_of_many (exact : queue.Exact capacity) (unfinished : index ∉ queue.finished)
    (many : workers ≤ (queue.stuckAhead stuck index).card) : queue.taken ≤ index := by
  by_contra taken
  have before := Nat.not_le.mp taken
  rcases exact.exists_holding before unfinished with ⟨worker, holds⟩
  have covered : insert index (queue.stuckAhead stuck index) ⊆ (held queue.hands).toFinset := by
    intro other member
    rcases Finset.mem_insert.mp member with same | ahead
    · rw [same, List.mem_toFinset]
      exact mem_held.mpr ⟨worker, holds⟩
    · exact exact.stuckAhead_subset (Nat.le_of_lt before) ahead
  have outside : index ∉ queue.stuckAhead stuck index :=
    fun member => absurd (mem_stuckAhead.mp member).1 (Nat.lt_irrefl index)
  have count := Finset.card_le_card covered
  rw [Finset.card_insert_of_notMem outside] at count
  have few := List.toFinset_card_le (held queue.hands)
  have bound := length_held_le queue.hands
  omega

theorem length_accepted_step {label : Label R workers}
    (taken : step capacity stuck queue label = some next) :
    queue.accepted.length ≤ next.accepted.length := by
  cases stepped_of_step taken with
  | put request room =>
      rw [List.length_append]
      exact Nat.le_add_right _ _
  | take worker free waiting => exact Nat.le_refl _
  | finish worker other holds moving => exact Nat.le_refl _

/-- With as many stuck requests ahead, it is never finished. -/
theorem unfinished_of_many (exact : queue.Exact capacity) (present : index < queue.accepted.length)
    (unfinished : index ∉ queue.finished)
    (many : workers ≤ (queue.stuckAhead stuck index).card) {final : WorkQueue R workers}
    (reached : Transition.Reaches (step capacity stuck) queue final) : index ∉ final.finished := by
  have preserved : forall (state : WorkQueue R workers) label next,
      step capacity stuck state label = some next ->
      Exact capacity state ∧ index ≤ state.accepted.length ∧
          state.stuckAhead stuck index = queue.stuckAhead stuck index ∧ state.taken ≤ index ->
        Exact capacity next ∧ index ≤ next.accepted.length ∧
          next.stuckAhead stuck index = queue.stuckAhead stuck index ∧ next.taken ≤ index := by
    rintro state label next taken ⟨exactState, within, same, untaken⟩
    refine ⟨exactState.step taken, within.trans (length_accepted_step taken),
      (stuckAhead_step within taken).trans same, ?_⟩
    exact untaken_step exactState (same ▸ many) untaken taken
  have kept := Transition.invariant_of_reaches preserved
    ⟨exact, Nat.le_of_lt present, rfl, exact.taken_le_of_many unfinished many⟩ reached
  intro done
  exact absurd (kept.1.taken_of_finished done) (Nat.not_lt.mpr kept.2.2.2)

/-- Where the taken requests that are stuck are as many as the workers, and the queue is
full, nothing happens any more. -/
theorem step_eq_none_of_many (exact : queue.Exact capacity)
    (many : workers ≤ (queue.stuckAhead stuck queue.taken).card)
    (full : queue.taken + capacity ≤ queue.accepted.length) (label : Label R workers) :
    step capacity stuck queue label = none := by
  have covered : queue.stuckAhead stuck queue.taken ⊆ (held queue.hands).toFinset :=
    exact.stuckAhead_subset (Nat.le_refl queue.taken)
  have few := List.toFinset_card_le (held queue.hands)
  cases taken : step capacity stuck queue label with
  | none => rfl
  | some next =>
      cases stepped_of_step taken with
      | put request room => exact absurd room (Nat.not_lt.mpr full)
      | take worker free waiting =>
          have count := Finset.card_le_card covered
          have spare := length_held_lt free
          omega
      | finish worker index holds moving =>
          have bound := length_held_le queue.hands
          have same := Finset.eq_of_subset_of_card_le covered (by omega)
          have holding : index ∈ (held queue.hands).toFinset :=
            List.mem_toFinset.mpr (mem_held.mpr ⟨worker, holds⟩)
          rw [← same] at holding
          have isStuck := (mem_stuckAhead.mp holding).2.1
          rw [moving] at isStuck
          cases isStuck

/-- How far a request is from its end. -/
def distance (index : Nat) (queue : WorkQueue R workers) : Nat :=
  if index ∈ queue.finished then 0
  else 2 * (index + 1 - queue.taken) + (held queue.hands).length + 1

/-- The system in which the workers go on with what is there. -/
def serving (capacity : Nat) (stuck : R -> Bool) :
    WorkQueue R workers -> Label R workers -> Option (WorkQueue R workers) :=
  Transition.restrict Label.serves (step capacity stuck)

/-- With fewer stuck requests ahead, the workers can finish it. -/
theorem exists_finished_of_few (exact : queue.Exact capacity)
    (present : index < queue.accepted.length)
    (moving : stuckAt stuck queue.accepted index = false)
    (few : (queue.stuckAhead stuck index).card < workers) :
    Exists fun final => Transition.Reaches (serving capacity stuck) queue final ∧
      index ∈ final.finished := by
  have progress : forall state : WorkQueue R workers,
      Exact capacity state ∧ state.accepted = queue.accepted ∧
        state.stuckAhead stuck index = queue.stuckAhead stuck index ->
      ¬ index ∈ state.finished -> Exists fun next =>
        Transition.Reaches (serving capacity stuck) state next ∧
          (Exact capacity next ∧ next.accepted = queue.accepted ∧
            next.stuckAhead stuck index = queue.stuckAhead stuck index) ∧
          distance index next < distance index state := by
    rintro state ⟨exactState, same, ahead⟩ unfinished
    rcases exists_closer exactState (same ▸ present) unfinished (same ▸ moving) (ahead ▸ few) with
      ⟨label, next, taken, serves, sameNext, closer⟩
    have kept := stuckAhead_step (same ▸ Nat.le_of_lt present) taken
    have served : serving capacity stuck state label = some next :=
      Transition.restrict_eq_some.mpr ⟨serves, taken⟩
    refine ⟨next, .single served, ⟨exactState.step taken, sameNext.trans same, kept.trans ahead⟩, ?_⟩
    unfold distance
    rw [if_neg unfinished]
    rcases closer with done | nearer
    · rw [if_pos done]
      exact Nat.succ_pos _
    · by_cases done : index ∈ next.finished
      · rw [if_pos done]
        exact Nat.succ_pos _
      · rw [if_neg done]
        exact Nat.succ_lt_succ nearer
  rcases Transition.exists_arrival (InvImage.wf (distance index) Nat.lt_wfRel.wf) progress
    ⟨exact, rfl, rfl⟩ with ⟨final, reached, _, done⟩
  exact ⟨final, reached, done⟩

/-- A request that is not stuck can still be finished exactly if fewer unfinished
stuck requests are before it than there are workers. -/
theorem servable_iff (exact : queue.Exact capacity) (present : index < queue.accepted.length)
    (unfinished : index ∉ queue.finished)
    (moving : stuckAt stuck queue.accepted index = false) :
    (Exists fun final => Transition.Reaches (step capacity stuck) queue final ∧
      index ∈ final.finished) ↔ (queue.stuckAhead stuck index).card < workers := by
  constructor
  · rintro ⟨final, reached, done⟩
    by_contra many
    exact unfinished_of_many exact present unfinished (Nat.not_lt.mp many) reached done
  · intro few
    rcases exists_finished_of_few exact present moving few with ⟨final, served, done⟩
    exact ⟨final, Transition.reaches_of_restrict served, done⟩

end Stuck

end WorkQueue
end OpenFsd
