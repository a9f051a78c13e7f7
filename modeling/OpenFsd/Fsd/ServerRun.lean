import OpenFsd.Go.Bytes
import OpenFsd.Library.WorkQueue
import Mathlib.Algebra.BigOperators.Fin

namespace OpenFsd
namespace Fsd

open Transition

/-!
# How the FSD server runs

`Run` starts one goroutine for each configured address, collects the errors of
those that cannot listen, and waits for the end of its context.  It collects by
ranging over a channel that is closed when all these goroutines have returned,
and a goroutine that can listen returns at the end of the context only.  So the
errors are complete when `Run` returns, but they are late: with one address that
works, `Run` holds them back until the server is stopped.

The METAR service and the HTTP service, which `Run` starts first, and the
connections that are accepted have their own modules.
-/

/-- What `listen` puts into the channel of the errors -/
def listenError (addr err : Bytes) : Bytes :=
  bytes "failed to listen on " ++ addr ++ bytes ": " ++ err

/-- What `Run` returns for the startup errors, printed as a list -/
def startupFailure (startupErrors : List Bytes) : Bytes :=
  bytes "some listeners failed: [" ++ [32].intercalate startupErrors ++ bytes "]"

/-- Where the goroutine of one address is in `listen` -/
inductive Listener
  | starting
  /-- `Listen` has failed, and the error is not yet in the channel. -/
  | failed (err : Bytes)
  | accepting
  /-- The listener is closed, and `Accept` will say so. -/
  | closed
  | returned (err : Option Bytes)
  deriving DecidableEq

namespace Listener

def hasReturned : Listener -> Bool
  | .returned _ => true
  | _ => false

/-- The error that the goroutine has put into the channel, without its prefix. -/
def reported : Listener -> Option Bytes
  | .returned err => err
  | _ => none

/-- How many steps the goroutine is from its end, at most. -/
def rank : Listener -> Nat
  | .starting => 3
  | .failed _ => 2
  | .accepting => 2
  | .closed => 1
  | .returned _ => 0

theorem reported_of_going {listener : Listener} (going : listener.hasReturned = false) :
    listener.reported = none := by
  cases listener with
  | returned err => cases going
  | _ => rfl

theorem eq_returned {listener : Listener} (ended : listener.hasReturned = true) :
    listener = .returned listener.reported := by
  cases listener with
  | returned err => rfl
  | _ => cases ended

end Listener

/-- Where `Run` itself is -/
inductive RunPhase
  | collecting
  /-- Behind the loop, without errors: `Run` waits for the end of its context. -/
  | waiting
  | returned (err : Option Bytes)
  deriving DecidableEq

def RunPhase.rank : RunPhase -> Nat
  | .collecting => 2
  | .waiting => 1
  | .returned _ => 0

/-- `Run` with this number of addresses -/
structure ServerRun (addresses : Nat) where
  listeners : Fin addresses -> Listener
  /-- The connections that have been handed to `handleConn`. -/
  accepted : Nat
  cancelled : Bool
  errCh : List Bytes
  errChClosed : Bool
  startupErrors : List Bytes
  phase : RunPhase

namespace ServerRun

inductive Label (addresses : Nat)
  | listen (address : Fin addresses) (err : Option Bytes)
  | report (address : Fin addresses)
  /-- `Accept` returns a connection, or an error that is not the end. -/
  | accept (address : Fin addresses) (connection : Bool)
  | cancel
  /-- The goroutine that waits for the end of the context closes the listener. -/
  | close (address : Fin addresses)
  | leave (address : Fin addresses)
  | closeErrCh
  | receive
  | endLoop
  | finish

variable {addresses : Nat}

def start : ServerRun addresses :=
  ⟨fun _ => .starting, 0, false, [], false, [], .collecting⟩

/-- One goroutine goes on. -/
def move (run : ServerRun addresses) (address : Fin addresses) (next : Listener) :
    ServerRun addresses :=
  { run with listeners := Function.update run.listeners address next }

@[simp] theorem listeners_move_self (run : ServerRun addresses) (address : Fin addresses)
    (next : Listener) : (run.move address next).listeners address = next := by
  simp [move]

@[simp] theorem listeners_move_of_ne (run : ServerRun addresses) {address other : Fin addresses}
    (different : other ≠ address) (next : Listener) :
    (run.move address next).listeners other = run.listeners other := by
  simp [move, different]

/-- `listenerWg.Wait()` returns. -/
def AllReturned (run : ServerRun addresses) : Prop :=
  forall address, (run.listeners address).hasReturned = true

instance (run : ServerRun addresses) : Decidable run.AllReturned :=
  inferInstanceAs (Decidable (forall address, (run.listeners address).hasReturned = true))

/-- The transition function.  The capacity of `errCh` is the number of addresses. -/
def step (addrs : Fin addresses -> Bytes) (run : ServerRun addresses) :
    Label addresses -> Option (ServerRun addresses)
  | .listen address err =>
      if run.listeners address = .starting then
        some (run.move address (match err with
          | none => .accepting
          | some err => .failed err))
      else none
  | .report address =>
      match run.listeners address with
      | .failed err =>
          if run.errCh.length < addresses then
            some { run.move address (.returned (some err)) with
              errCh := run.errCh ++ [listenError (addrs address) err] }
          else none
      | _ => none
  | .accept address connection =>
      if run.listeners address = .accepting then
        some { run with accepted := if connection then run.accepted + 1 else run.accepted }
      else none
  | .cancel => some { run with cancelled := true }
  | .close address =>
      if run.listeners address = .accepting ∧ run.cancelled = true then
        some (run.move address .closed)
      else none
  | .leave address =>
      if run.listeners address = .closed then some (run.move address (.returned none)) else none
  | .closeErrCh =>
      if run.AllReturned ∧ run.errChClosed = false then some { run with errChClosed := true }
      else none
  | .receive =>
      match run.errCh with
      | err :: rest =>
          if run.phase = .collecting then
            some { run with errCh := rest, startupErrors := run.startupErrors ++ [err] }
          else none
      | [] => none
  | .endLoop =>
      if run.phase = .collecting ∧ run.errCh = [] ∧ run.errChClosed = true then
        some { run with
          phase := if 0 < run.startupErrors.length then
            .returned (some (startupFailure run.startupErrors)) else .waiting }
      else none
  | .finish =>
      if run.phase = .waiting ∧ run.cancelled = true then some { run with phase := .returned none }
      else none

/-- What a step does. -/
inductive Stepped (addrs : Fin addresses -> Bytes) (run : ServerRun addresses) :
    Label addresses -> ServerRun addresses -> Prop
  | bound (address : Fin addresses) (starting : run.listeners address = .starting) :
      Stepped addrs run (.listen address none) (run.move address .accepting)
  | refused (address : Fin addresses) (err : Bytes)
      (starting : run.listeners address = .starting) :
      Stepped addrs run (.listen address (some err)) (run.move address (.failed err))
  | reported (address : Fin addresses) (err : Bytes)
      (failed : run.listeners address = .failed err) (room : run.errCh.length < addresses) :
      Stepped addrs run (.report address)
        { run.move address (.returned (some err)) with
          errCh := run.errCh ++ [listenError (addrs address) err] }
  | accepted (address : Fin addresses) (connection : Bool) (total : Nat) :
      Stepped addrs run (.accept address connection) { run with accepted := total }
  | cancelled : Stepped addrs run .cancel { run with cancelled := true }
  | closed (address : Fin addresses) (accepting : run.listeners address = .accepting)
      (cancelled : run.cancelled = true) :
      Stepped addrs run (.close address) (run.move address .closed)
  | left (address : Fin addresses) (closed : run.listeners address = .closed) :
      Stepped addrs run (.leave address) (run.move address (.returned none))
  | closedErrCh (ended : run.AllReturned) (opened : run.errChClosed = false) :
      Stepped addrs run .closeErrCh { run with errChClosed := true }
  | received (err : Bytes) (rest : List Bytes) (collecting : run.phase = .collecting)
      (first : run.errCh = err :: rest) :
      Stepped addrs run .receive
        { run with errCh := rest, startupErrors := run.startupErrors ++ [err] }
  | endedLoop (collecting : run.phase = .collecting) (empty : run.errCh = [])
      (closed : run.errChClosed = true) :
      Stepped addrs run .endLoop { run with
        phase := if 0 < run.startupErrors.length then
          .returned (some (startupFailure run.startupErrors)) else .waiting }
  | finished (waiting : run.phase = .waiting) (cancelled : run.cancelled = true) :
      Stepped addrs run .finish { run with phase := .returned none }

variable {addrs : Fin addresses -> Bytes} {run next : ServerRun addresses}

theorem stepped_of_step {label : Label addresses} (taken : step addrs run label = some next) :
    Stepped addrs run label next := by
  cases label with
  | listen address err =>
      rcases Option.ite_none_right_eq_some.mp taken with ⟨starting, same⟩
      rw [← Option.some.inj same]
      cases err with
      | none => exact .bound address starting
      | some err => exact .refused address err starting
  | report address =>
      rw [step] at taken
      cases failed : run.listeners address with
      | failed err =>
          rw [failed] at taken
          rcases Option.ite_none_right_eq_some.mp taken with ⟨room, same⟩
          rw [← Option.some.inj same]
          exact .reported address err failed room
      | _ =>
          rw [failed] at taken
          cases taken
  | accept address connection =>
      rcases Option.ite_none_right_eq_some.mp taken with ⟨_, same⟩
      rw [← Option.some.inj same]
      exact .accepted address connection _
  | cancel =>
      rw [← Option.some.inj taken]
      exact .cancelled
  | close address =>
      rcases Option.ite_none_right_eq_some.mp taken with ⟨⟨accepting, cancelled⟩, same⟩
      rw [← Option.some.inj same]
      exact .closed address accepting cancelled
  | leave address =>
      rcases Option.ite_none_right_eq_some.mp taken with ⟨closed, same⟩
      rw [← Option.some.inj same]
      exact .left address closed
  | closeErrCh =>
      rcases Option.ite_none_right_eq_some.mp taken with ⟨⟨ended, opened⟩, same⟩
      rw [← Option.some.inj same]
      exact .closedErrCh ended opened
  | receive =>
      rw [step] at taken
      cases first : run.errCh with
      | nil =>
          rw [first] at taken
          cases taken
      | cons err rest =>
          rw [first] at taken
          rcases Option.ite_none_right_eq_some.mp taken with ⟨collecting, same⟩
          rw [← Option.some.inj same]
          exact .received err rest collecting first
  | endLoop =>
      rcases Option.ite_none_right_eq_some.mp taken with ⟨⟨collecting, empty, closed⟩, same⟩
      rw [← Option.some.inj same]
      exact .endedLoop collecting empty closed
  | finish =>
      rcases Option.ite_none_right_eq_some.mp taken with ⟨⟨waiting, cancelled⟩, same⟩
      rw [← Option.some.inj same]
      exact .finished waiting cancelled

/-! ## The invariant -/

/-- The errors that have been put into the channel, in the order of the addresses. -/
def reports (addrs : Fin addresses -> Bytes) (run : ServerRun addresses) : List Bytes :=
  (List.finRange addresses).filterMap fun address =>
    (run.listeners address).reported.map (listenError (addrs address))

theorem reported_move (address : Fin addresses) (listener : Listener) :
    (fun other => ((run.move address listener).listeners other).reported.map
        (listenError (addrs other))) =
      Function.update (fun other => (run.listeners other).reported.map (listenError (addrs other)))
        address (listener.reported.map (listenError (addrs address))) := by
  funext other
  exact Function.apply_update
    (fun other (listener : Listener) => listener.reported.map (listenError (addrs other)))
    run.listeners address listener other

theorem reports_move_kept {address : Fin addresses} {listener : Listener}
    (kept : listener.reported = (run.listeners address).reported) :
    (run.move address listener).reports addrs = run.reports addrs := by
  unfold reports
  rw [reported_move, kept]
  exact congrArg (fun reported => (List.finRange addresses).filterMap reported)
    (Function.update_eq_self address _)

theorem reports_move_reported (addrs : Fin addresses -> Bytes) {address : Fin addresses}
    (going : (run.listeners address).hasReturned = false) (err : Bytes) :
    ((run.move address (.returned (some err))).reports addrs).Perm
      (listenError (addrs address) err :: run.reports addrs) := by
  unfold reports
  rw [reported_move]
  apply WorkQueue.filterMap_update_perm (List.nodup_finRange addresses)
    (List.mem_finRange address)
  rw [Listener.reported_of_going going]
  rfl

theorem length_reports_le (addrs : Fin addresses -> Bytes) (run : ServerRun addresses) :
    (run.reports addrs).length ≤ addresses := by
  have bound := List.length_filterMap_le (fun address =>
    (run.listeners address).reported.map (listenError (addrs address))) (List.finRange addresses)
  rwa [List.length_finRange] at bound

/-- There is room for the error of a goroutine that has not reported. -/
theorem length_reports_lt (addrs : Fin addresses -> Bytes) {address : Fin addresses}
    (going : (run.listeners address).hasReturned = false) :
    (run.reports addrs).length < addresses := by
  have more := (reports_move_reported addrs going []).length_eq
  have bound := length_reports_le addrs (run.move address (.returned (some [])))
  rw [more] at bound
  exact bound

/-- What the phase of `Run` says about the channel -/
def PhaseFits (run : ServerRun addresses) : RunPhase -> Prop
  | .collecting => True
  | .waiting => run.errChClosed = true ∧ run.errCh = [] ∧ run.startupErrors = []
  | .returned none =>
      run.errChClosed = true ∧ run.errCh = [] ∧ run.startupErrors = [] ∧ run.cancelled = true
  | .returned (some err) => run.errChClosed = true ∧ run.errCh = [] ∧ run.startupErrors ≠ [] ∧
      err = startupFailure run.startupErrors

theorem phaseFits_of_collecting (collecting : run.phase = .collecting) :
    run.PhaseFits run.phase := by
  rw [collecting]
  exact True.intro

/-- No error is lost or doubled, the channel is closed behind the last goroutine, and
one that could listen ends with the context. -/
structure Sound (addrs : Fin addresses -> Bytes) (run : ServerRun addresses) : Prop where
  collected : (run.startupErrors ++ run.errCh).Perm (run.reports addrs)
  ended : run.errChClosed = true -> run.AllReturned
  stopped : forall address, run.listeners address = .closed ∨
    run.listeners address = .returned none -> run.cancelled = true
  phase : run.PhaseFits run.phase

theorem sound_start : Sound addrs (start : ServerRun addresses) where
  collected := by
    have silent : (start : ServerRun addresses).reports addrs = [] :=
      List.filterMap_eq_nil_iff.mpr fun _ _ => rfl
    rw [silent]
    exact List.Perm.refl []
  ended := by
    intro impossible
    cases impossible
  stopped := by
    rintro address (impossible | impossible)
    · cases impossible
    · cases impossible
  phase := True.intro

theorem Sound.opened {address : Fin addresses} (sound : Sound addrs run)
    (going : (run.listeners address).hasReturned = false) : run.errChClosed = false := by
  cases closed : run.errChClosed with
  | false => rfl
  | true =>
      have ended := sound.ended closed address
      rw [going] at ended
      cases ended

theorem Sound.collecting (sound : Sound addrs run) (opened : run.errChClosed = false) :
    run.phase = .collecting := by
  have fits := sound.phase
  cases phase : run.phase with
  | collecting => rfl
  | waiting =>
      rw [phase] at fits
      exact absurd (opened.symm.trans fits.1) Bool.false_ne_true
  | returned err =>
      rw [phase] at fits
      cases err with
      | none => exact absurd (opened.symm.trans fits.1) Bool.false_ne_true
      | some err => exact absurd (opened.symm.trans fits.1) Bool.false_ne_true

theorem Sound.stopped_move {address : Fin addresses} {listener : Listener}
    (sound : Sound addrs run)
    (stopped : listener = .closed ∨ listener = .returned none -> run.cancelled = true)
    (other : Fin addresses) (ends : (run.move address listener).listeners other = .closed ∨
      (run.move address listener).listeners other = .returned none) : run.cancelled = true := by
  by_cases same : other = address
  · rw [same, listeners_move_self] at ends
    exact stopped ends
  · rw [listeners_move_of_ne run same] at ends
    exact sound.stopped other ends

/-- A goroutine goes on without an error to report. -/
theorem Sound.move {address : Fin addresses} {listener : Listener} (sound : Sound addrs run)
    (going : (run.listeners address).hasReturned = false) (silent : listener.reported = none)
    (stopped : listener = .closed ∨ listener = .returned none -> run.cancelled = true) :
    Sound addrs (run.move address listener) where
  collected := by
    rw [reports_move_kept (silent.trans (Listener.reported_of_going going).symm)]
    exact sound.collected
  ended := fun closed => absurd ((sound.opened going).symm.trans closed) Bool.false_ne_true
  stopped := sound.stopped_move stopped
  phase := phaseFits_of_collecting (sound.collecting (sound.opened going))

theorem Sound.step {label : Label addresses} (sound : Sound addrs run)
    (taken : step addrs run label = some next) : Sound addrs next := by
  cases stepped_of_step taken with
  | bound address starting =>
      apply sound.move
      · rw [starting]
        rfl
      · rfl
      · rintro (impossible | impossible)
        · cases impossible
        · cases impossible
  | refused address err starting =>
      apply sound.move
      · rw [starting]
        rfl
      · rfl
      · rintro (impossible | impossible)
        · cases impossible
        · cases impossible
  | reported address err failed room =>
      have going : (run.listeners address).hasReturned = false := by
        rw [failed]
        rfl
      have opened := sound.opened going
      refine ⟨?_, ?_, ?_, ?_⟩
      · have more := (reports_move_reported addrs going err).symm
        have front := (sound.collected.cons (listenError (addrs address) err)).trans more
        dsimp only
        rw [← List.append_assoc]
        exact (List.perm_append_singleton _ _).trans front
      · exact fun closed => absurd (opened.symm.trans closed) Bool.false_ne_true
      · apply sound.stopped_move
        rintro (impossible | impossible)
        · cases impossible
        · cases impossible
      · exact phaseFits_of_collecting (sound.collecting opened)
  | accepted address connection total =>
      exact ⟨sound.collected, sound.ended, sound.stopped, sound.phase⟩
  | cancelled =>
      refine ⟨sound.collected, sound.ended, fun _ _ => rfl, ?_⟩
      have fits := sound.phase
      dsimp only
      cases phase : run.phase with
      | collecting => exact True.intro
      | waiting =>
          rw [phase] at fits
          exact fits
      | returned err =>
          rw [phase] at fits
          cases err with
          | none => exact ⟨fits.1, fits.2.1, fits.2.2.1, rfl⟩
          | some err => exact fits
  | closed address accepting cancelled =>
      apply sound.move
      · rw [accepting]
        rfl
      · rfl
      · exact fun _ => cancelled
  | left address closed =>
      apply sound.move
      · rw [closed]
        rfl
      · rfl
      · exact fun _ => sound.stopped address (Or.inl closed)
  | closedErrCh ended opened =>
      exact ⟨sound.collected, fun _ => ended, sound.stopped,
        phaseFits_of_collecting (sound.collecting opened)⟩
  | received err rest collecting first =>
      refine ⟨?_, sound.ended, sound.stopped, phaseFits_of_collecting collecting⟩
      have collected := sound.collected
      rw [first] at collected
      dsimp only
      rw [List.append_assoc]
      exact collected
  | endedLoop collecting empty closed =>
      refine ⟨sound.collected, sound.ended, sound.stopped, ?_⟩
      dsimp only
      by_cases some_failed : 0 < run.startupErrors.length
      · rw [if_pos some_failed]
        exact ⟨closed, empty, List.length_pos_iff.mp some_failed, rfl⟩
      · rw [if_neg some_failed]
        exact ⟨closed, empty, List.length_eq_zero_iff.mp (Nat.eq_zero_of_not_pos some_failed)⟩
  | finished waiting cancelled =>
      refine ⟨sound.collected, sound.ended, sound.stopped, ?_⟩
      have fits := sound.phase
      rw [waiting] at fits
      exact ⟨fits.1, fits.2.1, fits.2.2, cancelled⟩

theorem sound_of_reaches (reached : Reaches (ServerRun.step addrs) start run) : Sound addrs run :=
  invariant_of_reaches (fun _ _ _ taken sound => Sound.step sound taken) sound_start reached

/-! ## What `Run` returns -/

/-- An error is the list of all errors of the listeners, and without one the server
was stopped after all of them had worked. -/
def ResultFits (addrs : Fin addresses -> Bytes) (run : ServerRun addresses) : Option Bytes -> Prop
  | none => run.cancelled = true ∧ forall address, run.listeners address = .returned none
  | some err => Exists fun errors => err = startupFailure errors ∧ errors ≠ [] ∧
      errors.Perm (run.reports addrs) ∧ run.AllReturned

theorem returned_of_silent (ended : run.AllReturned) (silent : run.reports addrs = [])
    (address : Fin addresses) : run.listeners address = .returned none := by
  have quiet := List.filterMap_eq_nil_iff.mp silent address (List.mem_finRange address)
  rw [Listener.eq_returned (ended address), Option.map_eq_none_iff.mp quiet]

theorem Sound.silent (sound : Sound addrs run) (empty : run.errCh = [])
    (none_failed : run.startupErrors = []) : run.reports addrs = [] := by
  have collected := sound.collected
  rw [empty, none_failed] at collected
  exact collected.nil_eq.symm

theorem Sound.resultFits (sound : Sound addrs run) {err : Option Bytes}
    (returned : run.phase = .returned err) : run.ResultFits addrs err := by
  have fits := sound.phase
  rw [returned] at fits
  cases err with
  | none =>
      rcases fits with ⟨closed, empty, none_failed, cancelled⟩
      exact ⟨cancelled, returned_of_silent (sound.ended closed) (sound.silent empty none_failed)⟩
  | some err =>
      rcases fits with ⟨closed, empty, some_failed, same⟩
      have collected := sound.collected
      rw [empty, List.append_nil] at collected
      exact ⟨run.startupErrors, same, some_failed, collected, sound.ended closed⟩

/-! ## When `Run` returns -/

/-- The server is stopped, or there are addresses and none of them works. -/
def Ends (run : ServerRun addresses) : Prop :=
  run.cancelled = true ∨ 0 < addresses ∧ forall address, run.listeners address ≠ .accepting

/-- The steps that bring `Run` closer to its end. -/
def Label.ends : Label addresses -> Bool
  | .listen _ err => err.isSome
  | .accept _ _ => false
  | .cancel => false
  | _ => true

/-- Everything but the end of the context. -/
def Label.goesOn : Label addresses -> Bool
  | .cancel => false
  | _ => true

/-- What the goroutines do by themselves. -/
def Label.works : Label addresses -> Bool
  | .accept _ _ => false
  | .cancel => false
  | _ => true

theorem Label.works_of_ends {label : Label addresses} (ends : label.ends = true) :
    label.works = true := by
  cases label with
  | accept address connection => cases ends
  | cancel => cases ends
  | _ => rfl

theorem Label.goesOn_of_works {label : Label addresses} (works : label.works = true) :
    label.goesOn = true := by
  cases label with
  | cancel => cases works
  | _ => rfl

/-- `Run` may return although nobody stops the server from now on. -/
def CanReturn (addrs : Fin addresses -> Bytes) (run : ServerRun addresses) : Prop :=
  Exists fun next => Exists fun err =>
    Reaches (restrict Label.goesOn (step addrs)) run next ∧ next.phase = .returned err

theorem cancelled_of_step {label : Label addresses} (cancelled : run.cancelled = true)
    (taken : step addrs run label = some next) : next.cancelled = true := by
  cases stepped_of_step taken with
  | cancelled => rfl
  | _ => exact cancelled

theorem quiet_move {address : Fin addresses} {listener : Listener}
    (quiet : forall other, run.listeners other ≠ .accepting) (other_phase : listener ≠ .accepting)
    (other : Fin addresses) : (run.move address listener).listeners other ≠ .accepting := by
  by_cases same : other = address
  · rw [same, listeners_move_self]
    exact other_phase
  · rw [listeners_move_of_ne run same]
    exact quiet other

theorem quiet_of_move {address : Fin addresses} {listener : Listener}
    (quiet : forall other, (run.move address listener).listeners other ≠ .accepting)
    (other_phase : run.listeners address ≠ .accepting) (other : Fin addresses) :
    run.listeners other ≠ .accepting := by
  by_cases same : other = address
  · rw [same]
    exact other_phase
  · have kept := quiet other
    rw [listeners_move_of_ne run same] at kept
    exact kept

theorem Ends.step {label : Label addresses} (ends : run.Ends) (closer : label.ends = true)
    (taken : step addrs run label = some next) : next.Ends := by
  rcases ends with cancelled | ⟨some_address, quiet⟩
  · exact Or.inl (cancelled_of_step cancelled taken)
  · cases stepped_of_step taken with
    | bound address starting => cases closer
    | accepted address connection total => cases closer
    | cancelled => cases closer
    | refused address err starting =>
        exact Or.inr ⟨some_address, quiet_move quiet Listener.noConfusion⟩
    | reported address err failed room =>
        exact Or.inr ⟨some_address, quiet_move quiet Listener.noConfusion⟩
    | closed address accepting cancelled => exact Or.inl cancelled
    | left address closed => exact Or.inr ⟨some_address, quiet_move quiet Listener.noConfusion⟩
    | _ => exact Or.inr ⟨some_address, quiet⟩

/-- An address that works keeps `Run` from returning. -/
theorem ends_of_step {label : Label addresses} (going : label.goesOn = true)
    (taken : step addrs run label = some next) (ends : next.Ends) : run.Ends := by
  rcases ends with cancelled | ⟨some_address, quiet⟩
  · left
    cases stepped_of_step taken with
    | cancelled => cases going
    | _ => exact cancelled
  · cases stepped_of_step taken with
    | cancelled => cases going
    | closed address accepting cancelled => exact Or.inl cancelled
    | bound address starting =>
        refine Or.inr ⟨some_address, quiet_of_move quiet ?_⟩
        rw [starting]
        exact Listener.noConfusion
    | refused address err starting =>
        refine Or.inr ⟨some_address, quiet_of_move quiet ?_⟩
        rw [starting]
        exact Listener.noConfusion
    | reported address err failed room =>
        refine Or.inr ⟨some_address, quiet_of_move quiet ?_⟩
        rw [failed]
        exact Listener.noConfusion
    | left address closed =>
        refine Or.inr ⟨some_address, quiet_of_move quiet ?_⟩
        rw [closed]
        exact Listener.noConfusion
    | _ => exact Or.inr ⟨some_address, quiet⟩

theorem Sound.ends (sound : Sound addrs run) {err : Option Bytes}
    (returned : run.phase = .returned err) : run.Ends := by
  have fits := sound.resultFits returned
  cases err with
  | none => exact Or.inl fits.1
  | some err =>
      rcases fits with ⟨errors, _, some_failed, same, ended⟩
      right
      constructor
      · have positive := List.length_pos_iff.mpr some_failed
        have bound := length_reports_le addrs run
        rw [← same.length_eq] at bound
        exact Nat.lt_of_lt_of_le positive bound
      · intro address accepting
        have returned := ended address
        rw [accepting] at returned
        cases returned

/-- How many steps `Run` is from its end, at most -/
def remaining (run : ServerRun addresses) : Nat :=
  (Finset.univ.sum fun address => (run.listeners address).rank) + run.errCh.length +
    run.phase.rank + if run.errChClosed then 0 else 1

theorem sum_rank_move (run : ServerRun addresses) (address : Fin addresses) (listener : Listener) :
    (Finset.univ.sum fun other => ((run.move address listener).listeners other).rank) +
        (run.listeners address).rank =
      (Finset.univ.sum fun other => (run.listeners other).rank) + listener.rank := by
  have moved : (fun other => ((run.move address listener).listeners other).rank) =
      Function.update (fun other => (run.listeners other).rank) address listener.rank := by
    funext other
    exact Function.apply_update (fun _ => Listener.rank) run.listeners address listener other
  rw [moved, Finset.sum_update_of_mem (Finset.mem_univ address),
    Finset.sum_eq_add_sum_sdiff_singleton_of_mem (Finset.mem_univ address)
      (fun other => (run.listeners other).rank)]
  omega

theorem remaining_move (run : ServerRun addresses) (address : Fin addresses) (listener : Listener) :
    (run.move address listener).remaining + (run.listeners address).rank =
      run.remaining + listener.rank := by
  have moved := sum_rank_move run address listener
  have same : (run.move address listener).errCh = run.errCh ∧
      (run.move address listener).phase = run.phase ∧
        (run.move address listener).errChClosed = run.errChClosed := ⟨rfl, rfl, rfl⟩
  simp only [remaining, same]
  omega

/-- The goroutines work towards the end. -/
theorem remaining_lt_of_step {label : Label addresses} (works : label.works = true)
    (taken : step addrs run label = some next) : next.remaining < run.remaining := by
  cases stepped_of_step taken with
  | bound address starting =>
      have moved := remaining_move run address .accepting
      rw [starting] at moved
      simp only [Listener.rank] at moved
      omega
  | refused address err starting =>
      have moved := remaining_move run address (.failed err)
      rw [starting] at moved
      simp only [Listener.rank] at moved
      omega
  | reported address err failed room =>
      have moved := sum_rank_move run address (.returned (some err))
      have same : (run.move address (.returned (some err))).phase = run.phase ∧
          (run.move address (.returned (some err))).errChClosed = run.errChClosed := ⟨rfl, rfl⟩
      rw [failed] at moved
      change _ + 2 = _ + 0 at moved
      simp only [remaining, List.length_append, List.length_singleton, same]
      omega
  | accepted address connection total => cases works
  | cancelled => cases works
  | closed address accepting cancelled =>
      have moved := remaining_move run address .closed
      rw [accepting] at moved
      simp only [Listener.rank] at moved
      omega
  | left address closed =>
      have moved := remaining_move run address (.returned none)
      rw [closed] at moved
      simp only [Listener.rank] at moved
      omega
  | closedErrCh ended opened => simp [remaining, opened]
  | received err rest collecting first =>
      simp only [remaining, first, List.length_cons]
      omega
  | endedLoop collecting empty closed =>
      by_cases some_failed : 0 < run.startupErrors.length
      · simp [remaining, collecting, some_failed, RunPhase.rank]
      · simp [remaining, collecting, some_failed, RunPhase.rank]
  | finished waiting cancelled => simp [remaining, waiting, RunPhase.rank]

theorem length_le_remaining {labels : List (Label addresses)}
    (working : forall label, label ∈ labels -> label.works = true)
    (executed : Transition.run (step addrs) run labels = some next) :
    labels.length + next.remaining ≤ run.remaining := by
  induction labels generalizing run with
  | nil =>
      rw [run_nil, Option.some.injEq] at executed
      rw [executed]
      exact Nat.le_of_eq (Nat.zero_add _)
  | cons label rest inductionHypothesis =>
      rw [run_cons, Option.bind_eq_some_iff] at executed
      rcases executed with ⟨middle, taken, executed⟩
      have later := inductionHypothesis
        (fun label member => working label (List.mem_cons_of_mem _ member)) executed
      have less := remaining_lt_of_step (working label List.mem_cons_self) taken
      rw [List.length_cons]
      omega

/-- A goroutine that has not returned can go on. -/
theorem Sound.exists_closer_of_going (sound : Sound addrs run) (ends : run.Ends)
    {address : Fin addresses} (going : (run.listeners address).hasReturned = false) :
    Exists fun label => label.ends = true ∧ Exists fun next =>
      ServerRun.step addrs run label = some next := by
  cases phase : run.listeners address with
  | starting => exact ⟨.listen address (some []), rfl, _, if_pos phase⟩
  | failed err =>
      have room : run.errCh.length < addresses := by
        have collected := sound.collected.length_eq
        have bound := length_reports_lt addrs going
        rw [← collected, List.length_append] at bound
        omega
      refine ⟨.report address, rfl, { run.move address (.returned (some err)) with
        errCh := run.errCh ++ [listenError (addrs address) err] }, ?_⟩
      rw [ServerRun.step, phase]
      exact if_pos room
  | accepting =>
      rcases ends with cancelled | ⟨_, quiet⟩
      · exact ⟨.close address, rfl, _, if_pos ⟨phase, cancelled⟩⟩
      · exact absurd phase (quiet address)
  | closed => exact ⟨.leave address, rfl, _, if_pos phase⟩
  | returned err =>
      rw [phase] at going
      cases going

/-- When all of them have returned, `Run` can go on. -/
theorem Sound.exists_closer_of_ended (sound : Sound addrs run) (ends : run.Ends)
    (ended : run.AllReturned) (unfinished : forall err, run.phase ≠ .returned err) :
    Exists fun label => label.ends = true ∧ Exists fun next =>
      ServerRun.step addrs run label = some next := by
  cases closed : run.errChClosed with
  | false => exact ⟨.closeErrCh, rfl, _, if_pos ⟨ended, closed⟩⟩
  | true =>
      cases phase : run.phase with
      | collecting =>
          cases channel : run.errCh with
          | nil => exact ⟨.endLoop, rfl, _, if_pos ⟨phase, channel, closed⟩⟩
          | cons err rest =>
              refine ⟨.receive, rfl, { run with
                errCh := rest, startupErrors := run.startupErrors ++ [err] }, ?_⟩
              rw [ServerRun.step, channel]
              exact if_pos phase
      | waiting =>
          have fits := sound.phase
          rw [phase] at fits
          have cancelled : run.cancelled = true := by
            rcases ends with cancelled | ⟨some_address, _⟩
            · exact cancelled
            · have silent := returned_of_silent ended (sound.silent fits.2.1 fits.2.2)
              exact sound.stopped ⟨0, some_address⟩ (Or.inr (silent ⟨0, some_address⟩))
          exact ⟨.finish, rfl, _, if_pos ⟨phase, cancelled⟩⟩
      | returned err => exact absurd phase (unfinished err)

theorem Sound.exists_closer (sound : Sound addrs run) (ends : run.Ends)
    (unfinished : ¬ Exists fun err => run.phase = .returned err) :
    Exists fun label => label.ends = true ∧ Exists fun next =>
      ServerRun.step addrs run label = some next := by
  by_cases ended : run.AllReturned
  · exact sound.exists_closer_of_ended ends ended fun err returned => unfinished ⟨err, returned⟩
  · rcases not_forall.mp ended with ⟨address, going⟩
    exact sound.exists_closer_of_going ends (Bool.eq_false_iff.mpr going)

theorem Sound.canReturn (sound : Sound addrs run) (ends : run.Ends) : run.CanReturn addrs := by
  have progress : forall run : ServerRun addresses, Sound addrs run ∧ run.Ends ->
      ¬ (Exists fun err => run.phase = .returned err) -> Exists fun next =>
        Reaches (restrict Label.goesOn (ServerRun.step addrs)) run next ∧
          (Sound addrs next ∧ next.Ends) ∧ next.remaining < run.remaining := by
    rintro run ⟨sound, ends⟩ unfinished
    rcases sound.exists_closer ends unfinished with ⟨label, closer, next, taken⟩
    have works := Label.works_of_ends closer
    have goes := Label.goesOn_of_works works
    exact ⟨next, Reaches.single (restrict_eq_some.mpr ⟨goes, taken⟩),
      ⟨Sound.step sound taken, ends.step closer taken⟩, remaining_lt_of_step works taken⟩
  rcases exists_arrival (measure remaining).wf progress ⟨sound, ends⟩ with
    ⟨next, reached, _, err, returned⟩
  exact ⟨next, err, reached, returned⟩

theorem ends_of_reaches (reached : Reaches (restrict Label.goesOn (ServerRun.step addrs)) run next)
    (ends : next.Ends) : run.Ends := by
  have kept : forall (before : ServerRun addresses) label after,
      restrict Label.goesOn (ServerRun.step addrs) before label = some after ->
        ¬ before.Ends -> ¬ after.Ends := by
    intro before label after taken unended ended
    rcases restrict_eq_some.mp taken with ⟨goes, taken⟩
    exact unended (ends_of_step goes taken ended)
  by_contra unended
  exact invariant_of_reaches kept unended reached ends

/-- When a stopped server can go no further, `Run` has returned. -/
theorem Sound.returned_of_stuck (sound : Sound addrs run) (cancelled : run.cancelled = true)
    (stuck : forall label, label.works = true -> ServerRun.step addrs run label = none) :
    Exists fun err => run.phase = .returned err := by
  by_contra unfinished
  rcases sound.exists_closer (Or.inl cancelled) unfinished with ⟨label, closer, next, taken⟩
  rw [stuck label (Label.works_of_ends closer)] at taken
  cases taken

/-- In every run, what `Run` returns is complete: all errors of all addresses, or none
after the server was stopped.  It can return just when the server is stopped or no
address works: one that does holds the errors of the others back.  And once the server
is stopped it does return, whichever goroutine goes on first. -/
theorem run_returns (reached : Reaches (ServerRun.step addrs) start run) :
    (forall err, run.phase = .returned err -> run.ResultFits addrs err) ∧
      (run.CanReturn addrs ↔ run.cancelled = true ∨
        0 < addresses ∧ forall address, run.listeners address ≠ .accepting) ∧
      (run.cancelled = true -> forall labels next,
        (forall label, label ∈ labels -> label.works = true) ->
          Transition.run (ServerRun.step addrs) run labels = some next ->
            labels.length ≤ run.remaining ∧
              ((forall label, label.works = true -> ServerRun.step addrs next label = none) ->
                Exists fun err => next.phase = .returned err)) := by
  have sound := sound_of_reaches reached
  refine ⟨fun err returned => sound.resultFits returned, ⟨?_, sound.canReturn⟩, ?_⟩
  · rintro ⟨next, err, further, returned⟩
    have reached_next := reached.trans (reaches_of_restrict further)
    exact ends_of_reaches further ((sound_of_reaches reached_next).ends returned)
  · intro cancelled labels next working executed
    have kept : next.cancelled = true := invariant_of_reaches
      (fun _ _ _ taken cancelled => cancelled_of_step cancelled taken) cancelled ⟨labels, executed⟩
    have sound_next := sound_of_reaches (reached.trans ⟨labels, executed⟩)
    have bound := length_le_remaining working executed
    exact ⟨Nat.le_of_add_right_le bound, sound_next.returned_of_stuck kept⟩

/-! ## One address of two works -/

def sampleAddrs : Fin 2 -> Bytes := fun address =>
  if address = 0 then bytes "0.0.0.0:6809" else bytes "192.0.2.1:6809"

/-- The second address is not one of this host. -/
def heldBack : ServerRun 2 :=
  ((Transition.run (step sampleAddrs) start
    [.listen 0 none, .listen 1 (some (bytes "cannot assign requested address")), .report 1,
      .receive, .accept 0 true]).getD start)

theorem run_returns_heldBack :
    heldBack.startupErrors = [bytes
        "failed to listen on 192.0.2.1:6809: cannot assign requested address"] ∧
      ¬ heldBack.CanReturn sampleAddrs := by
  have reached : Reaches (ServerRun.step sampleAddrs) start heldBack :=
    ⟨[.listen 0 none, .listen 1 (some (bytes "cannot assign requested address")), .report 1,
      .receive, .accept 0 true], rfl⟩
  refine ⟨by decide +kernel, ?_⟩
  rw [(run_returns reached).2.1]
  rintro (impossible | ⟨_, quiet⟩)
  · exact absurd impossible (by decide +kernel)
  · exact absurd (quiet 0) (by decide +kernel)

end ServerRun
end Fsd
end OpenFsd
