import OpenFsd.Fsd.Traffic
import OpenFsd.Fsd.Handler

namespace OpenFsd
namespace Fsd

open Transition

/-!
# The packets of one client

A `send` puts its packet into the channel, or finds the context cancelled.
The worker takes the packets from the channel, one at a time, and writes them,
until a write fails or it finds the context cancelled.  Where both cases of a
`select` are ready, either may be taken.  The connection is closed by the worker
when it is through, and by `handleConn` when that is.

The outbox keeps all packets that were ever in the channel, in their order; the
channel has those that the worker has not taken yet.  A packet is promised when
its `send` has returned before the context is cancelled.
-/

/-- Where `senderWorker` is. -/
inductive Outbox.Worker
  | absent
  | selecting
  /-- In `conn.Write`, with what is left of the packet. -/
  | writing (rest : Bytes)
  | ended
  deriving DecidableEq

/-- Where `handleConn` is, from the registration on. -/
inductive Outbox.Conn
  | greeting
  | looping
  | left
  | gone
  deriving DecidableEq

structure Outbox where
  /-- The packets that have been put into the channel. -/
  queued : List Bytes
  /-- How many of them the worker has taken. -/
  taken : Nat
  /-- How many of them are written. -/
  written : Nat
  /-- What the worker has written to the socket. -/
  socket : Bytes
  worker : Outbox.Worker
  conn : Outbox.Conn
  cancelled : Bool
  closed : Bool
  writeFailed : Bool
  /-- The packets whose `send` has returned. -/
  returned : List Nat
  /-- Those of them for which the context was live. -/
  promised : List Nat

namespace Outbox

inductive Move
  /-- The two cases of the `select` in `Client.send`. -/
  | queue (packet : Bytes)
  | refuse
  /-- `send` returns to its caller, without an error. -/
  | ret (index : Nat)
  /-- `handleConn` starts the worker, or cannot write the welcome message. -/
  | start
  | greetingFails
  /-- The event loop ends, and `handleConn` closes the connection. -/
  | leave
  | close
  /-- The two cases of the `select` in `senderWorker`. -/
  | take
  | done
  /-- The socket accepts some bytes, or `conn.Write` returns an error. -/
  | write (count : Nat)
  | fail
  /-- Anyone cancels the context. -/
  | cancel

/-- The deferred calls of `senderWorker`, which writes nothing after it has
left its loop. -/
def quit (outbox : Outbox) : Outbox :=
  { outbox with worker := .ended, cancelled := true, closed := true }

/-- The socket has accepted some bytes of the packet in the worker's hand. -/
def wrote (outbox : Outbox) (rest : Bytes) (count : Nat) : Outbox :=
  let written := { outbox with socket := outbox.socket ++ rest.take count }
  if rest.drop count = [] then
    { written with worker := .selecting, written := outbox.written + 1 }
  else { written with worker := .writing (rest.drop count) }

/-- A `send` has returned. -/
def returns (outbox : Outbox) (index : Nat) : Outbox :=
  { outbox with
    returned := index :: outbox.returned
    promised := if outbox.cancelled then outbox.promised else index :: outbox.promised }

/-- The transition function. -/
def step (outbox : Outbox) : Move -> Option Outbox
  | .queue packet =>
      if outbox.queued.length < outbox.taken + sendChanCapacity then
        some { outbox with queued := outbox.queued ++ [packet] }
      else none
  | .refuse => if outbox.cancelled then some outbox else none
  | .ret index =>
      if index < outbox.queued.length ∧ index ∉ outbox.returned then some (outbox.returns index)
      else none
  | .start =>
      if outbox.conn = .greeting then some { outbox with worker := .selecting, conn := .looping }
      else none
  | .greetingFails =>
      if outbox.conn = .greeting then some { outbox with conn := .left, writeFailed := true }
      else none
  | .leave =>
      if outbox.conn = .looping then some { outbox with conn := .left, cancelled := true } else none
  | .close =>
      if outbox.conn = .left then some { outbox with conn := .gone, closed := true } else none
  | .take =>
      if outbox.worker = .selecting then
        outbox.queued[outbox.taken]?.map fun packet =>
          { outbox with worker := .writing packet, taken := outbox.taken + 1 }
      else none
  | .done =>
      if outbox.worker = .selecting ∧ outbox.cancelled = true then some outbox.quit else none
  | .write count =>
      match outbox.worker with
      | .writing rest =>
          if count ≤ rest.length ∧ outbox.closed = false then some (outbox.wrote rest count)
          else none
      | _ => none
  | .fail =>
      match outbox.worker with
      | .writing _ => some { outbox.quit with writeFailed := true }
      | _ => none
  | .cancel => some { outbox with cancelled := true }

/-- The client is registered, and nothing has been sent to it. -/
def registered : Outbox where
  queued := []
  taken := 0
  written := 0
  socket := []
  worker := .absent
  conn := .greeting
  cancelled := false
  closed := false
  writeFailed := false
  returned := []
  promised := []

/-- No promised packet is in the channel or in the worker's hand. -/
def NothingOutstanding (outbox : Outbox) : Prop :=
  forall index, index ∈ outbox.promised -> index < outbox.written

/-- What the worker has written is a prefix of the packets in the order of
their queueing, the first packets are written entirely, and the promised ones
are among these when the connection is closed, unless a write has failed. -/
structure Delivers (outbox : Outbox) : Prop where
  inOrder : outbox.socket <+: outbox.queued.flatten
  written : (outbox.queued.take outbox.written).flatten <+: outbox.socket
  kept : outbox.closed = true -> outbox.writeFailed = false -> outbox.NothingOutstanding

/-- Once the context is cancelled, the packets are delivered whatever the order
of the steps that follow. -/
structure DeliversOnward (outbox : Outbox) : Prop where
  delivers : outbox.Delivers
  onward : outbox.cancelled = true -> forall later, Reaches step outbox later -> later.Delivers

/-- The step does not cancel the context while a promised packet is
outstanding. -/
def CancelsInTime (outbox : Outbox) : Move -> Prop
  | .cancel => outbox.cancelled = false -> outbox.writeFailed = false -> outbox.NothingOutstanding
  | .leave => outbox.conn = .looping -> outbox.cancelled = false -> outbox.writeFailed = false ->
      outbox.NothingOutstanding
  | _ => True

/-! ## What one move does -/

inductive Stepped (outbox : Outbox) : Move -> Outbox -> Prop
  | queued (packet : Bytes) (room : outbox.queued.length < outbox.taken + sendChanCapacity) :
      Stepped outbox (.queue packet) { outbox with queued := outbox.queued ++ [packet] }
  | refused (ended : outbox.cancelled = true) : Stepped outbox .refuse outbox
  | returned (index : Nat) (below : index < outbox.queued.length)
      (first : index ∉ outbox.returned) : Stepped outbox (.ret index) (outbox.returns index)
  | started (greeting : outbox.conn = .greeting) :
      Stepped outbox .start { outbox with worker := .selecting, conn := .looping }
  | greetingFailed (greeting : outbox.conn = .greeting) :
      Stepped outbox .greetingFails { outbox with conn := .left, writeFailed := true }
  | left (looping : outbox.conn = .looping) :
      Stepped outbox .leave { outbox with conn := .left, cancelled := true }
  | closed (left : outbox.conn = .left) :
      Stepped outbox .close { outbox with conn := .gone, closed := true }
  | taken (packet : Bytes) (selecting : outbox.worker = .selecting)
      (found : outbox.queued[outbox.taken]? = some packet) :
      Stepped outbox .take { outbox with worker := .writing packet, taken := outbox.taken + 1 }
  | done (selecting : outbox.worker = .selecting) (ended : outbox.cancelled = true) :
      Stepped outbox .done outbox.quit
  | wrote (rest : Bytes) (count : Nat) (writing : outbox.worker = .writing rest)
      (within : count ≤ rest.length) (isOpen : outbox.closed = false) :
      Stepped outbox (.write count) (outbox.wrote rest count)
  | failed (rest : Bytes) (writing : outbox.worker = .writing rest) :
      Stepped outbox .fail { outbox.quit with writeFailed := true }
  | cancelled : Stepped outbox .cancel { outbox with cancelled := true }

theorem stepped_of_step {outbox next : Outbox} {move : Move}
    (taken : step outbox move = some next) : Stepped outbox move next := by
  cases move with
  | queue packet =>
      rcases Option.ite_none_right_eq_some.mp taken with ⟨room, same⟩
      rw [← Option.some.inj same]
      exact .queued packet room
  | refuse =>
      rcases Option.ite_none_right_eq_some.mp taken with ⟨ended, same⟩
      rw [← Option.some.inj same]
      exact .refused ended
  | ret index =>
      rcases Option.ite_none_right_eq_some.mp taken with ⟨⟨below, first⟩, same⟩
      rw [← Option.some.inj same]
      exact .returned index below first
  | start =>
      rcases Option.ite_none_right_eq_some.mp taken with ⟨greeting, same⟩
      rw [← Option.some.inj same]
      exact .started greeting
  | greetingFails =>
      rcases Option.ite_none_right_eq_some.mp taken with ⟨greeting, same⟩
      rw [← Option.some.inj same]
      exact .greetingFailed greeting
  | leave =>
      rcases Option.ite_none_right_eq_some.mp taken with ⟨looping, same⟩
      rw [← Option.some.inj same]
      exact .left looping
  | close =>
      rcases Option.ite_none_right_eq_some.mp taken with ⟨left, same⟩
      rw [← Option.some.inj same]
      exact .closed left
  | take =>
      rcases Option.ite_none_right_eq_some.mp taken with ⟨selecting, mapped⟩
      rcases Option.map_eq_some_iff.mp mapped with ⟨packet, found, same⟩
      rw [← same]
      exact .taken packet selecting found
  | done =>
      rcases Option.ite_none_right_eq_some.mp taken with ⟨⟨selecting, ended⟩, same⟩
      rw [← Option.some.inj same]
      exact .done selecting ended
  | write count =>
      rw [step] at taken
      split at taken
      · next rest writing =>
          rcases Option.ite_none_right_eq_some.mp taken with ⟨⟨within, isOpen⟩, same⟩
          rw [← Option.some.inj same]
          exact .wrote rest count writing within isOpen
      · cases taken
  | fail =>
      rw [step] at taken
      split at taken
      · next rest writing =>
          rw [← Option.some.inj taken]
          exact .failed rest writing
      · cases taken
  | cancel =>
      rw [← Option.some.inj taken]
      exact .cancelled

/-! ## What the worker has in its hand -/

/-- How far the worker has come. -/
def Progress (outbox : Outbox) : Prop :=
  match outbox.worker with
  | .absent => outbox.taken = 0 ∧ outbox.socket = []
  | .selecting =>
      outbox.written = outbox.taken ∧
        outbox.socket = (outbox.queued.take outbox.taken).flatten
  | .writing rest =>
      outbox.written + 1 = outbox.taken ∧
        outbox.socket ++ rest = (outbox.queued.take outbox.taken).flatten
  | .ended => outbox.socket <+: (outbox.queued.take outbox.taken).flatten

/-- The socket has the written packets, and nothing of those in the channel. -/
structure Ordered (outbox : Outbox) : Prop where
  taken : outbox.taken ≤ outbox.queued.length
  written : outbox.written ≤ outbox.taken
  reached : (outbox.queued.take outbox.written).flatten <+: outbox.socket
  progress : outbox.Progress

/-- The worker is started with the event loop, and the connection is closed by
the end of the worker or of `handleConn`, and not before the context is
cancelled or a write has failed. -/
structure Controlled (outbox : Outbox) : Prop where
  greeting : outbox.conn = .greeting -> outbox.worker = .absent
  absent : outbox.worker = .absent -> outbox.conn = .greeting ∨ outbox.writeFailed = true
  left : outbox.conn = .left -> outbox.cancelled = true ∨ outbox.writeFailed = true
  closed : outbox.closed = true -> outbox.cancelled = true ∨ outbox.writeFailed = true
  ended : outbox.worker = .ended -> outbox.closed = true
  gone : outbox.conn = .gone -> outbox.closed = true

theorem Ordered.within {outbox : Outbox} (ordered : outbox.Ordered) :
    outbox.socket <+: (outbox.queued.take outbox.taken).flatten := by
  have progress := ordered.progress
  unfold Progress at progress
  cases worker : outbox.worker with
  | absent =>
      rw [worker] at progress
      rw [progress.2]
      exact List.nil_prefix
  | selecting =>
      rw [worker] at progress
      rw [progress.2]
  | writing rest =>
      rw [worker] at progress
      rw [← progress.2]
      exact List.prefix_append _ _
  | ended =>
      rw [worker] at progress
      exact progress

/-- The bytes are written in the order in which the packets were queued. -/
theorem Ordered.inOrder {outbox : Outbox} (ordered : outbox.Ordered) :
    outbox.socket <+: outbox.queued.flatten :=
  ordered.within.trans (List.take_prefix outbox.taken outbox.queued).flatten

theorem Ordered.queue {outbox : Outbox} (ordered : outbox.Ordered) (packet : Bytes) :
    Ordered { outbox with queued := outbox.queued ++ [packet] } := by
  have kept : forall count, count ≤ outbox.taken ->
      (outbox.queued ++ [packet]).take count = outbox.queued.take count := by
    intro count bound
    exact List.take_append_of_le_length (bound.trans ordered.taken)
  have progress := ordered.progress
  constructor
  · have taken := ordered.taken
    simp only [List.length_append]
    omega
  · exact ordered.written
  · simpa only [kept outbox.written ordered.written] using ordered.reached
  · unfold Progress at progress ⊢
    simpa only [kept outbox.taken (Nat.le_refl _)] using progress

theorem Ordered.take {outbox : Outbox} (ordered : outbox.Ordered) {packet : Bytes}
    (selecting : outbox.worker = .selecting) (found : outbox.queued[outbox.taken]? = some packet) :
    Ordered { outbox with worker := .writing packet, taken := outbox.taken + 1 } := by
  have progress := ordered.progress
  unfold Progress at progress
  rw [selecting] at progress
  rcases progress with ⟨all, socket⟩
  constructor
  · exact (List.getElem?_eq_some_iff.mp found).1
  · exact Nat.le_succ_of_le ordered.written
  · exact ordered.reached
  · refine ⟨congrArg (· + 1) all, ?_⟩
    show outbox.socket ++ packet = (outbox.queued.take (outbox.taken + 1)).flatten
    rw [List.take_add_one, found, List.flatten_append, socket]
    simp only [Option.toList_some, List.flatten_cons, List.flatten_nil, List.append_nil]

theorem Ordered.wrote {outbox : Outbox} (ordered : outbox.Ordered) {rest : Bytes}
    (writing : outbox.worker = .writing rest) (count : Nat) :
    (outbox.wrote rest count).Ordered := by
  have progress := ordered.progress
  unfold Progress at progress
  rw [writing] at progress
  rcases progress with ⟨inHand, socket⟩
  have split : (outbox.socket ++ rest.take count) ++ rest.drop count =
      (outbox.queued.take outbox.taken).flatten := by
    rw [List.append_assoc, List.take_append_drop, socket]
  have further : (outbox.queued.take outbox.written).flatten <+: outbox.socket ++ rest.take count :=
    ordered.reached.trans (List.prefix_append _ _)
  unfold Outbox.wrote
  by_cases through : rest.drop count = []
  · rw [if_pos through]
    rw [through, List.append_nil] at split
    refine ⟨ordered.taken, Nat.le_of_eq inHand, ?_, inHand, split⟩
    show (outbox.queued.take (outbox.written + 1)).flatten <+: outbox.socket ++ rest.take count
    rw [inHand, split]
  · rw [if_neg through]
    exact ⟨ordered.taken, ordered.written, further, inHand, split⟩

theorem Ordered.quit {outbox : Outbox} (ordered : outbox.Ordered) : outbox.quit.Ordered :=
  ⟨ordered.taken, ordered.written, ordered.reached, ordered.within⟩

/-- Nothing but the worker's progress depends on the worker and the channel. -/
theorem Ordered.of_eq {outbox next : Outbox} (ordered : outbox.Ordered)
    (queued : next.queued = outbox.queued) (taken : next.taken = outbox.taken)
    (written : next.written = outbox.written) (socket : next.socket = outbox.socket)
    (worker : next.worker = outbox.worker) : next.Ordered := by
  rcases ordered with ⟨takenBound, writtenBound, reached, progress⟩
  unfold Progress at progress
  rw [← queued, ← taken, ← written, ← socket, ← worker] at *
  exact ⟨takenBound, writtenBound, reached, progress⟩

theorem Ordered.start {outbox : Outbox} (ordered : outbox.Ordered)
    (absent : outbox.worker = .absent) :
    Ordered { outbox with worker := .selecting, conn := .looping } := by
  have progress := ordered.progress
  have written := ordered.written
  unfold Progress at progress
  rw [absent] at progress
  rcases progress with ⟨nothing, silent⟩
  refine ⟨ordered.taken, written, ordered.reached, ?_, ?_⟩
  · show outbox.written = outbox.taken
    omega
  · show outbox.socket = (outbox.queued.take outbox.taken).flatten
    rw [nothing, silent]
    rfl

theorem Ordered.step {outbox next : Outbox} {move : Move} (ordered : outbox.Ordered)
    (controlled : outbox.Controlled) (taken : Outbox.step outbox move = some next) :
    next.Ordered := by
  cases stepped_of_step taken with
  | queued packet room => exact ordered.queue packet
  | refused ended => exact ordered
  | returned index below first => exact ordered.of_eq rfl rfl rfl rfl rfl
  | started greeting => exact ordered.start (controlled.greeting greeting)
  | greetingFailed greeting => exact ordered.of_eq rfl rfl rfl rfl rfl
  | left looping => exact ordered.of_eq rfl rfl rfl rfl rfl
  | closed left => exact ordered.of_eq rfl rfl rfl rfl rfl
  | taken packet selecting found => exact ordered.take selecting found
  | done selecting ended => exact ordered.quit
  | wrote rest count writing within isOpen => exact ordered.wrote writing count
  | failed rest writing => exact ordered.quit.of_eq rfl rfl rfl rfl rfl
  | cancelled => exact ordered.of_eq rfl rfl rfl rfl rfl

@[simp] theorem wrote_conn (outbox : Outbox) (rest : Bytes) (count : Nat) :
    (outbox.wrote rest count).conn = outbox.conn := by
  unfold wrote
  split <;> rfl

@[simp] theorem wrote_cancelled (outbox : Outbox) (rest : Bytes) (count : Nat) :
    (outbox.wrote rest count).cancelled = outbox.cancelled := by
  unfold wrote
  split <;> rfl

@[simp] theorem wrote_closed (outbox : Outbox) (rest : Bytes) (count : Nat) :
    (outbox.wrote rest count).closed = outbox.closed := by
  unfold wrote
  split <;> rfl

@[simp] theorem wrote_writeFailed (outbox : Outbox) (rest : Bytes) (count : Nat) :
    (outbox.wrote rest count).writeFailed = outbox.writeFailed := by
  unfold wrote
  split <;> rfl

@[simp] theorem wrote_promised (outbox : Outbox) (rest : Bytes) (count : Nat) :
    (outbox.wrote rest count).promised = outbox.promised := by
  unfold wrote
  split <;> rfl

theorem wrote_written (outbox : Outbox) (rest : Bytes) (count : Nat) :
    outbox.written ≤ (outbox.wrote rest count).written := by
  unfold wrote
  split
  · exact Nat.le_succ _
  · exact Nat.le_refl _

theorem wrote_worker (outbox : Outbox) (rest : Bytes) (count : Nat) :
    (outbox.wrote rest count).worker = .selecting ∨
      Exists fun more => (outbox.wrote rest count).worker = .writing more := by
  unfold wrote
  split
  · exact Or.inl rfl
  · exact Or.inr ⟨_, rfl⟩

/-- A worker that has something to do is not absent. -/
theorem not_greeting {outbox : Outbox}
    (absent : outbox.conn = .greeting -> outbox.worker = .absent)
    {worker : Worker} (now : outbox.worker = worker) (present : worker ≠ .absent) :
    outbox.conn ≠ .greeting := by
  intro greeting
  exact present (now.symm.trans (absent greeting))

theorem Controlled.step {outbox next : Outbox} {move : Move} (controlled : outbox.Controlled)
    (taken : Outbox.step outbox move = some next) : next.Controlled := by
  rcases controlled with ⟨greeting, absent, left, closed, ended, gone⟩
  cases stepped_of_step taken with
  | queued packet room => exact ⟨greeting, absent, left, closed, ended, gone⟩
  | refused cancelled => exact ⟨greeting, absent, left, closed, ended, gone⟩
  | returned index below first => exact ⟨greeting, absent, left, closed, ended, gone⟩
  | started waiting => exact ⟨nofun, nofun, nofun, closed, nofun, nofun⟩
  | greetingFailed waiting =>
      exact ⟨nofun, fun _ => Or.inr rfl, fun _ => Or.inr rfl, fun _ => Or.inr rfl, ended, nofun⟩
  | left looping =>
      refine ⟨nofun, ?_, fun _ => Or.inl rfl, fun _ => Or.inl rfl, ended, nofun⟩
      intro missing
      rcases absent missing with waiting | failed
      · cases looping.symm.trans waiting
      · exact Or.inr failed
  | closed leaving =>
      refine ⟨nofun, ?_, nofun, fun _ => left leaving, fun _ => rfl, fun _ => rfl⟩
      intro missing
      rcases absent missing with waiting | failed
      · cases leaving.symm.trans waiting
      · exact Or.inr failed
  | taken packet selecting found =>
      have working := not_greeting greeting selecting nofun
      exact ⟨fun waiting => absurd waiting working, nofun, left, closed, nofun, gone⟩
  | done selecting ended =>
      have working := not_greeting greeting selecting nofun
      exact ⟨fun waiting => absurd waiting working, nofun, fun _ => Or.inl rfl,
        fun _ => Or.inl rfl, fun _ => rfl, fun _ => rfl⟩
  | wrote rest count writing within isOpen =>
      have working := not_greeting greeting writing nofun
      rcases wrote_worker outbox rest count with selecting | ⟨more, inHand⟩
      · constructor
        · intro waiting
          rw [wrote_conn] at waiting
          exact absurd waiting working
        · rw [selecting]
          exact nofun
        · simpa using left
        · simpa using closed
        · rw [selecting]
          exact nofun
        · simpa using gone
      · constructor
        · intro waiting
          rw [wrote_conn] at waiting
          exact absurd waiting working
        · rw [inHand]
          exact nofun
        · simpa using left
        · simpa using closed
        · rw [inHand]
          exact nofun
        · simpa using gone
  | failed rest writing =>
      have working := not_greeting greeting writing nofun
      exact ⟨fun waiting => absurd waiting working, nofun, fun _ => Or.inl rfl,
        fun _ => Or.inl rfl, fun _ => rfl, fun _ => rfl⟩
  | cancelled => exact ⟨greeting, absent, fun _ => Or.inl rfl, fun _ => Or.inl rfl, ended, gone⟩

/-! ## Promises -/

theorem Ordered.delivers_iff {outbox : Outbox} (ordered : outbox.Ordered) :
    outbox.Delivers ↔
      (outbox.closed = true -> outbox.writeFailed = false -> outbox.NothingOutstanding) :=
  ⟨Delivers.kept, fun kept => ⟨ordered.inOrder, ordered.reached, kept⟩⟩

/-- While the context is live the connection is open, or a write has failed. -/
theorem delivers_of_live {outbox : Outbox} (ordered : outbox.Ordered)
    (controlled : outbox.Controlled) (live : outbox.cancelled = false) : outbox.Delivers := by
  apply ordered.delivers_iff.mpr
  intro closed noFailure
  rcases controlled.closed closed with ended | failed
  · cases live.symm.trans ended
  · cases noFailure.symm.trans failed

/-- The context is cancelled, and nothing that was promised can be lost. -/
structure Settled (outbox : Outbox) : Prop where
  ended : outbox.cancelled = true
  safe : outbox.writeFailed = true ∨ outbox.NothingOutstanding

theorem Settled.of_eq {outbox next : Outbox} (settled : outbox.Settled)
    (cancelled : next.cancelled = true) (promised : next.promised = outbox.promised)
    (written : outbox.written ≤ next.written)
    (failed : outbox.writeFailed = true -> next.writeFailed = true) : next.Settled := by
  refine ⟨cancelled, ?_⟩
  rcases settled.safe with already | nothing
  · exact Or.inl (failed already)
  · apply Or.inr
    intro index member
    rw [promised] at member
    exact Nat.lt_of_lt_of_le (nothing index member) written

/-- After the cancellation nothing more is promised, and nothing is unwritten. -/
theorem Settled.step {outbox next : Outbox} {move : Move} (settled : outbox.Settled)
    (taken : Outbox.step outbox move = some next) : next.Settled := by
  have ended := settled.ended
  cases stepped_of_step taken with
  | queued packet room => exact settled.of_eq ended rfl (Nat.le_refl _) fun failed => failed
  | refused _ => exact settled
  | returned index below first =>
      exact settled.of_eq ended (if_pos ended) (Nat.le_refl _) fun failed => failed
  | started waiting => exact settled.of_eq ended rfl (Nat.le_refl _) fun failed => failed
  | greetingFailed waiting => exact settled.of_eq ended rfl (Nat.le_refl _) fun _ => rfl
  | left looping => exact settled.of_eq rfl rfl (Nat.le_refl _) fun failed => failed
  | closed leaving => exact settled.of_eq ended rfl (Nat.le_refl _) fun failed => failed
  | taken packet selecting found =>
      exact settled.of_eq ended rfl (Nat.le_refl _) fun failed => failed
  | done selecting _ => exact settled.of_eq rfl rfl (Nat.le_refl _) fun failed => failed
  | wrote rest count writing within isOpen =>
      apply settled.of_eq
      · rw [wrote_cancelled]
        exact ended
      · exact wrote_promised outbox rest count
      · exact wrote_written outbox rest count
      · rw [wrote_writeFailed]
        exact fun failed => failed
  | failed rest writing => exact settled.of_eq rfl rfl (Nat.le_refl _) fun _ => rfl
  | cancelled => exact settled.of_eq rfl rfl (Nat.le_refl _) fun failed => failed

/-- What is outstanding at the cancellation can be lost: the worker's select
takes the other case, or `handleConn` closes the connection on the packet that
the worker is writing. -/
theorem exists_loss {outbox : Outbox} (controlled : outbox.Controlled)
    (ended : outbox.cancelled = true) (noFailure : outbox.writeFailed = false)
    (outstanding : ¬ outbox.NothingOutstanding) :
    Exists fun later => Reaches step outbox later ∧ ¬ later.Delivers := by
  have lost : forall later : Outbox, later.closed = true ->
      later.writeFailed = outbox.writeFailed -> later.promised = outbox.promised ->
      later.written = outbox.written -> ¬ later.Delivers := by
    intro later closed failed promised written delivers
    apply outstanding
    intro index member
    rw [← written]
    exact delivers.kept closed (failed.trans noFailure) index (promised ▸ member)
  cases worker : outbox.worker with
  | absent =>
      rcases controlled.absent worker with waiting | failed
      · let begun : Outbox := { outbox with worker := .selecting, conn := .looping }
        have started : step outbox .start = some begun := if_pos waiting
        have turned : step begun .done = some begun.quit := if_pos ⟨rfl, ended⟩
        exact ⟨begun.quit, (Reaches.single started).tail turned, lost _ rfl rfl rfl rfl⟩
      · cases noFailure.symm.trans failed
  | selecting =>
      have turned : step outbox .done = some outbox.quit := if_pos ⟨worker, ended⟩
      exact ⟨outbox.quit, Reaches.single turned, lost _ rfl rfl rfl rfl⟩
  | writing rest =>
      have working := not_greeting controlled.greeting worker nofun
      cases place : outbox.conn with
      | greeting => exact absurd place working
      | looping =>
          let leaving : Outbox := { outbox with conn := .left, cancelled := true }
          have left : step outbox .leave = some leaving := if_pos place
          have closed : step leaving .close = some { leaving with conn := .gone, closed := true } :=
            rfl
          exact ⟨_, (Reaches.single left).tail closed, lost _ rfl rfl rfl rfl⟩
      | left =>
          have closed : step outbox .close = some { outbox with conn := .gone, closed := true } :=
            if_pos place
          exact ⟨_, Reaches.single closed, lost _ rfl rfl rfl rfl⟩
      | gone => exact ⟨outbox, Reaches.refl _, lost _ (controlled.gone place) rfl rfl rfl⟩
  | ended => exact ⟨outbox, Reaches.refl _, lost _ (controlled.ended worker) rfl rfl rfl⟩

theorem preserved {outbox next : Outbox} {move : Move} (taken : step outbox move = some next)
    (held : outbox.Ordered ∧ outbox.Controlled) : next.Ordered ∧ next.Controlled :=
  ⟨held.1.step held.2 taken, held.2.step taken⟩

/-- A cancelled context delivers whatever follows, exactly if nothing that was
promised is outstanding or a write has failed. -/
theorem deliversOnward_iff {outbox : Outbox} (held : outbox.Ordered ∧ outbox.Controlled)
    (ended : outbox.cancelled = true) :
    outbox.DeliversOnward ↔ (outbox.writeFailed = false -> outbox.NothingOutstanding) := by
  constructor
  · intro delivers noFailure
    by_contra outstanding
    rcases exists_loss held.2 ended noFailure outstanding with ⟨later, reached, loss⟩
    exact loss (delivers.onward ended later reached)
  · intro nothing
    have settled : outbox.Settled := by
      refine ⟨ended, ?_⟩
      cases noFailure : outbox.writeFailed with
      | true => exact Or.inl rfl
      | false => exact Or.inr (nothing noFailure)
    have onward : forall later, Reaches step outbox later -> later.Delivers := by
      intro later reached
      have kept := invariant_of_reaches
        (fun _ _ _ taken (both : (_ ∧ _) ∧ Settled _) =>
          And.intro (preserved taken both.1) (both.2.step taken)) ⟨held, settled⟩ reached
      apply kept.1.1.delivers_iff.mpr
      intro _ noFailure
      rcases kept.2.safe with failed | nothing
      · cases noFailure.symm.trans failed
      · exact nothing
    exact ⟨onward outbox (Reaches.refl outbox), fun _ => onward⟩

/-- The step that cancels the context is where the packets are lost or kept. -/
theorem cancelsInTime_iff {outbox next : Outbox} {move : Move}
    (held : outbox.Ordered ∧ outbox.Controlled) (taken : step outbox move = some next)
    (delivers : outbox.DeliversOnward) : outbox.CancelsInTime move ↔ next.DeliversOnward := by
  have after := preserved taken held
  cases live : outbox.cancelled with
  | true =>
      have onward : next.DeliversOnward :=
        ⟨delivers.onward live next (Reaches.single taken),
          fun _ later reached => delivers.onward live later ((Reaches.single taken).trans reached)⟩
      refine iff_of_true ?_ onward
      unfold CancelsInTime
      rw [live]
      cases move <;> first
        | exact True.intro
        | exact nofun
  | false =>
      have still : next.cancelled = false -> next.DeliversOnward := by
        intro stillLive
        refine ⟨delivers_of_live after.1 after.2 stillLive, ?_⟩
        rw [stillLive]
        exact nofun
      cases stepped_of_step taken with
      | queued packet room => exact iff_of_true True.intro (still live)
      | refused ended => cases live.symm.trans ended
      | returned index below first => exact iff_of_true True.intro (still live)
      | started waiting => exact iff_of_true True.intro (still live)
      | greetingFailed waiting => exact iff_of_true True.intro (still live)
      | left looping =>
          rw [deliversOnward_iff after rfl]
          exact ⟨fun condition => condition looping live, fun nothing _ _ => nothing⟩
      | closed leaving => exact iff_of_true True.intro (still live)
      | taken packet selecting found => exact iff_of_true True.intro (still live)
      | done selecting ended => cases live.symm.trans ended
      | wrote rest count writing within isOpen =>
          refine iff_of_true True.intro (still ?_)
          rw [wrote_cancelled]
          exact live
      | failed rest writing =>
          refine iff_of_true True.intro ?_
          rw [deliversOnward_iff after rfl]
          exact nofun
      | cancelled =>
          rw [deliversOnward_iff after rfl]
          exact ⟨fun condition => condition live, fun nothing _ => nothing⟩

theorem cancelsInTime_of_disabled {outbox : Outbox} {move : Move}
    (disabled : step outbox move = none) : outbox.CancelsInTime move := by
  cases move with
  | leave =>
      intro looping
      have enabled : step outbox .leave = some { outbox with conn := .left, cancelled := true } :=
        if_pos looping
      cases disabled.symm.trans enabled
  | cancel => cases disabled
  | _ => exact True.intro

theorem ordered_registered : registered.Ordered :=
  ⟨Nat.le_refl 0, Nat.le_refl 0, List.nil_prefix, rfl, rfl⟩

theorem controlled_registered : registered.Controlled :=
  ⟨fun _ => rfl, fun _ => Or.inl rfl, nofun, nofun, nofun, nofun⟩

/-- Whatever the order of the steps, the bytes on the socket are in the order
of the channel. -/
theorem inOrder_of_reaches {outbox : Outbox} (reached : Reaches step registered outbox) :
    outbox.socket <+: outbox.queued.flatten := by
  have both := invariant_of_reaches
    (fun _ _ _ taken (held : Ordered _ ∧ Controlled _) => preserved taken held)
    ⟨ordered_registered, controlled_registered⟩ reached
  exact both.1.inOrder

/-- In every state of a run the packets are delivered, and from the cancellation
on in every state of every continuation, exactly if the run does not cancel the
context while a promised packet is outstanding. -/
theorem always_delivers_iff (moves : List Move) :
    (forall outbox, Visits step registered moves outbox -> outbox.DeliversOnward) ↔
      Along step CancelsInTime registered moves := by
  apply forall_visited_iff (fun _ _ _ => preserved) ?_ ?_
    ⟨ordered_registered, controlled_registered⟩
  · exact ⟨delivers_of_live ordered_registered controlled_registered rfl, nofun⟩
  · exact fun outbox move next taken held delivers => cancelsInTime_iff held taken delivers
  · exact fun outbox move disabled => cancelsInTime_of_disabled disabled

/-! ## The refusal of an ATC position -/

/-- The handler queues the error packet, and then cancels the context. -/
theorem events_of_refused_position {F : Type} [GoFloat F] (s : Server F) (now : Time)
    (id : SessionId) (packet : Bytes)
    (parsed : (parseInt (getField packet 2) 10 32).err = none)
    (refused : isAllowedFacilityType (s.clients id).networkRating
      (parseInt (getField packet 2) 10 32).value = false) :
    (s.handleATCPosition now id packet).events = s.events ++
      [.send id (errorPacket InvalidPositionForRatingError (bytes "Invalid position for rating")),
        .cancel id] := by
  unfold Server.handleATCPosition
  simp only [parsed, refused, Option.isSome_none, Bool.not_false, if_true, Bool.false_eq_true,
    if_false, Server.cancelCtx, Server.sendError, Server.sendTo, List.append_assoc,
    List.singleton_append]

/-- The event loop refuses a position, and the worker takes the other case. -/
def refusedPosition : List Move :=
  [.start,
    .queue (errorPacket InvalidPositionForRatingError (bytes "Invalid position for rating")),
    .ret 0, .cancel, .done]

theorem refused_position_undelivered : Exists fun outbox =>
    Visits step registered refusedPosition outbox ∧ outbox.closed = true ∧
      outbox.writeFailed = false ∧ 0 ∈ outbox.promised ∧ outbox.socket = [] ∧
        ¬ outbox.Delivers := by
  have executed : Exists fun outbox => run step registered refusedPosition = some outbox ∧
      outbox.closed = true ∧ outbox.writeFailed = false ∧ 0 ∈ outbox.promised ∧
        outbox.socket = [] ∧ outbox.written = 0 :=
    ⟨_, rfl, rfl, rfl, List.mem_singleton.mpr rfl, rfl, rfl⟩
  rcases executed with ⟨outbox, executed, closed, noFailure, promised, socket, nothing⟩
  refine ⟨outbox, ⟨refusedPosition, List.prefix_refl _, executed⟩, closed, noFailure, promised,
    socket, ?_⟩
  intro delivers
  have written := delivers.kept closed noFailure 0 promised
  omega

end Outbox
end Fsd
end OpenFsd
