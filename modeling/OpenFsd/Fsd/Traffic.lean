import OpenFsd.Fsd.Client
import OpenFsd.Library.Transition
import Mathlib.Algebra.GroupWithZero.Nat
import Mathlib.Algebra.BigOperators.Group.Finset.Basic
import Mathlib.Algebra.BigOperators.Group.Finset.Piecewise
import Mathlib.Algebra.Order.BigOperators.Group.Finset

namespace OpenFsd
namespace Fsd

open Transition

/-!
# Locks, queues and pending operations

What the goroutines of the server wait for.  The map and the tree of the post
office have a `sync.RWMutex` each, and every client has a `sendChan` with room
for 32 packets, which its `senderWorker` empties.

An operation is the list of what its goroutine still has to do.  A section
under a write lock blocks on nothing and is one step, and so is `find`.  A
broadcast is not: it holds the read lock while it sends, and each of its sends
may block.  A mutex admits no new reader while a writer waits.

Contents of packets do not matter here, and neither do positions: which of the
registered clients a broadcast is for is part of the operation.
-/

/-- `clientMapLock` and `treeLock` -/
inductive Mutex
  | clientMap
  | tree
  deriving DecidableEq

/-- Why a client is looked up. -/
inductive Purpose
  | send
  | cancel

/-- What a goroutine does next. -/
inductive Act
  /-- The call of `Lock`, from which on the goroutine waits. -/
  | call (mutex : Mutex)
  /-- The section of `register` on the map. -/
  | insert (id : SessionId)
  /-- The section of `release` on the map. -/
  | erase (id : SessionId)
  /-- A section on the tree. -/
  | reindex
  | find (target : SessionId) (purpose : Purpose)
  /-- The `RLock` of a broadcast to those that it accepts. -/
  | visit (mutex : Mutex) (accepts : SessionId -> Bool)
  /-- The read lock is held, and these recipients are still to be served. -/
  | sending (mutex : Mutex) (recipients : List SessionId)
  /-- `Client.send`, and whom an error is reported to. -/
  | send (target : SessionId) (reportTo : Option SessionId)
  /-- `cancelCtx` -/
  | cancel (target : SessionId)
  /-- A write to the client's own socket. -/
  | write
  /-- `go client.senderWorker()` -/
  | work

/-- The write lock that an act waits for. -/
def Act.waitsFor : Act -> Option Mutex
  | .insert _ => some .clientMap
  | .erase _ => some .clientMap
  | .reindex => some .tree
  | _ => none

/-- The read lock that is held before an act. -/
def Act.reads : Act -> Option Mutex
  | .sending mutex _ => some mutex
  | _ => none

/-- The client that an act sends to. -/
def Act.sendsTo : Act -> Option SessionId
  | .sending _ (target :: _) => some target
  | .send target _ => some target
  | _ => none

/-- What a goroutine does for a session, or for the HTTP service. -/
inductive Request
  | login (id : SessionId)
  | register (id : SessionId)
  | release (id : SessionId)
  | updatePosition (id : SessionId)
  | broadcast (id : SessionId) (mutex : Mutex) (accepts : SessionId -> Bool)
  | sendDirectOrErr (id target : SessionId)
  | reply (id : SessionId)
  | killRequest (id target : SessionId)
  | kickUser (target : SessionId)

/-- The session that the goroutine belongs to. -/
def Request.owner : Request -> Option SessionId
  | .login id => some id
  | .register id => some id
  | .release id => some id
  | .updatePosition id => some id
  | .broadcast id _ _ => some id
  | .sendDirectOrErr id _ => some id
  | .reply id => some id
  | .killRequest id _ => some id
  | .kickUser _ => none

/-! ## The operations -/

/-- `handleConn`, from the registration to the event loop. -/
def loginActs (id : SessionId) : List Act :=
  [.call .clientMap, .insert id, .call .tree, .reindex, .write, .visit .clientMap (fun _ => true),
    .work]

def registerActs (id : SessionId) : List Act :=
  [.call .clientMap, .insert id, .call .tree, .reindex]

def releaseActs (id : SessionId) : List Act :=
  [.call .tree, .reindex, .call .clientMap, .erase id]

def Request.acts : Request -> List Act
  | .login id => loginActs id
  | .register id => registerActs id
  | .release id => releaseActs id
  | .updatePosition _ => [.call .tree, .reindex]
  | .broadcast _ mutex accepts => [.visit mutex accepts]
  | .sendDirectOrErr _ target => [.find target .send]
  | .reply id => [.send id none]
  | .killRequest _ target => [.find target .cancel]
  | .kickUser target => [.find target .cancel]

/-! ## The state -/

/-- A request, with what is still to be done for it. -/
structure Op where
  request : Request
  todo : List Act

/-- Where `senderWorker` is: not started yet, in its `select`, or in
`conn.Write` with a packet in its hand. -/
inductive Worker
  | absent
  | idle
  | writing
  deriving DecidableEq

@[ext] structure Traffic where
  /-- The sessions in the map. -/
  registered : List SessionId
  /-- The number of packets in each `sendChan`. -/
  queued : SessionId -> Nat
  /-- The contexts that are cancelled. -/
  cancelled : SessionId -> Bool
  worker : SessionId -> Worker
  ops : Nat -> Op
  /-- The number of operations that have begun. -/
  begun : Nat

/-- `make(chan string, 32)` -/
def sendChanCapacity : Nat := 32

/-- How a step with several outcomes goes: the order in which the recipients of
a broadcast are visited, and the case of the `select` in `Client.send`. -/
inductive Choice
  | plain
  | visiting (order : List SessionId)
  | done

inductive Label
  | begin (request : Request)
  | advance (index : Nat) (choice : Choice)
  /-- `senderWorker` takes a packet from its channel. -/
  | receive (id : SessionId)
  /-- The socket has accepted the packet. -/
  | flush (id : SessionId)
  /-- The connection ends, and with it the event loop. -/
  | hangUp (id : SessionId)

/-- A callsign for every session. -/
def numbered (id : SessionId) : Bytes :=
  List.replicate id (byte 'A')

theorem numbered_injective {first second : SessionId} (same : numbered first = numbered second) :
    first = second := by
  have length := congrArg List.length same
  unfold numbered at length
  rw [List.length_replicate, List.length_replicate] at length
  exact length

namespace Traffic

/-- An operation waits for a write lock. -/
def Waiting (traffic : Traffic) (mutex : Mutex) : Prop :=
  Exists fun index => index < traffic.begun ∧
    ((traffic.ops index).todo.head?.bind Act.waitsFor) = some mutex

/-- An operation holds a read lock. -/
def Held (traffic : Traffic) (mutex : Mutex) : Prop :=
  Exists fun index => index < traffic.begun ∧
    ((traffic.ops index).todo.head?.bind Act.reads) = some mutex

instance (traffic : Traffic) (mutex : Mutex) : Decidable (traffic.Waiting mutex) :=
  inferInstanceAs (Decidable (Exists fun index => index < traffic.begun ∧ _))

instance (traffic : Traffic) (mutex : Mutex) : Decidable (traffic.Held mutex) :=
  inferInstanceAs (Decidable (Exists fun index => index < traffic.begun ∧ _))

def setTodo (traffic : Traffic) (index : Nat) (todo : List Act) : Traffic :=
  { traffic with
    ops := Function.update traffic.ops index { traffic.ops index with todo := todo } }

def cancelCtx (traffic : Traffic) (target : SessionId) : Traffic :=
  { traffic with cancelled := Function.update traffic.cancelled target true }

/-- `c.sendChan <- packet` -/
def enqueue (traffic : Traffic) (target : SessionId) : Traffic :=
  { traffic with queued := Function.update traffic.queued target (traffic.queued target + 1) }

/-- `Client.send`: a `select` between the channel and the cancelled context.
The answer says whether there is no error. -/
def send (traffic : Traffic) (target : SessionId) : Choice -> Option (Traffic × Bool)
  | .done => if traffic.cancelled target then some (traffic, false) else none
  | _ => if traffic.queued target < sendChanCapacity then some (traffic.enqueue target, true) else none

/-- `NoSuchCallsignError` -/
def reports (reportTo : Option SessionId) : List Act :=
  reportTo.toList.map fun id => .send id none

/-- What follows a lookup. -/
def found (traffic : Traffic) (owner : Option SessionId) (target : SessionId) : Purpose -> List Act
  | .send => if target ∈ traffic.registered then [.send target owner] else reports owner
  | .cancel => if target ∈ traffic.registered then [.cancel target] else reports owner

/-- The clients that a broadcast is for. -/
def recipients (traffic : Traffic) (owner : Option SessionId) (accepts : SessionId -> Bool) :
    List SessionId :=
  traffic.registered.filter fun id => decide (owner ≠ some id) && accepts id

/-- The next act of an operation, with the rest of it. -/
def perform (callsign : SessionId -> Bytes) (traffic : Traffic) (index : Nat) (choice : Choice)
    (rest : List Act) : Act -> Option Traffic
  | .call _ => some (traffic.setTodo index rest)
  | .insert id =>
      if traffic.Held .clientMap then none
      else if traffic.registered.any fun other => decide (callsign other = callsign id) then
        some (traffic.setTodo index []) -- ErrCallsignInUse
      else some { traffic.setTodo index rest with registered := id :: traffic.registered }
  | .erase id =>
      if traffic.Held .clientMap then none
      else
        some { traffic.setTodo index rest with
          registered := traffic.registered.filter fun other => decide (other ≠ id) }
  | .reindex => if traffic.Held .tree then none else some (traffic.setTodo index rest)
  | .find target purpose =>
      if traffic.Waiting .clientMap then none
      else some (traffic.setTodo index (traffic.found (traffic.ops index).request.owner target purpose ++ rest))
  | .visit mutex accepts =>
      if traffic.Waiting mutex then none
      else
        match choice with
        | .visiting order =>
            if order.Perm (traffic.recipients (traffic.ops index).request.owner accepts) then
              some (traffic.setTodo index (.sending mutex order :: rest))
            else none
        | _ => none
  | .sending _ [] => some (traffic.setTodo index rest)
  | .sending mutex (target :: others) =>
      (traffic.send target choice).map fun sent =>
        sent.1.setTodo index (.sending mutex others :: rest)
  | .send target reportTo =>
      (traffic.send target choice).map fun sent =>
        sent.1.setTodo index (if sent.2 then rest else reports reportTo ++ rest)
  | .cancel target => some ((traffic.cancelCtx target).setTodo index rest)
  | .write => some (traffic.setTodo index rest)
  | .work =>
      match (traffic.ops index).request.owner with
      | some owner =>
          some { traffic.setTodo index rest with
            worker := Function.update traffic.worker owner .idle }
      | none => none

/-- A packet is taken from the queue, and is in the worker's hand. -/
def received (traffic : Traffic) (id : SessionId) : Traffic :=
  { traffic with
    queued := Function.update traffic.queued id (traffic.queued id - 1)
    worker := Function.update traffic.worker id .writing }

def flushed (traffic : Traffic) (id : SessionId) : Traffic :=
  { traffic with worker := Function.update traffic.worker id .idle }

/-- Sessions that are past their login begin.  `release` is deferred until the
event loop has cancelled the context. -/
def Beginnable (traffic : Traffic) : Request -> Bool
  | .login _ => false
  | .release id => traffic.cancelled id
  | _ => true

def step (callsign : SessionId -> Bytes) (traffic : Traffic) : Label -> Option Traffic
  | .begin request =>
      if traffic.Beginnable request then
        some { traffic with
          ops := Function.update traffic.ops traffic.begun ⟨request, request.acts⟩
          begun := traffic.begun + 1 }
      else none
  | .advance index choice =>
      if index < traffic.begun then
        match (traffic.ops index).todo with
        | [] => none
        | act :: rest => traffic.perform callsign index choice rest act
      else none
  | .receive id =>
      if traffic.worker id = .idle ∧ 0 < traffic.queued id then some (traffic.received id) else none
  | .flush id =>
      if traffic.worker id = .writing then some (traffic.flushed id) else none
  | .hangUp id => some (traffic.cancelCtx id)

/-! ## What a step does -/

/-- Every outcome of every act, with what it requires. -/
inductive Advanced (callsign : SessionId -> Bytes) (traffic : Traffic) (index : Nat)
    (rest : List Act) : Act -> Traffic -> Prop
  | called (mutex : Mutex) :
      Advanced callsign traffic index rest (.call mutex) (traffic.setTodo index rest)
  | inUse (id other : SessionId) (free : ¬ traffic.Held .clientMap)
      (member : other ∈ traffic.registered) (same : callsign other = callsign id) :
      Advanced callsign traffic index rest (.insert id) (traffic.setTodo index [])
  | inserted (id : SessionId) (free : ¬ traffic.Held .clientMap)
      (unused : forall other, other ∈ traffic.registered -> callsign other ≠ callsign id) :
      Advanced callsign traffic index rest (.insert id)
        { traffic.setTodo index rest with registered := id :: traffic.registered }
  | erased (id : SessionId) (free : ¬ traffic.Held .clientMap) :
      Advanced callsign traffic index rest (.erase id)
        { traffic.setTodo index rest with
          registered := traffic.registered.filter fun other => decide (other ≠ id) }
  | reindexed (free : ¬ traffic.Held .tree) :
      Advanced callsign traffic index rest .reindex (traffic.setTodo index rest)
  | looked (target : SessionId) (purpose : Purpose) (admitted : ¬ traffic.Waiting .clientMap) :
      Advanced callsign traffic index rest (.find target purpose)
        (traffic.setTodo index (traffic.found (traffic.ops index).request.owner target purpose ++ rest))
  | visited (mutex : Mutex) (accepts : SessionId -> Bool) (order : List SessionId)
      (admitted : ¬ traffic.Waiting mutex)
      (listed : order.Perm (traffic.recipients (traffic.ops index).request.owner accepts)) :
      Advanced callsign traffic index rest (.visit mutex accepts)
        (traffic.setTodo index (.sending mutex order :: rest))
  | finished (mutex : Mutex) :
      Advanced callsign traffic index rest (.sending mutex []) (traffic.setTodo index rest)
  | served (mutex : Mutex) (target : SessionId) (others : List SessionId)
      (room : traffic.queued target < sendChanCapacity) :
      Advanced callsign traffic index rest (.sending mutex (target :: others))
        ((traffic.enqueue target).setTodo index (.sending mutex others :: rest))
  | skipped (mutex : Mutex) (target : SessionId) (others : List SessionId)
      (ended : traffic.cancelled target = true) :
      Advanced callsign traffic index rest (.sending mutex (target :: others))
        (traffic.setTodo index (.sending mutex others :: rest))
  | sent (target : SessionId) (reportTo : Option SessionId)
      (room : traffic.queued target < sendChanCapacity) :
      Advanced callsign traffic index rest (.send target reportTo)
        ((traffic.enqueue target).setTodo index rest)
  | refused (target : SessionId) (reportTo : Option SessionId)
      (ended : traffic.cancelled target = true) :
      Advanced callsign traffic index rest (.send target reportTo)
        (traffic.setTodo index (reports reportTo ++ rest))
  | cancelled (target : SessionId) :
      Advanced callsign traffic index rest (.cancel target)
        ((traffic.cancelCtx target).setTodo index rest)
  | wrote : Advanced callsign traffic index rest .write (traffic.setTodo index rest)
  | worked (owner : SessionId) (own : (traffic.ops index).request.owner = some owner) :
      Advanced callsign traffic index rest .work
        { traffic.setTodo index rest with worker := Function.update traffic.worker owner .idle }

theorem send_eq_some {traffic : Traffic} {target : SessionId} {choice : Choice}
    {answer : Traffic × Bool} (done : traffic.send target choice = some answer) :
    (traffic.queued target < sendChanCapacity ∧ answer = (traffic.enqueue target, true)) ∨
      (traffic.cancelled target = true ∧ answer = (traffic, false)) := by
  unfold send at done
  split at done
  · split at done
    · next ended => exact Or.inr ⟨ended, (Option.some.inj done).symm⟩
    · cases done
  · split at done
    · next room => exact Or.inl ⟨room, (Option.some.inj done).symm⟩
    · cases done

theorem send_plain {traffic : Traffic} {target : SessionId}
    (room : traffic.queued target < sendChanCapacity) :
    traffic.send target .plain = some (traffic.enqueue target, true) :=
  if_pos room

theorem send_done {traffic : Traffic} {target : SessionId} (ended : traffic.cancelled target = true) :
    traffic.send target .done = some (traffic, false) :=
  if_pos ended

theorem advanced_of_perform {callsign : SessionId -> Bytes} {traffic next : Traffic} {index : Nat}
    {choice : Choice} {rest : List Act} {act : Act}
    (performed : traffic.perform callsign index choice rest act = some next) :
    Advanced callsign traffic index rest act next := by
  cases act with
  | call mutex =>
      rw [← Option.some.inj performed]
      exact .called mutex
  | insert id =>
      rw [perform] at performed
      split at performed
      · cases performed
      · next free =>
          split at performed
          · next taken =>
              rw [← Option.some.inj performed]
              rcases List.any_eq_true.mp taken with ⟨other, member, same⟩
              exact .inUse id other free member (of_decide_eq_true same)
          · next unused =>
              rw [← Option.some.inj performed]
              refine .inserted id free ?_
              intro other member same
              exact unused (List.any_eq_true.mpr ⟨other, member, decide_eq_true same⟩)
  | erase id =>
      rw [perform] at performed
      split at performed
      · cases performed
      · next free =>
          rw [← Option.some.inj performed]
          exact .erased id free
  | reindex =>
      rw [perform] at performed
      split at performed
      · cases performed
      · next free =>
          rw [← Option.some.inj performed]
          exact .reindexed free
  | find target purpose =>
      rw [perform] at performed
      split at performed
      · cases performed
      · next admitted =>
          rw [← Option.some.inj performed]
          exact .looked target purpose admitted
  | visit mutex accepts =>
      by_cases waiting : traffic.Waiting mutex
      · simp only [perform, if_pos waiting] at performed
        cases performed
      · cases choice with
        | plain =>
            simp only [perform, if_neg waiting] at performed
            cases performed
        | done =>
            simp only [perform, if_neg waiting] at performed
            cases performed
        | visiting order =>
            simp only [perform, if_neg waiting] at performed
            split at performed
            · next listed =>
                rw [← Option.some.inj performed]
                exact .visited mutex accepts order waiting listed
            · cases performed
  | sending mutex recipients =>
      cases recipients with
      | nil =>
          rw [← Option.some.inj performed]
          exact .finished mutex
      | cons target others =>
          rcases Option.map_eq_some_iff.mp performed with ⟨answer, done, same⟩
          rw [← same]
          rcases send_eq_some done with ⟨room, answered⟩ | ⟨ended, answered⟩
          · rw [answered]
            exact .served mutex target others room
          · rw [answered]
            exact .skipped mutex target others ended
  | send target reportTo =>
      rcases Option.map_eq_some_iff.mp performed with ⟨answer, done, same⟩
      rw [← same]
      rcases send_eq_some done with ⟨room, answered⟩ | ⟨ended, answered⟩
      · rw [answered]
        exact .sent target reportTo room
      · rw [answered]
        exact .refused target reportTo ended
  | cancel target =>
      rw [← Option.some.inj performed]
      exact .cancelled target
  | write =>
      rw [← Option.some.inj performed]
      exact .wrote
  | work =>
      rw [perform] at performed
      cases own : (traffic.ops index).request.owner with
      | none =>
          simp only [own] at performed
          cases performed
      | some owner =>
          simp only [own, Option.some.injEq] at performed
          rw [← performed]
          exact .worked owner own

theorem perform_of_advanced {callsign : SessionId -> Bytes} {traffic next : Traffic} {index : Nat}
    {rest : List Act} {act : Act} (advanced : Advanced callsign traffic index rest act next) :
    Exists fun choice => traffic.perform callsign index choice rest act = some next := by
  cases advanced with
  | called mutex => exact ⟨.plain, rfl⟩
  | inUse id other free member same =>
      refine ⟨.plain, ?_⟩
      have taken : (traffic.registered.any fun other => decide (callsign other = callsign id)) = true :=
        List.any_eq_true.mpr ⟨other, member, decide_eq_true same⟩
      rw [perform]
      rw [if_neg free, if_pos taken]
  | inserted id free unused =>
      refine ⟨.plain, ?_⟩
      have notTaken : ¬ (traffic.registered.any fun other =>
          decide (callsign other = callsign id)) = true := by
        intro taken
        rcases List.any_eq_true.mp taken with ⟨other, member, same⟩
        exact unused other member (of_decide_eq_true same)
      rw [perform]
      rw [if_neg free, if_neg notTaken]
  | erased id free => exact ⟨.plain, if_neg free⟩
  | reindexed free => exact ⟨.plain, if_neg free⟩
  | looked target purpose admitted => exact ⟨.plain, if_neg admitted⟩
  | visited mutex accepts order admitted listed =>
      refine ⟨.visiting order, ?_⟩
      rw [perform]
      rw [if_neg admitted]
      exact if_pos listed
  | finished mutex => exact ⟨.plain, rfl⟩
  | served mutex target others room =>
      refine ⟨.plain, ?_⟩
      rw [perform]
      rw [send_plain room]
      rfl
  | skipped mutex target others ended =>
      refine ⟨.done, ?_⟩
      rw [perform]
      rw [send_done ended]
      rfl
  | sent target reportTo room =>
      refine ⟨.plain, ?_⟩
      rw [perform]
      rw [send_plain room]
      rfl
  | refused target reportTo ended =>
      refine ⟨.done, ?_⟩
      rw [perform]
      rw [send_done ended]
      rfl
  | cancelled target => exact ⟨.plain, rfl⟩
  | wrote => exact ⟨.plain, rfl⟩
  | worked owner own =>
      refine ⟨.plain, ?_⟩
      rw [perform]
      simp only [own]

/-- Every outcome of every label. -/
inductive Moved (callsign : SessionId -> Bytes) (traffic : Traffic) : Label -> Traffic -> Prop
  | begun (request : Request) (permitted : traffic.Beginnable request = true) :
      Moved callsign traffic (.begin request)
        { traffic with
          ops := Function.update traffic.ops traffic.begun ⟨request, request.acts⟩
          begun := traffic.begun + 1 }
  | advanced {index : Nat} {choice : Choice} {act : Act} {rest : List Act} {next : Traffic}
      (below : index < traffic.begun) (todo : (traffic.ops index).todo = act :: rest)
      (outcome : Advanced callsign traffic index rest act next) :
      Moved callsign traffic (.advance index choice) next
  | received (id : SessionId) (idle : traffic.worker id = .idle) (waiting : 0 < traffic.queued id) :
      Moved callsign traffic (.receive id) (traffic.received id)
  | flushed (id : SessionId) (writing : traffic.worker id = .writing) :
      Moved callsign traffic (.flush id) (traffic.flushed id)
  | hungUp (id : SessionId) : Moved callsign traffic (.hangUp id) (traffic.cancelCtx id)

theorem moved_of_step {callsign : SessionId -> Bytes} {traffic next : Traffic} {label : Label}
    (taken : step callsign traffic label = some next) : Moved callsign traffic label next := by
  cases label with
  | begin request =>
      rw [step] at taken
      split at taken
      · next permitted =>
          rw [← Option.some.inj taken]
          exact .begun request permitted
      · cases taken
  | advance index choice =>
      rw [step] at taken
      split at taken
      · next below =>
          cases todo : (traffic.ops index).todo with
          | nil =>
              simp only [todo] at taken
              cases taken
          | cons act rest =>
              simp only [todo] at taken
              exact .advanced below todo (advanced_of_perform taken)
      · cases taken
  | receive id =>
      rw [step] at taken
      split at taken
      · next enabled =>
          rw [← Option.some.inj taken]
          exact .received id enabled.1 enabled.2
      · cases taken
  | flush id =>
      rw [step] at taken
      split at taken
      · next writing =>
          rw [← Option.some.inj taken]
          exact .flushed id writing
      · cases taken
  | hangUp id =>
      rw [← Option.some.inj taken]
      exact .hungUp id

theorem exists_step_of_advanced {callsign : SessionId -> Bytes} {traffic next : Traffic}
    {index : Nat} {act : Act} {rest : List Act} (below : index < traffic.begun)
    (todo : (traffic.ops index).todo = act :: rest)
    (outcome : Advanced callsign traffic index rest act next) :
    Exists fun choice => step callsign traffic (.advance index choice) = some next := by
  rcases perform_of_advanced outcome with ⟨choice, performed⟩
  refine ⟨choice, ?_⟩
  rw [step, if_pos below]
  simp only [todo]
  exact performed

theorem step_receive (callsign : SessionId -> Bytes) {traffic : Traffic} {id : SessionId}
    (idle : traffic.worker id = .idle) (waiting : 0 < traffic.queued id) :
    step callsign traffic (.receive id) = some (traffic.received id) :=
  if_pos ⟨idle, waiting⟩

theorem step_flush (callsign : SessionId -> Bytes) {traffic : Traffic} {id : SessionId}
    (writing : traffic.worker id = .writing) :
    step callsign traffic (.flush id) = some (traffic.flushed id) :=
  if_pos writing

/-- What holds of the new value and held of the old ones holds after an update. -/
theorem holds_update {A B : Type} [DecidableEq A] (holds : B -> Prop) {values : A -> B}
    {changed other : A} {value : B} (new : holds value) (old : holds (values other)) :
    holds (Function.update values changed value other) := by
  by_cases same : other = changed
  · rw [same, Function.update_self]
    exact new
  · rw [Function.update_of_ne same]
    exact old

theorem setTodo_ops (traffic : Traffic) (index : Nat) (todo : List Act) :
    (traffic.setTodo index todo).ops =
      Function.update traffic.ops index ⟨(traffic.ops index).request, todo⟩ :=
  rfl

@[simp] theorem setTodo_todo (traffic : Traffic) (index : Nat) (todo : List Act) :
    ((traffic.setTodo index todo).ops index).todo = todo := by
  rw [setTodo_ops, Function.update_self]

@[simp] theorem setTodo_request (traffic : Traffic) (index : Nat) (todo : List Act) (other : Nat) :
    ((traffic.setTodo index todo).ops other).request = (traffic.ops other).request := by
  rw [setTodo_ops]
  by_cases same : other = index
  · rw [same, Function.update_self]
  · rw [Function.update_of_ne same]

@[simp] theorem setTodo_other (traffic : Traffic) {index other : Nat} (todo : List Act)
    (different : other ≠ index) : (traffic.setTodo index todo).ops other = traffic.ops other :=
  Function.update_of_ne different _ traffic.ops

/-- One operation changes, and the sum of the weights with it. -/
theorem sum_update_add {A : Type} (weight : A -> Nat) (values : Nat -> A) {count index : Nat}
    (below : index < count) (value : A) :
    Finset.sum (Finset.range count) (fun other => weight (Function.update values index value other)) +
        weight (values index) =
      Finset.sum (Finset.range count) (fun other => weight (values other)) + weight value := by
  have member : index ∈ Finset.range count := Finset.mem_range.mpr below
  have rest : Finset.sum ((Finset.range count).erase index)
      (fun other => weight (Function.update values index value other)) =
        Finset.sum ((Finset.range count).erase index) fun other => weight (values other) := by
    apply Finset.sum_congr rfl
    intro other inRest
    rw [Function.update_of_ne (Finset.ne_of_mem_erase inRest)]
  rw [← Finset.add_sum_erase _ _ member, ← Finset.add_sum_erase _ (fun other => weight (values other))
    member, rest, Function.update_self]
  omega

/-! ## Who can go on -/

/-- What an act needs from its surroundings before it can have an outcome. -/
def Blocked (traffic : Traffic) : Act -> Prop
  | .insert _ => traffic.Held .clientMap
  | .erase _ => traffic.Held .clientMap
  | .reindex => traffic.Held .tree
  | .find _ _ => traffic.Waiting .clientMap
  | .visit mutex _ => traffic.Waiting mutex
  | .sending _ (target :: _) =>
      sendChanCapacity ≤ traffic.queued target ∧ traffic.cancelled target = false
  | .send target _ => sendChanCapacity ≤ traffic.queued target ∧ traffic.cancelled target = false
  | _ => False

theorem Advanced.not_blocked {callsign : SessionId -> Bytes} {traffic next : Traffic} {index : Nat}
    {rest : List Act} {act : Act} (advanced : Advanced callsign traffic index rest act next) :
    ¬ traffic.Blocked act := by
  intro blocked
  cases advanced with
  | called mutex => exact blocked
  | inUse id other free member same => exact free blocked
  | inserted id free unused => exact free blocked
  | erased id free => exact free blocked
  | reindexed free => exact free blocked
  | looked target purpose admitted => exact admitted blocked
  | visited mutex accepts order admitted listed => exact admitted blocked
  | finished mutex => exact blocked
  | served mutex target others room => exact Nat.not_lt.mpr blocked.1 room
  | skipped mutex target others ended => exact absurd (ended.symm.trans blocked.2) (by decide)
  | sent target reportTo room => exact Nat.not_lt.mpr blocked.1 room
  | refused target reportTo ended => exact absurd (ended.symm.trans blocked.2) (by decide)
  | cancelled target => exact blocked
  | wrote => exact blocked
  | worked owner own => exact blocked

/-- A send that is not blocked has room, or its target is cancelled. -/
theorem room_or_cancelled {traffic : Traffic} {target : SessionId}
    (free : ¬ (sendChanCapacity ≤ traffic.queued target ∧ traffic.cancelled target = false)) :
    traffic.queued target < sendChanCapacity ∨ traffic.cancelled target = true := by
  by_cases room : traffic.queued target < sendChanCapacity
  · exact Or.inl room
  · refine Or.inr (eq_true_of_ne_false ?_)
    exact fun live => free ⟨Nat.not_lt.mp room, live⟩

/-- An act that is not blocked has an outcome. -/
theorem exists_advanced (callsign : SessionId -> Bytes) {traffic : Traffic} {index : Nat}
    (rest : List Act) {act : Act} {owner : SessionId}
    (own : act = .work -> (traffic.ops index).request.owner = some owner) (free : ¬ traffic.Blocked act) :
    Exists fun next => Advanced callsign traffic index rest act next := by
  cases act with
  | call mutex => exact ⟨_, .called mutex⟩
  | insert id =>
      by_cases taken : Exists fun other =>
          other ∈ traffic.registered ∧ callsign other = callsign id
      · rcases taken with ⟨other, member, same⟩
        exact ⟨_, .inUse id other free member same⟩
      · exact ⟨_, .inserted id free fun other member same => taken ⟨other, member, same⟩⟩
  | erase id => exact ⟨_, .erased id free⟩
  | reindex => exact ⟨_, .reindexed free⟩
  | find target purpose => exact ⟨_, .looked target purpose free⟩
  | visit mutex accepts => exact ⟨_, .visited mutex accepts _ free (List.Perm.refl _)⟩
  | sending mutex recipients =>
      cases recipients with
      | nil => exact ⟨_, .finished mutex⟩
      | cons target others =>
          rcases room_or_cancelled free with room | ended
          · exact ⟨_, .served mutex target others room⟩
          · exact ⟨_, .skipped mutex target others ended⟩
  | send target reportTo =>
      rcases room_or_cancelled free with room | ended
      · exact ⟨_, .sent target reportTo room⟩
      · exact ⟨_, .refused target reportTo ended⟩
  | cancel target => exact ⟨_, .cancelled target⟩
  | write => exact ⟨_, .wrote⟩
  | work => exact ⟨_, .worked owner (own rfl)⟩

/-- `Client.send` blocks: the queue is full, and the context is live. -/
def Full (traffic : Traffic) (target : SessionId) : Prop :=
  sendChanCapacity ≤ traffic.queued target ∧ traffic.cancelled target = false

theorem blocked_of_sendsTo {traffic : Traffic} {act : Act} {target : SessionId}
    (sends : act.sendsTo = some target) : traffic.Blocked act ↔ traffic.Full target := by
  cases act with
  | sending mutex recipients =>
      cases recipients with
      | nil => cases sends
      | cons first others =>
          cases sends
          exact Iff.rfl
  | send first reportTo =>
      cases sends
      exact Iff.rfl
  | _ => cases sends

/-- The operation is at this act. -/
structure At (traffic : Traffic) (index : Nat) (act : Act) (rest : List Act) : Prop where
  below : index < traffic.begun
  todo : (traffic.ops index).todo = act :: rest

/-- In a system that permits every advance, an operation advances by an outcome. -/
theorem At.reaches {callsign : SessionId -> Bytes} {traffic next : Traffic} {index : Nat} {act : Act}
    {rest : List Act} {allowed : Label -> Bool} (current : At traffic index act rest)
    (permits : forall index choice, allowed (.advance index choice) = true)
    (outcome : Advanced callsign traffic index rest act next) :
    Reaches (restrict allowed (step callsign)) traffic next := by
  rcases exists_step_of_advanced current.below current.todo outcome with ⟨choice, taken⟩
  exact Reaches.single (restrict_eq_some.mpr ⟨permits index choice, taken⟩)

theorem exists_at_of_held {traffic : Traffic} {mutex : Mutex} (held : traffic.Held mutex) :
    Exists fun index => Exists fun recipients => Exists fun rest =>
      At traffic index (.sending mutex recipients) rest := by
  rcases held with ⟨index, below, holds⟩
  rcases Option.bind_eq_some_iff.mp holds with ⟨act, head, reads⟩
  rcases List.head?_eq_some_iff.mp head with ⟨rest, todo⟩
  cases act with
  | sending other recipients =>
      cases reads
      exact ⟨index, recipients, rest, below, todo⟩
  | _ => cases reads

theorem held_of_at {traffic : Traffic} {index : Nat} {mutex : Mutex} {recipients : List SessionId}
    {rest : List Act} (current : At traffic index (.sending mutex recipients) rest) :
    traffic.Held mutex := by
  refine ⟨index, current.below, ?_⟩
  rw [current.todo]
  rfl

theorem exists_at_of_waiting {traffic : Traffic} {mutex : Mutex} (waiting : traffic.Waiting mutex) :
    Exists fun index => Exists fun act => Exists fun rest =>
      At traffic index act rest ∧ act.waitsFor = some mutex := by
  rcases waiting with ⟨index, below, waits⟩
  rcases Option.bind_eq_some_iff.mp waits with ⟨act, head, waitsFor⟩
  rcases List.head?_eq_some_iff.mp head with ⟨rest, todo⟩
  exact ⟨index, act, rest, ⟨below, todo⟩, waitsFor⟩

/-- Where no lock is held, a waiting writer can go on. -/
theorem not_blocked_of_waitsFor {traffic : Traffic} {act : Act} {mutex : Mutex}
    (waits : act.waitsFor = some mutex) (free : ¬ traffic.Held mutex) : ¬ traffic.Blocked act := by
  cases act with
  | insert id => cases waits; exact free
  | erase id => cases waits; exact free
  | reindex => cases waits; exact free
  | _ => cases waits

/-- Locks alone block nobody for good: if no operation is blocked in a send,
some operation that is not finished can go on. -/
theorem exists_unblocked {traffic : Traffic}
    (busy : Exists fun index => Exists fun act => Exists fun rest => At traffic index act rest)
    (sends : forall index act rest target, At traffic index act rest ->
      act.sendsTo = some target -> ¬ traffic.Full target) :
    Exists fun index => Exists fun act => Exists fun rest =>
      At traffic index act rest ∧ ¬ traffic.Blocked act := by
  by_cases held : Exists fun mutex => traffic.Held mutex
  · rcases held with ⟨mutex, holds⟩
    rcases exists_at_of_held holds with ⟨index, recipients, rest, current⟩
    refine ⟨index, _, rest, current, ?_⟩
    cases recipients with
    | nil => exact fun blocked => blocked
    | cons target others => exact sends index _ rest target current rfl
  · rw [not_exists] at held
    by_cases waiting : Exists fun mutex => traffic.Waiting mutex
    · rcases waiting with ⟨mutex, waits⟩
      rcases exists_at_of_waiting waits with ⟨index, act, rest, current, waitsFor⟩
      exact ⟨index, act, rest, current, not_blocked_of_waitsFor waitsFor (held mutex)⟩
    · rw [not_exists] at waiting
      rcases busy with ⟨index, act, rest, current⟩
      refine ⟨index, act, rest, current, ?_⟩
      cases act with
      | insert id => exact held _
      | erase id => exact held _
      | reindex => exact held _
      | find target purpose => exact waiting _
      | visit mutex accepts => exact waiting mutex
      | sending mutex recipients => exact absurd (held_of_at current) (held mutex)
      | send target reportTo => exact sends index _ rest target current rfl
      | _ => exact fun blocked => blocked

end Traffic
end Fsd
end OpenFsd
