import OpenFsd.Fsd.Wedge

namespace OpenFsd
namespace Fsd

open Transition Traffic

/-!
# The ways out of a connection

`handleConn` registers a client, greets it, and runs its event loop.  Its
deferred calls come after each way out past the registration: at the end of the
event loop, and where a write of the welcome message fails.  The context is
cancelled by a deferred call of the event loop, so not on the second way.

`handleConn` is one operation here, from the registration to the release.  The
event loop is the pause in the middle of it, in which the session has other
operations, one at a time.
-/

/-- The number of messages in which `sendMotd` sends the welcome message. -/
def motdWrites (welcomeMsg : Bytes) : Nat :=
  if welcomeMsg ≠ [] then (splitByte lineFeed welcomeMsg).length else 1

/-- `handleConn`, from the registration to the event loop. -/
def handleConnActs (id : SessionId) (welcomeMsg : Bytes) : List Act :=
  registerActs id ++ List.replicate (motdWrites welcomeMsg) .write ++
    [.visit .clientMap (fun _ => true), .work]

/-- The deferred calls after the event loop: the disconnect packet, and then
the release. -/
def deferredActs (id : SessionId) : List Act :=
  .visit .clientMap (fun _ => true) :: releaseActs id

/-- What the event loop of a session does for a packet. -/
def Request.isHandled : Request -> Bool
  | .login _ => false
  | .register _ => false
  | .release _ => false
  | _ => true

def Act.isWrite : Act -> Bool
  | .write => true
  | _ => false

/-- How far `handleConn` has come with a client. -/
inductive Exits.Phase
  | unborn
  /-- It registers and greets the client. -/
  | entering
  | looping
  /-- It executes its deferred calls, of which `release` is the last. -/
  | leaving
  | gone
  deriving DecidableEq

structure Exits where
  traffic : Traffic
  phase : SessionId -> Exits.Phase
  /-- The operation that `handleConn` is for a client. -/
  conn : SessionId -> Nat

namespace Exits

inductive Move
  | accept (id : SessionId) (welcomeMsg : Bytes)
  /-- A step of any operation or sender, or the begin of an operation. -/
  | go (label : Label)
  /-- A write of the welcome message fails. -/
  | fail (id : SessionId)
  /-- The event loop begins. -/
  | loop (id : SessionId)
  /-- The scanner is done, and the event loop ends. -/
  | leave (id : SessionId)
  | finish (id : SessionId)

/-- What `handleConn` has still to do for a client. -/
def todo (exits : Exits) (id : SessionId) : List Act :=
  (exits.traffic.ops (exits.conn id)).todo

def enter (exits : Exits) (id : SessionId) (phase : Phase) : Exits :=
  { exits with phase := Function.update exits.phase id phase }

/-- `handleConn` goes on to these deferred calls. -/
def defers (exits : Exits) (id : SessionId) (acts : List Act) : Exits :=
  { exits.enter id .leaving with traffic := exits.traffic.setTodo (exits.conn id) acts }

/-- Nothing is pending for the session. -/
def Idle (exits : Exits) (id : SessionId) : Prop :=
  forall index, index < exits.traffic.begun ->
    (exits.traffic.ops index).request.owner = some id -> (exits.traffic.ops index).todo = []

/-- The next write is one of the welcome message. -/
def Greeting (exits : Exits) (id : SessionId) : Prop :=
  exits.phase id = .entering ∧ (exits.todo id).head?.any Act.isWrite = true

/-- Operations begin in the HTTP service at any time, and in an event loop
when it has finished the one before. -/
def Permits (exits : Exits) : Label -> Prop
  | .begin request =>
      request.isHandled = true ∧
        forall id, request.owner = some id -> exits.phase id = .looping ∧ exits.Idle id
  | _ => True

instance (exits : Exits) (id : SessionId) : Decidable (exits.Idle id) :=
  inferInstanceAs (Decidable (forall index, index < exits.traffic.begun -> _ -> _))

instance (exits : Exits) (id : SessionId) : Decidable (exits.Greeting id) :=
  inferInstanceAs (Decidable (_ ∧ _))

instance (exits : Exits) (label : Label) : Decidable (exits.Permits label) :=
  match label with
  | .begin request =>
      match owner : request.owner with
      | none =>
          decidable_of_iff (request.isHandled = true) (by simp [Permits, owner])
      | some id =>
          decidable_of_iff (request.isHandled = true ∧ exits.phase id = .looping ∧ exits.Idle id)
            (by simp [Permits, owner])
  | .advance _ _ => isTrue trivial
  | .receive _ => isTrue trivial
  | .flush _ => isTrue trivial
  | .hangUp _ => isTrue trivial

/-- The transition function.  A context is cancelled from outside, by a kick,
by the sender or with the server, in a step of the traffic. -/
def step (callsign : SessionId -> Bytes) (exits : Exits) : Move -> Option Exits
  | .accept id welcomeMsg =>
      if exits.phase id = .unborn then
        some { exits.enter id .entering with
          traffic := { exits.traffic with
            ops := Function.update exits.traffic.ops exits.traffic.begun
              ⟨.login id, handleConnActs id welcomeMsg⟩
            begun := exits.traffic.begun + 1 }
          conn := Function.update exits.conn id exits.traffic.begun }
      else none
  | .go label =>
      if exits.Permits label then
        (Traffic.step callsign exits.traffic label).map fun traffic =>
          { exits with traffic := traffic }
      else none
  | .fail id =>
      -- The deferred release is all that is left, since `eventLoop` has not run.
      if exits.Greeting id then some (exits.defers id (releaseActs id)) else none
  | .loop id =>
      if exits.phase id = .entering ∧ exits.todo id = [] ∧ exits.traffic.worker id ≠ .absent then
        some (exits.enter id .looping)
      else none
  | .leave id =>
      -- `defer client.cancelCtx()` in `eventLoop`
      if exits.phase id = .looping ∧ exits.Idle id then
        some ({ exits with traffic := exits.traffic.cancelCtx id }.defers id (deferredActs id))
      else none
  | .finish id =>
      if exits.phase id = .leaving ∧ exits.todo id = [] then some (exits.enter id .gone) else none

/-- The server has started. -/
def start : Exits where
  traffic := quiet []
  phase := fun _ => .unborn
  conn := fun _ => 0

/-! ## Who waits for whom -/

/-- Whenever `handleConn` is about to release a client, or does so, the context
of the client is cancelled, and whoever sends to it can go on. -/
structure FreesSenders (callsign : SessionId -> Bytes) (exits : Exits) : Prop where
  cancelled : forall id, exits.phase id = .leaving -> exits.traffic.cancelled id = true
  freed : forall id, exits.phase id = .leaving -> forall index act rest,
    Traffic.At exits.traffic index act rest -> act.sendsTo = some id ->
      Exists fun choice => Exists fun next =>
        Traffic.step callsign exits.traffic (.advance index choice) = some next

/-- A cancelled context frees the senders. -/
theorem freesSenders_iff {callsign : SessionId -> Bytes} {exits : Exits} :
    exits.FreesSenders callsign ↔
      forall id, exits.phase id = .leaving -> exits.traffic.cancelled id = true := by
  constructor
  · exact FreesSenders.cancelled
  · intro cancelled
    refine ⟨cancelled, ?_⟩
    intro id leaving index act rest current sends
    have free : ¬ exits.traffic.Blocked act := by
      rw [blocked_of_sendsTo sends]
      intro full
      exact absurd ((cancelled id leaving).symm.trans full.2) (by decide)
    have noWork : act = .work -> (exits.traffic.ops index).request.owner = some id := by
      intro same
      subst same
      cases sends
    rcases exists_advanced callsign rest noWork free with ⟨next, outcome⟩
    rcases exists_step_of_advanced current.below current.todo outcome with ⟨choice, taken⟩
    exact ⟨choice, next, taken⟩

/-! ## What a move does -/

theorem cancelled_of_step {callsign : SessionId -> Bytes} {traffic next : Traffic} {label : Label}
    (taken : Traffic.step callsign traffic label = some next) {id : SessionId}
    (ended : traffic.cancelled id = true) : next.cancelled id = true := by
  cases moved_of_step taken with
  | begun request permitted => exact ended
  | advanced below todo outcome => exact outcome.cancelled_mono ended
  | received other idle waiting => exact ended
  | flushed other writing => exact ended
  | hungUp other =>
      by_cases same : id = other
      · rw [same]
        exact Function.update_self other _ traffic.cancelled
      · exact (Function.update_of_ne same _ traffic.cancelled).trans ended

/-- Another phase than that of the deferred calls is no concern of the senders. -/
theorem leaving_of_enter {exits : Exits} {id other : SessionId} {phase : Phase}
    (stays : phase ≠ .leaving) (leaving : (exits.enter id phase).phase other = .leaving) :
    exits.phase other = .leaving := by
  by_cases same : other = id
  · rw [same] at leaving
    have entered : (exits.enter id phase).phase id = phase := Function.update_self id _ exits.phase
    exact absurd (entered.symm.trans leaving) stays
  · have kept : (exits.enter id phase).phase other = exits.phase other :=
      Function.update_of_ne same _ exits.phase
    exact kept.symm.trans leaving

theorem leaving_of_defers {exits : Exits} {id other : SessionId} {acts : List Act}
    (leaving : (exits.defers id acts).phase other = .leaving) :
    other = id ∨ exits.phase other = .leaving := by
  by_cases same : other = id
  · exact Or.inl same
  · have kept : (exits.defers id acts).phase other = exits.phase other :=
      Function.update_of_ne same _ exits.phase
    exact Or.inr (kept.symm.trans leaving)

/-- A welcome message that fails finds the context cancelled. -/
def FailsCancelled (exits : Exits) (move : Move) : Prop :=
  forall id, move = .fail id -> exits.Greeting id -> exits.traffic.cancelled id = true

theorem step_kept {callsign : SessionId -> Bytes} {exits next : Exits} {move : Move}
    (taken : step callsign exits move = some next) (frees : exits.FreesSenders callsign) :
    exits.FailsCancelled move ↔ next.FreesSenders callsign := by
  rw [freesSenders_iff] at frees ⊢
  cases move with
  | accept id welcomeMsg =>
      rcases Option.ite_none_right_eq_some.mp taken with ⟨_, same⟩
      rw [← Option.some.inj same]
      refine iff_of_true nofun ?_
      intro other leaving
      exact frees other (leaving_of_enter (by decide : Phase.entering ≠ .leaving) leaving)
  | go label =>
      rcases Option.ite_none_right_eq_some.mp taken with ⟨_, mapped⟩
      rcases Option.map_eq_some_iff.mp mapped with ⟨traffic, stepped, same⟩
      rw [← same]
      refine iff_of_true nofun ?_
      intro other leaving
      exact cancelled_of_step stepped (frees other leaving)
  | fail id =>
      rcases Option.ite_none_right_eq_some.mp taken with ⟨greeting, same⟩
      rw [← Option.some.inj same]
      constructor
      · intro condition other leaving
        rcases leaving_of_defers leaving with own | before
        · rw [own]
          exact condition id rfl greeting
        · exact frees other before
      · intro after other named _
        have leaving : (exits.defers id (releaseActs id)).phase id = .leaving :=
          Function.update_self id _ exits.phase
        rw [← Move.fail.inj named]
        exact after id leaving
  | loop id =>
      rcases Option.ite_none_right_eq_some.mp taken with ⟨_, same⟩
      rw [← Option.some.inj same]
      refine iff_of_true nofun ?_
      intro other leaving
      exact frees other (leaving_of_enter (by decide : Phase.looping ≠ .leaving) leaving)
  | leave id =>
      rcases Option.ite_none_right_eq_some.mp taken with ⟨_, same⟩
      rw [← Option.some.inj same]
      refine iff_of_true nofun ?_
      intro other leaving
      show Function.update exits.traffic.cancelled id true other = true
      by_cases own : other = id
      · rw [own, Function.update_self]
      · rw [Function.update_of_ne own]
        rcases leaving_of_defers leaving with impossible | before
        · exact absurd impossible own
        · exact frees other before
  | finish id =>
      rcases Option.ite_none_right_eq_some.mp taken with ⟨_, same⟩
      rw [← Option.some.inj same]
      refine iff_of_true nofun ?_
      intro other leaving
      exact frees other (leaving_of_enter (by decide : Phase.gone ≠ .leaving) leaving)

theorem failsCancelled_of_disabled {callsign : SessionId -> Bytes} {exits : Exits} {move : Move}
    (disabled : step callsign exits move = none) : exits.FailsCancelled move := by
  rintro id rfl greeting
  have enabled : step callsign exits (.fail id) = some (exits.defers id (releaseActs id)) :=
    if_pos greeting
  cases disabled.symm.trans enabled

/-- Every way out frees the senders, in every state of a run, exactly if no
welcome message fails in it while the context of its client is live. -/
theorem always_freesSenders_iff (callsign : SessionId -> Bytes) (moves : List Move) :
    (forall exits, Visits (step callsign) start moves exits -> exits.FreesSenders callsign) ↔
      Along (step callsign) FailsCancelled start moves := by
  apply forall_visited_iff (fun _ _ _ _ (_ : True) => True.intro) ?_ ?_ True.intro ?_
  · intro exits move next taken _ frees
    exact step_kept taken frees
  · intro exits move disabled
    exact failsCancelled_of_disabled disabled
  · exact freesSenders_iff.mpr nofun

/-! ## One failed write -/

/-- Session 1 enters its event loop, session 0 registers, and session 1 fills
the queue of session 0 and broadcasts.  Then the welcome message of session 0
fails, and its release gets as far as the map. -/
def crowdedGreeting : List Move :=
  [.accept 1 []] ++ List.replicate 5 (.go (.advance 0 .plain)) ++
    [.go (.advance 0 (.visiting [])), .go (.advance 0 .plain), .go (.advance 0 .plain), .loop 1,
      .accept 0 []] ++ List.replicate 4 (.go (.advance 1 .plain)) ++
    (List.range 32).flatMap (fun index => [.go (.begin (.sendDirectOrErr 1 0)),
      .go (.advance (index + 2) .plain), .go (.advance (index + 2) .plain)]) ++
    [.go (.begin (.broadcast 1 .clientMap fun _ => true)), .go (.advance 34 (.visiting [0])),
      .fail 0, .go (.advance 1 .plain), .go (.advance 1 .plain), .go (.advance 1 .plain)]

/-- The broadcast holds the map while it waits for session 0, and the release
of session 0 waits for the map. -/
theorem failed_greeting_blocks : Exists fun exits =>
    Visits (step numbered) start crowdedGreeting exits ∧ ¬ exits.FreesSenders numbered ∧
      exits.traffic.Full 0 ∧ (exits.traffic.ops 34).todo.head?.bind Act.sendsTo = some 0 ∧
        (exits.traffic.ops 34).todo.head?.bind Act.reads = some .clientMap ∧
          (exits.todo 0).head?.bind Act.waitsFor = some .clientMap := by
  have decided : (run (step numbered) start crowdedGreeting).any (fun exits =>
      decide (exits.phase 0 = .leaving ∧ 32 ≤ exits.traffic.queued 0 ∧
        exits.traffic.cancelled 0 = false ∧
          (exits.traffic.ops 34).todo.head?.bind Act.sendsTo = some 0 ∧
            (exits.traffic.ops 34).todo.head?.bind Act.reads = some .clientMap ∧
              (exits.todo 0).head?.bind Act.waitsFor = some .clientMap)) = true := by
    decide +kernel
  rcases (Option.any_eq_true _ _).mp decided with ⟨exits, executed, holds⟩
  rcases of_decide_eq_true holds with ⟨leaving, full, live, sends, reads, waits⟩
  refine ⟨exits, ⟨crowdedGreeting, List.prefix_refl _, executed⟩, ?_, ⟨full, live⟩, sends, reads,
    waits⟩
  intro frees
  exact absurd ((frees.cancelled 0 leaving).symm.trans live) (by decide)

end Exits
end Fsd
end OpenFsd
