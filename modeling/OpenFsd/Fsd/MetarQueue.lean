import OpenFsd.Fsd.Metar
import OpenFsd.Fsd.Traffic
import OpenFsd.Library.WorkQueue

namespace OpenFsd
namespace Fsd

open Transition

/-!
# The queue of the METAR service

An event loop that is asked for a METAR puts a request into the channel of the
service, and waits there for room, or for the end of its own session.  The
workers take the requests out, one at a time each, fetch a report, and send the
answer, which blocks while the send channel of the client is full.

`queueOf` maps the service to a `WorkQueue`, with one step for each `put`, each
`take` and each answer.  So the accounting of the requests is that of the library,
and a request is answered or not by `servable_iff`: a session that stops reading
takes a worker away from everybody else.  The end of the server is left out.
-/

namespace MetarService

/-- The capacity of `metarRequests` -/
def requestCapacity : Nat := 128

/-- Where a worker is, with the number of its request. -/
inductive Worker
  | selecting
  | fetching (index : Nat)
  /-- In `Client.send`, with the answer. -/
  | sending (index : Nat) (packet : Bytes)

/-- `metarService` between the sessions. -/
structure State (numWorkers : Nat) where
  /-- The requests that have been put into `metarRequests`, in their order. -/
  accepted : List MetarRequest
  /-- How many of them have been taken out. -/
  taken : Nat
  workers : Fin numWorkers -> Worker
  /-- The request that the event loop of a session has in `fetchAndSendMetar`. -/
  asking : SessionId -> Option MetarRequest
  /-- The packets that have been put into the send channel of a session. -/
  outgoing : SessionId -> List Bytes
  /-- How many of them its sender has taken out. -/
  drained : SessionId -> Nat
  cancelled : SessionId -> Bool
  /-- The numbers of the answered requests, each with the packet that was sent. -/
  answers : List (Nat × Option Bytes)

inductive Label (numWorkers : Nat)
  | ask (req : MetarRequest)
  /-- The two cases of the `select` in `fetchAndSendMetar`. -/
  | put (id : SessionId)
  | giveUp (id : SessionId)
  | take (worker : Fin numWorkers)
  | fetch (worker : Fin numWorkers) (outcome : HttpOutcome)
  /-- The two cases of the `select` in `Client.send`. -/
  | send (worker : Fin numWorkers)
  | refuse (worker : Fin numWorkers)
  /-- Anybody else sends to the session. -/
  | deliver (id : SessionId) (packet : Bytes)
  /-- The sender of the session takes a packet. -/
  | drain (id : SessionId)
  | cancel (id : SessionId)

/-- The packet that `handleMetarRequest` sends. -/
def answer (callsign : Bytes) (req : MetarRequest) (outcome : HttpOutcome) : Bytes :=
  match outcome with
  | .transportError => errorPacket NoWeatherProfileError (metarServiceErrString req.icaoCode)
  | .response statusCode body readFails =>
      if statusCode ≠ 200 then errorPacket NoWeatherProfileError (metarServiceErrString req.icaoCode)
      else if readFails then errorPacket NoWeatherProfileError (metarServiceErrString req.icaoCode)
      else if countByte (bufBytes ++ body) lineFeed ≠ 2 then
        errorPacket NoWeatherProfileError (metarServiceErrString req.icaoCode)
      else buildMetarResponsePacket callsign (cutMetar (bufBytes ++ body))

theorem handleMetarRequest_eq_answer {F : Type} (s : Server F) (req : MetarRequest)
    (outcome : HttpOutcome) :
    handleMetarRequest s req outcome =
      s.sendTo req.client (answer (s.clients req.client).callsign req outcome) := by
  cases outcome with
  | transportError => rfl
  | response statusCode body readFails =>
      unfold handleMetarRequest answer
      dsimp only
      split
      · rfl
      · split
        · rfl
        · split <;> rfl

variable {numWorkers : Nat}

def start : State numWorkers where
  accepted := []
  taken := 0
  workers := fun _ => .selecting
  asking := fun _ => none
  outgoing := fun _ => []
  drained := fun _ => 0
  cancelled := fun _ => false
  answers := []

/-- There is room in the send channel of the session. -/
def State.HasRoom (state : State numWorkers) (id : SessionId) : Prop :=
  (state.outgoing id).length < state.drained id + sendChanCapacity

instance (state : State numWorkers) (id : SessionId) : Decidable (state.HasRoom id) :=
  inferInstanceAs (Decidable (_ < _))

/-- The worker is through with its request, and selects again. -/
def State.answered (state : State numWorkers) (worker : Fin numWorkers) (index : Nat)
    (packet : Option Bytes) : State numWorkers :=
  { state with
    workers := Function.update state.workers worker .selecting
    answers := state.answers ++ [(index, packet)] }

def State.queued (state : State numWorkers) (id : SessionId) (packet : Bytes) : State numWorkers :=
  { state with outgoing := Function.update state.outgoing id (state.outgoing id ++ [packet]) }

/-- The transition function. -/
def step (callsign : SessionId -> Bytes) (state : State numWorkers) :
    Label numWorkers -> Option (State numWorkers)
  | .ask req =>
      if state.asking req.client = none then
        some { state with asking := Function.update state.asking req.client (some req) }
      else none
  | .put id =>
      match state.asking id with
      | none => none
      | some req =>
          if state.accepted.length < state.taken + requestCapacity then
            some { state with
              accepted := state.accepted ++ [req]
              asking := Function.update state.asking id none }
          else none
  | .giveUp id =>
      if state.cancelled id = true then
        some { state with asking := Function.update state.asking id none }
      else none
  | .take worker =>
      match state.workers worker with
      | .selecting =>
          if state.taken < state.accepted.length then
            some { state with
              workers := Function.update state.workers worker (.fetching state.taken)
              taken := state.taken + 1 }
          else none
      | _ => none
  | .fetch worker outcome =>
      match state.workers worker with
      | .fetching index =>
          (state.accepted[index]?).map fun req =>
            { state with
              workers := Function.update state.workers worker
                (.sending index (answer (callsign req.client) req outcome)) }
      | _ => none
  | .send worker =>
      match state.workers worker with
      | .sending index packet =>
          match state.accepted[index]? with
          | none => none
          | some req =>
              if state.HasRoom req.client then
                some ((state.queued req.client packet).answered worker index (some packet))
              else none
      | _ => none
  | .refuse worker =>
      match state.workers worker with
      | .sending index _ =>
          match state.accepted[index]? with
          | none => none
          | some req =>
              if state.cancelled req.client = true then some (state.answered worker index none)
              else none
      | _ => none
  | .deliver id packet => if state.HasRoom id then some (state.queued id packet) else none
  | .drain id =>
      if state.drained id < (state.outgoing id).length then
        some { state with drained := Function.update state.drained id (state.drained id + 1) }
      else none
  | .cancel id => some { state with cancelled := Function.update state.cancelled id true }

/-- What a step does. -/
inductive Stepped (callsign : SessionId -> Bytes) (state : State numWorkers) :
    Label numWorkers -> State numWorkers -> Prop
  | ask (req : MetarRequest) (free : state.asking req.client = none) :
      Stepped callsign state (.ask req)
        { state with asking := Function.update state.asking req.client (some req) }
  | put (id : SessionId) (req : MetarRequest) (asks : state.asking id = some req)
      (room : state.accepted.length < state.taken + requestCapacity) :
      Stepped callsign state (.put id) { state with
        accepted := state.accepted ++ [req]
        asking := Function.update state.asking id none }
  | giveUp (id : SessionId) (ended : state.cancelled id = true) :
      Stepped callsign state (.giveUp id)
        { state with asking := Function.update state.asking id none }
  | take (worker : Fin numWorkers) (selects : state.workers worker = .selecting)
      (waiting : state.taken < state.accepted.length) :
      Stepped callsign state (.take worker) { state with
        workers := Function.update state.workers worker (.fetching state.taken)
        taken := state.taken + 1 }
  | fetch (worker : Fin numWorkers) (outcome : HttpOutcome) (index : Nat) (req : MetarRequest)
      (fetches : state.workers worker = .fetching index)
      (found : state.accepted[index]? = some req) :
      Stepped callsign state (.fetch worker outcome) { state with
        workers := Function.update state.workers worker
          (.sending index (answer (callsign req.client) req outcome)) }
  | send (worker : Fin numWorkers) (index : Nat) (packet : Bytes) (req : MetarRequest)
      (sends : state.workers worker = .sending index packet)
      (found : state.accepted[index]? = some req) (room : state.HasRoom req.client) :
      Stepped callsign state (.send worker)
        ((state.queued req.client packet).answered worker index (some packet))
  | refuse (worker : Fin numWorkers) (index : Nat) (packet : Bytes) (req : MetarRequest)
      (sends : state.workers worker = .sending index packet)
      (found : state.accepted[index]? = some req) (ended : state.cancelled req.client = true) :
      Stepped callsign state (.refuse worker) (state.answered worker index none)
  | deliver (id : SessionId) (packet : Bytes) (room : state.HasRoom id) :
      Stepped callsign state (.deliver id packet) (state.queued id packet)
  | drain (id : SessionId) (waiting : state.drained id < (state.outgoing id).length) :
      Stepped callsign state (.drain id)
        { state with drained := Function.update state.drained id (state.drained id + 1) }
  | cancel (id : SessionId) :
      Stepped callsign state (.cancel id)
        { state with cancelled := Function.update state.cancelled id true }

section Steps

variable {callsign : SessionId -> Bytes} {state next : State numWorkers}

theorem stepped_of_step {label : Label numWorkers}
    (taken : step callsign state label = some next) : Stepped callsign state label next := by
  cases label with
  | ask req =>
      rw [step, Option.ite_none_right_eq_some, Option.some.injEq] at taken
      rw [← taken.2]
      exact .ask req taken.1
  | put id =>
      cases asks : state.asking id with
      | none =>
          rw [step, asks] at taken
          cases taken
      | some req =>
          rw [step, asks] at taken
          dsimp only at taken
          rw [Option.ite_none_right_eq_some, Option.some.injEq] at taken
          rw [← taken.2]
          exact .put id req asks taken.1
  | giveUp id =>
      rw [step, Option.ite_none_right_eq_some, Option.some.injEq] at taken
      rw [← taken.2]
      exact .giveUp id taken.1
  | take worker =>
      cases phase : state.workers worker with
      | selecting =>
          rw [step, phase] at taken
          dsimp only at taken
          rw [Option.ite_none_right_eq_some, Option.some.injEq] at taken
          rw [← taken.2]
          exact .take worker phase taken.1
      | fetching index =>
          rw [step, phase] at taken
          cases taken
      | sending index packet =>
          rw [step, phase] at taken
          cases taken
  | fetch worker outcome =>
      cases phase : state.workers worker with
      | selecting =>
          rw [step, phase] at taken
          cases taken
      | fetching index =>
          rw [step, phase] at taken
          rcases Option.map_eq_some_iff.mp taken with ⟨req, found, same⟩
          rw [← same]
          exact .fetch worker outcome index req phase found
      | sending index packet =>
          rw [step, phase] at taken
          cases taken
  | send worker =>
      cases phase : state.workers worker with
      | selecting =>
          rw [step, phase] at taken
          cases taken
      | fetching index =>
          rw [step, phase] at taken
          cases taken
      | sending index packet =>
          cases found : state.accepted[index]? with
          | none =>
              rw [step, phase] at taken
              dsimp only at taken
              rw [found] at taken
              cases taken
          | some req =>
              rw [step, phase] at taken
              dsimp only at taken
              rw [found] at taken
              dsimp only at taken
              rw [Option.ite_none_right_eq_some, Option.some.injEq] at taken
              rw [← taken.2]
              exact .send worker index packet req phase found taken.1
  | refuse worker =>
      cases phase : state.workers worker with
      | selecting =>
          rw [step, phase] at taken
          cases taken
      | fetching index =>
          rw [step, phase] at taken
          cases taken
      | sending index packet =>
          cases found : state.accepted[index]? with
          | none =>
              rw [step, phase] at taken
              dsimp only at taken
              rw [found] at taken
              cases taken
          | some req =>
              rw [step, phase] at taken
              dsimp only at taken
              rw [found] at taken
              dsimp only at taken
              rw [Option.ite_none_right_eq_some, Option.some.injEq] at taken
              rw [← taken.2]
              exact .refuse worker index packet req phase found taken.1
  | deliver id packet =>
      rw [step, Option.ite_none_right_eq_some, Option.some.injEq] at taken
      rw [← taken.2]
      exact .deliver id packet taken.1
  | drain id =>
      rw [step, Option.ite_none_right_eq_some, Option.some.injEq] at taken
      rw [← taken.2]
      exact .drain id taken.1
  | cancel id =>
      rw [← Option.some.inj taken]
      exact .cancel id

end Steps

/-! ## The service as a work queue -/

def Worker.request : Worker -> Option Nat
  | .selecting => none
  | .fetching index => some index
  | .sending index _ => some index

def queueOf (state : State numWorkers) : WorkQueue MetarRequest numWorkers where
  accepted := state.accepted
  taken := state.taken
  hands := fun worker => (state.workers worker).request
  finished := state.answers.map Prod.fst

/-- A change of a worker is a change of what it holds. -/
theorem request_update (workers : Fin numWorkers -> Worker) (worker : Fin numWorkers)
    (phase : Worker) :
    (fun other => (Function.update workers worker phase other).request) =
      Function.update (fun other => (workers other).request) worker phase.request := by
  funext other
  by_cases same : other = worker
  · rw [same, Function.update_self, Function.update_self]
  · rw [Function.update_of_ne same, Function.update_of_ne same]

/-- A worker that goes on with its request is the same to the queue. -/
theorem queueOf_phase (state : State numWorkers) {worker : Fin numWorkers} {phase : Worker}
    (same : phase.request = (state.workers worker).request) :
    queueOf { state with workers := Function.update state.workers worker phase } =
      queueOf state := by
  have held : Function.update (fun other => (state.workers other).request) worker phase.request =
      fun other => (state.workers other).request := by
    rw [same]
    exact Function.update_eq_self worker fun other => (state.workers other).request
  unfold queueOf
  dsimp only
  rw [request_update, held]

theorem queueOf_answered (state : State numWorkers) (worker : Fin numWorkers) (index : Nat)
    (packet : Option Bytes) :
    queueOf (state.answered worker index packet) = { queueOf state with
      hands := Function.update (queueOf state).hands worker none
      finished := (queueOf state).finished ++ [index] } := by
  unfold queueOf State.answered
  dsimp only
  rw [request_update, List.map_append]
  rfl

/-- What a step is to the queue: nothing, or one of its steps, which finishes no
request that is stuck unless the answer was sent or refused. -/
theorem queueOf_step {callsign : SessionId -> Bytes} {stuck : MetarRequest -> Bool}
    {state next : State numWorkers} {label : Label numWorkers}
    (moves : forall req : MetarRequest, stuck req = true ->
      ¬ state.HasRoom req.client ∧ state.cancelled req.client = false)
    (taken : step callsign state label = some next) :
    queueOf next = queueOf state ∨ Exists fun work =>
      WorkQueue.step requestCapacity stuck (queueOf state) work = some (queueOf next) := by
  have unstuck : forall (index : Nat) (req : MetarRequest), state.accepted[index]? = some req ->
      state.HasRoom req.client ∨ state.cancelled req.client = true ->
        WorkQueue.stuckAt stuck (queueOf state).accepted index = false := by
    intro index req found reachable
    have same : WorkQueue.stuckAt stuck (queueOf state).accepted index = stuck req := by
      unfold WorkQueue.stuckAt queueOf
      dsimp only
      rw [found]
      rfl
    rw [same]
    by_contra blocked
    rcases moves req (Bool.not_eq_false _ ▸ blocked) with ⟨full, live⟩
    rcases reachable with room | ended
    · exact full room
    · rw [live] at ended
      cases ended
  cases stepped_of_step taken with
  | ask req free => exact Or.inl rfl
  | put id req asks room => exact Or.inr ⟨.put req, if_pos room⟩
  | giveUp id ended => exact Or.inl rfl
  | take worker selects waiting =>
      refine Or.inr ⟨.take worker, ?_⟩
      have free : (queueOf state).hands worker = none := by
        unfold queueOf
        dsimp only
        rw [selects]
        rfl
      rw [WorkQueue.step_take free waiting]
      unfold queueOf
      dsimp only
      rw [request_update]
      rfl
  | fetch worker outcome index req fetches found =>
      exact Or.inl (queueOf_phase state (congrArg Worker.request fetches).symm)
  | send worker index packet req sends found room =>
      refine Or.inr ⟨.finish worker, ?_⟩
      have holds : (queueOf state).hands worker = some index := congrArg Worker.request sends
      rw [WorkQueue.step_finish holds (unstuck index req found (Or.inl room)), queueOf_answered]
      rfl
  | refuse worker index packet req sends found ended =>
      refine Or.inr ⟨.finish worker, ?_⟩
      have holds : (queueOf state).hands worker = some index := congrArg Worker.request sends
      rw [WorkQueue.step_finish holds (unstuck index req found (Or.inr ended)), queueOf_answered]
  | deliver id packet room => exact Or.inl rfl
  | drain id waiting => exact Or.inl rfl
  | cancel id => exact Or.inl rfl

theorem exact_step {callsign : SessionId -> Bytes} {state next : State numWorkers}
    {label : Label numWorkers} (taken : step callsign state label = some next)
    (exact : WorkQueue.Exact requestCapacity (queueOf state)) :
    WorkQueue.Exact requestCapacity (queueOf next) := by
  have moves : forall req : MetarRequest, (fun _ => false : MetarRequest -> Bool) req = true ->
      ¬ state.HasRoom req.client ∧ state.cancelled req.client = false := by
    intro req impossible
    cases impossible
  rcases queueOf_step moves taken with same | ⟨work, worked⟩
  · rw [same]
    exact exact
  · exact exact.step worked

/-! ## Every request is answered once -/

/-- The packet answers the request with this number. -/
def AnswerTo (callsign : SessionId -> Bytes) (accepted : List MetarRequest) (index : Nat)
    (packet : Bytes) : Prop :=
  Exists fun req => Exists fun outcome => accepted[index]? = some req ∧
    packet = answer (callsign req.client) req outcome

/-- The packet of an answer, if it is for this session. -/
def answerFor (accepted : List MetarRequest) (id : SessionId) (answered : Nat × Option Bytes) :
    Option Bytes :=
  (accepted[answered.1]?).bind fun req => if req.client = id then answered.2 else none

/-- The requests that have been accepted, and what has become of them. -/
structure AnswersEach (callsign : SessionId -> Bytes) (state : State numWorkers) : Prop where
  /-- Those that were taken out are answered, or in the hands of one worker. -/
  once : (state.answers.map Prod.fst ++
    WorkQueue.held fun worker => (state.workers worker).request).Perm (List.range state.taken)
  bounded : state.taken ≤ state.accepted.length ∧
    state.accepted.length ≤ state.taken + requestCapacity
  sent : forall index packet, (index, some packet) ∈ state.answers ->
    AnswerTo callsign state.accepted index packet
  refused : forall index, (index, none) ∈ state.answers -> Exists fun req =>
    state.accepted[index]? = some req ∧ state.cancelled req.client = true
  delivered : forall id, (state.answers.filterMap (answerFor state.accepted id)).Sublist
    (state.outgoing id)

/-- What of this the steps keep, with the answers that are about to be sent. -/
structure Answering (callsign : SessionId -> Bytes) (state : State numWorkers) : Prop where
  exact : WorkQueue.Exact requestCapacity (queueOf state)
  sending : forall worker index packet, state.workers worker = .sending index packet ->
    AnswerTo callsign state.accepted index packet
  sent : forall index packet, (index, some packet) ∈ state.answers ->
    AnswerTo callsign state.accepted index packet
  refused : forall index, (index, none) ∈ state.answers -> Exists fun req =>
    state.accepted[index]? = some req ∧ state.cancelled req.client = true
  delivered : forall id, (state.answers.filterMap (answerFor state.accepted id)).Sublist
    (state.outgoing id)

theorem getElem?_append_of_some {accepted : List MetarRequest} {index : Nat} {req : MetarRequest}
    (found : accepted[index]? = some req) (more : List MetarRequest) :
    (accepted ++ more)[index]? = some req := by
  rw [List.getElem?_append_left (List.getElem?_eq_some_iff.mp found).1]
  exact found

theorem AnswerTo.append {callsign : SessionId -> Bytes} {accepted : List MetarRequest} {index : Nat}
    {packet : Bytes} (answers : AnswerTo callsign accepted index packet)
    (more : List MetarRequest) : AnswerTo callsign (accepted ++ more) index packet := by
  rcases answers with ⟨req, outcome, found, same⟩
  exact ⟨req, outcome, getElem?_append_of_some found more, same⟩

theorem sending_of_update {workers : Fin numWorkers -> Worker} {worker other : Fin numWorkers}
    {phase : Worker} {index : Nat} {packet : Bytes}
    (sends : Function.update workers worker phase other = .sending index packet) :
    phase = .sending index packet ∨ workers other = .sending index packet := by
  by_cases same : other = worker
  · rw [same, Function.update_self] at sends
    exact Or.inl sends
  · rw [Function.update_of_ne same] at sends
    exact Or.inr sends

section Answers

variable {callsign : SessionId -> Bytes} {state next : State numWorkers}

/-- More requests change no answer. -/
theorem Answering.filterMap_append (answering : Answering callsign state) (req : MetarRequest)
    (id : SessionId) : state.answers.filterMap (answerFor (state.accepted ++ [req]) id) =
      state.answers.filterMap (answerFor state.accepted id) := by
  apply List.filterMap_congr
  intro answered member
  have before : answered.1 < state.accepted.length := by
    have done : answered.1 ∈ (queueOf state).finished := List.mem_map_of_mem member
    exact Nat.lt_of_lt_of_le (answering.exact.taken_of_finished done) answering.exact.bounded
  unfold answerFor
  rw [List.getElem?_append_left before]

theorem Answering.step {label : Label numWorkers} (answering : Answering callsign state)
    (taken : step callsign state label = some next) : Answering callsign next := by
  have exact := exact_step taken answering.exact
  cases stepped_of_step taken with
  | ask req free =>
      exact ⟨exact, answering.sending, answering.sent, answering.refused, answering.delivered⟩
  | put id req asks room =>
      refine ⟨exact, ?_, ?_, ?_, ?_⟩
      · exact fun worker index packet sends =>
          (answering.sending worker index packet sends).append [req]
      · exact fun index packet member => (answering.sent index packet member).append [req]
      · intro index member
        rcases answering.refused index member with ⟨other, found, ended⟩
        exact ⟨other, getElem?_append_of_some found [req], ended⟩
      · intro other
        dsimp only
        rw [answering.filterMap_append req other]
        exact answering.delivered other
  | giveUp id ended =>
      exact ⟨exact, answering.sending, answering.sent, answering.refused, answering.delivered⟩
  | take worker selects waiting =>
      refine ⟨exact, ?_, answering.sent, answering.refused, answering.delivered⟩
      intro other index packet sends
      rcases sending_of_update sends with impossible | earlier
      · cases impossible
      · exact answering.sending other index packet earlier
  | fetch worker outcome index req fetches found =>
      refine ⟨exact, ?_, answering.sent, answering.refused, answering.delivered⟩
      intro other number packet sends
      rcases sending_of_update sends with here | earlier
      · rw [Worker.sending.injEq] at here
        rw [← here.1, ← here.2]
        exact ⟨req, outcome, found, rfl⟩
      · exact answering.sending other number packet earlier
  | send worker index packet req sends found room =>
      refine ⟨exact, ?_, ?_, ?_, ?_⟩
      · intro other number later sendsOther
        rcases sending_of_update sendsOther with impossible | earlier
        · cases impossible
        · exact answering.sending other number later earlier
      · intro number later member
        rcases List.mem_append.mp member with old | new
        · exact answering.sent number later old
        · rw [List.mem_singleton, Prod.mk.injEq, Option.some.injEq] at new
          rw [new.1, new.2]
          exact answering.sending worker index packet sends
      · intro number member
        rcases List.mem_append.mp member with old | new
        · exact answering.refused number old
        · rw [List.mem_singleton, Prod.mk.injEq] at new
          cases new.2
      · intro id
        have split : (state.answers ++ [(index, some packet)]).filterMap
            (answerFor state.accepted id) = state.answers.filterMap (answerFor state.accepted id) ++
              if req.client = id then [packet] else [] := by
          rw [List.filterMap_append, List.filterMap_cons, List.filterMap_nil]
          unfold answerFor
          dsimp only
          rw [found, Option.bind_some]
          by_cases own : req.client = id
          · rw [if_pos own, if_pos own]
          · rw [if_neg own, if_neg own]
        unfold State.answered State.queued
        dsimp only
        rw [split]
        by_cases own : req.client = id
        · rw [if_pos own, own, Function.update_self]
          exact (answering.delivered id).append (List.Sublist.refl [packet])
        · rw [if_neg own, Function.update_of_ne (Ne.symm own), List.append_nil]
          exact answering.delivered id
  | refuse worker index packet req sends found ended =>
      refine ⟨exact, ?_, ?_, ?_, ?_⟩
      · intro other number later sendsOther
        rcases sending_of_update sendsOther with impossible | earlier
        · cases impossible
        · exact answering.sending other number later earlier
      · intro number later member
        rcases List.mem_append.mp member with old | new
        · exact answering.sent number later old
        · rw [List.mem_singleton, Prod.mk.injEq] at new
          cases new.2
      · intro number member
        rcases List.mem_append.mp member with old | new
        · exact answering.refused number old
        · rw [List.mem_singleton, Prod.mk.injEq] at new
          rw [new.1]
          exact ⟨req, found, ended⟩
      · intro id
        have silent : (state.answers ++ [(index, none)]).filterMap
            (answerFor state.accepted id) = state.answers.filterMap (answerFor state.accepted id) := by
          rw [List.filterMap_append, List.filterMap_cons, List.filterMap_nil]
          unfold answerFor
          dsimp only
          rw [found, Option.bind_some, ite_self, List.append_nil]
        unfold State.answered
        dsimp only
        rw [silent]
        exact answering.delivered id
  | deliver id packet room =>
      refine ⟨exact, answering.sending, answering.sent, answering.refused, ?_⟩
      intro other
      unfold State.queued
      dsimp only
      by_cases own : other = id
      · rw [own, Function.update_self]
        exact (answering.delivered id).trans (List.sublist_append_left _ _)
      · rw [Function.update_of_ne own]
        exact answering.delivered other
  | drain id waiting =>
      exact ⟨exact, answering.sending, answering.sent, answering.refused, answering.delivered⟩
  | cancel id =>
      refine ⟨exact, answering.sending, answering.sent, ?_, answering.delivered⟩
      intro index member
      rcases answering.refused index member with ⟨req, found, ended⟩
      refine ⟨req, found, ?_⟩
      dsimp only
      by_cases own : req.client = id
      · rw [own, Function.update_self]
      · rw [Function.update_of_ne own]
        exact ended

/-- No accepted request is lost, and none is answered twice: it is in the channel, in
the hands of one worker, or answered, and then its session has got the packet, or
has ended. -/
theorem answersEach_of_reaches (reached : Reaches (MetarService.step callsign) start state) :
    AnswersEach callsign state := by
  have initially : Answering callsign (start : State numWorkers) := by
    refine ⟨WorkQueue.exact_start, ?_, ?_, ?_, fun _ => List.nil_sublist _⟩
    · intro worker index packet impossible
      cases impossible
    · exact fun _ _ member => absurd member List.not_mem_nil
    · exact fun _ member => absurd member List.not_mem_nil
  have answering := invariant_of_reaches
    (fun _ _ _ taken answering => Answering.step answering taken) initially reached
  exact ⟨answering.exact.once, ⟨answering.exact.bounded, answering.exact.room⟩, answering.sent,
    answering.refused, answering.delivered⟩

end Answers

/-! ## Sessions that do not read -/

section Stalled

variable {callsign : SessionId -> Bytes} {stalled : SessionId -> Bool}
  {state next : State numWorkers}

/-- The send channels of these sessions are full, and nobody has ended them. -/
def Stalls (stalled : SessionId -> Bool) (state : State numWorkers) : Prop :=
  forall id, stalled id = true -> ¬ state.HasRoom id ∧ state.cancelled id = false

/-- The steps in which their peers have no part: these read nothing, and do not close. -/
def withoutPeers (stalled : SessionId -> Bool) : Label numWorkers -> Bool
  | .drain id => !stalled id
  | .cancel id => !stalled id
  | _ => true

def stalledStep (callsign : SessionId -> Bytes) (stalled : SessionId -> Bool) :
    State numWorkers -> Label numWorkers -> Option (State numWorkers) :=
  restrict (withoutPeers stalled) (step callsign)

/-- The unanswered requests of these sessions before a request. -/
def stalledAhead (stalled : SessionId -> Bool) (state : State numWorkers) (index : Nat) :
    Finset Nat :=
  (queueOf state).stuckAhead (fun req => stalled req.client) index

/-- They stay so. -/
theorem Stalls.step {label : Label numWorkers} (stalls : Stalls stalled state)
    (taken : stalledStep callsign stalled state label = some next) : Stalls stalled next := by
  rcases restrict_eq_some.mp taken with ⟨apart, taken⟩
  intro id waits
  rcases stalls id waits with ⟨full, live⟩
  cases stepped_of_step taken with
  | ask req free => exact ⟨full, live⟩
  | put other req asks room => exact ⟨full, live⟩
  | giveUp other ended => exact ⟨full, live⟩
  | take worker selects waiting => exact ⟨full, live⟩
  | fetch worker outcome index req fetches found => exact ⟨full, live⟩
  | send worker index packet req sends found room =>
      have different : id ≠ req.client := by
        intro same
        rw [same] at full
        exact full room
      refine ⟨?_, live⟩
      unfold State.HasRoom State.answered State.queued
      dsimp only
      rw [Function.update_of_ne different]
      exact full
  | refuse worker index packet req sends found ended => exact ⟨full, live⟩
  | deliver other packet room =>
      have different : id ≠ other := by
        intro same
        rw [same] at full
        exact full room
      refine ⟨?_, live⟩
      unfold State.HasRoom State.queued
      dsimp only
      rw [Function.update_of_ne different]
      exact full
  | drain other waiting =>
      have different : id ≠ other := by
        intro same
        have reads : (!stalled other) = true := apart
        rw [← same, waits] at reads
        cases reads
      refine ⟨?_, live⟩
      unfold State.HasRoom
      dsimp only
      rw [Function.update_of_ne different]
      exact full
  | cancel other =>
      have different : id ≠ other := by
        intro same
        have reads : (!stalled other) = true := apart
        rw [← same, waits] at reads
        cases reads
      refine ⟨full, ?_⟩
      dsimp only
      rw [Function.update_of_ne different]
      exact live

/-- Without their peers, the service is a queue in which their requests are stuck. -/
theorem queueOf_reaches (stalls : Stalls stalled state)
    (reached : Reaches (stalledStep callsign stalled) state next) :
    Reaches (WorkQueue.step requestCapacity fun req => stalled req.client) (queueOf state)
      (queueOf next) ∧ Stalls stalled next := by
  have mirrored : forall (state : State numWorkers) label next mirror,
      stalledStep callsign stalled state label = some next ->
        queueOf state = mirror ∧ Stalls stalled state -> Exists fun reflected =>
          Reaches (WorkQueue.step requestCapacity fun req => stalled req.client) mirror reflected ∧
            queueOf next = reflected ∧ Stalls stalled next := by
    rintro state label next mirror taken ⟨rfl, stalls⟩
    refine ⟨queueOf next, ?_, rfl, stalls.step taken⟩
    have moves : forall req : MetarRequest, stalled req.client = true ->
        ¬ state.HasRoom req.client ∧ state.cancelled req.client = false :=
      fun req => stalls req.client
    rcases queueOf_step moves (restrict_eq_some.mp taken).2 with same | ⟨work, worked⟩
    · rw [same]
      exact Reaches.refl _
    · exact Reaches.single worked
  rcases reaches_mirrored mirrored ⟨rfl, stalls⟩ reached with ⟨reflected, there, same, kept⟩
  rw [same]
  exact ⟨there, kept⟩

/-- No send channel has more packets than it can hold. -/
def Fits (state : State numWorkers) : Prop :=
  forall id, (state.outgoing id).length ≤ state.drained id + sendChanCapacity

theorem Fits.queued {id : SessionId} (fits : Fits state) (room : state.HasRoom id)
    (packet : Bytes) : Fits (state.queued id packet) := by
  intro other
  unfold State.queued
  dsimp only
  by_cases same : other = id
  · rw [same, Function.update_self, List.length_append]
    exact room
  · rw [Function.update_of_ne same]
    exact fits other

theorem Fits.step {label : Label numWorkers} (fits : Fits state)
    (taken : MetarService.step callsign state label = some next) : Fits next := by
  cases stepped_of_step taken with
  | ask req free => exact fits
  | put id req asks room => exact fits
  | giveUp id ended => exact fits
  | take worker selects waiting => exact fits
  | fetch worker outcome index req fetches found => exact fits
  | send worker index packet req sends found room => exact fits.queued room packet
  | refuse worker index packet req sends found ended => exact fits
  | deliver id packet room => exact fits.queued room packet
  | drain id waiting =>
      intro other
      have before := fits other
      dsimp only
      by_cases same : other = id
      · rw [same, Function.update_self]
        rw [same] at before
        omega
      · rw [Function.update_of_ne same]
        exact before
  | cancel id => exact fits

/-- A worker with a request can go on until it sends. -/
theorem exists_sending (callsign : SessionId -> Bytes) (stalled : SessionId -> Bool)
    {worker : Fin numWorkers} {index : Nat} {req : MetarRequest}
    (holds : (state.workers worker).request = some index)
    (found : state.accepted[index]? = some req) :
    Exists fun middle => Exists fun packet =>
      Reaches (stalledStep callsign stalled) state middle ∧ queueOf middle = queueOf state ∧
        middle.accepted[index]? = some req ∧ middle.workers worker = .sending index packet ∧
        middle.outgoing = state.outgoing ∧ middle.drained = state.drained := by
  cases phase : state.workers worker with
  | selecting =>
      rw [phase] at holds
      cases holds
  | sending other packet =>
      rw [phase] at holds
      cases holds
      exact ⟨state, packet, Reaches.refl state, rfl, found, phase, rfl, rfl⟩
  | fetching other =>
      rw [phase] at holds
      cases holds
      have fetched : stalledStep callsign stalled state (.fetch worker .transportError) =
          some { state with
            workers := Function.update state.workers worker
              (.sending index (answer (callsign req.client) req .transportError)) } := by
        apply restrict_eq_some.mpr
        refine ⟨rfl, ?_⟩
        rw [step, phase]
        dsimp only
        rw [found]
        rfl
      exact ⟨_, _, Reaches.single fetched, queueOf_phase state (congrArg Worker.request phase).symm,
        found, Function.update_self worker _ _, rfl, rfl⟩

theorem stalledStep_send {worker : Fin numWorkers} {index : Nat} {req : MetarRequest}
    {packet : Bytes} (sends : state.workers worker = .sending index packet)
    (found : state.accepted[index]? = some req) (room : state.HasRoom req.client) :
    stalledStep callsign stalled state (.send worker) =
      some ((state.queued req.client packet).answered worker index (some packet)) := by
  apply restrict_eq_some.mpr
  refine ⟨rfl, ?_⟩
  rw [step, sends]
  dsimp only
  rw [found]
  exact if_pos room

/-- A worker with a request of a session that reads can go on until this is answered. -/
theorem exists_answered {worker : Fin numWorkers} {index : Nat} {req : MetarRequest}
    (fits : Fits state) (holds : (state.workers worker).request = some index)
    (found : state.accepted[index]? = some req) (reads : stalled req.client = false) :
    Exists fun next => Reaches (stalledStep callsign stalled) state next ∧
      queueOf next = { queueOf state with
        hands := Function.update (queueOf state).hands worker none
        finished := (queueOf state).finished ++ [index] } := by
  rcases exists_sending callsign stalled holds found with
    ⟨middle, packet, reached, same, foundMiddle, sends, sameOutgoing, sameDrained⟩
  by_cases room : middle.HasRoom req.client
  · refine ⟨_, reached.tail (stalledStep_send sends foundMiddle room), ?_⟩
    rw [queueOf_answered, ← same]
    rfl
  · have full := Nat.not_lt.mp room
    have bound := fits req.client
    rw [← sameOutgoing, ← sameDrained] at bound
    have waiting : middle.drained req.client < (middle.outgoing req.client).length :=
      Nat.lt_of_lt_of_le (Nat.lt_add_of_pos_right (by decide)) full
    have drained : stalledStep callsign stalled middle (.drain req.client) = some { middle with
        drained := Function.update middle.drained req.client
          (middle.drained req.client + 1) } := by
      apply restrict_eq_some.mpr
      refine ⟨?_, if_pos waiting⟩
      show (!stalled req.client) = true
      rw [reads]
      rfl
    have free : State.HasRoom { middle with
        drained := Function.update middle.drained req.client
          (middle.drained req.client + 1) } req.client := by
      unfold State.HasRoom
      dsimp only
      rw [Function.update_self]
      omega
    refine ⟨_, (reached.tail drained).tail (stalledStep_send sends foundMiddle free), ?_⟩
    rw [queueOf_answered, ← same]
    rfl

/-- What the workers of the queue can do, the service can do. -/
theorem exists_mirrored {work : WorkQueue.Label MetarRequest numWorkers}
    {queue : WorkQueue MetarRequest numWorkers} (fits : Fits state)
    (exact : WorkQueue.Exact requestCapacity (queueOf state))
    (taken : WorkQueue.serving requestCapacity (fun req => stalled req.client) (queueOf state) work =
      some queue) :
    Exists fun next => Reaches (stalledStep callsign stalled) state next ∧ queueOf next = queue := by
  rcases restrict_eq_some.mp taken with ⟨serves, taken⟩
  cases WorkQueue.stepped_of_step taken with
  | put req room => cases serves
  | take worker free waiting =>
      have selects : state.workers worker = .selecting := by
        have empty : (state.workers worker).request = none := free
        cases phase : state.workers worker with
        | selecting => rfl
        | fetching index =>
            rw [phase] at empty
            cases empty
        | sending index packet =>
            rw [phase] at empty
            cases empty
      have started : stalledStep callsign stalled state (.take worker) = some { state with
          workers := Function.update state.workers worker (.fetching state.taken)
          taken := state.taken + 1 } := by
        apply restrict_eq_some.mpr
        refine ⟨rfl, ?_⟩
        rw [step, selects]
        exact if_pos waiting
      refine ⟨_, Reaches.single started, ?_⟩
      unfold queueOf
      dsimp only
      rw [request_update]
      rfl
  | finish worker index holds moving =>
      have holding : index ∈ WorkQueue.held (queueOf state).hands :=
        WorkQueue.mem_held.mpr ⟨worker, holds⟩
      have present : index < state.accepted.length :=
        Nat.lt_of_lt_of_le (exact.of_mem_held holding).1 exact.bounded
      have numbered : Exists fun req => state.accepted[index]? = some req :=
        ⟨_, List.getElem?_eq_getElem present⟩
      rcases numbered with ⟨req, found⟩
      have reads : stalled req.client = false := by
        unfold WorkQueue.stuckAt queueOf at moving
        dsimp only at moving
        rw [found] at moving
        exact moving
      exact exists_answered fits holds found reads

/-- Once some sessions have stopped reading, a request of another session can still be
answered exactly if fewer unanswered requests of theirs are before it than there are
workers. -/
theorem metar_servable_iff (reached : Reaches (step callsign) start state)
    (stalls : Stalls stalled state) {index : Nat} {req : MetarRequest}
    (found : state.accepted[index]? = some req)
    (unanswered : index ∉ state.answers.map Prod.fst) (reads : stalled req.client = false) :
    (Exists fun next => Reaches (stalledStep callsign stalled) state next ∧
      index ∈ next.answers.map Prod.fst) ↔ (stalledAhead stalled state index).card < numWorkers := by
  have exact : WorkQueue.Exact requestCapacity (queueOf state) :=
    invariant_of_reaches (fun _ _ _ taken exact => exact_step taken exact) WorkQueue.exact_start
      reached
  have initially : Fits (start : State numWorkers) := fun _ => Nat.zero_le _
  have fits := invariant_of_reaches (fun _ _ _ taken fits => Fits.step fits taken) initially reached
  have present : index < (queueOf state).accepted.length := (List.getElem?_eq_some_iff.mp found).1
  have moving : WorkQueue.stuckAt (fun req => stalled req.client) (queueOf state).accepted index =
      false := by
    unfold WorkQueue.stuckAt queueOf
    dsimp only
    rw [found]
    exact reads
  constructor
  · rintro ⟨next, further, done⟩
    exact (WorkQueue.servable_iff exact present unanswered moving).mp
      ⟨queueOf next, (queueOf_reaches stalls further).1, done⟩
  · intro few
    rcases WorkQueue.exists_finished_of_few exact present moving few with ⟨final, served, done⟩
    have mirrored : forall queue work later (mirror : State numWorkers),
        WorkQueue.serving requestCapacity (fun req => stalled req.client) queue work = some later ->
          queueOf mirror = queue ∧ Stalls stalled mirror ∧ Fits mirror ∧
              WorkQueue.Exact requestCapacity (queueOf mirror) ->
            Exists fun reflected => Reaches (stalledStep callsign stalled) mirror reflected ∧
              queueOf reflected = later ∧ Stalls stalled reflected ∧ Fits reflected ∧
                WorkQueue.Exact requestCapacity (queueOf reflected) := by
      rintro queue work later mirror taken ⟨rfl, stallsMirror, fitsMirror, exactMirror⟩
      rcases exists_mirrored fitsMirror exactMirror taken with ⟨next, there, same⟩
      refine ⟨next, there, same, (queueOf_reaches stallsMirror there).2, ?_, ?_⟩
      · exact invariant_of_reaches (fun _ _ _ taken fits => Fits.step fits taken) fitsMirror
          (reaches_of_restrict there)
      · exact invariant_of_reaches (fun _ _ _ taken exact => exact_step taken exact) exactMirror
          (reaches_of_restrict there)
    rcases reaches_mirrored mirrored ⟨rfl, stalls, fits, exact⟩ served with
      ⟨next, there, same, _⟩
    refine ⟨next, there, ?_⟩
    rw [← same] at done
    exact done

theorem asking_of_step {label : Label numWorkers} {id : SessionId} {req : MetarRequest}
    (taken : step callsign state label = some next) (same : queueOf next = queueOf state)
    (asks : state.asking id = some req) (live : next.cancelled id = false) :
    next.asking id = some req := by
  cases stepped_of_step taken with
  | ask other free =>
      have different : id ≠ other.client := by
        intro own
        rw [← own, asks] at free
        cases free
      dsimp only
      rw [Function.update_of_ne different]
      exact asks
  | put other request found room =>
      have longer := congrArg (fun queue => queue.accepted.length) same
      simp [queueOf] at longer
  | giveUp other ended =>
      have different : id ≠ other := by
        intro own
        rw [← own] at ended
        have stillLive : state.cancelled id = false := live
        rw [ended] at stillLive
        cases stillLive
      dsimp only
      rw [Function.update_of_ne different]
      exact asks
  | take worker selects waiting => exact asks
  | fetch worker outcome index request fetches found => exact asks
  | send worker index packet request sends found room => exact asks
  | refuse worker index packet request sends found ended => exact asks
  | deliver other packet room => exact asks
  | drain other waiting => exact asks
  | cancel other => exact asks

theorem cancelled_of_step {label : Label numWorkers} {id : SessionId}
    (taken : step callsign state label = some next) (live : next.cancelled id = false) :
    state.cancelled id = false := by
  cases stepped_of_step taken with
  | cancel other =>
      by_contra ended
      have stays : Function.update state.cancelled other true id = true := by
        by_cases same : id = other
        · rw [same, Function.update_self]
        · rw [Function.update_of_ne same]
          exact Bool.not_eq_false _ ▸ ended
      exact Bool.false_ne_true (live.symm.trans stays)
  | ask req free => exact live
  | put other req asks room => exact live
  | giveUp other ended => exact live
  | take worker selects waiting => exact live
  | fetch worker outcome index req fetches found => exact live
  | send worker index packet req sends found room => exact live
  | refuse worker index packet req sends found ended => exact live
  | deliver other packet room => exact live
  | drain other waiting => exact live

/-- Where sessions that have stopped reading have as many unanswered requests as there
are workers, and the channel is full, no request is answered any more, and every
event loop that asks for a METAR waits until its own session is ended. -/
theorem metar_stops_event_loops (reached : Reaches (step callsign) start state)
    (stalls : Stalls stalled state)
    (many : numWorkers ≤ (stalledAhead stalled state state.taken).card)
    (full : state.accepted.length = state.taken + requestCapacity)
    (further : Reaches (stalledStep callsign stalled) state next) :
    next.answers.map Prod.fst = state.answers.map Prod.fst ∧
      forall id req, state.asking id = some req -> next.cancelled id = false ->
        next.asking id = some req := by
  have exact : WorkQueue.Exact requestCapacity (queueOf state) :=
    invariant_of_reaches (fun _ _ _ taken exact => exact_step taken exact) WorkQueue.exact_start
      reached
  have frozen : forall work, WorkQueue.step requestCapacity (fun req => stalled req.client)
      (queueOf state) work = none :=
    WorkQueue.step_eq_none_of_many exact many (Nat.le_of_eq full.symm)
  have preserved : forall (middle : State numWorkers) label later,
      stalledStep callsign stalled middle label = some later ->
        (Stalls stalled middle ∧ queueOf middle = queueOf state ∧
          forall id req, state.asking id = some req -> middle.cancelled id = false ->
            middle.asking id = some req) ->
          Stalls stalled later ∧ queueOf later = queueOf state ∧
            forall id req, state.asking id = some req -> later.cancelled id = false ->
              later.asking id = some req := by
    rintro middle label later taken ⟨stallsMiddle, same, waits⟩
    have stepped := (restrict_eq_some.mp taken).2
    have moves : forall req : MetarRequest, stalled req.client = true ->
        ¬ middle.HasRoom req.client ∧ middle.cancelled req.client = false :=
      fun req => stallsMiddle req.client
    have kept : queueOf later = queueOf middle := by
      rcases queueOf_step moves stepped with kept | ⟨work, worked⟩
      · exact kept
      · rw [same, frozen work] at worked
        cases worked
    refine ⟨stallsMiddle.step taken, kept.trans same, ?_⟩
    intro id req asks live
    exact asking_of_step stepped kept (waits id req asks (cancelled_of_step stepped live)) live
  have held := invariant_of_reaches preserved ⟨stalls, rfl, fun _ _ asks _ => asks⟩ further
  exact ⟨congrArg WorkQueue.finished held.2.1, held.2.2⟩

end Stalled

/-! ## One client that stops reading -/

section Sample

def kennedy (id : SessionId) : MetarRequest :=
  ⟨id, bytes "KJFK", by decide⟩

/-- A session asks, and its request is accepted. -/
def asksAs (id : SessionId) : List (Label 4) :=
  [.ask (kennedy id), .put id]

/-- The first session stops reading, and asks as often as there are workers and places
in the channel.  Then the second one asks. -/
def congestion : List (Label 4) :=
  List.replicate sendChanCapacity (.deliver 0 []) ++
    [0, 1, 2, 3].flatMap (fun worker => asksAs 0 ++ [.take worker]) ++
      (List.replicate requestCapacity 0).flatMap asksAs ++ [.ask (kennedy 1)]

def samplePilot (_ : SessionId) : Bytes :=
  bytes "N172SP"

/-- The service after these steps. -/
def after (labels : List (Label 4)) : State 4 :=
  (run (step samplePilot) start labels).getD start

theorem reaches_after {labels : List (Label 4)}
    (executed : (run (step samplePilot) start labels).isSome = true) :
    Reaches (step samplePilot) start (after labels) := by
  rcases Option.isSome_iff_exists.mp executed with ⟨state, same⟩
  refine ⟨labels, ?_⟩
  unfold after
  rw [same]
  rfl

/-- One request is answered with an error. -/
theorem answersEach_of_reaches_error : Exists fun state : State 4 =>
    state.answers = [(0, some (answer (bytes "N172SP") (kennedy 0) .transportError))] ∧
      AnswersEach samplePilot state :=
  ⟨after (asksAs 0 ++ [.take 0, .fetch 0 .transportError, .send 0]), by decide +kernel,
    answersEach_of_reaches (reaches_after (by decide +kernel))⟩

theorem stalls_of_full {state : State 4}
    (full : (state.outgoing 0).length = state.drained 0 + sendChanCapacity)
    (live : state.cancelled 0 = false) : Stalls (fun id => decide (id = 0)) state := by
  intro id stopped
  rw [of_decide_eq_true stopped]
  exact ⟨Nat.not_lt.mpr (Nat.le_of_eq full.symm), live⟩

/-- Three requests of the client that does not read leave one worker for the others. -/
def thirdRequest : List (Label 4) :=
  List.replicate sendChanCapacity (.deliver 0 []) ++ [0, 0, 0, 1].flatMap asksAs

theorem metar_servable_iff_third : Exists fun next : State 4 =>
    Reaches (stalledStep samplePilot fun id => decide (id = 0)) (after thirdRequest) next ∧
      3 ∈ next.answers.map Prod.fst := by
  have found : (after thirdRequest).accepted.map MetarRequest.client = [0, 0, 0, 1] := by
    decide +kernel
  have last : Exists fun req => (after thirdRequest).accepted[3]? = some req ∧ req.client = 1 := by
    have read : ((after thirdRequest).accepted[3]?).map MetarRequest.client = some 1 := by
      rw [← List.getElem?_map, found]
      rfl
    exact Option.map_eq_some_iff.mp read
  rcases last with ⟨req, numbered, second⟩
  apply (metar_servable_iff (reaches_after (by decide +kernel))
    (stalls_of_full (by decide +kernel) (by decide +kernel)) numbered (by decide +kernel)
    (by rw [second]; rfl)).mpr
  decide +kernel

/-- The workers have their reports, and the others go on. -/
def resumption : List (Label 4) :=
  [0, 1, 2, 3].map (fun worker => .fetch worker .transportError) ++
    [.deliver 1 [], .drain 1, .ask (kennedy 2)]

/-- The event loop of the second client waits for the first one. -/
theorem metar_stops_event_loops_congestion : Exists fun next : State 4 =>
    run (stalledStep samplePilot fun id => decide (id = 0)) (after congestion) resumption =
        some next ∧
      Exists fun req => next.asking 1 = some req := by
  have live : (run (stalledStep samplePilot fun id => decide (id = 0)) (after congestion)
      resumption).map (fun next => next.cancelled 1) = some false := by
    decide +kernel
  rcases Option.map_eq_some_iff.mp live with ⟨next, executed, live⟩
  have asking : ((after congestion).asking 1).isSome = true := by
    decide +kernel
  rcases Option.isSome_iff_exists.mp asking with ⟨req, asks⟩
  have stopped := metar_stops_event_loops (reaches_after (by decide +kernel))
    (stalls_of_full (by decide +kernel) (by decide +kernel)) (by decide +kernel)
    (by decide +kernel) ⟨resumption, executed⟩
  exact ⟨next, executed, req, stopped.2 1 req asks live⟩

end Sample

end MetarService
end Fsd
end OpenFsd
