import OpenFsd.Fsd.Traffic

namespace OpenFsd
namespace Fsd

open Transition Traffic

/-!
# A client that stops reading

The worker of a session whose peer has stopped reading keeps one packet in its
hand, and its queue fills up.  Who sends to it blocks until it is kicked.  A
broadcast to all blocks while it holds the read lock of the map, and the kick
has to look the session up in the map.

Two readers do not exclude each other, so this alone is no harm.  But with one
writer that waits for the map, the kick waits for the writer, the writer for
the broadcast, and the broadcast for the kick.
-/

/-! ## Sessions past their login -/

/-- These sessions are past their login, and nothing is to be done. -/
def quiet (registered : List SessionId) : Traffic where
  registered := registered
  queued := fun _ => 0
  cancelled := fun _ => false
  worker := fun _ => .idle
  ops := fun _ => ⟨.kickUser 0, []⟩
  begun := 0

def Reachable (callsign : SessionId -> Bytes) (traffic : Traffic) : Prop :=
  Exists fun registered => Reaches (step callsign) (quiet registered) traffic

def Request.isRegister (id : SessionId) : Request -> Bool
  | .register other => decide (other = id)
  | _ => false

/-- The session has registered, and may have been kicked since. -/
structure PastLogin (id : SessionId) (traffic : Traffic) : Prop where
  admitted : id ∈ traffic.registered ∨ traffic.cancelled id = true
  settled : forall index, index < traffic.begun ->
    (traffic.ops index).request.isRegister id = true -> (traffic.ops index).todo = []

instance (id : SessionId) (traffic : Traffic) : Decidable (PastLogin id traffic) :=
  decidable_of_iff (_ ∧ forall index, index < traffic.begun -> _ -> _)
    ⟨fun both => ⟨both.1, both.2⟩, fun past => ⟨past.admitted, past.settled⟩⟩

/-- The steps in which the peer of the session has no part.  It does not read,
so no write to it ends, it does not write, so its event loop starts nothing,
and it does not close. -/
def withoutPeer (id : SessionId) : Label -> Bool
  | .begin request => decide (request.owner ≠ some id)
  | .advance _ _ => true
  | .receive _ => true
  | .flush other => decide (other ≠ id)
  | .hangUp other => decide (other ≠ id)

def stalledStep (callsign : SessionId -> Bytes) (id : SessionId) : Traffic -> Label -> Option Traffic :=
  restrict (withoutPeer id) (step callsign)

/-- Some continuation without the peer of the session finishes the operation. -/
def Completable (callsign : SessionId -> Bytes) (id : SessionId) (traffic : Traffic) (index : Nat) :
    Prop :=
  Exists fun next => Reaches (stalledStep callsign id) traffic next ∧ (next.ops index).todo = []

/-- What other parties ask for that does not concern the session, and the kill
and the kick of it. -/
def Request.mustComplete (id : SessionId) : Request -> Bool
  | .register other => decide (other ≠ id)
  | .release other => decide (other ≠ id)
  | .broadcast other _ accepts => decide (other ≠ id) && !accepts id
  | .sendDirectOrErr other target => decide (other ≠ id) && decide (target ≠ id)
  | .killRequest other target => decide (other ≠ id) && decide (target = id)
  | .kickUser target => decide (target = id)
  | _ => false

/-- The packets that a broadcast under the read lock of the map still has for a
session. -/
def Op.owed (id : SessionId) (op : Op) : Nat :=
  match op.todo with
  | .sending .clientMap recipients :: _ => recipients.count id
  | _ => 0

/-- An idle worker can still take a packet into its hand. -/
def Worker.spare : Worker -> Nat
  | .idle => 1
  | _ => 0

/-- The packets that the session can take without its peer, the queued ones
included. -/
def capacity (id : SessionId) (traffic : Traffic) : Nat :=
  sendChanCapacity + (traffic.worker id).spare

def owed (id : SessionId) (traffic : Traffic) : Nat :=
  Finset.sum (Finset.range traffic.begun) fun index => (traffic.ops index).owed id

def Act.cancels : Act -> Option SessionId
  | .cancel target => some target
  | _ => none

/-- A writer waits for the map, the broadcasts that hold it have more for the
session than it can take, and nobody has got as far as to cancel it. -/
structure Wedged (id : SessionId) (traffic : Traffic) : Prop where
  live : traffic.cancelled id = false
  waiting : traffic.Waiting .clientMap
  overfull : capacity id traffic < traffic.queued id + owed id traffic
  unreached : forall index, index < traffic.begun ->
    (traffic.ops index).todo.head?.bind Act.cancels ≠ some id

instance (id : SessionId) (traffic : Traffic) : Decidable (Wedged id traffic) :=
  decidable_of_iff (_ ∧ traffic.Waiting .clientMap ∧ _ ∧ forall index, index < traffic.begun -> _)
    ⟨fun all => ⟨all.1, all.2.1, all.2.2.1, all.2.2.2⟩,
      fun wedged => ⟨wedged.live, wedged.waiting, wedged.overfull, wedged.unreached⟩⟩

/-! ## What an act leaves alone -/

section Advanced

variable {callsign : SessionId -> Bytes} {traffic next : Traffic} {index : Nat} {rest : List Act}
  {act : Act}

theorem Traffic.Advanced.begun (outcome : Advanced callsign traffic index rest act next) :
    next.begun = traffic.begun := by
  cases outcome <;> rfl

theorem Traffic.Advanced.ops_of_ne (outcome : Advanced callsign traffic index rest act next)
    {other : Nat} (different : other ≠ index) : next.ops other = traffic.ops other := by
  cases outcome <;> exact Function.update_of_ne different _ _

theorem Traffic.Advanced.request (outcome : Advanced callsign traffic index rest act next)
    (other : Nat) : (next.ops other).request = (traffic.ops other).request := by
  cases outcome <;> exact setTodo_request traffic index _ other

theorem Traffic.Advanced.ops (outcome : Advanced callsign traffic index rest act next) :
    next.ops = Function.update traffic.ops index (next.ops index) := by
  funext other
  by_cases same : other = index
  · rw [same, Function.update_self]
  · rw [Function.update_of_ne same, outcome.ops_of_ne same]

/-- A sum over the operations changes by what the operation contributes. -/
theorem Traffic.Advanced.sum (outcome : Advanced callsign traffic index rest act next)
    (below : index < traffic.begun) (weight : Op -> Nat) :
    Finset.sum (Finset.range next.begun) (fun other => weight (next.ops other)) +
        weight (traffic.ops index) =
      Finset.sum (Finset.range traffic.begun) (fun other => weight (traffic.ops other)) +
        weight (next.ops index) := by
  have total := sum_update_add weight traffic.ops below (next.ops index)
  rw [← outcome.ops, ← outcome.begun] at total
  rw [outcome.begun] at total ⊢
  exact total

theorem Traffic.Advanced.cancelled_mono (outcome : Advanced callsign traffic index rest act next)
    {id : SessionId} (ended : traffic.cancelled id = true) : next.cancelled id = true := by
  cases outcome with
  | cancelled target =>
      exact holds_update (fun ended => ended = true) rfl ended
  | _ => exact ended

theorem Traffic.Advanced.bounded (outcome : Advanced callsign traffic index rest act next)
    {id : SessionId} (before : traffic.queued id ≤ sendChanCapacity) :
    next.queued id ≤ sendChanCapacity := by
  have enqueued : forall target, traffic.queued target < sendChanCapacity ->
      (traffic.enqueue target).queued id ≤ sendChanCapacity := by
    intro target room
    exact holds_update (fun queued => queued ≤ sendChanCapacity) room before
  cases outcome with
  | served mutex target others room => exact enqueued target room
  | sent target reportTo room => exact enqueued target room
  | _ => exact before

theorem Traffic.Advanced.attended (outcome : Advanced callsign traffic index rest act next)
    {id : SessionId} (before : traffic.worker id ≠ .absent) : next.worker id ≠ .absent := by
  cases outcome with
  | worked owner own =>
      exact holds_update (fun worker => worker ≠ Worker.absent) (by decide) before
  | _ => exact before

end Advanced

/-! ## The operations of sessions past their login -/

/-- The acts on the post office that come after another act. -/
def Act.follows (request : Request) : Act -> Prop
  | .call _ => True
  | .insert id => request = .register id
  | .erase id => request = .release id
  | .reindex => True
  | _ => False

/-- The acts that come first. -/
def Act.leads (request : Request) : Act -> Prop
  | .insert id => request = .register id
  | .erase id => request = .release id
  | .work => False
  | _ => True

/-- The acts that take the place of another one. -/
def Act.derived : Act -> Bool
  | .sending _ _ => true
  | .send _ _ => true
  | .cancel _ => true
  | _ => false

def OpSound (request : Request) : List Act -> Prop
  | [] => True
  | act :: rest => act.leads request ∧ forall later, later ∈ rest -> later.follows request

theorem Act.leads_of_follows {request : Request} {act : Act} (follows : act.follows request) :
    act.leads request := by
  cases act with
  | insert id => exact follows
  | erase id => exact follows
  | work => exact follows
  | _ => exact True.intro

theorem Act.leads_of_derived {act : Act} (request : Request) (derived : act.derived = true) :
    act.leads request := by
  cases act with
  | sending mutex recipients => exact True.intro
  | send target reportTo => exact True.intro
  | cancel target => exact True.intro
  | _ => cases derived

theorem opSound_of_follows {request : Request} {todo : List Act}
    (follows : forall act, act ∈ todo -> act.follows request) : OpSound request todo := by
  cases todo with
  | nil => exact True.intro
  | cons act rest =>
      constructor
      · exact Act.leads_of_follows (follows act List.mem_cons_self)
      · exact fun later member => follows later (List.mem_cons_of_mem act member)

theorem opSound_cons_of_derived {request : Request} {act : Act} {rest : List Act}
    (derived : act.derived = true) (follows : forall later, later ∈ rest -> later.follows request) :
    OpSound request (act :: rest) :=
  ⟨Act.leads_of_derived request derived, follows⟩

theorem opSound_acts {traffic : Traffic} {request : Request}
    (permitted : traffic.Beginnable request = true) : OpSound request request.acts := by
  cases request with
  | login id => cases permitted
  | register id => simp [Request.acts, registerActs, OpSound, Act.leads, Act.follows]
  | release id => simp [Request.acts, releaseActs, OpSound, Act.leads, Act.follows]
  | updatePosition id => simp [Request.acts, OpSound, Act.leads, Act.follows]
  | _ => exact ⟨True.intro, fun later member => absurd member List.not_mem_nil⟩

/-- What is left to do after an act: one act at most is new. -/
theorem Traffic.Advanced.todo_cases {callsign : SessionId -> Bytes} {traffic next : Traffic}
    {index : Nat} {rest : List Act} {act : Act}
    (outcome : Advanced callsign traffic index rest act next) :
    (next.ops index).todo = [] ∨ (next.ops index).todo = rest ∨
      Exists fun first => (next.ops index).todo = first :: rest ∧ first.derived = true := by
  have found : forall owner target purpose, traffic.found owner target purpose = [] ∨
      Exists fun first => traffic.found owner target purpose = [first] ∧ first.derived = true := by
    intro owner target purpose
    have reported : reports owner = [] ∨
        Exists fun first => reports owner = [first] ∧ first.derived = true := by
      cases owner with
      | none => exact Or.inl rfl
      | some id => exact Or.inr ⟨_, rfl, rfl⟩
    unfold Traffic.found
    cases purpose with
    | send =>
        dsimp only
        split
        · exact Or.inr ⟨_, rfl, rfl⟩
        · exact reported
    | cancel =>
        dsimp only
        split
        · exact Or.inr ⟨_, rfl, rfl⟩
        · exact reported
  cases outcome with
  | inUse id other free member same => exact Or.inl (setTodo_todo ..)
  | looked target purpose admitted =>
      rw [setTodo_todo]
      rcases found (traffic.ops index).request.owner target purpose with empty | ⟨first, single, derived⟩
      · exact Or.inr (Or.inl (by rw [empty]; rfl))
      · exact Or.inr (Or.inr ⟨first, by rw [single]; rfl, derived⟩)
  | visited mutex accepts order admitted listed =>
      exact Or.inr (Or.inr ⟨_, setTodo_todo .., rfl⟩)
  | served mutex target others room => exact Or.inr (Or.inr ⟨_, setTodo_todo .., rfl⟩)
  | skipped mutex target others ended => exact Or.inr (Or.inr ⟨_, setTodo_todo .., rfl⟩)
  | refused target reportTo ended =>
      rw [setTodo_todo]
      cases reportTo with
      | none => exact Or.inr (Or.inl rfl)
      | some id => exact Or.inr (Or.inr ⟨_, rfl, rfl⟩)
  | _ => exact Or.inr (Or.inl (setTodo_todo traffic index rest))

theorem OpSound.advanced {callsign : SessionId -> Bytes} {traffic next : Traffic} {index : Nat}
    {rest : List Act} {act : Act} (sound : OpSound (traffic.ops index).request (act :: rest))
    (outcome : Advanced callsign traffic index rest act next) :
    OpSound (next.ops index).request (next.ops index).todo := by
  rw [outcome.request]
  rcases outcome.todo_cases with finished | popped | ⟨first, replaced, derived⟩
  · rw [finished]
    exact True.intro
  · rw [popped]
    exact opSound_of_follows sound.2
  · rw [replaced]
    exact opSound_cons_of_derived derived sound.2

/-- The invariant of the sessions past their login. -/
structure Orderly (traffic : Traffic) : Prop where
  bounded : forall id, traffic.queued id ≤ sendChanCapacity
  attended : forall id, traffic.worker id ≠ .absent
  sound : forall index, index < traffic.begun ->
    OpSound (traffic.ops index).request (traffic.ops index).todo
  released : forall index id, index < traffic.begun -> (traffic.ops index).request = .release id ->
    traffic.cancelled id = true

theorem orderly_quiet (registered : List SessionId) : Orderly (quiet registered) where
  bounded := fun _ => Nat.zero_le _
  attended := by
    intro id impossible
    cases impossible
  sound := fun index below => absurd below (Nat.not_lt_zero index)
  released := fun index id below => absurd below (Nat.not_lt_zero index)

theorem Orderly.at {traffic : Traffic} (orderly : Orderly traffic) {index : Nat} {act : Act}
    {rest : List Act} (current : At traffic index act rest) :
    OpSound (traffic.ops index).request (act :: rest) := by
  have sound := orderly.sound index current.below
  rw [current.todo] at sound
  exact sound

theorem Orderly.advanced {callsign : SessionId -> Bytes} {traffic next : Traffic} {index : Nat}
    {rest : List Act} {act : Act} (orderly : Orderly traffic) (current : At traffic index act rest)
    (outcome : Advanced callsign traffic index rest act next) : Orderly next := by
  constructor
  · exact fun id => outcome.bounded (orderly.bounded id)
  · exact fun id => outcome.attended (orderly.attended id)
  · intro other below
    by_cases same : other = index
    · rw [same]
      exact (orderly.at current).advanced outcome
    · rw [outcome.begun] at below
      rw [outcome.ops_of_ne same]
      exact orderly.sound other below
  · intro other id below released
    rw [outcome.begun] at below
    rw [outcome.request] at released
    exact outcome.cancelled_mono (orderly.released other id below released)

theorem Orderly.cancelCtx {traffic : Traffic} (orderly : Orderly traffic) (id : SessionId) :
    Orderly (traffic.cancelCtx id) where
  bounded := orderly.bounded
  attended := orderly.attended
  sound := orderly.sound
  released := by
    intro index other below released
    exact holds_update (fun ended => ended = true) rfl (orderly.released index other below released)

theorem Orderly.received {traffic : Traffic} (orderly : Orderly traffic) (id : SessionId) :
    Orderly (traffic.received id) where
  bounded := by
    intro other
    have fewer : traffic.queued id - 1 ≤ sendChanCapacity :=
      (Nat.sub_le _ 1).trans (orderly.bounded id)
    exact holds_update (fun queued => queued ≤ sendChanCapacity) fewer (orderly.bounded other)
  attended := by
    intro other
    exact holds_update (fun worker => worker ≠ Worker.absent) (by decide) (orderly.attended other)
  sound := orderly.sound
  released := orderly.released

theorem Orderly.flushed {traffic : Traffic} (orderly : Orderly traffic) (id : SessionId) :
    Orderly (traffic.flushed id) where
  bounded := orderly.bounded
  attended := by
    intro other
    exact holds_update (fun worker => worker ≠ Worker.absent) (by decide) (orderly.attended other)
  sound := orderly.sound
  released := orderly.released

theorem Orderly.step {callsign : SessionId -> Bytes} {traffic next : Traffic} {label : Label}
    (orderly : Orderly traffic) (taken : step callsign traffic label = some next) :
    Orderly next := by
  cases moved_of_step taken with
  | begun request permitted =>
      refine ⟨orderly.bounded, orderly.attended, ?_, ?_⟩
      · intro index below
        dsimp only
        by_cases same : index = traffic.begun
        · rw [same, Function.update_self]
          exact opSound_acts permitted
        · rw [Function.update_of_ne same]
          exact orderly.sound index (Nat.lt_of_le_of_ne (Nat.le_of_lt_succ below) same)
      · intro index id below released
        dsimp only at released
        by_cases same : index = traffic.begun
        · rw [same, Function.update_self] at released
          subst released
          exact permitted
        · rw [Function.update_of_ne same] at released
          exact orderly.released index id (Nat.lt_of_le_of_ne (Nat.le_of_lt_succ below) same) released
  | advanced below todo outcome => exact orderly.advanced ⟨below, todo⟩ outcome
  | received id idle waiting => exact orderly.received id
  | flushed id writing => exact orderly.flushed id
  | hungUp id => exact orderly.cancelCtx id

theorem Reachable.orderly {callsign : SessionId -> Bytes} {traffic : Traffic}
    (reachable : Reachable callsign traffic) : Orderly traffic := by
  rcases reachable with ⟨registered, reached⟩
  exact invariant_of_reaches (fun _ _ _ taken orderly => orderly.step taken)
    (orderly_quiet registered) reached

/-! ## What is left to do -/

/-- A bound on the acts that an act can lead to, sends of a broadcast apart. -/
def Act.effort : Act -> Nat
  | .find _ _ => 3
  | .visit _ _ => 2
  | .send _ reportTo => reportTo.toList.length + 1
  | _ => 1

def Act.backlog : Act -> Nat
  | .sending _ recipients => recipients.length
  | _ => 0

def Op.effort (op : Op) : Nat :=
  (op.todo.map Act.effort).sum

def Op.backlog (op : Op) : Nat :=
  (op.todo.map Act.backlog).sum

/-- What all operations have left, with the sends of their broadcasts. -/
def outstanding (traffic : Traffic) : Nat × Nat :=
  (Finset.sum (Finset.range traffic.begun) fun index => (traffic.ops index).effort,
    Finset.sum (Finset.range traffic.begun) fun index => (traffic.ops index).backlog)

/-- Less is outstanding: acts, or else sends. -/
def Lighter (next traffic : Traffic) : Prop :=
  Prod.Lex (· < ·) (· < ·) (outstanding next) (outstanding traffic)

theorem wellFounded_lighter : WellFounded Lighter :=
  InvImage.wf outstanding (WellFounded.prod_lex Nat.lt_wfRel.wf Nat.lt_wfRel.wf)

theorem effort_found (traffic : Traffic) (owner : Option SessionId) (target : SessionId)
    (purpose : Purpose) : ((traffic.found owner target purpose).map Act.effort).sum ≤ 2 := by
  have reported : ((reports owner).map Act.effort).sum ≤ 1 := by
    cases owner with
    | none => exact Nat.zero_le 1
    | some id => exact Nat.le_refl 1
  unfold Traffic.found
  cases purpose with
  | send =>
      dsimp only
      split
      · cases owner with
        | none => exact Nat.le_succ 1
        | some id => exact Nat.le_refl 2
      · exact Nat.le_succ_of_le reported
  | cancel =>
      dsimp only
      split
      · exact Nat.le_succ 1
      · exact Nat.le_succ_of_le reported

/-- Every act brings its operation closer to its end. -/
theorem Traffic.Advanced.spends {callsign : SessionId -> Bytes} {traffic next : Traffic} {index : Nat}
    {rest : List Act} {act : Act} (outcome : Advanced callsign traffic index rest act next)
    (todo : (traffic.ops index).todo = act :: rest) :
    (next.ops index).effort < (traffic.ops index).effort ∨
      ((next.ops index).effort = (traffic.ops index).effort ∧
        (next.ops index).backlog < (traffic.ops index).backlog) := by
  have before : (traffic.ops index).effort = act.effort + (rest.map Act.effort).sum := by
    unfold Op.effort
    rw [todo, List.map_cons, List.sum_cons]
  have popped : (next.ops index).todo = rest -> 0 < act.effort ->
      (next.ops index).effort < (traffic.ops index).effort := by
    intro left positive
    rw [before]
    unfold Op.effort
    rw [left]
    omega
  have shorter : forall mutex target others, act = .sending mutex (target :: others) ->
      (next.ops index).todo = .sending mutex others :: rest ->
        (next.ops index).effort = (traffic.ops index).effort ∧
          (next.ops index).backlog < (traffic.ops index).backlog := by
    intro mutex target others current left
    constructor
    · rw [before, current]
      unfold Op.effort
      rw [left, List.map_cons, List.sum_cons]
      rfl
    · unfold Op.backlog
      rw [todo, current, left, List.map_cons, List.map_cons, List.sum_cons, List.sum_cons]
      exact Nat.add_lt_add_right (Nat.lt_succ_self others.length) _
  cases outcome with
  | inUse id other free member same =>
      left
      rw [before]
      unfold Op.effort
      rw [setTodo_todo]
      exact Nat.lt_add_right _ Nat.one_pos
  | looked target purpose admitted =>
      left
      rw [before]
      unfold Op.effort
      rw [setTodo_todo, List.map_append, List.sum_append]
      have most := effort_found traffic (traffic.ops index).request.owner target purpose
      show _ < 3 + _
      omega
  | visited mutex accepts order admitted listed =>
      left
      rw [before]
      unfold Op.effort
      rw [setTodo_todo, List.map_cons, List.sum_cons]
      exact Nat.add_lt_add_right (Nat.lt_succ_self 1) _
  | served mutex target others room => exact Or.inr (shorter mutex target others rfl (setTodo_todo ..))
  | skipped mutex target others ended => exact Or.inr (shorter mutex target others rfl (setTodo_todo ..))
  | refused target reportTo ended =>
      left
      rw [before]
      unfold Op.effort
      rw [setTodo_todo, List.map_append, List.sum_append]
      have reported : ((reports reportTo).map Act.effort).sum = reportTo.toList.length := by
        cases reportTo <;> rfl
      rw [reported]
      show _ < reportTo.toList.length + 1 + _
      omega
  | sent target reportTo room => exact Or.inl (popped (setTodo_todo ..) (Nat.succ_pos _))
  | _ => exact Or.inl (popped (setTodo_todo traffic index rest) Nat.one_pos)

theorem lighter_of_advanced {callsign : SessionId -> Bytes} {traffic next : Traffic} {index : Nat}
    {rest : List Act} {act : Act} (current : At traffic index act rest)
    (outcome : Advanced callsign traffic index rest act next) : Lighter next traffic := by
  have works := outcome.sum current.below Op.effort
  have backlogs := outcome.sum current.below Op.backlog
  unfold Lighter outstanding
  rw [Prod.lex_iff]
  dsimp only
  rcases outcome.spends current.todo with fewer | ⟨same, fewer⟩
  · left
    omega
  · right
    constructor
    · omega
    · omega

/-! ## Every send but one can be unblocked -/

/-- Some steps of the workers, and nothing else.  No session can take fewer
packets than before. -/
structure Eased (traffic next : Traffic) : Prop where
  registered : next.registered = traffic.registered
  cancelled : next.cancelled = traffic.cancelled
  ops : next.ops = traffic.ops
  begun : next.begun = traffic.begun
  slots : forall id, capacity id traffic + next.queued id ≤ capacity id next + traffic.queued id

theorem Eased.refl (traffic : Traffic) : Eased traffic traffic :=
  ⟨rfl, rfl, rfl, rfl, fun _ => Nat.le_refl _⟩

theorem Worker.spare_le (worker : Worker) : worker.spare ≤ 1 := by
  cases worker <;> decide

theorem eased_received {traffic : Traffic} {id : SessionId} (waiting : 0 < traffic.queued id) :
    Eased traffic (traffic.received id) := by
  refine ⟨rfl, rfl, rfl, rfl, ?_⟩
  intro other
  unfold capacity received
  dsimp only
  by_cases same : other = id
  · rw [same, Function.update_self, Function.update_self]
    have most := (traffic.worker id).spare_le
    show _ ≤ sendChanCapacity + 0 + _
    omega
  · rw [Function.update_of_ne same, Function.update_of_ne same]

theorem eased_flushed (traffic : Traffic) (id : SessionId) : Eased traffic (traffic.flushed id) := by
  refine ⟨rfl, rfl, rfl, rfl, ?_⟩
  intro other
  unfold capacity flushed
  dsimp only
  by_cases same : other = id
  · rw [same, Function.update_self]
    have most := (traffic.worker id).spare_le
    show _ ≤ sendChanCapacity + 1 + _
    omega
  · rw [Function.update_of_ne same]

theorem Eased.trans {traffic middle next : Traffic} (left : Eased traffic middle)
    (right : Eased middle next) : Eased traffic next where
  registered := right.registered.trans left.registered
  cancelled := right.cancelled.trans left.cancelled
  ops := right.ops.trans left.ops
  begun := right.begun.trans left.begun
  slots := by
    intro id
    have first := left.slots id
    have second := right.slots id
    omega

theorem room_received {traffic : Traffic} {id : SessionId}
    (bounded : traffic.queued id ≤ sendChanCapacity) :
    (traffic.received id).queued id < sendChanCapacity := by
  show Function.update traffic.queued id (traffic.queued id - 1) id < sendChanCapacity
  rw [Function.update_self]
  have positive : 0 < sendChanCapacity := by decide
  omega

/-- A full queue whose worker is idle, or whose peer reads, gets room. -/
theorem exists_room (callsign : SessionId -> Bytes) {traffic : Traffic} {stalled id : SessionId}
    (orderly : Orderly traffic) (full : traffic.Full id)
    (able : id ≠ stalled ∨ traffic.worker id = .idle) :
    Exists fun next => Reaches (stalledStep callsign stalled) traffic next ∧ Eased traffic next ∧
      Orderly next ∧ next.queued id < sendChanCapacity := by
  have waiting : 0 < traffic.queued id := Nat.lt_of_lt_of_le (by decide) full.1
  cases worker : traffic.worker id with
  | absent => exact absurd worker (orderly.attended id)
  | idle =>
      refine ⟨traffic.received id, ?_, eased_received waiting, orderly.received id,
        room_received (orderly.bounded id)⟩
      exact Reaches.single (restrict_eq_some.mpr ⟨rfl, step_receive callsign worker waiting⟩)
  | writing =>
      have others : id ≠ stalled := by
        rcases able with different | idle
        · exact different
        · cases idle.symm.trans worker
      have idle : (traffic.flushed id).worker id = .idle := Function.update_self ..
      refine ⟨(traffic.flushed id).received id, ?_,
        (eased_flushed traffic id).trans (eased_received waiting),
        (orderly.flushed id).received id, room_received (orderly.bounded id)⟩
      have allowed : withoutPeer stalled (.flush id) = true := decide_eq_true others
      have flush : Reaches (stalledStep callsign stalled) traffic (traffic.flushed id) :=
        Reaches.single (restrict_eq_some.mpr ⟨allowed, step_flush callsign worker⟩)
      exact flush.tail (restrict_eq_some.mpr ⟨rfl, step_receive callsign idle waiting⟩)

theorem reaches_stalled (callsign : SessionId -> Bytes) (stalled : SessionId)
    {traffic next : Traffic} {index : Nat} {act : Act} {rest : List Act}
    (current : At traffic index act rest)
    (outcome : Advanced callsign traffic index rest act next) :
    Reaches (stalledStep callsign stalled) traffic next :=
  current.reaches (fun _ _ => rfl) outcome

/-- An operation that waits for no lock can advance, unless it sends to the
stalled session and that can take nothing. -/
theorem exists_eased (callsign : SessionId -> Bytes) {traffic : Traffic} {stalled : SessionId}
    (orderly : Orderly traffic) {index : Nat} {act : Act} {rest : List Act}
    (current : At traffic index act rest) (free : act.sendsTo = none -> ¬ traffic.Blocked act)
    (able : forall target, act.sendsTo = some target -> traffic.Full target ->
      target ≠ stalled ∨ traffic.worker target = .idle) :
    Exists fun middle => Exists fun next => Reaches (stalledStep callsign stalled) traffic middle ∧
      Eased traffic middle ∧ Orderly middle ∧ At middle index act rest ∧
        Advanced callsign middle index rest act next := by
  have idle : act = .work -> (traffic.ops index).request.owner = some 0 := by
    intro same
    have sound := orderly.at current
    rw [same] at sound
    exact sound.1.elim
  by_cases blocked : traffic.Blocked act
  · rcases Option.ne_none_iff_exists'.mp fun none => free none blocked with ⟨target, sends⟩
    have full := (blocked_of_sendsTo sends).mp blocked
    rcases exists_room callsign orderly full (able target sends full) with
      ⟨middle, reached, eased, kept, room⟩
    have there : At middle index act rest := by
      refine ⟨eased.begun ▸ current.below, ?_⟩
      rw [eased.ops]
      exact current.todo
    have unblocked : ¬ middle.Blocked act :=
      fun still => Nat.not_lt.mpr ((blocked_of_sendsTo sends).mp still).1 room
    have owned : act = .work -> (middle.ops index).request.owner = some 0 := by
      rw [eased.ops]
      exact idle
    rcases exists_advanced callsign rest owned unblocked with ⟨next, outcome⟩
    exact ⟨middle, next, reached, eased, kept, there, outcome⟩
  · rcases exists_advanced callsign rest idle blocked with ⟨next, outcome⟩
    exact ⟨traffic, next, Reaches.refl traffic, Eased.refl traffic, orderly, current, outcome⟩

theorem Lighter.of_eased {traffic middle next : Traffic} (lighter : Lighter next middle)
    (eased : Eased traffic middle) : Lighter next traffic := by
  unfold Lighter outstanding at lighter ⊢
  rw [eased.ops, eased.begun] at lighter
  exact lighter

/-! ## Once the session is cancelled -/

/-- The session is cancelled, and no operation is added. -/
structure Settling (stalled : SessionId) (count : Nat) (traffic : Traffic) : Prop where
  orderly : Orderly traffic
  ended : traffic.cancelled stalled = true
  begun : traffic.begun = count

/-- Of the operations that are not finished some sends, or is not blocked. -/
theorem exists_unblocked_or_sends {traffic : Traffic} {index : Nat} (below : index < traffic.begun)
    (unfinished : (traffic.ops index).todo ≠ []) :
    Exists fun index => Exists fun act => Exists fun rest =>
      At traffic index act rest ∧ (act.sendsTo = none -> ¬ traffic.Blocked act) := by
  by_cases sending : Exists fun index => Exists fun act => Exists fun rest =>
      Exists fun target => At traffic index act rest ∧ act.sendsTo = some target
  · rcases sending with ⟨index, act, rest, target, current, sends⟩
    refine ⟨index, act, rest, current, ?_⟩
    intro none
    cases none.symm.trans sends
  · rcases List.exists_cons_of_ne_nil unfinished with ⟨act, rest, todo⟩
    have unsent : forall index act rest target, At traffic index act rest ->
        act.sendsTo = some target -> ¬ traffic.Full target :=
      fun index act rest target current sends =>
        absurd ⟨index, act, rest, target, current, sends⟩ sending
    rcases exists_unblocked ⟨index, act, rest, below, todo⟩ unsent with
      ⟨index, act, rest, current, free⟩
    exact ⟨index, act, rest, current, fun _ => free⟩

theorem Settling.progress (callsign : SessionId -> Bytes) {stalled : SessionId} {count index : Nat}
    {traffic : Traffic} (settling : Settling stalled count traffic) (below : index < traffic.begun)
    (unfinished : (traffic.ops index).todo ≠ []) :
    Exists fun next => Reaches (stalledStep callsign stalled) traffic next ∧
      Settling stalled count next ∧ Lighter next traffic := by
  rcases exists_unblocked_or_sends below unfinished with ⟨index, act, rest, current, free⟩
  have able : forall target, act.sendsTo = some target -> traffic.Full target ->
      target ≠ stalled ∨ traffic.worker target = .idle := by
    intro target _ full
    left
    intro same
    exact absurd (settling.ended.symm.trans (same ▸ full.2)) (by decide)
  rcases exists_eased callsign settling.orderly current free able with
    ⟨middle, next, reached, eased, orderly, there, outcome⟩
  have ended : middle.cancelled stalled = true := eased.cancelled ▸ settling.ended
  refine ⟨next, reached.trans (reaches_stalled callsign stalled there outcome), ?_, ?_⟩
  · exact ⟨orderly.advanced there outcome, outcome.cancelled_mono ended,
      outcome.begun.trans (eased.begun.trans settling.begun)⟩
  · exact (lighter_of_advanced there outcome).of_eased eased

/-- Once the session is cancelled, all operations can be finished. -/
theorem exists_finished (callsign : SessionId -> Bytes) {traffic : Traffic} {stalled : SessionId}
    (orderly : Orderly traffic) (ended : traffic.cancelled stalled = true) :
    Exists fun next => Reaches (stalledStep callsign stalled) traffic next ∧
      forall index, index < traffic.begun -> (next.ops index).todo = [] := by
  have progress : forall state, Settling stalled traffic.begun state ->
      ¬ (forall index, index < traffic.begun -> (state.ops index).todo = []) ->
        Exists fun next => Reaches (stalledStep callsign stalled) state next ∧
          Settling stalled traffic.begun next ∧ Lighter next state := by
    intro state settling unfinished
    rw [not_forall] at unfinished
    rcases unfinished with ⟨index, unfinished⟩
    rw [Classical.not_imp] at unfinished
    exact settling.progress callsign (settling.begun ▸ unfinished.1) unfinished.2
  rcases exists_arrival wellFounded_lighter progress ⟨orderly, ended, rfl⟩ with
    ⟨next, reached, _, finished⟩
  exact ⟨next, reached, finished⟩

/-! ## As long as the session can take what it is owed -/

theorem owed_of_follows {id : SessionId} {op : Op}
    (follows : forall act, act ∈ op.todo -> act.follows op.request) : op.owed id = 0 := by
  unfold Op.owed
  split
  · next recipients rest todo =>
      have impossible := follows (.sending .clientMap recipients) (todo ▸ List.mem_cons_self)
      exact impossible.elim
  · rfl

theorem owed_sending {id : SessionId} {op : Op} {recipients : List SessionId} {rest : List Act}
    (todo : op.todo = .sending .clientMap recipients :: rest) : op.owed id = recipients.count id := by
  unfold Op.owed
  rw [todo]

theorem queued_enqueue (traffic : Traffic) (target id : SessionId) :
    (traffic.enqueue target).queued id = traffic.queued id + if target = id then 1 else 0 := by
  unfold enqueue
  dsimp only
  by_cases same : id = target
  · rw [same, Function.update_self, if_pos rfl]
  · rw [Function.update_of_ne same, if_neg (Ne.symm same), Nat.add_zero]

theorem count_cons_target (target id : SessionId) (others : List SessionId) :
    (target :: others).count id = others.count id + if target = id then 1 else 0 := by
  rw [List.count_cons]
  congr 1
  exact if_congr beq_iff_eq rfl rfl

section Owed

variable {callsign : SessionId -> Bytes} {traffic next : Traffic} {index : Nat} {rest : List Act}
  {act : Act}

/-- What is left of an operation owes nothing. -/
theorem Orderly.owed_popped (orderly : Orderly traffic) (current : At traffic index act rest)
    (outcome : Advanced callsign traffic index rest act next)
    (popped : (next.ops index).todo = rest) (id : SessionId) : (next.ops index).owed id = 0 := by
  apply owed_of_follows
  rw [popped, outcome.request]
  exact (orderly.at current).2

theorem Orderly.worker_eq (orderly : Orderly traffic) (current : At traffic index act rest)
    (outcome : Advanced callsign traffic index rest act next) : next.worker = traffic.worker := by
  have sound := orderly.at current
  cases outcome with
  | worked owner own => exact sound.1.elim
  | _ => rfl

theorem Orderly.admitted (orderly : Orderly traffic) (current : At traffic index act rest)
    (outcome : Advanced callsign traffic index rest act next) {id : SessionId}
    (before : id ∈ traffic.registered ∨ traffic.cancelled id = true) :
    id ∈ next.registered ∨ next.cancelled id = true := by
  rcases before with member | ended
  · have sound := orderly.at current
    cases outcome with
    | inserted other free unused => exact Or.inl (List.mem_cons_of_mem other member)
    | erased other free =>
        by_cases same : id = other
        · right
          rw [same]
          exact orderly.released index other current.below sound.1
        · exact Or.inl (List.mem_filter.mpr ⟨member, decide_eq_true same⟩)
    | _ => exact Or.inl member
  · exact Or.inr (outcome.cancelled_mono ended)

/-- A broadcast or a writer that goes on takes no more than it is owed. -/
theorem Orderly.owed_le (orderly : Orderly traffic) (current : At traffic index act rest)
    (outcome : Advanced callsign traffic index rest act next)
    (involved : act.reads = some .clientMap ∨ act.waitsFor = some .clientMap) (id : SessionId) :
    next.queued id + (next.ops index).owed id ≤
      traffic.queued id + (traffic.ops index).owed id := by
  have popped := orderly.owed_popped current outcome
  have todo := current.todo
  cases outcome with
  | inUse other same free member taken =>
      rw [owed_of_follows (by rw [setTodo_todo]; exact fun _ member => absurd member List.not_mem_nil)]
      exact Nat.le_add_right _ _
  | inserted other free unused =>
      rw [popped (setTodo_todo ..)]
      exact Nat.le_add_right _ _
  | erased other free =>
      rw [popped (setTodo_todo ..)]
      exact Nat.le_add_right _ _
  | finished mutex =>
      rw [popped (setTodo_todo ..)]
      exact Nat.le_add_right _ _
  | served mutex target others room =>
      have same : mutex = .clientMap := by
        rcases involved with reads | waits
        · exact Option.some.inj reads
        · cases waits
      subst same
      rw [owed_sending todo, owed_sending (setTodo_todo ..), count_cons_target]
      show (traffic.enqueue target).queued id + _ ≤ _
      rw [queued_enqueue]
      omega
  | skipped mutex target others ended =>
      have same : mutex = .clientMap := by
        rcases involved with reads | waits
        · exact Option.some.inj reads
        · cases waits
      subst same
      rw [owed_sending todo, owed_sending (setTodo_todo ..), count_cons_target]
      show traffic.queued id + _ ≤ _
      omega
  | _ =>
      rcases involved with reads | waits
      · cases reads
      · cases waits

/-- Nothing that is owed to a live session is dropped. -/
theorem owed_ge (current : At traffic index act rest)
    (outcome : Advanced callsign traffic index rest act next) {id : SessionId}
    (live : traffic.cancelled id = false) :
    traffic.queued id + (traffic.ops index).owed id ≤
      next.queued id + (next.ops index).owed id := by
  have todo := current.todo
  have nothing : (forall recipients, act ≠ .sending .clientMap recipients) ->
      (traffic.ops index).owed id = 0 := by
    intro other
    unfold Op.owed
    rw [todo]
    split
    · next recipients later same => exact absurd (List.cons.inj same).1 (other recipients)
    · rfl
  cases outcome with
  | finished mutex =>
      have empty : (traffic.ops index).owed id = 0 := by
        unfold Op.owed
        rw [todo]
        split
        · next recipients later same =>
            cases same
            exact List.count_nil
        · rfl
      rw [empty]
      exact Nat.le_add_right _ _
  | served mutex target others room =>
      cases mutex with
      | clientMap =>
          rw [owed_sending todo, owed_sending (setTodo_todo ..), count_cons_target]
          show _ ≤ (traffic.enqueue target).queued id + _
          rw [queued_enqueue]
          omega
      | tree =>
          rw [nothing (by intro recipients same; cases same)]
          show _ ≤ (traffic.enqueue target).queued id + _
          rw [queued_enqueue]
          omega
  | skipped mutex target others ended =>
      have different : target ≠ id := by
        intro same
        rw [same, live] at ended
        cases ended
      cases mutex with
      | clientMap =>
          rw [owed_sending todo, owed_sending (setTodo_todo ..), count_cons_target, if_neg different]
          exact Nat.le_refl _
      | tree =>
          rw [nothing (by intro recipients same; cases same)]
          exact Nat.le_add_right _ _
  | sent target reportTo room =>
      rw [nothing (by intro recipients same; cases same)]
      show _ ≤ (traffic.enqueue target).queued id + _
      rw [queued_enqueue]
      omega
  | _ =>
      rw [nothing (by intro recipients same; cases same)]
      exact Nat.le_add_right _ _

end Owed

theorem owed_le_sum (traffic : Traffic) {index : Nat} (below : index < traffic.begun)
    (id : SessionId) : (traffic.ops index).owed id ≤ owed id traffic :=
  Finset.single_le_sum (f := fun other => (traffic.ops other).owed id) (fun _ _ => Nat.zero_le _)
    (Finset.mem_range.mpr below)

/-- The session is registered or cancelled, and can take what it is owed. -/
structure Clearing (stalled : SessionId) (count : Nat) (traffic : Traffic) : Prop where
  orderly : Orderly traffic
  admitted : stalled ∈ traffic.registered ∨ traffic.cancelled stalled = true
  begun : traffic.begun = count
  slots : traffic.queued stalled + owed stalled traffic ≤ capacity stalled traffic

theorem Clearing.eased {stalled : SessionId} {count : Nat} {traffic middle : Traffic}
    (clearing : Clearing stalled count traffic) (eased : Eased traffic middle)
    (orderly : Orderly middle) : Clearing stalled count middle where
  orderly := orderly
  admitted := by
    rw [eased.registered, eased.cancelled]
    exact clearing.admitted
  begun := eased.begun.trans clearing.begun
  slots := by
    have before := clearing.slots
    have kept := eased.slots stalled
    have same : owed stalled middle = owed stalled traffic := by
      unfold owed
      rw [eased.ops, eased.begun]
    omega

theorem Clearing.advanced {callsign : SessionId -> Bytes} {stalled : SessionId} {count index : Nat}
    {traffic next : Traffic} {act : Act} {rest : List Act} (clearing : Clearing stalled count traffic)
    (current : At traffic index act rest)
    (outcome : Advanced callsign traffic index rest act next)
    (involved : act.reads = some .clientMap ∨ act.waitsFor = some .clientMap) :
    Clearing stalled count next where
  orderly := clearing.orderly.advanced current outcome
  admitted := clearing.orderly.admitted current outcome clearing.admitted
  begun := outcome.begun.trans clearing.begun
  slots := by
    have before := clearing.slots
    have total := outcome.sum current.below (Op.owed stalled)
    have local_ := clearing.orderly.owed_le current outcome involved stalled
    have same : capacity stalled next = capacity stalled traffic := by
      unfold capacity
      rw [clearing.orderly.worker_eq current outcome]
    unfold owed at before ⊢
    omega

/-- Who holds the map can go on, or else who waits for it. -/
theorem Clearing.progress (callsign : SessionId -> Bytes) {stalled : SessionId} {count : Nat}
    {traffic : Traffic} (clearing : Clearing stalled count traffic)
    (waiting : traffic.Waiting .clientMap) :
    Exists fun next => Reaches (stalledStep callsign stalled) traffic next ∧
      Clearing stalled count next ∧ Lighter next traffic := by
  have chosen : Exists fun index => Exists fun act => Exists fun rest => At traffic index act rest ∧
      (act.reads = some .clientMap ∨ act.waitsFor = some .clientMap) ∧
      (act.sendsTo = none -> ¬ traffic.Blocked act) := by
    by_cases held : traffic.Held .clientMap
    · rcases exists_at_of_held held with ⟨index, recipients, rest, current⟩
      refine ⟨index, _, rest, current, Or.inl rfl, ?_⟩
      intro none
      cases recipients with
      | nil => exact fun blocked => blocked
      | cons target others => cases none
    · rcases exists_at_of_waiting waiting with ⟨index, act, rest, current, waits⟩
      exact ⟨index, act, rest, current, Or.inr waits, fun _ => not_blocked_of_waitsFor waits held⟩
  rcases chosen with ⟨index, act, rest, current, involved, free⟩
  have able : forall target, act.sendsTo = some target -> traffic.Full target ->
      target ≠ stalled ∨ traffic.worker target = .idle := by
    intro target sends full
    by_cases same : target = stalled
    · subst same
      right
      have pending : 0 < (traffic.ops index).owed target := by
        have todo := current.todo
        cases act with
        | sending mutex recipients =>
            cases recipients with
            | nil => cases sends
            | cons first others =>
                cases sends
                have onMap : mutex = .clientMap := by
                  rcases involved with reads | waits
                  · exact Option.some.inj reads
                  · cases waits
                subst onMap
                rw [owed_sending todo, List.count_cons_self]
                exact Nat.succ_pos _
        | send first reportTo =>
            rcases involved with reads | waits
            · cases reads
            · cases waits
        | _ => cases sends
      have most := owed_le_sum traffic current.below target
      have slots := clearing.slots
      have filled := full.1
      unfold capacity at slots
      cases worker : traffic.worker target with
      | idle => rfl
      | _ =>
          rw [worker] at slots
          have none : Worker.absent.spare = 0 ∧ Worker.writing.spare = 0 := ⟨rfl, rfl⟩
          omega
    · exact Or.inl same
  rcases exists_eased callsign clearing.orderly current free able with
    ⟨middle, next, reached, eased, orderly, there, outcome⟩
  refine ⟨next, reached.trans (reaches_stalled callsign stalled there outcome), ?_, ?_⟩
  · exact (clearing.eased eased orderly).advanced there outcome involved
  · exact (lighter_of_advanced there outcome).of_eased eased

theorem exists_cleared (callsign : SessionId -> Bytes) {stalled : SessionId} {count : Nat}
    {traffic : Traffic} (clearing : Clearing stalled count traffic) :
    Exists fun next => Reaches (stalledStep callsign stalled) traffic next ∧
      Clearing stalled count next ∧ ¬ next.Waiting .clientMap := by
  refine exists_arrival wellFounded_lighter ?_ clearing
  intro state clear still
  exact clear.progress callsign (Classical.not_not.mp still)

/-- A kick that finds the map free. -/
theorem exists_kicked (callsign : SessionId -> Bytes) {traffic : Traffic} {stalled : SessionId}
    (member : stalled ∈ traffic.registered) (admitted : ¬ traffic.Waiting .clientMap) :
    Exists fun next => Reaches (stalledStep callsign stalled) traffic next ∧
      next.cancelled stalled = true := by
  generalize kicking : ({ traffic with
    ops := Function.update traffic.ops traffic.begun ⟨.kickUser stalled, [.find stalled .cancel]⟩
    begun := traffic.begun + 1 } : Traffic) = asked
  have allowed : withoutPeer stalled (.begin (.kickUser stalled)) = true := rfl
  have taken : step callsign traffic (.begin (.kickUser stalled)) = some asked := by
    rw [← kicking]
    rfl
  have first : Reaches (stalledStep callsign stalled) traffic asked :=
    Reaches.single (restrict_eq_some.mpr ⟨allowed, taken⟩)
  have below : traffic.begun < asked.begun := by
    rw [← kicking]
    exact Nat.lt_succ_self _
  have looking : At asked traffic.begun (.find stalled .cancel) [] := by
    refine ⟨below, ?_⟩
    rw [← kicking]
    dsimp only
    rw [Function.update_self]
  have free : ¬ asked.Waiting .clientMap := by
    rintro ⟨index, inRange, waits⟩
    by_cases same : index = traffic.begun
    · rw [same, looking.todo] at waits
      cases waits
    · apply admitted
      rw [← kicking] at inRange waits
      dsimp only at waits
      rw [Function.update_of_ne same] at waits
      exact ⟨index, Nat.lt_of_le_of_ne (Nat.le_of_lt_succ inRange) same, waits⟩
  have second := reaches_stalled callsign stalled looking (.looked stalled .cancel free)
  have found : asked.found (asked.ops traffic.begun).request.owner stalled .cancel =
      [.cancel stalled] := by
    unfold Traffic.found
    rw [← kicking]
    exact if_pos member
  rw [found] at second
  have cancelling : At (asked.setTodo traffic.begun ([.cancel stalled] ++ [])) traffic.begun
      (.cancel stalled) [] := ⟨below, setTodo_todo ..⟩
  have third := reaches_stalled callsign stalled cancelling (.cancelled stalled)
  exact ⟨_, first.trans (second.trans third), Function.update_self ..⟩

/-! ## The condition is exact -/

theorem Orderly.of_reaches {callsign : SessionId -> Bytes} {stalled : SessionId}
    {traffic next : Traffic} (orderly : Orderly traffic)
    (reached : Reaches (stalledStep callsign stalled) traffic next) :
    Orderly next ∧ traffic.begun ≤ next.begun := by
  have preserved : forall state label after, stalledStep callsign stalled state label = some after ->
      (Orderly state ∧ traffic.begun ≤ state.begun) -> Orderly after ∧ traffic.begun ≤ after.begun := by
    intro state label after taken kept
    rcases restrict_eq_some.mp taken with ⟨_, stepped⟩
    refine ⟨kept.1.step stepped, Nat.le_trans kept.2 ?_⟩
    cases moved_of_step stepped with
    | begun request permitted => exact Nat.le_succ _
    | advanced below todo outcome => exact Nat.le_of_eq outcome.begun.symm
    | _ => exact Nat.le_refl _
  exact invariant_of_reaches preserved ⟨orderly, Nat.le_refl _⟩ reached

theorem completable_of_cancelled (callsign : SessionId -> Bytes) {stalled : SessionId}
    {traffic middle : Traffic} (orderly : Orderly traffic)
    (reached : Reaches (stalledStep callsign stalled) traffic middle)
    (ended : middle.cancelled stalled = true) {index : Nat} (below : index < traffic.begun) :
    Completable callsign stalled traffic index := by
  rcases orderly.of_reaches reached with ⟨kept, more⟩
  rcases exists_finished callsign kept ended with ⟨next, further, finished⟩
  exact ⟨next, reached.trans further, finished index (Nat.lt_of_lt_of_le below more)⟩

theorem exists_at_of_cancels {traffic : Traffic} {index : Nat} {id : SessionId}
    (below : index < traffic.begun)
    (head : (traffic.ops index).todo.head?.bind Act.cancels = some id) :
    Exists fun rest => At traffic index (.cancel id) rest := by
  rcases Option.bind_eq_some_iff.mp head with ⟨act, first, cancels⟩
  rcases List.head?_eq_some_iff.mp first with ⟨rest, todo⟩
  cases act with
  | cancel target =>
      cases cancels
      exact ⟨rest, below, todo⟩
  | _ => cases cancels

theorem completable_of_not_wedged (callsign : SessionId -> Bytes) {stalled : SessionId}
    {traffic : Traffic} (orderly : Orderly traffic)
    (admitted : stalled ∈ traffic.registered ∨ traffic.cancelled stalled = true)
    (free : ¬ Wedged stalled traffic) {index : Nat} (below : index < traffic.begun) :
    Completable callsign stalled traffic index := by
  by_cases ended : traffic.cancelled stalled = true
  · exact completable_of_cancelled callsign orderly (Reaches.refl traffic) ended below
  by_cases reachedIt : Exists fun other => other < traffic.begun ∧
      (traffic.ops other).todo.head?.bind Act.cancels = some stalled
  · rcases reachedIt with ⟨other, inRange, head⟩
    rcases exists_at_of_cancels inRange head with ⟨rest, current⟩
    have cancels := reaches_stalled callsign stalled current (.cancelled stalled)
    exact completable_of_cancelled callsign orderly cancels (Function.update_self ..) below
  · have cleared : Exists fun next => Reaches (stalledStep callsign stalled) traffic next ∧
        (stalled ∈ next.registered ∨ next.cancelled stalled = true) ∧ ¬ next.Waiting .clientMap := by
      by_cases waiting : traffic.Waiting .clientMap
      · have slots : traffic.queued stalled + owed stalled traffic ≤ capacity stalled traffic := by
          apply Nat.le_of_not_lt
          intro overfull
          exact free ⟨eq_false_of_ne_true ended, waiting, overfull,
            fun other inRange head => reachedIt ⟨other, inRange, head⟩⟩
        rcases exists_cleared callsign ⟨orderly, admitted, rfl, slots⟩ with
          ⟨next, reached, clearing, idle⟩
        exact ⟨next, reached, clearing.admitted, idle⟩
      · exact ⟨traffic, Reaches.refl traffic, admitted, waiting⟩
    rcases cleared with ⟨next, reached, still, idle⟩
    rcases still with member | kicked
    · rcases exists_kicked callsign member idle with ⟨last, further, kicked⟩
      exact completable_of_cancelled callsign orderly (reached.trans further) kicked below
    · exact completable_of_cancelled callsign orderly reached kicked below

/-- A wedge, with one of the writers that wait for the map. -/
structure Waits (stalled : SessionId) (index : Nat) (traffic : Traffic) : Prop where
  orderly : Orderly traffic
  wedged : Wedged stalled traffic
  below : index < traffic.begun
  waits : (traffic.ops index).todo.head?.bind Act.waitsFor = some .clientMap

/-- Some broadcast holds the map, since the queue alone is not overfull. -/
theorem Wedged.held {stalled : SessionId} {traffic : Traffic} (wedged : Wedged stalled traffic)
    (orderly : Orderly traffic) : traffic.Held .clientMap := by
  have bounded := orderly.bounded stalled
  have overfull := wedged.overfull
  have positive : owed stalled traffic ≠ 0 := by
    unfold capacity at overfull
    omega
  rcases Finset.exists_ne_zero_of_sum_ne_zero positive with ⟨index, member, owes⟩
  refine ⟨index, Finset.mem_range.mp member, ?_⟩
  unfold Op.owed at owes
  split at owes
  · next recipients rest todo =>
      rw [todo]
      rfl
  · exact absurd rfl owes

/-- The writer cannot go on, since the map is held, and so it keeps waiting. -/
theorem Waits.advanced {callsign : SessionId -> Bytes} {stalled : SessionId} {writer index : Nat}
    {traffic next : Traffic} {act : Act} {rest : List Act} (waits : Waits stalled writer traffic)
    (current : At traffic index act rest)
    (outcome : Advanced callsign traffic index rest act next) : Waits stalled writer next := by
  have different : writer ≠ index := by
    intro same
    have head := waits.waits
    rw [same, current.todo] at head
    apply outcome.not_blocked
    have held := waits.wedged.held waits.orderly
    cases act with
    | insert id => exact held
    | erase id => exact held
    | _ => cases head
  have head : (next.ops writer).todo.head?.bind Act.waitsFor = some .clientMap := by
    rw [outcome.ops_of_ne different]
    exact waits.waits
  have below : writer < next.begun := outcome.begun ▸ waits.below
  have live : next.cancelled stalled = false := by
    have before := waits.wedged.live
    have notIt : act ≠ .cancel stalled := by
      intro same
      apply waits.wedged.unreached index current.below
      rw [current.todo, same]
      rfl
    cases outcome with
    | cancelled target =>
        show Function.update traffic.cancelled target true stalled = false
        rw [Function.update_of_ne fun same => notIt (congrArg Act.cancel same.symm)]
        exact before
    | _ => exact before
  refine ⟨waits.orderly.advanced current outcome, ⟨live, ⟨writer, below, head⟩, ?_, ?_⟩, below, head⟩
  · have before := waits.wedged.overfull
    have total := outcome.sum current.below (Op.owed stalled)
    have local_ := owed_ge current outcome waits.wedged.live
    have same : capacity stalled next = capacity stalled traffic := by
      unfold capacity
      rw [waits.orderly.worker_eq current outcome]
    unfold owed at before ⊢
    omega
  · intro other inRange
    rw [outcome.begun] at inRange
    by_cases same : other = index
    · subst same
      have sound := waits.orderly.at current
      have waiting := waits.wedged.waiting
      have inRest : (next.ops other).todo = rest ->
          (next.ops other).todo.head?.bind Act.cancels ≠ some stalled := by
        intro popped found
        rcases exists_at_of_cancels (outcome.begun ▸ inRange) found with ⟨later, current⟩
        exact sound.2 (.cancel stalled) (popped ▸ current.todo ▸ List.mem_cons_self)
      cases outcome with
      | looked target purpose admitted => exact absurd waiting admitted
      | inUse id other free member same =>
          rw [setTodo_todo]
          intro impossible
          cases impossible
      | refused target reportTo ended =>
          cases reportTo with
          | none => exact inRest (setTodo_todo ..)
          | some id =>
              rw [setTodo_todo]
              intro impossible
              cases impossible
      | visited mutex accepts order admitted listed =>
          rw [setTodo_todo]
          intro impossible
          cases impossible
      | served mutex target others room =>
          rw [setTodo_todo]
          intro impossible
          cases impossible
      | skipped mutex target others ended =>
          rw [setTodo_todo]
          intro impossible
          cases impossible
      | _ => exact inRest (setTodo_todo traffic other rest)
    · rw [outcome.ops_of_ne same]
      exact waits.wedged.unreached other inRange

theorem Waits.begun {stalled : SessionId} {writer : Nat} {traffic : Traffic}
    (waits : Waits stalled writer traffic) (op : Op)
    (fresh : op.owed stalled = 0) (other : op.todo.head?.bind Act.cancels ≠ some stalled)
    (orderly : Orderly { traffic with
      ops := Function.update traffic.ops traffic.begun op, begun := traffic.begun + 1 }) :
    Waits stalled writer { traffic with
      ops := Function.update traffic.ops traffic.begun op, begun := traffic.begun + 1 } := by
  have kept : forall index, index < traffic.begun ->
      Function.update traffic.ops traffic.begun op index = traffic.ops index :=
    fun index below => Function.update_of_ne (Nat.ne_of_lt below) _ _
  have head : (Function.update traffic.ops traffic.begun op writer).todo.head?.bind Act.waitsFor =
      some .clientMap := by
    rw [kept writer waits.below]
    exact waits.waits
  have below := Nat.lt_succ_of_lt waits.below
  refine ⟨orderly, ⟨waits.wedged.live, ⟨writer, below, head⟩, ?_, ?_⟩, below, head⟩
  · have before := waits.wedged.overfull
    unfold owed at before ⊢
    dsimp only
    rw [Finset.sum_range_succ, Function.update_self, fresh]
    rw [Finset.sum_congr rfl fun index member => congrArg (Op.owed stalled)
      (kept index (Finset.mem_range.mp member))]
    exact before
  · intro index inRange
    dsimp only
    by_cases same : index = traffic.begun
    · rw [same, Function.update_self]
      exact other
    · have earlier := Nat.lt_of_le_of_ne (Nat.le_of_lt_succ inRange) same
      rw [kept index earlier]
      exact waits.wedged.unreached index earlier

theorem owed_acts (id : SessionId) (request : Request) :
    (⟨request, request.acts⟩ : Op).owed id = 0 := by
  cases request <;> rfl

theorem cancels_acts (id : SessionId) (request : Request) :
    request.acts.head?.bind Act.cancels ≠ some id := by
  intro impossible
  cases request <;> cases impossible

theorem Waits.step {callsign : SessionId -> Bytes} {stalled : SessionId} {writer : Nat}
    {traffic next : Traffic} {label : Label} (waits : Waits stalled writer traffic)
    (taken : stalledStep callsign stalled traffic label = some next) : Waits stalled writer next := by
  rcases restrict_eq_some.mp taken with ⟨allowed, stepped⟩
  have orderly := waits.orderly.step stepped
  rcases waits with ⟨_, ⟨live, waiting, overfull, unreached⟩, below, head⟩
  have same : Waits stalled writer traffic :=
    ⟨by assumption, ⟨live, waiting, overfull, unreached⟩, below, head⟩
  cases moved_of_step stepped with
  | begun request permitted =>
      exact same.begun _ (owed_acts stalled request) (cancels_acts stalled request) orderly
  | advanced inRange todo outcome => exact same.advanced ⟨inRange, todo⟩ outcome
  | received id idle queued =>
      refine ⟨orderly, ⟨live, waiting, ?_, unreached⟩, below, head⟩
      show sendChanCapacity + (Function.update traffic.worker id .writing stalled).spare <
        Function.update traffic.queued id (traffic.queued id - 1) stalled + owed stalled traffic
      unfold capacity at overfull
      by_cases itself : stalled = id
      · subst itself
        rw [Function.update_self, Function.update_self]
        rw [idle] at overfull
        have spare : Worker.idle.spare = 1 ∧ Worker.writing.spare = 0 := ⟨rfl, rfl⟩
        omega
      · rw [Function.update_of_ne itself, Function.update_of_ne itself]
        exact overfull
  | flushed id writing =>
      refine ⟨orderly, ⟨live, waiting, ?_, unreached⟩, below, head⟩
      have others : id ≠ stalled := of_decide_eq_true allowed
      show sendChanCapacity + (Function.update traffic.worker id .idle stalled).spare < _
      rw [Function.update_of_ne (Ne.symm others)]
      exact overfull
  | hungUp id =>
      have others : id ≠ stalled := of_decide_eq_true allowed
      refine ⟨orderly, ⟨?_, waiting, overfull, unreached⟩, below, head⟩
      show Function.update traffic.cancelled id true stalled = false
      rw [Function.update_of_ne (Ne.symm others)]
      exact live

/-- In a wedge the writer is one of the operations that must complete, and it
does not. -/
theorem Wedged.exists_not_completable {stalled : SessionId} {traffic : Traffic}
    (wedged : Wedged stalled traffic) (callsign : SessionId -> Bytes) (orderly : Orderly traffic)
    (past : PastLogin stalled traffic) :
    Exists fun index => index < traffic.begun ∧
      (traffic.ops index).request.mustComplete stalled = true ∧
        ¬ Completable callsign stalled traffic index := by
  rcases exists_at_of_waiting wedged.waiting with ⟨index, act, rest, current, waitsFor⟩
  have head : (traffic.ops index).todo.head?.bind Act.waitsFor = some .clientMap := by
    rw [current.todo]
    exact waitsFor
  have waits : Waits stalled index traffic := ⟨orderly, wedged, current.below, head⟩
  have sound := (orderly.at current).1
  refine ⟨index, current.below, ?_, ?_⟩
  · cases act with
    | insert id =>
        have request : (traffic.ops index).request = .register id := sound
        rw [request]
        refine decide_eq_true ?_
        intro same
        subst same
        have registers : (traffic.ops index).request.isRegister id = true := by
          rw [request]
          exact decide_eq_true rfl
        cases current.todo.symm.trans (past.settled index current.below registers)
    | erase id =>
        have request : (traffic.ops index).request = .release id := sound
        rw [request]
        refine decide_eq_true ?_
        intro same
        subst same
        cases wedged.live.symm.trans (orderly.released index id current.below request)
    | reindex => cases waitsFor
    | _ => cases waitsFor
  · rintro ⟨next, reached, finished⟩
    have still : Waits stalled index next :=
      invariant_of_reaches (fun _ _ _ taken kept => kept.step taken) waits reached
    have impossible := still.waits
    rw [finished] at impossible
    cases impossible

/-- In every reachable state, the operations of the other parties and the kicks
of the stalled session can be completed without its peer if and only if it
does not wedge the map. -/
theorem completable_iff_not_wedged (callsign : SessionId -> Bytes) {traffic : Traffic}
    (reachable : Reachable callsign traffic) {stalled : SessionId}
    (past : PastLogin stalled traffic) :
    (forall index, index < traffic.begun ->
      (traffic.ops index).request.mustComplete stalled = true ->
        Completable callsign stalled traffic index) ↔ ¬ Wedged stalled traffic := by
  constructor
  · intro completable wedged
    rcases wedged.exists_not_completable callsign reachable.orderly past with ⟨index, below, must, stuck⟩
    exact stuck (completable index below must)
  · intro free index below _
    exact completable_of_not_wedged callsign reachable.orderly past.admitted free below

/-! ## Three parties are enough -/

/-- Session 1 has filled the queue of session 0, whose worker has one more
packet in its hand.  Session 2 is in a broadcast to both. -/
def crowding : List Label :=
  (List.range 33).flatMap (fun index =>
    [.begin (.sendDirectOrErr 1 0), .advance index .plain, .advance index .plain] ++
      if index = 0 then [.receive 0] else []) ++
    [.begin (.broadcast 2 .clientMap (fun _ => true)), .advance 33 (.visiting [0, 1])]

/-- As long as no writer comes, session 0 can be kicked. -/
theorem completable_iff_not_wedged_crowding : Exists fun traffic =>
    run (step numbered) (quiet [0, 1, 2]) (crowding ++ [.begin (.kickUser 0)]) = some traffic ∧
      Completable numbered 0 traffic 34 := by
  have decided : (run (step numbered) (quiet [0, 1, 2]) (crowding ++ [.begin (.kickUser 0)])).any
      (fun traffic => decide (PastLogin 0 traffic ∧ ¬ Wedged 0 traffic ∧ 34 < traffic.begun ∧
        (traffic.ops 34).request.mustComplete 0 = true)) = true := by
    decide +kernel
  rcases (Option.any_eq_true _ _).mp decided with ⟨traffic, executed, holds⟩
  rcases of_decide_eq_true holds with ⟨past, free, below, must⟩
  refine ⟨_, executed, ?_⟩
  exact (completable_iff_not_wedged numbered ⟨[0, 1, 2], _, executed⟩ past).mpr free 34 below must

/-- When session 3 registers in this state, neither its registration nor a
kick of session 0 can be completed. -/
theorem stalled_client_wedges : ¬ forall (callsign : SessionId -> Bytes) (traffic : Traffic),
    Reachable callsign traffic -> forall stalled, PastLogin stalled traffic ->
      forall index, index < traffic.begun ->
        (traffic.ops index).request.mustComplete stalled = true ->
          Completable callsign stalled traffic index := by
  intro completable
  have decided : (run (step numbered) (quiet [0, 1, 2])
      (crowding ++ [.begin (.register 3), .advance 34 .plain])).any
        (fun traffic => decide (PastLogin 0 traffic ∧ Wedged 0 traffic)) = true := by
    decide +kernel
  rcases (Option.any_eq_true _ _).mp decided with ⟨traffic, executed, holds⟩
  rcases of_decide_eq_true holds with ⟨past, wedged⟩
  have reachable : Reachable numbered traffic := ⟨[0, 1, 2], _, executed⟩
  rcases wedged.exists_not_completable numbered reachable.orderly past with
    ⟨index, below, must, stuck⟩
  exact stuck (completable numbered _ reachable 0 past index below must)

end Fsd
end OpenFsd
