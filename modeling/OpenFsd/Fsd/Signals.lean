import OpenFsd.Fsd.Registry
import OpenFsd.Fsd.SendFast
import OpenFsd.Fsd.Speaker

namespace OpenFsd
namespace Fsd

open Db Transition

/-!
# Send-fast signalling over whole runs

The decision switches the flag first and hands the packet that says so to
`Client.send`, whose error it drops.  While the context of the session is live,
`send` queues the packet.  The event loop reads on after `cancelCtx`, and then
`send` may refuse the packet, but the flag stays switched.

So the flag, and the sequence of what is queued, are in step all along a run if
and only if `send` takes every send-fast packet of the run.  One direction is an
invariant, with the number of the queued packets.  For the other, a single
refused packet leaves the flag at odds with what was queued last.
-/

namespace Server

variable {F : Type}

/-- The send-fast packets that have been put into the channel of a client, in
order. -/
def queuedSignals (s : Server F) (id : SessionId) : List Bytes :=
  (s.queued id).filter fun packet => hasPrefix packet (bytes "$SF")

/-! ## What a step queues -/

/-- Where nothing of the kind is sent, nothing of the kind is queued. -/
theorem filter_queuedFrom_eq_nil {id : SessionId} {events : List Event}
    (unsent : signals id events = []) (takesDone : Nat -> Bool) (number : Nat) (ended : Bool) :
    (queuedFrom takesDone id number ended events).filter
      (fun packet => hasPrefix packet (bytes "$SF")) = [] := by
  have less := (queuedFrom_sublist takesDone id number ended events).filter
    fun packet => hasPrefix packet (bytes "$SF")
  exact List.sublist_nil.mp (unsent ▸ less)

theorem queuedSignals_append {s next : Server F} {id : SessionId} {caused : List Event}
    (grown : next.events = s.events ++ caused)
    (takesDone : (next.clients id).takesDone = (s.clients id).takesDone) :
    next.queuedSignals id = s.queuedSignals id ++
      (queuedFrom (s.clients id).takesDone id s.events.length
        (decide (Event.cancel id ∈ s.events)) caused).filter
          fun packet => hasPrefix packet (bytes "$SF") := by
  unfold queuedSignals queued
  rw [grown, takesDone, queuedFrom_append, List.filter_append, Nat.zero_add, Bool.false_or]

theorem Steady.signals_events {s next : Server F} (steady : Steady s next) (id : SessionId) :
    signals id next.events = signals id s.events := by
  rcases steady.emits with ⟨caused, same, free⟩
  rw [same, signals_append, signals_of_signalFree id free, List.append_nil]

theorem Steady.queuedSignals {s next : Server F} (steady : Steady s next) (id : SessionId) :
    next.queuedSignals id = s.queuedSignals id := by
  rcases steady.emits with ⟨caused, grown, free⟩
  rw [queuedSignals_append grown (steady.takesDone id),
    filter_queuedFrom_eq_nil (signals_of_signalFree id free), List.append_nil]

theorem events_switchSendFast (s : Server F) (id : SessionId) (enabled : Bool) :
    (s.switchSendFast id enabled).events =
      s.events ++ [.send id (sendFastPacket (s.clients id).callsign enabled)] :=
  rfl

/-- The packet of a switch is queued unless `send` refuses it. -/
theorem queuedSignals_switch {s : Server F} {id : SessionId} (marked : s.Marked id)
    (enabled : Bool) :
    (s.switchSendFast id enabled).queuedSignals id = s.queuedSignals id ++
      if s.refuses id then [] else [sendFastPacket (s.clients id).callsign enabled] := by
  have ended : decide (Event.cancel id ∈ s.events) = (s.clients id).cancelled := by
    rw [Bool.eq_iff_iff, decide_eq_true_eq]
    exact marked.symm
  have kept : ((s.switchSendFast id enabled).clients id).takesDone = (s.clients id).takesDone := by
    rw [switchSendFast_same]
  rw [queuedSignals_append (s.events_switchSendFast id enabled) kept, ended]
  congr 1
  simp only [queuedFrom, queuedAt, List.append_nil, decide_true, Bool.true_and]
  unfold refuses
  cases (s.clients id).cancelled && (s.clients id).takesDone s.events.length with
  | true => rfl
  | false => rfl

theorem signals_switch_other {s : Server F} {id other : SessionId} (different : other ≠ id)
    (enabled : Bool) :
    signals other (s.switchSendFast id enabled).events = signals other s.events := by
  rw [events_switchSendFast, signals_append]
  unfold signals
  rw [sentTo_send_other (Ne.symm different)]
  exact List.append_nil _

theorem queuedSignals_switch_other {s : Server F} {id other : SessionId} (different : other ≠ id)
    (enabled : Bool) :
    (s.switchSendFast id enabled).queuedSignals other = s.queuedSignals other := by
  have kept : ((s.switchSendFast id enabled).clients other).takesDone =
      (s.clients other).takesDone := by
    rw [s.switchSendFast_other different]
  have unsent : signals other
      [.send id (sendFastPacket (s.clients id).callsign enabled)] = [] := by
    unfold signals
    rw [sentTo_send_other (Ne.symm different)]
    rfl
  rw [queuedSignals_append (s.events_switchSendFast id enabled) kept,
    filter_queuedFrom_eq_nil unsent, List.append_nil]

theorem marked_switchSendFast {s : Server F} {id other : SessionId} {enabled : Bool} :
    (s.switchSendFast id enabled).Marked other ↔ s.Marked other := by
  have record : ((s.switchSendFast id enabled).clients other).cancelled =
      (s.clients other).cancelled := by
    by_cases own : other = id
    · rw [own, switchSendFast_same]
    · rw [s.switchSendFast_other own]
  unfold Marked
  rw [record, events_switchSendFast, List.mem_append, List.mem_singleton,
    or_iff_left Event.noConfusion]

theorem toLoginData_switchSendFast (s : Server F) (id : SessionId) (enabled : Bool)
    (other : SessionId) : ((s.switchSendFast id enabled).clients other).toLoginData =
      (s.clients other).toLoginData := by
  by_cases own : other = id
  · rw [own, switchSendFast_same]
  · rw [s.switchSendFast_other own]

/-! ## In step -/

/-- So many packets have been queued for the client, in alternation, and the
flag tells which kind was the last. -/
structure Counted (s : Server F) (id : SessionId) (count : Nat) : Prop where
  queued : s.queuedSignals id = alternating (s.clients id).callsign count
  enabled : (s.clients id).sendFastEnabled = decide (count % 2 = 1)
  silent : (s.clients id).protoRevision ≠ 101 -> count = 0

theorem Counted.steady {s next : Server F} {id : SessionId} {count : Nat}
    (counted : Counted s id count) (steady : Steady s next)
    (kept : (next.clients id).toLoginData = (s.clients id).toLoginData) :
    Counted next id count where
  queued := by
    rw [steady.queuedSignals id, kept]
    exact counted.queued
  enabled := (steady.enabled id).trans counted.enabled
  silent := by
    rw [kept]
    exact counted.silent

/-- One more packet, of the kind whose turn it is. -/
theorem Counted.switch {s : Server F} {id : SessionId} {count : Nat} (counted : Counted s id count)
    (marked : s.Marked id) (taken : s.refuses id = false)
    (revision : (s.clients id).protoRevision = 101) :
    Counted (s.switchSendFast id !(s.clients id).sendFastEnabled) id (count + 1) := by
  have turn : (!(s.clients id).sendFastEnabled) = (count % 2 == 0) := by
    rw [counted.enabled]
    rcases Nat.mod_two_eq_zero_or_one count with even | odd
    · rw [even]
      rfl
    · rw [odd]
      rfl
  constructor
  · rw [queuedSignals_switch marked, taken, if_neg Bool.false_ne_true, counted.queued,
      switchSendFast_same, alternating_succ, turn]
  · rw [switchSendFast_same, turn]
    rcases Nat.mod_two_eq_zero_or_one count with even | odd
    · have next : (count + 1) % 2 = 1 := by omega
      rw [even, next]
      rfl
    · have next : (count + 1) % 2 = 0 := by omega
      rw [odd, next]
      rfl
  · rw [switchSendFast_same]
    exact fun other => absurd revision other

theorem Counted.switch_other {s : Server F} {id other : SessionId} {count : Nat}
    (counted : Counted s other count) (different : other ≠ id) (enabled : Bool) :
    Counted (s.switchSendFast id enabled) other count := by
  have record := s.switchSendFast_other different enabled
  constructor
  · rw [queuedSignals_switch_other different, record]
    exact counted.queued
  · rw [record]
    exact counted.enabled
  · rw [record]
    exact counted.silent

/-- After a refused packet, no number fits. -/
theorem Counted.not_of_refused {s : Server F} {id : SessionId} {count later : Nat}
    (counted : Counted s id count) (marked : s.Marked id) (refused : s.refuses id = true) :
    ¬ Counted (s.switchSendFast id !(s.clients id).sendFastEnabled) id later := by
  intro after
  have same : alternating (s.clients id).callsign later =
      alternating (s.clients id).callsign count := by
    have queued := after.queued
    rw [queuedSignals_switch marked, refused, if_pos rfl, List.append_nil, switchSendFast_same,
      counted.queued] at queued
    exact queued.symm
  have equal : later = count := by
    have lengths := congrArg List.length same
    simpa [alternating] using lengths
  have flag := after.enabled
  rw [switchSendFast_same, equal, ← counted.enabled] at flag
  exact absurd flag (Bool.not_ne_self _)

end Server

namespace System

variable {F : Type} {P : Platform}

theorem noSignal_addPacket (client : Client F) : NoSignal (Server.addPacket client) := by
  unfold Server.addPacket
  cases client.isAtc with
  | true => rfl
  | false => rfl

theorem noSignal_disconnectPacket (client : Client F) :
    NoSignal (Server.disconnectPacket client) := by
  unfold Server.disconnectPacket
  cases client.isAtc with
  | true => rfl
  | false => rfl

/-! ## What a step does to the signalling -/

/-- Only contexts of allocated sessions end. -/
def CancelsBelow (allocated : SessionId) (event : Event) : Prop :=
  forall victim, event = .cancel victim -> victim < allocated

section Steps

variable [GoFloat F]

/-- Where the packet makes the server switch the flag of its sender, `send` takes
the packet that says so. -/
def SignalsTaken (system : System F) : Action -> Prop
  | .packet now id packet =>
      system.server.Registered id ->
        forall reported, system.server.Signals now id packet reported ->
          reported.refuses id = false
  | _ => True

/-- What one step does to the signalling. -/
inductive SignalStep (P : Platform) (system : System F) (action : Action) : System F -> Prop
  | steady (server : Server F) (taken : SignalsTaken system action)
      (steady : Server.Steady system.server server)
      (kept : forall id, (server.clients id).toLoginData = (system.server.clients id).toLoginData)
      (cancels : Server.Emits (CancelsBelow system.allocated) system.server server) :
      SignalStep P system action { system with server := server }
  | connected (env : LoginEnv) (database : Database) (idLine addLine : Option Bytes)
      (client : Client F) (server : Server F) (taken : SignalsTaken system action)
      (loggedIn : login P env database idLine addLine = .ok client)
      (clients : server.clients = Function.update system.server.clients system.allocated client)
      (events : server.events = system.server.events) :
      SignalStep P system action ⟨server, system.allocated + 1⟩
  | switched (id : SessionId) (reported : Server F) (below : id < system.allocated)
      (decided : SignalsTaken system action ↔ reported.refuses id = false)
      (steady : Server.Steady system.server reported)
      (kept : forall id, (reported.clients id).toLoginData = (system.server.clients id).toLoginData)
      (cancels : Server.Emits (CancelsBelow system.allocated) system.server
        (reported.switchSendFast id !(reported.clients id).sendFastEnabled))
      (revision : (reported.clients id).protoRevision = 101) :
      SignalStep P system action { system with
        server := reported.switchSendFast id !(reported.clients id).sendFastEnabled }

/-- The contexts that a packet ends are those of sessions that the map finds. -/
theorem cancels_processPacket {system : System F} (wellFormed : WellFormed P system)
    {id : SessionId} (below : id < system.allocated) (now : Time) (packet : Bytes) :
    Server.Emits (CancelsBelow system.allocated) system.server
      (system.server.processPacket P.md5 now id packet) := by
  refine (system.server.emits_processPacket P.md5 now id packet).mono ?_
  intro event outgoing victim same
  subst same
  cases outgoing with
  | cancelled _ known =>
      rcases known with own | ⟨callsign, found⟩
      · rw [own]
        exact below
      · exact (wellFormed.mapped callsign victim found).2

theorem CancelsBelow.send {allocated recipient : SessionId} {packet : Bytes} :
    CancelsBelow allocated (.send recipient packet) := by
  intro victim same
  cases same

theorem CancelsBelow.cancel {allocated victim : SessionId} (below : victim < allocated) :
    CancelsBelow allocated (.cancel victim) := by
  intro other same
  rw [← Event.cancel.inj same]
  exact below

theorem signalStep_of_step {system next : System F} {action : Action}
    (taken : System.step P system action = some next) (wellFormed : WellFormed P system) :
    SignalStep P system action next := by
  cases action with
  | connect env database idLine addLine =>
      rcases step_connect_cases taken with same | ⟨server, connected, same⟩
      · rw [same]
        exact .steady _ True.intro (.refl _) (fun _ => rfl) (.silent rfl)
      · rw [same]
        rcases Server.connect_eq_ok connected with ⟨client, loggedIn, registered⟩
        exact .connected env database idLine addLine client server True.intro loggedIn
          registered.clients (Server.events_connect connected)
  | announce id =>
      rcases Option.ite_none_right_eq_some.mp taken with ⟨_, same⟩
      rw [← Option.some.inj same]
      refine .steady _ True.intro
        (Server.Steady.broadcastAllWhere _ id _ (noSignal_addPacket _)) (fun _ => rfl) ?_
      exact Server.emits_broadcastAllWhere _ id _ fun _ => .send
  | packet now id packet =>
      rcases Option.ite_none_right_eq_some.mp taken with ⟨registered, same⟩
      rw [← Option.some.inj same]
      have below := wellFormed.allocated_of_registered registered
      have cancels := cancels_processPacket wellFormed below now packet
      have kept := system.server.toLoginData_processPacket P.md5 now id packet
      have turn := system.server.signalTurn_processPacket P.md5 now id packet
      revert cancels kept turn
      generalize system.server.processPacket P.md5 now id packet = server
      intro cancels kept turn
      cases turn with
      | steady _ steady keeps =>
          exact .steady _ (fun _ reported signals => absurd signals (keeps reported)) steady kept
            cancels
      | switched reported steady signals =>
          have unmoved : forall other, (reported.clients other).toLoginData =
              (system.server.clients other).toLoginData := by
            intro other
            rw [← kept other, Server.toLoginData_switchSendFast]
          refine .switched id reported below ?_ steady unmoved cancels signals.switches.1
          constructor
          · exact fun takes => takes registered reported signals
          · intro accepts _ other signalsOther
            rw [signals.unique signalsOther]
            exact accepts
  | depart id =>
      rcases Option.ite_none_right_eq_some.mp taken with ⟨registered, same⟩
      rw [← Option.some.inj same]
      have below := wellFormed.allocated_of_registered registered
      have cancelled := Server.Steady.cancelCtx system.server id
      refine .steady _ True.intro (cancelled.trans
        (Server.Steady.broadcastAllWhere _ id _ (noSignal_disconnectPacket _)))
        (Undisturbed.cancelCtx system.server id).toLoginData ?_
      exact (Server.emits_cancelCtx _ (.cancel below)).trans
        (Server.emits_broadcastAllWhere _ id _ fun _ => .send)
  | release id =>
      rcases Option.ite_none_right_eq_some.mp taken with ⟨_, same⟩
      rw [← Option.some.inj same]
      exact .steady _ True.intro (.of_plain (.silent rfl) fun _ => rfl) (fun _ => rfl) (.silent rfl)
  | kick callsign =>
      rcases Option.map_eq_some_iff.mp taken with ⟨server, kicked, same⟩
      rcases Option.map_eq_some_iff.mp kicked with ⟨victim, found, cancelled⟩
      rw [← same, ← cancelled]
      exact .steady _ True.intro (Server.Steady.cancelCtx system.server victim)
        (Undisturbed.cancelCtx system.server victim).toLoginData
        (Server.emits_cancelCtx _ (.cancel (wellFormed.mapped callsign victim found).2))

end Steps

/-! ## What holds however the packets are taken -/

/-- The ends of contexts are all recorded, and a session that is not yet
allocated has been sent nothing of the kind, nor has its context ended. -/
structure Tracked (system : System F) : Prop where
  marked : forall id, id < system.allocated -> system.server.Marked id
  unsent : forall id, system.allocated ≤ id -> signals id system.server.events = []
  live : forall id, system.allocated ≤ id -> Event.cancel id ∉ system.server.events

theorem tracked_start (heap : SessionId -> Client F) : Tracked (start heap) where
  marked := fun _ below => absurd below (Nat.not_lt_zero _)
  unsent := fun _ _ => rfl
  live := fun _ _ => List.not_mem_nil

theorem Tracked.advance {system : System F} (tracked : Tracked system) {next : Server F}
    (marked : forall id, system.server.Marked id -> next.Marked id)
    (unsent : forall id, system.allocated ≤ id ->
      signals id next.events = signals id system.server.events)
    (cancels : Server.Emits (CancelsBelow system.allocated) system.server next) :
    Tracked { system with server := next } where
  marked := fun id below => marked id (tracked.marked id below)
  unsent := fun id above => (unsent id above).trans (tracked.unsent id above)
  live := by
    intro id above member
    rcases cancels with ⟨caused, grown, permitted⟩
    dsimp only at member
    rw [grown, List.mem_append] at member
    rcases member with earlier | now
    · exact tracked.live id above earlier
    · exact absurd (permitted _ now id rfl) (Nat.not_lt.mpr above)

variable [GoFloat F]

theorem Tracked.step {system next : System F} {action : Action} (tracked : Tracked system)
    (stepped : SignalStep P system action next) : Tracked next := by
  cases stepped with
  | steady server _ steady _ cancels =>
      exact tracked.advance steady.marked (fun id _ => steady.signals_events id) cancels
  | connected env database idLine addLine client server _ loggedIn clients events =>
      rcases login_fresh loggedIn with ⟨_, _, _, _, _, fresh⟩
      constructor
      · intro id below
        unfold Server.Marked
        dsimp only
        rw [events, clients]
        by_cases own : id = system.allocated
        · rw [own, Function.update_self, fresh]
          exact iff_of_false Bool.false_ne_true (tracked.live _ (Nat.le_refl _))
        · rw [Function.update_of_ne own]
          exact tracked.marked id (Nat.lt_of_le_of_ne (Nat.le_of_lt_succ below) own)
      · intro id above
        dsimp only
        rw [events]
        exact tracked.unsent id (Nat.le_of_succ_le above)
      · intro id above
        dsimp only
        rw [events]
        exact tracked.live id (Nat.le_of_succ_le above)
  | switched id reported below _ steady _ cancels =>
      apply tracked.advance
      · intro other marked
        exact Server.marked_switchSendFast.mpr (steady.marked other marked)
      · intro other above
        have different : other ≠ id := by
          intro same
          rw [same] at above
          exact Nat.lt_irrefl _ (Nat.lt_of_lt_of_le below above)
        exact (Server.signals_switch_other different _).trans (steady.signals_events other)
      · exact cancels

theorem tracked_of_step {system next : System F} {action : Action}
    (taken : System.step P system action = some next) (held : WellFormed P system ∧ Tracked system) :
    WellFormed P next ∧ Tracked next :=
  ⟨held.1.step taken, held.2.step (signalStep_of_step taken held.1)⟩

theorem tracked_of_reaches {heap : SessionId -> Client F} {system : System F}
    (reached : Reaches (System.step P) (start heap) system) : Tracked system := by
  have both := invariant_of_reaches
    (fun current _ _ taken (held : WellFormed P current ∧ Tracked current) =>
      tracked_of_step taken held)
    ⟨wellFormed_start heap, tracked_start heap⟩ reached
  exact both.2

omit [GoFloat F] in
/-- Whatever is sent to a session whose context is live is queued. -/
theorem Tracked.queued_eq_sentTo {system : System F} (tracked : Tracked system) {id : SessionId}
    (below : id < system.allocated) (live : (system.server.clients id).cancelled = false) :
    system.server.queued id = sentTo id system.server.events := by
  apply queuedFrom_of_live
  intro ended
  rw [(tracked.marked id below).mpr ended] at live
  cases live

/-! ## The invariant of the runs in which every packet is taken -/

/-- Every session is in step with what has been queued for it. -/
def InStep (system : System F) : Prop :=
  forall id, id < system.allocated -> Exists fun count => Server.Counted system.server id count

/-- A step keeps the sessions in step, if and only if `send` takes its packet. -/
theorem signalsTaken_iff {system next : System F} {action : Action} (tracked : Tracked system)
    (inStep : InStep system) (stepped : SignalStep P system action next) :
    SignalsTaken system action ↔ InStep next := by
  cases stepped with
  | steady server taken steady kept _ =>
      refine iff_of_true taken ?_
      intro id below
      rcases inStep id below with ⟨count, counted⟩
      exact ⟨count, counted.steady steady (kept id)⟩
  | connected env database idLine addLine client server taken loggedIn clients events =>
      rcases login_fresh loggedIn with ⟨_, _, _, _, _, fresh⟩
      refine iff_of_true taken ?_
      intro id below
      by_cases own : id = system.allocated
      · subst own
        refine ⟨0, ?_, ?_, fun _ => rfl⟩
        · unfold Server.queuedSignals Server.queued
          dsimp only
          rw [events]
          exact Server.filter_queuedFrom_eq_nil (tracked.unsent _ (Nat.le_refl _)) _ _ _
        · dsimp only
          rw [clients, Function.update_self, fresh]
          rfl
      · rcases inStep id (Nat.lt_of_le_of_ne (Nat.le_of_lt_succ below) own) with ⟨count, counted⟩
        have record : server.clients id = system.server.clients id := by
          rw [clients, Function.update_of_ne own]
        refine ⟨count, ?_, ?_, ?_⟩
        · unfold Server.queuedSignals Server.queued
          dsimp only
          rw [events, record]
          exact counted.queued
        · rw [record]
          exact counted.enabled
        · rw [record]
          exact counted.silent
  | switched id reported below decided steady kept _ revision =>
      have marked := steady.marked id (tracked.marked id below)
      rw [decided]
      constructor
      · intro takes other belowOther
        rcases inStep other belowOther with ⟨count, counted⟩
        have reportedTo := counted.steady steady (kept other)
        by_cases own : other = id
        · subst own
          exact ⟨count + 1, reportedTo.switch marked takes revision⟩
        · exact ⟨count, reportedTo.switch_other own _⟩
      · intro after
        -- A refused packet leaves the queue as it was, but the flag has moved on.
        rcases inStep id below with ⟨count, counted⟩
        rcases after id below with ⟨later, countedLater⟩
        cases refused : reported.refuses id with
        | false => rfl
        | true =>
            exact absurd countedLater
              ((counted.steady steady (kept id)).not_of_refused marked refused)

theorem run_inStep_iff (heap : SessionId -> Client F) (actions : List Action) :
    (forall system, Visits (System.step P) (start heap) actions system -> InStep system) ↔
      Along (System.step P) SignalsTaken (start heap) actions := by
  apply forall_visited_iff
    (fun current _ _ taken (held : WellFormed P current ∧ Tracked current) =>
      tracked_of_step taken held)
    (fun system action next taken held inStep =>
      signalsTaken_iff held.2 inStep (signalStep_of_step taken held.1))
    ?_ ⟨wellFormed_start heap, tracked_start heap⟩
    (fun _ below => absurd below (Nat.not_lt_zero _))
  intro system action disabled
  cases action with
  | packet now id packet =>
      intro registered
      dsimp only [System.step] at disabled
      rw [if_pos registered] at disabled
      cases disabled
  | _ => exact True.intro

end System

/-! ## Two pilots -/

theorem distance_self (lat lon : Real) : distance lat lon lat lon = 0 := by
  have right : (⟨1, 0⟩ : Complex) = 1 := rfl
  simp [distance, GoFloat.sin, GoFloat.sqrt, GoFloat.atan2, GoFloat.ofRat, right]

namespace Server

variable {s reported : Server Real} {id other : SessionId} {packet : Bytes} {center : Real × Real}

theorem Signals.processPacket {now : Time} (signals : s.Signals now id packet reported)
    (md5 : Bytes -> List.Vector UInt8 16) :
    s.processPacket md5 now id packet =
      reported.switchSendFast id !(reported.clients id).sendFastEnabled := by
  rcases signals.parsed with ⟨center, parsed, same⟩
  refine (processPacket_of_accepted signals.accepted).trans ?_
  dsimp only [runHandler]
  rw [handlePilotPosition_of_parsed parsed, ← same, updateSendFast_of_switches signals.switches]

/-- While the context is live, the packet of the switch is queued. -/
theorem Signals.queued {now : Time}
    (signals : s.Signals now id packet (s.reportPosition now id packet center))
    (marked : s.Marked id) (live : (s.clients id).cancelled = false)
    (md5 : Bytes -> List.Vector UInt8 16) :
    (s.processPacket md5 now id packet).queuedSignals id = s.queuedSignals id ++
        [sendFastPacket (s.clients id).callsign !(s.clients id).sendFastEnabled] ∧
      outlet ((s.processPacket md5 now id packet).clients id) =
        (!(s.clients id).sendFastEnabled, (s.clients id).takesDone, false) ∧
      (s.reportPosition now id packet center).refuses id = false := by
  have steady := s.steady_reportPosition now id (noSignal_of_accepted signals.accepted) center
  have outlet := s.outlet_reportPosition now id packet center
  have login := s.toLoginData_reportPosition now id packet center
  have kept : ((s.reportPosition now id packet center).clients id).cancelled = false :=
    (congrArg (fun outlet => outlet.2.2) outlet).trans live
  have takes : (s.reportPosition now id packet center).refuses id = false := by
    unfold refuses
    rw [kept]
    rfl
  have flag := steady.enabled id
  rw [signals.processPacket md5]
  refine ⟨?_, ?_, takes⟩
  · rw [queuedSignals_switch (steady.marked id marked), takes, if_neg Bool.false_ne_true,
      steady.queuedSignals id, login, flag]
  · unfold Server.outlet
    rw [switchSendFast_same]
    dsimp only
    rw [flag, kept, steady.takesDone id]

/-- A pilot that finds another one at its own place is told to send fast. -/
theorem switches_of_near (pilot : VelocityPilot (s.clients id))
    (disabled : (s.clients id).sendFastEnabled = false)
    (found : other ∈ (s.updatePosition id center pilotVisRange).foundBy id) (different : other ≠ id)
    (revision : (s.clients other).protoRevision = 101) (placed : (s.clients other).coords = center)
    (now : Time) (packet : Bytes) :
    Switches ((s.reportPosition now id packet center).clients id) := by
  have login := s.toLoginData_reportPosition now id packet center
  have outlet := s.outlet_reportPosition now id packet center
  have flag : ((s.reportPosition now id packet center).clients id).sendFastEnabled = false :=
    (congrArg Prod.fst outlet).trans disabled
  refine ⟨(congrArg LoginData.protoRevision login).trans pilot.2, ?_⟩
  rw [flag, if_neg Bool.false_ne_true, lt_five_miles, decide_eq_true_eq,
    closest_reportPosition pilot]
  let moved := s.updatePosition id center pilotVisRange
  have record : moved.clients other = s.clients other := by
    show (s.updatePosition id center pilotVisRange).clients other = _
    rw [clients_updatePosition, storePosition, modifyClient_other _ _ different]
  have own : (moved.clients id).coords = center := by
    show ((s.updatePosition id center pilotVisRange).clients id).coords = _
    rw [clients_updatePosition, storePosition, modifyClient_same]
  have near : moved.distanceTo id other = 0 := by
    unfold distanceTo
    rw [own, record, placed]
    exact distance_self _ _
  have member : (0 : Real) ∈ moved.fastDistances id := by
    rw [← near]
    apply List.mem_map_of_mem
    exact List.mem_filter.mpr ⟨found, decide_eq_true (record ▸ revision)⟩
  have folded := Traversal.least_foldl_lesser LawfulGoFloat.lt_irrefl LawfulGoFloat.lt_trans
    (GoFloat.maxFloat64 : Real) (moved.fastDistances id)
  have atMost : _ ≤ (0 : Real) := not_lt.mp (of_decide_eq_false (folded.least 0 member))
  exact lt_of_le_of_lt atMost (by norm_num)

/-- A pilot that finds nobody is told to stop. -/
theorem switches_of_alone (pilot : VelocityPilot (s.clients id))
    (enabled : (s.clients id).sendFastEnabled = true)
    (alone : forall other, other ∉ (s.updatePosition id center pilotVisRange).foundBy id)
    (now : Time) (packet : Bytes) :
    Switches ((s.reportPosition now id packet center).clients id) := by
  have login := s.toLoginData_reportPosition now id packet center
  have outlet := s.outlet_reportPosition now id packet center
  have flag : ((s.reportPosition now id packet center).clients id).sendFastEnabled = true :=
    (congrArg Prod.fst outlet).trans enabled
  have none : (s.updatePosition id center pilotVisRange).fastDistances id = [] := by
    unfold fastDistances
    rw [List.eq_nil_iff_forall_not_mem.mpr alone]
    rfl
  refine ⟨(congrArg LoginData.protoRevision login).trans pilot.2, ?_⟩
  rw [flag, if_pos rfl, gt_five_miles, decide_eq_true_eq, closest_reportPosition pilot, none]
  exact Nat.cast_lt.mpr (by decide +kernel)

end Server

/-- The `send` of such a session finds the end of the context first. -/
def eagerLogin : LoginEnv := { sampleLogin with takesDone := fun _ => true }

/-- The pilot logs in, and then another one. -/
def pilotsConnect : List Action :=
  [.connect eagerLogin Symbolic.database pilotIdLine pilotAddLine,
    .connect eagerLogin Symbolic.database (some (bytes "$IDN51SP:SERVER:88e4:client"))
      (some (bytes "#APN51SP:SERVER:1:secret:1:101:1:Name"))]

/-- The pilot reports from another place on the equator. -/
def farPosition : Bytes :=
  bytes "@N:N172SP:1200:1:0:60:1000:90:0:0"

/-- A pilot of revision 101 and another one, who stays on the equator. -/
structure Abreast (heap : SessionId -> Client Real) (system : System Real) : Prop where
  reached : Reaches (System.step Symbolic.platform) (System.start heap) system
  allocated : system.allocated = 2
  registered : system.server.Registered 0
  callsign : (system.server.clients 0).callsign = bytes "N172SP"
  pilot : Server.VelocityPilot (system.server.clients 0)
  registeredOther : system.server.Registered 1
  revisionOther : (system.server.clients 1).protoRevision = 101
  coordsOther : (system.server.clients 1).coords = (0, 0)
  visRangeOther : (system.server.clients 1).visRange = 0

namespace Abreast

variable {heap : SessionId -> Client Real} {system next : System Real}

/-- What concerns neither of the two leaves them as they are. -/
theorem stepped (abreast : Abreast heap system) {action : Action}
    (taken : System.step Symbolic.platform system action = some next)
    (stays : forall id, action ≠ .release id) (allocated : next.allocated = system.allocated)
    (kept : (next.server.clients 0).toLoginData = (system.server.clients 0).toLoginData)
    (keptOther : next.server.clients 1 = system.server.clients 1) : Abreast heap next := by
  have wellFormed := System.wellFormed_of_reaches abreast.reached
  exact {
    reached := abreast.reached.tail taken
    allocated := allocated.trans abreast.allocated
    registered := System.registered_of_step taken wellFormed abreast.registered (stays 0)
    callsign := (congrArg LoginData.callsign kept).trans abreast.callsign
    pilot := ⟨(congrArg LoginData.isAtc kept).trans abreast.pilot.1,
      (congrArg LoginData.protoRevision kept).trans abreast.pilot.2⟩
    registeredOther := System.registered_of_step taken wellFormed abreast.registeredOther (stays 1)
    revisionOther := keptOther ▸ abreast.revisionOther
    coordsOther := keptOther ▸ abreast.coordsOther
    visRangeOther := keptOther ▸ abreast.visRangeOther }

theorem mem_found (abreast : Abreast heap system) {other : SessionId} (different : other ≠ 0)
    (longitude : Real) :
    other ∈ (system.server.updatePosition 0 (0, longitude) pilotVisRange).foundBy 0 ↔
      other = 1 ∧ |0 - longitude| * (Real.pi * 6371000 / 180) ≤ 92600 + 0 := by
  have only : system.server.Registered other -> other = 1 := by
    intro registered
    have wellFormed := System.wellFormed_of_reaches abreast.reached
    have below := wellFormed.allocated_of_registered registered
    rw [abreast.allocated] at below
    exact Nat.le_antisymm (Nat.le_of_lt_succ below) (Nat.one_le_iff_ne_zero.mpr different)
  have box : system.server.currentBox 1 = calculateBoundingBox (0, 0) 0 := by
    unfold Server.currentBox
    rw [abreast.coordsOther, abreast.visRangeOther]
  rw [(System.settled_of_reaches abreast.reached).found_updatePosition different,
    Office.pilotVisRange_real]
  constructor
  · rintro ⟨registered, meets⟩
    cases only registered
    rw [box, Office.intersects_equator (by norm_num) le_rfl] at meets
    exact ⟨rfl, meets⟩
  · rintro ⟨rfl, near⟩
    refine ⟨abreast.registeredOther, ?_⟩
    rw [box, Office.intersects_equator (by norm_num) le_rfl]
    exact near

/-- Where the pilot reports the place of the other one, it is told to send fast. -/
theorem signals_equator (abreast : Abreast heap system)
    (disabled : (system.server.clients 0).sendFastEnabled = false) :
    system.server.Signals 0 0 (equatorPosition ++ crlf)
      (system.server.reportPosition 0 0 (equatorPosition ++ crlf) (0, 0)) := by
  refine ⟨?_, ⟨(0, 0), ?_, rfl⟩, ?_⟩
  · rw [abreast.callsign]
    decide +kernel
  · rw [@parseLatLon_real _ 4 5 0 0 (by decide +kernel) (by decide +kernel), Rat.cast_zero]
  · have different : 1 ≠ 0 := by decide
    have found := (abreast.mem_found different 0).mpr ⟨rfl, by norm_num⟩
    exact Server.switches_of_near abreast.pilot disabled found (by decide) abreast.revisionOther
      abreast.coordsOther 0 _

/-- Where it reports a place far from there, it is told to stop. -/
theorem signals_far (abreast : Abreast heap system)
    (enabled : (system.server.clients 0).sendFastEnabled = true) :
    system.server.Signals 0 0 (farPosition ++ crlf)
      (system.server.reportPosition 0 0 (farPosition ++ crlf) (0, 60)) := by
  refine ⟨?_, ⟨(0, 60), ?_, rfl⟩, ?_⟩
  · rw [abreast.callsign]
    decide +kernel
  · rw [@parseLatLon_real _ 4 5 0 60 (by decide +kernel) (by decide +kernel), Rat.cast_zero,
      Rat.cast_ofNat]
  · apply Server.switches_of_alone abreast.pilot enabled
    intro other found
    have different : other ≠ 0 := (Server.mem_foundBy.mp found).1
    have near := ((abreast.mem_found different 60).mp found).2
    have wide := Real.two_le_pi
    rw [zero_sub, abs_neg, abs_of_pos (by norm_num)] at near
    linarith

end Abreast

theorem exists_abreast (heap : SessionId -> Client Real) : Exists fun system : System Real =>
    run (System.step Symbolic.platform) (System.start heap) pilotsConnect = some system ∧
      Abreast heap system ∧ system.server.events = [] ∧
      Server.outlet (system.server.clients 0) = (false, (fun _ => true), false) := by
  have crew : Exists fun system : System Real => Crew heap
      (.connect eagerLogin Symbolic.database pilotIdLine pilotAddLine)
      (.connect eagerLogin Symbolic.database (some (bytes "$IDN51SP:SERVER:88e4:client"))
        (some (bytes "#APN51SP:SERVER:1:secret:1:101:1:Name")))
      ⟨bytes "N172SP", false, 1, 101, false⟩ ⟨bytes "N51SP", false, 1, 101, false⟩ system :=
    exists_crew heap (by decide +kernel) (by decide +kernel) (by decide)
  rcases crew with ⟨system, crew⟩
  rcases crew.entered.fresh with ⟨_, _, disabled, takesDone⟩
  rcases crew.enteredOther.fresh with ⟨coords, visRange, _⟩
  have zero : (GoFloat.ofRat 0 : Real) = 0 := Rat.cast_zero
  rw [zero] at coords visRange
  refine ⟨system, crew.executed, ?_, crew.silent, ?_⟩
  · exact {
      reached := crew.reaches
      allocated := crew.allocated
      registered := crew.registered
      callsign := crew.callsign
      pilot := ⟨congrArg Standing.isAtc crew.standing, congrArg Standing.protoRevision crew.standing⟩
      registeredOther := crew.registeredOther
      revisionOther := congrArg Standing.protoRevision crew.standingOther
      coordsOther := coords
      visRangeOther := visRange }
  · unfold Server.outlet
    rw [disabled, takesDone, crew.live]
    rfl

/-- A position that switches the flag is a step of the two. -/
theorem Abreast.reported {heap : SessionId -> Client Real} {system : System Real}
    (abreast : Abreast heap system) {packet : Bytes} {reported : Server Real}
    (signals : system.server.Signals 0 0 packet reported) :
    Exists fun next => System.step Symbolic.platform system (.packet 0 0 packet) = some next ∧
      next.server = system.server.processPacket Symbolic.platform.md5 0 0 packet ∧
      Abreast heap next := by
  have taken : System.step Symbolic.platform system (.packet 0 0 packet) = some { system with
      server := system.server.processPacket Symbolic.platform.md5 0 0 packet } :=
    if_pos abreast.registered
  refine ⟨_, taken, rfl, abreast.stepped taken nofun rfl ?_ ?_⟩
  · exact system.server.toLoginData_processPacket _ 0 0 packet 0
  · rcases signals.parsed with ⟨center, _, same⟩
    dsimp only
    rw [signals.processPacket, Server.switchSendFast_other _ (by decide), same]
    exact system.server.clients_reportPosition_other 0 0 packet center (by decide)

/-- While its context is live, the pilot is told so. -/
theorem Abreast.told {heap : SessionId -> Client Real} {system : System Real}
    (abreast : Abreast heap system) {packet : Bytes} {center : Real × Real} {enabled : Bool}
    (outlet : Server.outlet (system.server.clients 0) = (enabled, (fun _ => true), false))
    (signals : system.server.Signals 0 0 packet
      (system.server.reportPosition 0 0 packet center)) :
    Exists fun next => System.step Symbolic.platform system (.packet 0 0 packet) = some next ∧
      System.SignalsTaken system (.packet 0 0 packet) ∧ Abreast heap next ∧
      Server.outlet (next.server.clients 0) = (!enabled, (fun _ => true), false) ∧
      next.server.queuedSignals 0 =
        system.server.queuedSignals 0 ++ [sendFastPacket (bytes "N172SP") !enabled] := by
  rcases abreast.reported signals with ⟨next, taken, same, later⟩
  have below : 0 < system.allocated := abreast.allocated.symm ▸ Nat.zero_lt_two
  have marked := (System.tracked_of_reaches abreast.reached).marked 0 below
  have flag : (system.server.clients 0).sendFastEnabled = enabled := congrArg Prod.fst outlet
  have takesDone : (system.server.clients 0).takesDone = fun _ => true :=
    congrArg (fun outlet => outlet.2.1) outlet
  have live : (system.server.clients 0).cancelled = false :=
    congrArg (fun outlet => outlet.2.2) outlet
  rcases signals.queued marked live Symbolic.platform.md5 with ⟨queued, after, takes⟩
  rw [flag, abreast.callsign] at queued
  rw [flag, takesDone] at after
  refine ⟨next, taken, ?_, later, ?_, ?_⟩
  · intro _ reported other
    rw [signals.unique other]
    exact takes
  · rw [same]
    exact after
  · rw [same]
    exact queued

/-! ## Sessions -/

/-- What has been queued for a session alternates, its flag says what was queued
last, and for a client of another revision nothing is queued.  A slow position
of a pilot that is not refused makes the flag follow the nearest of the clients
that the position's own search finds. -/
structure SignalsInStep (P : Platform) (system : System Real) : Prop where
  alternates : forall id, id < system.allocated -> Exists fun count =>
    system.server.queuedSignals id = alternating (system.server.clients id).callsign count
  enabled : forall id, id < system.allocated ->
    ((system.server.clients id).sendFastEnabled = true ↔
      (system.server.queuedSignals id).getLast? =
        some (sendFastPacket (system.server.clients id).callsign true))
  silent : forall id, id < system.allocated ->
    (system.server.clients id).protoRevision ≠ 101 -> system.server.queuedSignals id = []
  follows : forall id packet now, Server.VelocityPilot (system.server.clients id) ->
    verifyPacket packet (system.server.clients id).callsign = .accepted .pilotPosition ->
    ¬ AnswersWithError system.server (system.server.processPacket P.md5 now id packet) id ->
      Exists fun center => parseLatLon packet 4 5 = some center ∧
        Server.FollowsNearest
          (Server.fastDistances (system.server.updatePosition id center pilotVisRange) id)
          (system.server.clients id).sendFastEnabled
          ((system.server.processPacket P.md5 now id packet).clients id).sendFastEnabled

theorem signalsInStep_iff {P : Platform} {system : System Real} :
    SignalsInStep P system ↔ System.InStep system := by
  constructor
  · intro inStep id below
    rcases inStep.alternates id below with ⟨count, queued⟩
    have flag := inStep.enabled id below
    refine ⟨count, queued, ?_, ?_⟩
    · rw [queued, getLast_alternating] at flag
      rw [Bool.eq_iff_iff, flag, decide_eq_true_eq]
    · intro other
      have none := (queued.symm.trans (inStep.silent id below other))
      simpa [alternating] using none
  · intro inStep
    refine ⟨?_, ?_, ?_, ?_⟩
    · intro id below
      rcases inStep id below with ⟨count, counted⟩
      exact ⟨count, counted.queued⟩
    · intro id below
      rcases inStep id below with ⟨count, counted⟩
      rw [counted.queued, getLast_alternating, counted.enabled, decide_eq_true_eq]
    · intro id below other
      rcases inStep id below with ⟨count, counted⟩
      rw [counted.queued, counted.silent other]
      rfl
    · intro id packet now pilot accepted unrefused
      exact Server.followsNearest_processPacket pilot accepted P.md5 now unrefused

/-- In every state of a run the signalling is in step with the flags, exactly if
`send` takes the packet in every step that switches one. -/
theorem sendFast_in_step_iff {P : Platform} (heap : SessionId -> Client Real)
    (actions : List Action) :
    (forall system, Visits (System.step P) (System.start heap) actions system ->
      SignalsInStep P system) ↔
        Along (System.step P) System.SignalsTaken (System.start heap) actions := by
  rw [← System.run_inStep_iff heap actions]
  exact forall_congr' fun system => imp_congr_right fun _ => signalsInStep_iff

/-- The pilot comes near the other one, and leaves it again. -/
theorem sendFast_in_step_iff_pilots : Exists fun system : System Real =>
    run (System.step Symbolic.platform) (System.start fun _ => newClient [] sampleData)
        (pilotsConnect ++ [.packet 0 0 (equatorPosition ++ crlf),
          .packet 0 0 (farPosition ++ crlf)]) = some system ∧
      system.server.queuedSignals 0 =
        [sendFastPacket (bytes "N172SP") true, sendFastPacket (bytes "N172SP") false] ∧
      SignalsInStep Symbolic.platform system := by
  let heap : SessionId -> Client Real := fun _ => newClient [] sampleData
  rcases exists_abreast heap with ⟨system, executed, abreast, silent, outlet⟩
  rcases abreast.told outlet (abreast.signals_equator (congrArg Prod.fst outlet)) with
    ⟨near, approached, taken, abreastNear, outletNear, queuedNear⟩
  rcases abreastNear.told outletNear (abreastNear.signals_far (congrArg Prod.fst outletNear)) with
    ⟨far, parted, takenFar, _, _, queuedFar⟩
  have reports : run (System.step Symbolic.platform) system
      [.packet 0 0 (equatorPosition ++ crlf), .packet 0 0 (farPosition ++ crlf)] = some far := by
    rw [run_cons_of_step approached, run_cons_of_step parted]
    rfl
  have whole : run (System.step Symbolic.platform) (System.start heap)
      (pilotsConnect ++ [.packet 0 0 (equatorPosition ++ crlf),
        .packet 0 0 (farPosition ++ crlf)]) = some far := by
    rw [run_append, executed]
    exact reports
  have along : Along (System.step Symbolic.platform) System.SignalsTaken (System.start heap)
      (pilotsConnect ++ [.packet 0 0 (equatorPosition ++ crlf),
        .packet 0 0 (farPosition ++ crlf)]) := by
    have entering : Along (System.step Symbolic.platform) System.SignalsTaken (System.start heap)
        pilotsConnect := ⟨True.intro, fun _ _ => ⟨True.intro, fun _ _ => True.intro⟩⟩
    refine entering.append executed ⟨taken, ?_⟩
    intro next same
    cases approached.symm.trans same
    exact ⟨takenFar, fun _ _ => True.intro⟩
  refine ⟨far, whole, ?_, ?_⟩
  · have none : system.server.queuedSignals 0 = [] := by
      unfold Server.queuedSignals Server.queued
      rw [silent]
      rfl
    rw [queuedFar, queuedNear, none]
    rfl
  · exact (sendFast_in_step_iff heap _).mpr along far ⟨_, List.prefix_refl _, whole⟩

/-- A pilot that has been kicked goes on reporting. -/
theorem refused_signal_out_of_step : ¬ forall (P : Platform) (heap : SessionId -> Client Real)
    (system : System Real), Reaches (System.step P) (System.start heap) system ->
      SignalsInStep P system := by
  intro always
  let heap : SessionId -> Client Real := fun _ => newClient [] sampleData
  rcases exists_abreast heap with ⟨system, _, abreast, _, outlet⟩
  have found : system.server.find (bytes "N172SP") = some 0 := abreast.callsign ▸ abreast.registered
  let kicked : System Real := { system with server := system.server.cancelCtx 0 }
  have cancelled : System.step Symbolic.platform system (.kick (bytes "N172SP")) = some kicked := by
    dsimp only [System.step, System.kick]
    rw [found]
    rfl
  have still : Abreast heap kicked := by
    apply abreast.stepped cancelled nofun rfl
    · exact (Undisturbed.cancelCtx system.server 0).toLoginData 0
    · exact system.server.cancelCtx_other (by decide)
  have record : kicked.server.clients 0 = { system.server.clients 0 with cancelled := true } :=
    system.server.cancelCtx_same 0
  have disabled : (kicked.server.clients 0).sendFastEnabled = false := by
    rw [record]
    exact congrArg Prod.fst outlet
  have signals := still.signals_equator disabled
  rcases still.reported signals with ⟨next, taken, switched, later⟩
  have stepped := System.signalStep_of_step taken (System.wellFormed_of_reaches still.reached)
  have inStep := signalsInStep_iff.mp (always Symbolic.platform heap kicked still.reached)
  have after := signalsInStep_iff.mp (always Symbolic.platform heap next later.reached)
  have takes := (System.signalsTaken_iff (System.tracked_of_reaches still.reached) inStep
    stepped).mpr after still.registered _ signals
  have reported := kicked.server.outlet_reportPosition 0 0 (equatorPosition ++ crlf) (0, 0)
  have ended := congrArg (fun outlet => outlet.2.2) reported
  have done := congrArg (fun outlet => outlet.2.1) (reported.trans (congrArg Server.outlet record))
  have refused : (kicked.server.reportPosition 0 0 (equatorPosition ++ crlf) (0, 0)).refuses 0 =
      true := by
    have eager := done.trans (congrArg (fun outlet => outlet.2.1) outlet)
    dsimp only [Server.outlet] at ended eager
    unfold Server.refuses
    rw [ended, record, eager]
    rfl
  rw [refused] at takes
  cases takes

end Fsd
end OpenFsd
