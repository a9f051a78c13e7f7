import OpenFsd.Fsd.Positions
import OpenFsd.Fsd.Records
import OpenFsd.Fsd.Deliveries
import OpenFsd.Fsd.Session
import OpenFsd.Fsd.Visibility

namespace OpenFsd
namespace Fsd

open Db

/-!
# Send-fast signalling

A pilot whose client speaks revision 101 is told when to send fast positions,
and when to stop.  The server keeps one flag for what it said last, and only
the handler of the slow positions reads or writes it.  The handler decides by
the distance that its own search has just stored: every search starts anew, so
nothing that happened since the last position has a say in it.

All handlers but one are `Steady`: they send no such packet and leave every flag
alone.  The remaining one switches the flag and calls `send` with the packet that
says so, or does neither.
-/

/-- The packet is no send-fast packet. -/
def NoSignal (packet : Bytes) : Prop :=
  hasPrefix packet (bytes "$SF") = false

/-- If the event sends a packet, it is no send-fast packet. -/
def SignalFree (event : Event) : Prop :=
  forall recipient packet, event = .send recipient packet -> NoSignal packet

/-- The event is neither that nor the end of a context. -/
def Plain (event : Event) : Prop :=
  SignalFree event ∧ forall victim, event ≠ .cancel victim

theorem Plain.send {recipient : SessionId} {packet : Bytes} (quiet : NoSignal packet) :
    Plain (.send recipient packet) := by
  constructor
  · intro other sent same
    cases same
    exact quiet
  · intro victim same
    cases same

/-- The send-fast packets among the events that a client is sent, in order. -/
def signals (id : SessionId) (events : List Event) : List Bytes :=
  (sentTo id events).filter fun packet => hasPrefix packet (bytes "$SF")

/-- The first packets of the sequence that switches on, off, on, and so forth. -/
def alternating (callsign : Bytes) (count : Nat) : List Bytes :=
  (List.range count).map fun turn => sendFastPacket callsign (turn % 2 == 0)

/-! ## Packets of other kinds -/

theorem noSignal_errorPacket (code : Int) (message : Bytes) : NoSignal (errorPacket code message) := by
  unfold NoSignal errorPacket
  simp only [List.append_assoc]
  rfl

/-- No packet that a client may send is one. -/
theorem noSignal_of_known {packet : Bytes} (known : getPacketType packet ≠ .unknown) :
    NoSignal packet := by
  have starts := hasPrefix_getPacketPrefix packet
  rcases List.isPrefixOf_iff_prefix.mp starts with ⟨rest, same⟩
  rw [← same]
  cases typed : getPacketType packet <;> first
    | rfl
    | exact absurd typed known

theorem signals_append (id : SessionId) (first second : List Event) :
    signals id (first ++ second) = signals id first ++ signals id second := by
  unfold signals
  rw [sentTo_append, List.filter_append]

theorem signals_of_signalFree (id : SessionId) {events : List Event}
    (free : forall event, event ∈ events -> SignalFree event) : signals id events = [] := by
  unfold signals
  apply List.filter_eq_nil_iff.mpr
  intro packet member
  rw [free _ (mem_sentTo.mp member) id packet rfl]
  exact Bool.false_ne_true

theorem alternating_succ (callsign : Bytes) (count : Nat) :
    alternating callsign (count + 1) =
      alternating callsign count ++ [sendFastPacket callsign (count % 2 == 0)] := by
  unfold alternating
  rw [List.range_succ, List.map_append]
  rfl

/-- The two kinds of packets differ. -/
theorem sendFastPacket_inj {callsign : Bytes} {first second : Bool}
    (same : sendFastPacket callsign first = sendFastPacket callsign second) : first = second := by
  have digits := List.append_cancel_left (List.append_cancel_right same)
  cases first with
  | true =>
      cases second with
      | true => rfl
      | false => cases digits
  | false =>
      cases second with
      | false => rfl
      | true => cases digits

theorem getLast_alternating (callsign : Bytes) (count : Nat) :
    (alternating callsign count).getLast? = some (sendFastPacket callsign true) ↔ count % 2 = 1 := by
  cases count with
  | zero => simp [alternating]
  | succ earlier =>
      rw [alternating_succ, List.getLast?_append]
      simp only [List.getLast?_singleton, Option.some_or, Option.some.injEq]
      constructor
      · intro same
        have even : earlier % 2 = 0 := by simpa using sendFastPacket_inj same
        omega
      · intro odd
        have even : earlier % 2 = 0 := by omega
        rw [even]
        rfl

namespace Server

variable {F : Type}

/-! ## What leaves the signalling alone -/

/-- The context of the client is over if and only if its end is an event. -/
def Marked (s : Server F) (id : SessionId) : Prop :=
  (s.clients id).cancelled = true ↔ Event.cancel id ∈ s.events

/-- The step from `s` to `next` sends no send-fast packet and switches no flag,
and every end of a context is an event. -/
structure Steady (s next : Server F) : Prop where
  emits : Emits SignalFree s next
  enabled : forall other,
    (next.clients other).sendFastEnabled = (s.clients other).sendFastEnabled
  takesDone : forall other, (next.clients other).takesDone = (s.clients other).takesDone
  marked : forall other, s.Marked other -> next.Marked other

/-- What a step leaves as it is, unless it ends a context or switches a flag. -/
def outlet (client : Client F) : Bool × (Nat -> Bool) × Bool :=
  (client.sendFastEnabled, client.takesDone, client.cancelled)

/-- Without an end of a context no record is marked. -/
theorem marked_iff_of_plain {s next : Server F} (emits : Emits Plain s next) {id : SessionId}
    (kept : outlet (next.clients id) = outlet (s.clients id)) : next.Marked id ↔ s.Marked id := by
  rcases emits with ⟨caused, grown, plain⟩
  have same : (next.clients id).cancelled = (s.clients id).cancelled :=
    congrArg (fun outlet => outlet.2.2) kept
  have none : Event.cancel id ∉ caused := fun member => (plain _ member).2 id rfl
  unfold Marked
  rw [same, grown, List.mem_append, or_iff_left none]

namespace Steady

theorem refl (s : Server F) : Steady s s :=
  ⟨.silent rfl, fun _ => rfl, fun _ => rfl, fun _ marked => marked⟩

theorem trans {s middle next : Server F} (left : Steady s middle) (right : Steady middle next) :
    Steady s next where
  emits := left.emits.trans right.emits
  enabled := fun other => (right.enabled other).trans (left.enabled other)
  takesDone := fun other => (right.takesDone other).trans (left.takesDone other)
  marked := fun other marked => right.marked other (left.marked other marked)

theorem of_plain {s next : Server F} (emits : Emits Plain s next)
    (kept : forall other, outlet (next.clients other) = outlet (s.clients other)) :
    Steady s next where
  emits := emits.mono fun _ plain => plain.1
  enabled := fun other => congrArg (fun outlet => outlet.1) (kept other)
  takesDone := fun other => congrArg (fun outlet => outlet.2.1) (kept other)
  marked := fun other => (marked_iff_of_plain emits (kept other)).mpr

theorem sendTo (s : Server F) (recipient : SessionId) {packet : Bytes} (quiet : NoSignal packet) :
    Steady s (s.sendTo recipient packet) :=
  of_plain (s.emits_sendTo (.send quiet)) fun _ => rfl

theorem sendError (s : Server F) (recipient : SessionId) (code : Int) (message : Bytes) :
    Steady s (s.sendError recipient code message) :=
  sendTo s recipient (noSignal_errorPacket code message)

theorem modifyClient (s : Server F) (id : SessionId) (change : Client F -> Client F)
    (kept : forall client, outlet (change client) = outlet client) :
    Steady s (s.modifyClient id change) := by
  refine of_plain (.silent rfl) ?_
  intro other
  by_cases own : other = id
  · rw [own, modifyClient_same]
    exact kept _
  · rw [modifyClient_other _ _ own]

theorem cancelCtx (s : Server F) (victim : SessionId) : Steady s (s.cancelCtx victim) := by
  have record : forall other, (s.cancelCtx victim).clients other =
      if other = victim then { s.clients other with cancelled := true } else s.clients other := by
    intro other
    by_cases own : other = victim
    · rw [own, if_pos rfl]
      exact s.cancelCtx_same victim
    · rw [if_neg own]
      exact s.cancelCtx_other own
  have grown : (s.cancelCtx victim).events = s.events ++ [.cancel victim] := rfl
  refine ⟨s.emits_cancelCtx ?_, ?_, ?_, ?_⟩
  · intro recipient packet same
    cases same
  · intro other
    rw [record]
    split <;> rfl
  · intro other
    rw [record]
    split <;> rfl
  · intro other marked
    unfold Marked
    rw [record, grown, List.mem_append, List.mem_singleton]
    by_cases own : other = victim
    · rw [if_pos own]
      exact iff_of_true rfl (Or.inr (congrArg Event.cancel own))
    · rw [if_neg own, or_iff_left fun same => own (Event.cancel.inj same)]
      exact marked

theorem broadcastAllWhere (s : Server F) (id : SessionId) (accepts : Client F -> Bool)
    {packet : Bytes} (quiet : NoSignal packet) : Steady s (s.broadcastAllWhere id accepts packet) := by
  refine of_plain (s.emits_broadcastAllWhere id accepts fun _ => .send quiet) ?_
  intro other
  rw [broadcastAllWhere_eq]

theorem sendDirectOrErr (s : Server F) (id : SessionId) (recipient : Bytes) {packet : Bytes}
    (quiet : NoSignal packet) : Steady s (s.sendDirectOrErr id recipient packet) := by
  cases found : s.find recipient with
  | none =>
      unfold Server.sendDirectOrErr
      rw [found]
      exact sendError s id _ _
  | some target =>
      have refused : Plain (.send id (errorPacket NoSuchCallsignError
          (bytes "No such callsign"))) := .send (noSignal_errorPacket _ _)
      refine of_plain (s.emits_sendDirectOrErr id recipient (fun _ => .send quiet) refused) ?_
      rw [sendDirectOrErr_of_find found]
      exact fun _ => rfl

/-! ## The handlers but one -/

variable {packet : Bytes}

theorem handleDelete (s : Server F) (id : SessionId) (quiet : NoSignal packet) :
    Steady s (s.handleDelete id packet) :=
  (broadcastAllWhere s id _ quiet).trans (cancelCtx _ id)

theorem handleServerQuery (s : Server F) (id : SessionId) (queryType : Bytes) :
    Steady s (s.handleServerQuery id packet queryType) := by
  unfold Server.handleServerQuery
  split
  · unfold handleClientQueryATCRequest
    dsimp only
    split
    · exact sendError s id _ _
    · cases s.find (getField packet 3) with
      | none => exact sendError s id _ _
      | some target =>
          apply sendTo
          rfl
  · split
    · apply sendTo
      rfl
    · split
      · unfold handleClientQueryFlightplanRequest
        dsimp only
        split
        · exact refl s
        · split
          · exact sendError s id _ _
          · cases s.find (getField packet 3) with
            | none => exact sendError s id _ _
            | some target =>
                dsimp only
                split
                · exact refl s
                · apply (sendTo s id _).trans (sendTo _ id _)
                  · rfl
                  · rfl
      · exact refl s

theorem handleKillRequest (s : Server F) (id : SessionId) (packet : Bytes) :
    Steady s (s.handleKillRequest id packet) := by
  unfold Server.handleKillRequest
  split
  · exact refl s
  · cases s.find (getField packet 1) with
    | none => exact sendError s id _ _
    | some victim => exact cancelCtx s victim

theorem handleAuthChallenge (s : Server F) (md5 : Bytes -> List.Vector UInt8 16) (id : SessionId)
    (packet : Bytes) : Steady s (s.handleAuthChallenge md5 id packet) := by
  unfold Server.handleAuthChallenge
  cases s.challengedState id with
  | none => exact sendError s id _ _
  | some authState =>
      have advanced : Steady s (s.modifyClient id fun client => { client with
          authState := (authState.updateState md5
            (authState.getResponseForChallenge md5 (getField packet 2))) }) :=
        modifyClient s id _ fun _ => rfl
      apply advanced.trans
      apply sendTo
      rfl

theorem handleHandoff (s : Server F) (id : SessionId) (quiet : NoSignal packet) :
    Steady s (s.handleHandoff id packet) := by
  unfold Server.handleHandoff
  split
  · exact refl s
  · exact sendDirectOrErr s id _ quiet

theorem handleMetarRequest (s : Server F) (id : SessionId) (packet : Bytes) :
    Steady s (s.handleMetarRequest id packet) := by
  unfold Server.handleMetarRequest
  dsimp only
  split
  · exact refl s
  · refine of_plain ⟨[.metarRequest id (getField packet 3)], rfl, ?_⟩ fun _ => rfl
    intro event member
    rw [List.mem_singleton.mp member]
    constructor
    · intro recipient packet same
      cases same
    · intro victim same
      cases same

theorem handleFileFlightplan (s : Server F) (id : SessionId) (packet : Bytes) :
    Steady s (s.handleFileFlightplan id packet) := by
  have stored : Steady s (s.modifyClient id fun client =>
      { client with flightPlan := extractFlightplanInfoSection packet }) :=
    modifyClient s id _ fun _ => rfl
  apply stored.trans
  apply broadcastAllWhere
  rfl

theorem handleAmendFlightplan (s : Server F) (id : SessionId) (packet : Bytes) :
    Steady s (s.handleAmendFlightplan id packet) := by
  unfold Server.handleAmendFlightplan
  split
  · exact refl s
  · dsimp only
    cases s.find (getField packet 2) with
    | none => exact sendError s id _ _
    | some target =>
        have stored : Steady s (s.modifyClient target fun client =>
            { client with flightPlan := extractFlightplanInfoSection packet }) :=
          modifyClient s target _ fun _ => rfl
        apply stored.trans
        apply broadcastAllWhere
        rfl

variable [GoFloat F]

theorem broadcastRangedWhere (s : Server F) (id : SessionId) (accepts : Client F -> Bool)
    {packet : Bytes} (quiet : NoSignal packet) :
    Steady s (s.broadcastRangedWhere id accepts packet) := by
  refine of_plain (s.emits_broadcastRangedWhere id accepts fun _ => .send quiet) ?_
  intro other
  rcases s.broadcastRangedWhere_eq id accepts packet with ⟨dist, same⟩
  have record : (s.broadcastRangedWhere id accepts packet).clients other =
      (s.setClosest id dist).clients other := by rw [same]
  rw [record]
  unfold setClosest
  by_cases own : other = id
  · rw [own, modifyClient_same]
    rfl
  · rw [modifyClient_other _ _ own]

theorem updatePosition (s : Server F) (id : SessionId) (newCenter : F × F) (newVisRange : F) :
    Steady s (s.updatePosition id newCenter newVisRange) := by
  have stored : Steady s (s.storePosition id newCenter newVisRange) := modifyClient s id _ fun _ => rfl
  unfold Server.updatePosition
  dsimp only
  split
  · exact stored
  · exact stored.trans (of_plain (.silent rfl) fun _ => rfl)

theorem handleTextMessage (s : Server F) (id : SessionId) (quiet : NoSignal packet) :
    Steady s (s.handleTextMessage id packet) := by
  unfold Server.handleTextMessage
  dsimp only
  split
  · split
    · exact refl s
    · exact broadcastRangedWhere s id _ quiet
  · split
    · exact broadcastRangedWhere s id _ quiet
    · split
      · exact broadcastAllWhere s id _ quiet
      · split
        · split
          · exact refl s
          · exact broadcastAllWhere s id _ quiet
        · split
          · exact refl s
          · split
            · exact refl s
            · exact sendDirectOrErr s id _ quiet

theorem atcPositionUpdate (s : Server F) (now : Time) (id : SessionId) (quiet : NoSignal packet) :
    Steady s (s.atcPositionUpdate now id packet) := by
  unfold Server.atcPositionUpdate
  cases (parseLatLon packet 5 6 : Option (F × F)) with
  | none => exact sendError s id _ _
  | some center =>
      cases (parseVisRange packet 3 : Option F) with
      | none => exact sendError s id _ _
      | some visRange =>
          have moved := updatePosition s id center visRange
          have relayed := moved.trans (broadcastRangedWhere _ id (fun _ => true) quiet)
          exact relayed.trans (modifyClient _ id _ fun _ => rfl)

theorem handleATCPosition (s : Server F) (now : Time) (id : SessionId) (quiet : NoSignal packet) :
    Steady s (s.handleATCPosition now id packet) := by
  unfold Server.handleATCPosition
  dsimp only
  split
  · exact sendError s id _ _
  · split
    · exact (sendError s id _ _).trans (cancelCtx _ id)
    · have placed : Steady s (s.modifyClient id fun client => { client with
          facilityType := (parseInt (getField packet 2) 10 32).value }) :=
        modifyClient s id _ fun _ => rfl
      exact placed.trans (atcPositionUpdate _ now id quiet)

theorem handleProcontroller (s : Server F) (id : SessionId) (quiet : NoSignal packet) :
    Steady s (s.handleProcontroller id packet) := by
  unfold Server.handleProcontroller
  dsimp only
  split
  · exact refl s
  · split
    · exact sendError s id _ _
    · split
      · exact sendDirectOrErr s id _ quiet
      · split
        · split
          · exact sendError s id _ _
          · split
            · exact broadcastRangedWhere s id _ quiet
            · exact sendDirectOrErr s id _ quiet
        · exact refl s

theorem forwardClientQuery (s : Server F) (id : SessionId) (quiet : NoSignal packet) :
    Steady s (s.forwardClientQuery id packet) := by
  unfold Server.forwardClientQuery
  dsimp only
  split
  · exact sendError s id _ _
  · split
    · exact broadcastRangedWhere s id _ quiet
    · split
      · exact broadcastRangedWhere s id _ quiet
      · exact sendDirectOrErr s id _ quiet

theorem handleClientQuery (s : Server F) (id : SessionId) (quiet : NoSignal packet) :
    Steady s (s.handleClientQuery id packet) := by
  unfold Server.handleClientQuery
  dsimp only
  split
  · exact handleServerQuery s id _
  · split
    · split
      · exact sendError s id _ _
      · exact forwardClientQuery s id quiet
    · split
      · split
        · exact sendError s id _ _
        · exact forwardClientQuery s id quiet
      · split
        · exact forwardClientQuery s id quiet
        · split
          · unfold handleInfQuery
            split
            · exact sendDirectOrErr s id _ quiet
            · split
              · exact sendError s id _ _
              · exact forwardClientQuery s id quiet
          · exact refl s

/-- Every handler but that of the slow positions leaves the signalling alone. -/
theorem runHandler (s : Server F) (md5 : Bytes -> List.Vector UInt8 16) (now : Time)
    (id : SessionId) (quiet : NoSignal packet) {packetType : PacketType}
    (other : packetType ≠ .pilotPosition) :
    Steady s (s.runHandler md5 now packetType id packet) := by
  cases packetType with
  | unknown => exact refl s
  | textMessage => exact handleTextMessage s id quiet
  | atcPosition => exact handleATCPosition s now id quiet
  | pilotPosition => exact absurd rfl other
  | pilotPositionFast => exact broadcastRangedWhere s id _ quiet
  | pilotPositionSlow => exact broadcastRangedWhere s id _ quiet
  | pilotPositionStopped => exact broadcastRangedWhere s id _ quiet
  | deletePilot => exact handleDelete s id quiet
  | deleteATC => exact handleDelete s id quiet
  | squawkbox => exact sendDirectOrErr s id _ quiet
  | proController => exact handleProcontroller s id quiet
  | clientQuery => exact handleClientQuery s id quiet
  | clientQueryResponse => exact handleClientQuery s id quiet
  | killRequest => exact handleKillRequest s id packet
  | authChallenge => exact handleAuthChallenge s md5 id packet
  | handoffRequest => exact handleHandoff s id quiet
  | handoffAccept => exact handleHandoff s id quiet
  | metarRequest => exact handleMetarRequest s id packet
  | flightPlan => exact handleFileFlightplan s id packet
  | flightPlanAmendment => exact handleAmendFlightplan s id packet

end Steady

/-! ## The remaining handler -/

section Turns

variable [GoFloat F]

/-- What a slow position does before the decision. -/
def reportPosition (s : Server F) (now : Time) (id : SessionId) (packet : Bytes) (center : F × F) :
    Server F :=
  ((s.updatePosition id center pilotVisRange).broadcastRanged id packet).storePilotFields now id packet

theorem handlePilotPosition_of_parsed {s : Server F} {packet : Bytes} {center : F × F}
    (parsed : parseLatLon packet 4 5 = some center) (now : Time) (id : SessionId) :
    s.handlePilotPosition now id packet =
      (s.reportPosition now id packet center).updateSendFast id := by
  unfold handlePilotPosition
  rw [parsed]
  rfl

theorem steady_reportPosition (s : Server F) (now : Time) (id : SessionId) {packet : Bytes}
    (quiet : NoSignal packet) (center : F × F) :
    Steady s (s.reportPosition now id packet center) := by
  have moved := Steady.updatePosition s id center pilotVisRange
  have relayed : Steady s ((s.updatePosition id center pilotVisRange).broadcastRanged id packet) :=
    moved.trans (Steady.broadcastRangedWhere _ id (fun _ => true) quiet)
  have stored : forall middle : Server F, Steady middle (middle.storePilotFields now id packet) := by
    intro middle
    unfold storePilotFields
    apply Steady.modifyClient
    intro client
    dsimp only [outlet]
  unfold reportPosition
  exact relayed.trans (stored _)

/-- The decision at the end of a slow position goes against the flag. -/
def Switches (client : Client F) : Prop :=
  client.protoRevision = 101 ∧
    if client.sendFastEnabled then
      GoFloat.gt (client.closestVelocityClientDistance / GoFloat.ofRat 1852) (GoFloat.ofRat 5) = true
    else
      GoFloat.lt (client.closestVelocityClientDistance / GoFloat.ofRat 1852) (GoFloat.ofRat 5) = true

theorem updateSendFast_of_switches {s : Server F} {id : SessionId}
    (switches : Switches (s.clients id)) :
    s.updateSendFast id = s.switchSendFast id !(s.clients id).sendFastEnabled := by
  rcases switches with ⟨revision, against⟩
  unfold updateSendFast
  dsimp only
  rw [if_pos revision]
  cases enabled : (s.clients id).sendFastEnabled with
  | true =>
      rw [enabled, if_pos rfl] at against
      rw [if_pos rfl, if_pos against]
      rfl
  | false =>
      rw [enabled, if_neg Bool.false_ne_true] at against
      rw [if_neg Bool.false_ne_true, if_pos against]
      rfl

theorem updateSendFast_of_not {s : Server F} {id : SessionId}
    (keeps : ¬ Switches (s.clients id)) : s.updateSendFast id = s := by
  unfold updateSendFast
  dsimp only
  split
  · next revision =>
      cases enabled : (s.clients id).sendFastEnabled with
      | true =>
          rw [if_pos rfl]
          apply if_neg
          intro against
          exact keeps ⟨revision, by rw [enabled, if_pos rfl]; exact against⟩
      | false =>
          rw [if_neg Bool.false_ne_true]
          apply if_neg
          intro against
          exact keeps ⟨revision, by rw [enabled, if_neg Bool.false_ne_true]; exact against⟩
  · rfl

/-- The packet is a slow position, and when it has been reported, the decision
goes against the flag. -/
structure Signals (s : Server F) (now : Time) (id : SessionId) (packet : Bytes)
    (reported : Server F) : Prop where
  accepted : verifyPacket packet (s.clients id).callsign = .accepted .pilotPosition
  parsed : Exists fun center => parseLatLon packet 4 5 = some center ∧
    reported = s.reportPosition now id packet center
  switches : Switches (reported.clients id)

theorem Signals.unique {s reported other : Server F} {now : Time} {id : SessionId} {packet : Bytes}
    (signals : s.Signals now id packet reported) (signalsOther : s.Signals now id packet other) :
    other = reported := by
  rcases signals.parsed with ⟨center, parsed, same⟩
  rcases signalsOther.parsed with ⟨centerOther, parsedOther, sameOther⟩
  cases parsed.symm.trans parsedOther
  exact sameOther.trans same.symm

theorem noSignal_of_accepted {packet callsign : Bytes} {packetType : PacketType}
    (accepted : verifyPacket packet callsign = .accepted packetType) : NoSignal packet := by
  apply noSignal_of_known
  intro unknown
  rw [← (verifyPacket_accepted accepted).1] at unknown
  subst unknown
  exact verifyPacket_ne_unknown accepted

/-- What a turn does to the signalling: nothing, or one switch of the sender's
own flag at its end. -/
inductive SignalTurn (s : Server F) (now : Time) (id : SessionId) (packet : Bytes) :
    Server F -> Prop
  | steady (next : Server F) (steady : Steady s next)
      (keeps : forall reported, ¬ s.Signals now id packet reported) :
      SignalTurn s now id packet next
  | switched (reported : Server F) (steady : Steady s reported)
      (signals : s.Signals now id packet reported) :
      SignalTurn s now id packet
        (reported.switchSendFast id !(reported.clients id).sendFastEnabled)

theorem signalTurn_processPacket (s : Server F) (md5 : Bytes -> List.Vector UInt8 16) (now : Time)
    (id : SessionId) (packet : Bytes) :
    SignalTurn s now id packet (s.processPacket md5 now id packet) := by
  unfold processPacket
  cases verified : verifyPacket packet (s.clients id).callsign with
  | refused code message =>
      refine .steady _ (Steady.sendError s id code message) ?_
      intro reported signals
      cases verified.symm.trans signals.accepted
  | accepted packetType =>
      have quiet := noSignal_of_accepted verified
      by_cases slow : packetType = .pilotPosition
      · subst slow
        dsimp only [runHandler]
        cases parsed : (parseLatLon packet 4 5 : Option (F × F)) with
        | none =>
            unfold handlePilotPosition
            rw [parsed]
            refine .steady _ (Steady.sendError s id _ _) ?_
            intro reported signals
            rcases signals.parsed with ⟨center, read, _⟩
            cases parsed.symm.trans read
        | some center =>
            have steady := s.steady_reportPosition now id quiet center
            rw [handlePilotPosition_of_parsed parsed]
            by_cases switches : Switches ((s.reportPosition now id packet center).clients id)
            · rw [updateSendFast_of_switches switches]
              exact .switched _ steady ⟨verified, ⟨center, parsed, rfl⟩, switches⟩
            · rw [updateSendFast_of_not switches]
              refine .steady _ steady ?_
              intro reported signals
              rcases signals.parsed with ⟨other, read, same⟩
              cases parsed.symm.trans read
              exact switches (same ▸ signals.switches)
      · refine .steady _ (Steady.runHandler s md5 now id quiet slow) ?_
        intro reported signals
        exact slow (Verified.accepted.inj (verified.symm.trans signals.accepted))

end Turns

end Server

/-! ## The decision -/

namespace Server

section Searches

variable {F : Type} [GoFloat F]

/-- The distances from a client to the others that its search finds and that
speak revision 101. -/
def fastDistances (s : Server F) (id : SessionId) : List F :=
  ((s.foundBy id).filter fun found => decide ((s.clients found).protoRevision = 101)).map
    (s.distanceTo id)

theorem clients_updatePosition (s : Server F) (id : SessionId) (newCenter : F × F) (newVisRange : F) :
    (s.updatePosition id newCenter newVisRange).clients =
      (s.storePosition id newCenter newVisRange).clients := by
  unfold updatePosition
  dsimp only
  split
  · rfl
  · rfl

theorem clients_broadcastRangedWhere (s : Server F) (id : SessionId) (accepts : Client F -> Bool)
    (packet : Bytes) :
    (s.broadcastRangedWhere id accepts packet).clients =
      (s.setClosest id ((s.foundBy id).foldl (s.nearer id) GoFloat.maxFloat64)).clients := by
  have searched := s.search_closest id (s.deliver_always accepts packet) s.events
  unfold broadcastRangedWhere
  dsimp only
  rw [searched]

/-- The distance that a position leaves is that of its own search. -/
theorem closest_reportPosition {s : Server F} {id : SessionId} (pilot : VelocityPilot (s.clients id))
    (now : Time) (packet : Bytes) (center : F × F) :
    ((s.reportPosition now id packet center).clients id).closestVelocityClientDistance =
      (fastDistances (s.updatePosition id center pilotVisRange) id).foldl
        (Traversal.lesser GoFloat.lt) GoFloat.maxFloat64 := by
  have still : VelocityPilot ((s.updatePosition id center pilotVisRange).clients id) := by
    rw [clients_updatePosition, storePosition, modifyClient_same]
    exact pilot
  unfold reportPosition storePilotFields broadcastRanged
  rw [modifyClient_same, clients_broadcastRangedWhere, setClosest, modifyClient_same]
  exact foldl_nearer_of_pilot still _ _

end Searches

section Reports

variable {F : Type} [GoFloat F] (s : Server F) (now : Time) (id : SessionId) (packet : Bytes)
  (center : F × F)

/-- Before the decision a report leaves its sender's login data, flag and context
as they are. -/
theorem toLoginData_reportPosition :
    ((s.reportPosition now id packet center).clients id).toLoginData =
      (s.clients id).toLoginData := by
  unfold reportPosition storePilotFields broadcastRanged
  rw [modifyClient_same, clients_broadcastRangedWhere, setClosest, modifyClient_same,
    clients_updatePosition, storePosition, modifyClient_same]

theorem outlet_reportPosition :
    outlet ((s.reportPosition now id packet center).clients id) = outlet (s.clients id) := by
  unfold reportPosition storePilotFields broadcastRanged
  rw [modifyClient_same, clients_broadcastRangedWhere, setClosest, modifyClient_same,
    clients_updatePosition, storePosition, modifyClient_same]
  rfl

theorem clients_reportPosition_other {other : SessionId} (different : other ≠ id) :
    (s.reportPosition now id packet center).clients other = s.clients other := by
  unfold reportPosition storePilotFields broadcastRanged
  rw [modifyClient_other _ _ different, clients_broadcastRangedWhere, setClosest,
    modifyClient_other _ _ different, clients_updatePosition, storePosition,
    modifyClient_other _ _ different]

end Reports

/-! ## Exact arithmetic -/

theorem lt_five_miles {dist : Real} :
    GoFloat.lt (dist / GoFloat.ofRat 1852) (GoFloat.ofRat 5) = decide (dist < (5 * 1852 : Nat)) := by
  simp only [GoFloat.lt, GoFloat.ofRat]
  congr 1
  rw [div_lt_iff₀ (by norm_num)]
  norm_num

theorem gt_five_miles {dist : Real} :
    GoFloat.gt (dist / GoFloat.ofRat 1852) (GoFloat.ofRat 5) =
      decide (((5 * 1852 : Nat) : Real) < dist) := by
  simp only [GoFloat.gt, GoFloat.lt, GoFloat.ofRat]
  congr 1
  rw [lt_div_iff₀ (by norm_num)]
  norm_num

/-- The decision, by the distance that the last search has left. -/
theorem sendFastEnabled_updateSendFast {s : Server Real} {id : SessionId}
    (revision : (s.clients id).protoRevision = 101) :
    ((s.updateSendFast id).clients id).sendFastEnabled =
      if (s.clients id).closestVelocityClientDistance < (5 * 1852 : Nat) then true
      else if ((5 * 1852 : Nat) : Real) < (s.clients id).closestVelocityClientDistance then false
      else (s.clients id).sendFastEnabled := by
  unfold updateSendFast
  simp only [if_pos revision, lt_five_miles, gt_five_miles, decide_eq_true_eq]
  cases before : (s.clients id).sendFastEnabled with
  | true =>
      rw [if_pos rfl]
      split
      · next farther => rw [if_neg (lt_asymm farther), sendTo_clients, modifyClient_same]
      · rw [before]
        split
        · rfl
        · rfl
  | false =>
      rw [if_neg Bool.false_ne_true]
      split
      · rw [sendTo_clients, modifyClient_same]
      · rw [before]
        split
        · rfl
        · rfl

/-- What a slow position should make of the flag, given the distances to the
clients that its search found: the flag follows the nearest of them. -/
structure FollowsNearest (distances : List Real) (before after : Bool) : Prop where
  alone : distances = [] -> after = false
  closer : forall nearest, IsLeast (fun dist => dist ∈ distances) nearest ->
    nearest < (5 * 1852 : Nat) -> after = true
  farther : forall nearest, IsLeast (fun dist => dist ∈ distances) nearest ->
    ((5 * 1852 : Nat) : Real) < nearest -> after = false
  exactly : forall nearest, IsLeast (fun dist => dist ∈ distances) nearest ->
    nearest = (5 * 1852 : Nat) -> after = before

/-- The distance that a search leaves is the least one. -/
theorem foldl_lesser_eq_of_isLeast {distances : List Real} {nearest : Real}
    (least : IsLeast (fun dist => dist ∈ distances) nearest)
    (bounded : forall dist, dist ∈ distances -> dist < GoFloat.maxFloat64) :
    distances.foldl (Traversal.lesser GoFloat.lt) GoFloat.maxFloat64 = nearest := by
  have folded := Traversal.least_foldl_lesser LawfulGoFloat.lt_irrefl LawfulGoFloat.lt_trans
    (GoFloat.maxFloat64 : Real) distances
  have member := folded.attained nearest least.1 (decide_eq_true (bounded nearest least.1))
  have lower := of_decide_eq_false (folded.least nearest least.1)
  exact le_antisymm (not_lt.mp lower) (least.2 member)

theorem followsNearest_of_eq {distances : List Real} {before after : Bool}
    (bounded : forall dist, dist ∈ distances -> dist < GoFloat.maxFloat64)
    (decided : after =
      if distances.foldl (Traversal.lesser GoFloat.lt) GoFloat.maxFloat64 < (5 * 1852 : Nat) then true
      else if ((5 * 1852 : Nat) : Real) <
        distances.foldl (Traversal.lesser GoFloat.lt) GoFloat.maxFloat64 then false
      else before) : FollowsNearest distances before after where
  alone := by
    intro none
    have large : ((5 * 1852 : Nat) : Real) < GoFloat.maxFloat64 :=
      Nat.cast_lt.mpr (by decide +kernel)
    rw [decided, none, List.foldl_nil, if_neg (lt_asymm large), if_pos large]
  closer := by
    intro nearest least near
    rw [decided, foldl_lesser_eq_of_isLeast least bounded, if_pos near]
  farther := by
    intro nearest least far
    rw [decided, foldl_lesser_eq_of_isLeast least bounded, if_neg (lt_asymm far), if_pos far]
  exactly := by
    intro nearest least same
    rw [decided, foldl_lesser_eq_of_isLeast least bounded, same, if_neg (lt_irrefl _),
      if_neg (lt_irrefl _)]

/-- A slow position that is not refused decides by its own search. -/
theorem followsNearest_processPacket {s : Server Real} {id : SessionId} {packet : Bytes}
    (pilot : VelocityPilot (s.clients id))
    (accepted : verifyPacket packet (s.clients id).callsign = .accepted .pilotPosition)
    (md5 : Bytes -> List.Vector UInt8 16) (now : Time)
    (unrefused : ¬ AnswersWithError s (s.processPacket md5 now id packet) id) :
    Exists fun center => parseLatLon packet 4 5 = some center ∧
      FollowsNearest (fastDistances (s.updatePosition id center pilotVisRange) id)
        (s.clients id).sendFastEnabled
        ((s.processPacket md5 now id packet).clients id).sendFastEnabled := by
  rw [processPacket_of_accepted accepted] at unrefused ⊢
  dsimp only [runHandler] at unrefused ⊢
  cases parsed : (parseLatLon packet 4 5 : Option (Real × Real)) with
  | none =>
      unfold handlePilotPosition at unrefused
      rw [parsed] at unrefused
      exact absurd (answersWithError_sendError s id _ _) unrefused
  | some center =>
      have steady := s.steady_reportPosition now id (noSignal_of_accepted accepted) center
      refine ⟨center, rfl, ?_⟩
      rw [handlePilotPosition_of_parsed parsed]
      apply followsNearest_of_eq
      · intro dist member
        rcases List.mem_map.mp member with ⟨found, _, same⟩
        rw [← same]
        exact distanceTo_lt_maxFloat64 _ id found
      · have revision : ((s.reportPosition now id packet center).clients id).protoRevision = 101 :=
          (congrArg LoginData.protoRevision
            (s.toLoginData_reportPosition now id packet center)).trans pilot.2
        rw [sendFastEnabled_updateSendFast revision, closest_reportPosition pilot, steady.enabled id]

end Server
end Fsd
end OpenFsd
