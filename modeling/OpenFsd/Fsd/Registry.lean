import OpenFsd.Fsd.Records
import OpenFsd.Fsd.Visibility

namespace OpenFsd
namespace Fsd

open Db Transition

/-!
# The system keeps the post office consistent

The sections of the post office were studied on their own, with sessions that
do nothing else.  Here they are put back into the system: a login, a position,
and a release are each a few sections in a row, and no other step touches the
map, the tree or what a box is computed from.  So in every reachable state of
the system every registered client is indexed once, at its current box.
-/

variable {F : Type}

/-- Nothing that the post office works with is changed. -/
structure SamePost (s next : Server F) : Prop where
  postOffice : next.postOffice = s.postOffice
  callsign : forall other, (next.clients other).callsign = (s.clients other).callsign
  coords : forall other, (next.clients other).coords = (s.clients other).coords
  visRange : forall other, (next.clients other).visRange = (s.clients other).visRange

theorem Undisturbed.samePost {s next : Server F} (undisturbed : Undisturbed s next) :
    SamePost s next := by
  have records := undisturbed.clients
  constructor
  · exact undisturbed.postOffice
  · intro other
    rcases records other with ⟨_, same⟩
    rw [same]
  · intro other
    rcases records other with ⟨_, same⟩
    rw [same]
  · intro other
    rcases records other with ⟨_, same⟩
    rw [same]

namespace SamePost

theorem trans {s middle next : Server F} (left : SamePost s middle) (right : SamePost middle next) :
    SamePost s next where
  postOffice := right.postOffice.trans left.postOffice
  callsign := fun other => (right.callsign other).trans (left.callsign other)
  coords := fun other => (right.coords other).trans (left.coords other)
  visRange := fun other => (right.visRange other).trans (left.visRange other)

theorem registered {s next : Server F} (same : SamePost s next) {id : SessionId}
    (registered : s.Registered id) : next.Registered id := by
  unfold Server.Registered at registered ⊢
  rw [same.postOffice, same.callsign id]
  exact registered

theorem sendTo (s : Server F) (recipient : SessionId) (packet : Bytes) :
    SamePost s (s.sendTo recipient packet) :=
  ⟨rfl, fun _ => rfl, fun _ => rfl, fun _ => rfl⟩

/-- A write to other fields of one client. -/
theorem modifyClient (s : Server F) (id : SessionId) (change : Client F -> Client F)
    (callsign : (change (s.clients id)).callsign = (s.clients id).callsign)
    (coords : (change (s.clients id)).coords = (s.clients id).coords)
    (visRange : (change (s.clients id)).visRange = (s.clients id).visRange) :
    SamePost s (s.modifyClient id change) := by
  have fields : forall other, ((s.modifyClient id change).clients other).callsign =
        (s.clients other).callsign ∧
      ((s.modifyClient id change).clients other).coords = (s.clients other).coords ∧
      ((s.modifyClient id change).clients other).visRange = (s.clients other).visRange := by
    intro other
    by_cases own : other = id
    · rw [own, Server.modifyClient_same]
      exact ⟨callsign, coords, visRange⟩
    · rw [Server.modifyClient_other _ _ own]
      exact ⟨rfl, rfl, rfl⟩
  exact ⟨rfl, fun other => (fields other).1, fun other => (fields other).2.1,
    fun other => (fields other).2.2⟩

end SamePost

/-! ## Handlers that leave the post office alone -/

namespace Server

@[simp] theorem postOffice_sendError (s : Server F) (recipient : SessionId) (code : Int)
    (message : Bytes) : (s.sendError recipient code message).postOffice = s.postOffice :=
  rfl

@[simp] theorem postOffice_cancelCtx (s : Server F) (victim : SessionId) :
    (s.cancelCtx victim).postOffice = s.postOffice :=
  rfl

@[simp] theorem postOffice_broadcastAllWhere (s : Server F) (id : SessionId)
    (accepts : Client F -> Bool) (packet : Bytes) :
    (s.broadcastAllWhere id accepts packet).postOffice = s.postOffice :=
  rfl

@[simp] theorem postOffice_sendDirectOrErr (s : Server F) (id : SessionId)
    (recipient packet : Bytes) : (s.sendDirectOrErr id recipient packet).postOffice = s.postOffice := by
  cases found : s.find recipient with
  | none =>
      unfold sendDirectOrErr
      rw [found]
      rfl
  | some target => rw [sendDirectOrErr_of_find found]

theorem postOffice_handleServerQuery (s : Server F) (id : SessionId) (packet queryType : Bytes) :
    (s.handleServerQuery id packet queryType).postOffice = s.postOffice := by
  rcases s.handleServerQuery_cases id packet queryType with
    silent | ⟨reply, sent⟩ | ⟨plan, beaconCode, sent⟩
  · rw [silent]
  · rw [sent]
    rfl
  · rw [sent]
    rfl

theorem postOffice_handleKillRequest (s : Server F) (id : SessionId) (packet : Bytes) :
    (s.handleKillRequest id packet).postOffice = s.postOffice := by
  unfold handleKillRequest
  split
  · rfl
  · cases s.find (getField packet 1) <;> rfl

theorem postOffice_handleAuthChallenge (s : Server F) (md5 : Bytes -> List.Vector UInt8 16)
    (id : SessionId) (packet : Bytes) :
    (s.handleAuthChallenge md5 id packet).postOffice = s.postOffice := by
  unfold handleAuthChallenge
  cases s.challengedState id <;> rfl

theorem postOffice_handleMetarRequest (s : Server F) (id : SessionId) (packet : Bytes) :
    (s.handleMetarRequest id packet).postOffice = s.postOffice := by
  unfold handleMetarRequest
  dsimp only
  split <;> rfl

theorem postOffice_handleHandoff (s : Server F) (id : SessionId) (packet : Bytes) :
    (s.handleHandoff id packet).postOffice = s.postOffice := by
  unfold handleHandoff
  split
  · rfl
  · simp

theorem postOffice_handleAmendFlightplan (s : Server F) (id : SessionId) (packet : Bytes) :
    (s.handleAmendFlightplan id packet).postOffice = s.postOffice := by
  unfold handleAmendFlightplan
  split
  · rfl
  · dsimp only
    cases s.find (getField packet 2) <;> rfl

variable [GoFloat F]

@[simp] theorem postOffice_broadcastRangedWhere (s : Server F) (id : SessionId)
    (accepts : Client F -> Bool) (packet : Bytes) :
    (s.broadcastRangedWhere id accepts packet).postOffice = s.postOffice := by
  rcases s.broadcastRangedWhere_eq id accepts packet with ⟨dist, same⟩
  rw [same]
  rfl

theorem postOffice_handleTextMessage (s : Server F) (id : SessionId) (packet : Bytes) :
    (s.handleTextMessage id packet).postOffice = s.postOffice := by
  simp only [handleTextMessage, broadcastRangedAtcOnly, broadcastRanged, broadcastAllSupervisors,
    broadcastAll]
  repeat' split
  all_goals simp

theorem postOffice_handleProcontroller (s : Server F) (id : SessionId) (packet : Bytes) :
    (s.handleProcontroller id packet).postOffice = s.postOffice := by
  simp only [handleProcontroller, broadcastRangedAtcOnly]
  repeat' split
  all_goals simp

theorem postOffice_forwardClientQuery (s : Server F) (id : SessionId) (packet : Bytes) :
    (s.forwardClientQuery id packet).postOffice = s.postOffice := by
  simp only [forwardClientQuery, broadcastRangedAtcOnly, broadcastRanged]
  repeat' split
  all_goals simp

theorem postOffice_handleClientQuery (s : Server F) (id : SessionId) (packet : Bytes) :
    (s.handleClientQuery id packet).postOffice = s.postOffice := by
  have served := s.postOffice_handleServerQuery id packet
  have forwarded := s.postOffice_forwardClientQuery id packet
  simp only [handleClientQuery, handleInfQuery]
  repeat' split
  all_goals simp [served, forwarded]

/-- Only the two kinds of position change the post office. -/
theorem postOffice_runHandler (s : Server F) (md5 : Bytes -> List.Vector UInt8 16) (now : Time)
    {packetType : PacketType} (notAtc : packetType ≠ .atcPosition)
    (notPilot : packetType ≠ .pilotPosition) (id : SessionId) (packet : Bytes) :
    (s.runHandler md5 now packetType id packet).postOffice = s.postOffice := by
  cases packetType with
  | unknown => rfl
  | textMessage => exact s.postOffice_handleTextMessage id packet
  | atcPosition => exact absurd rfl notAtc
  | pilotPosition => exact absurd rfl notPilot
  | pilotPositionFast => exact s.postOffice_broadcastRangedWhere id _ packet
  | pilotPositionSlow => exact s.postOffice_broadcastRangedWhere id _ packet
  | pilotPositionStopped => exact s.postOffice_broadcastRangedWhere id _ packet
  | deletePilot => rfl
  | deleteATC => rfl
  | squawkbox => exact s.postOffice_sendDirectOrErr id _ packet
  | proController => exact s.postOffice_handleProcontroller id packet
  | clientQuery => exact s.postOffice_handleClientQuery id packet
  | clientQueryResponse => exact s.postOffice_handleClientQuery id packet
  | killRequest => exact s.postOffice_handleKillRequest id packet
  | authChallenge => exact s.postOffice_handleAuthChallenge md5 id packet
  | handoffRequest => exact s.postOffice_handleHandoff id packet
  | handoffAccept => exact s.postOffice_handleHandoff id packet
  | metarRequest => exact s.postOffice_handleMetarRequest id packet
  | flightPlan => rfl
  | flightPlanAmendment => exact s.postOffice_handleAmendFlightplan id packet

end Server

variable [GoFloat F]

/-! ## Positions that stay -/

theorem placed_of_altered {s : Server F} {id other : SessionId} {packet : Bytes}
    {client next : Client F} (altered : Altered s id packet other client next)
    (unstored : storedPosition (s.clients id) packet = none) :
    next.coords = client.coords ∧ next.visRange = client.visRange := by
  induction altered with
  | andThen first second firstHypothesis secondHypothesis =>
      exact ⟨secondHypothesis.1.trans firstHypothesis.1, secondHypothesis.2.trans firstHypothesis.2⟩
  | moved client center visRange stored =>
      rw [unstored] at stored
      cases stored
  | _ => exact ⟨rfl, rfl⟩

/-- A packet that is no position leaves all of it alone. -/
theorem samePost_processPacket {s : Server F} {packet : Bytes}
    (notAtc : getPacketType packet ≠ .atcPosition) (notPilot : getPacketType packet ≠ .pilotPosition)
    (md5 : Bytes -> List.Vector UInt8 16) (now : Time) (id : SessionId) :
    SamePost s (s.processPacket md5 now id packet) := by
  have unstored : storedPosition (s.clients id) packet = none := by
    unfold storedPosition
    split
    · next typed => exact absurd typed notAtc
    · next typed => exact absurd typed notPilot
    · rfl
  have placed := fun other =>
    placed_of_altered (s.alters_processPacket md5 now id packet other) unstored
  constructor
  · cases verified : verifyPacket packet (s.clients id).callsign with
    | refused code message =>
        unfold Server.processPacket
        rw [verified]
        rfl
    | accepted packetType =>
        have typed := (verifyPacket_accepted verified).1
        rw [Server.processPacket_of_accepted verified, typed]
        exact s.postOffice_runHandler md5 now notAtc notPilot id packet
  · intro other
    exact congrArg LoginData.callsign (s.toLoginData_processPacket md5 now id packet other)
  · exact fun other => (placed other).1
  · exact fun other => (placed other).2

/-! ## Servers between operations -/

/-- The other client is registered, and the boxes of the two meet. -/
def Server.Near (s : Server F) (id other : SessionId) : Prop :=
  s.Registered other ∧ Box.intersects (s.currentBox id) (s.currentBox other) = true

/-- The server is a state of the post office in which no operation is in
progress. -/
def Settled (s : Server F) : Prop :=
  Exists fun phase => Office.Consistent ⟨s, phase⟩ ∧ Office.Quiescent ⟨s, phase⟩

open Office

theorem SamePost.untouched {s next : Server F} (same : SamePost s next) (id : SessionId) :
    Untouched s next id where
  callsigns := same.callsign
  boxes := by
    intro other _
    unfold Server.currentBox
    rw [same.coords other, same.visRange other]
  entries := by
    intro other _
    unfold Server.entriesOf
    rw [same.postOffice]
  lookups := by
    intro callsign other _
    rw [same.postOffice]

theorem SamePost.settled {s next : Server F} (same : SamePost s next) (settled : Settled s) :
    Settled next := by
  rcases settled with ⟨phase, consistent, quiescent⟩
  refine ⟨phase, ?_, quiescent⟩
  constructor
  · intro callsign id found
    dsimp only at found ⊢
    rw [same.postOffice] at found
    rw [same.callsign id]
    exact consistent.mapped callsign id found
  · intro id
    exact (same.untouched (id + 1)).holds (Nat.ne_of_lt (Nat.lt_succ_self id)) (consistent.holds id)

/-- Only the session that moves on may be in the middle of an operation. -/
def QuiescentBut (id : SessionId) (office : Office F) : Prop :=
  forall other, other ≠ id -> (office.phase other).Idle

omit [GoFloat F] in
theorem QuiescentBut.advance {id : SessionId} {office : Office F} (rest : QuiescentBut id office)
    (next : Server F) (phase : Phase F) : QuiescentBut id (office.advance id next phase) := by
  intro other different
  rw [office.phase_advance_other next phase different]
  exact rest other different

omit [GoFloat F] in
theorem QuiescentBut.quiescent {id : SessionId} {office : Office F} (rest : QuiescentBut id office)
    {next : Server F} {phase : Phase F} (idle : phase.Idle) :
    Quiescent (office.advance id next phase) := by
  intro other
  by_cases own : other = id
  · rw [own, office.phase_advance]
    exact idle
  · rw [office.phase_advance_other next phase own]
    exact rest other own

/-- A place of the heap that is not registered may be allocated. -/
theorem consistent_allocate {office : Office F} (consistent : Consistent office) {id : SessionId}
    (unregistered : ¬ office.server.Registered id) (client : Client F) :
    Consistent (office.advance id (office.server.allocate id client) .fresh) := by
  have elsewhere : forall other, other ≠ id ->
      (office.server.allocate id client).clients other = office.server.clients other :=
    fun _ different => office.server.modifyClient_other _ different
  constructor
  · intro callsign other found
    have before := consistent.mapped callsign other found
    by_cases own : other = id
    · have registered : office.server.Registered other := by
        unfold Server.Registered
        rw [before.1]
        exact found
      rw [own] at registered
      exact absurd registered unregistered
    · rw [office.phase_advance_other _ _ own]
      refine ⟨?_, before.2⟩
      rw [← before.1]
      exact congrArg (fun client => client.callsign) (elsewhere other own)
  · intro other
    by_cases own : other = id
    · rw [own, office.phase_advance]
      by_contra occupied
      exact unregistered ((consistent.holds id).only occupied).1
    · rw [office.phase_advance_other _ _ own]
      have registered : office.server.Registered other ->
          (office.server.allocate id client).Registered other := by
        intro registered
        unfold Server.Registered at registered ⊢
        rw [elsewhere other own]
        exact registered
      have box : (office.server.allocate id client).currentBox other =
          office.server.currentBox other := by
        unfold Server.currentBox
        rw [elsewhere other own]
      exact Holds.congr registered rfl box (consistent.holds other)

/-- The session is registered, and no operation of it is in progress. -/
theorem phase_of_registered {s : Server F} {phase : SessionId -> Phase F}
    (consistent : Consistent ⟨s, phase⟩) (quiescent : Quiescent ⟨s, phase⟩) {id : SessionId}
    (registered : s.Registered id) : phase id = .registered := by
  have live : (phase id).Live := consistent.live registered
  have idle : (phase id).Idle := quiescent id
  cases current : phase id with
  | registered => rfl
  | fresh => rw [current] at live; cases live
  | rejected => rw [current] at live; cases live
  | released => rw [current] at live; cases live
  | mapped => rw [current] at idle; cases idle
  | moving oldBox newBox => rw [current] at idle; cases idle
  | leaving => rw [current] at idle; cases idle

variable [LawfulGoFloat F]

/-- Between operations, the search reports the registered clients whose boxes
meet the box of the searching one, and each of them once. -/
theorem Settled.found {s : Server F} (settled : Settled s)
    (id : SessionId) : (s.foundBy id).Nodup ∧
      forall other, other ∈ s.foundBy id ↔ other ≠ id ∧ s.Near id other := by
  rcases settled with ⟨phase, consistent, quiescent⟩
  exact ⟨consistent.nodup_foundBy id, fun other => consistent.mem_foundBy quiescent id other⟩

theorem Settled.found_updatePosition {s : Server F} (settled : Settled s) {id other : SessionId}
    (different : other ≠ id) (center : F × F) (visRange : F) :
    other ∈ (s.updatePosition id center visRange).foundBy id ↔ s.Registered other ∧
      Box.intersects (calculateBoundingBox center visRange) (s.currentBox other) = true := by
  rcases settled with ⟨phase, consistent, quiescent⟩
  exact consistent.mem_foundBy_updatePosition quiescent different center visRange

theorem settled_register {s next : Server F} (settled : Settled s) {id : SessionId}
    {client : Client F} (unregistered : ¬ s.Registered id)
    (registered : (s.allocate id client).register id = some next) : Settled next := by
  rcases settled with ⟨phase, consistent, quiescent⟩
  rcases Option.map_eq_some_iff.mp registered with ⟨mapped, stored, rfl⟩
  let office : Office F := ⟨s, phase⟩
  let allocated := office.advance id (s.allocate id client) .fresh
  let named := allocated.advance id mapped .mapped
  have rest : QuiescentBut id office := fun other _ => quiescent other
  have fresh : Consistent allocated := consistent_allocate consistent unregistered client
  have halfway : Consistent named :=
    fresh.stepped (.mapped (office.phase_advance id _ _) mapped stored)
  have whole : Consistent (named.advance id (mapped.registerTree id) .registered) :=
    halfway.stepped (.registered (allocated.phase_advance id _ _))
  exact ⟨_, whole, ((rest.advance _ _).advance _ _).quiescent True.intro⟩

theorem settled_updatePosition {s : Server F} (settled : Settled s) {id : SessionId}
    (registered : s.Registered id) (newCenter : F × F) (newVisRange : F) :
    Settled (s.updatePosition id newCenter newVisRange) := by
  rcases settled with ⟨phase, consistent, quiescent⟩
  have before := phase_of_registered consistent quiescent registered
  let office : Office F := ⟨s, phase⟩
  have rest : QuiescentBut id office := fun other _ => quiescent other
  have stored := consistent.stepped (.stored before newCenter newVisRange)
  unfold Server.updatePosition
  dsimp only at stored ⊢
  by_cases redundant :
      Box.eq (s.currentBox id) (calculateBoundingBox newCenter newVisRange) = true
  · rw [if_pos redundant] at stored ⊢
    exact ⟨_, stored, rest.quiescent True.intro⟩
  · rw [if_neg redundant] at stored ⊢
    have reindexed := stored.stepped (.reindexed _ _ (office.phase_advance id _ _))
    exact ⟨_, reindexed, (rest.advance _ _).quiescent True.intro⟩

theorem settled_release {s : Server F} (settled : Settled s) {id : SessionId}
    (registered : s.Registered id) : Settled (s.release id) := by
  rcases settled with ⟨phase, consistent, quiescent⟩
  have before := phase_of_registered consistent quiescent registered
  let office : Office F := ⟨s, phase⟩
  have rest : QuiescentBut id office := fun other _ => quiescent other
  have unindexed := consistent.stepped (.unindexed before)
  have released := unindexed.stepped (.released (office.phase_advance id _ _))
  exact ⟨_, released, (rest.advance _ _).quiescent True.intro⟩

/-! ## The handlers of positions -/

omit [LawfulGoFloat F] in
theorem samePost_broadcastRanged (s : Server F) (id : SessionId) (packet : Bytes) :
    SamePost s (s.broadcastRanged id packet) := by
  rcases s.broadcastRangedWhere_eq id (fun _ => true) packet with ⟨dist, same⟩
  have searched : SamePost s (s.setClosest id dist) := .modifyClient s id _ rfl rfl rfl
  have relayed : s.broadcastRanged id packet = _ := same
  rw [relayed]
  exact ⟨searched.postOffice, searched.callsign, searched.coords, searched.visRange⟩

omit [LawfulGoFloat F] in
theorem samePost_storePilotFields (s : Server F) (now : Time) (id : SessionId) (packet : Bytes) :
    SamePost s (s.storePilotFields now id packet) := by
  unfold Server.storePilotFields
  exact .modifyClient s id _ rfl rfl rfl

omit [LawfulGoFloat F] in
theorem samePost_updateSendFast (s : Server F) (id : SessionId) :
    SamePost s (s.updateSendFast id) := by
  rcases s.updateSendFast_cases id with kept | ⟨enabled, switched, _⟩
  · rw [kept]
    exact ⟨rfl, fun _ => rfl, fun _ => rfl, fun _ => rfl⟩
  · have stored : SamePost s (s.modifyClient id fun client =>
        { client with sendFastEnabled := enabled }) := .modifyClient s id _ rfl rfl rfl
    rw [switched]
    exact stored.trans (.sendTo _ id _)

theorem settled_handlePilotPosition {s : Server F} (settled : Settled s) {id : SessionId}
    (registered : s.Registered id) (now : Time) (packet : Bytes) :
    Settled (s.handlePilotPosition now id packet) := by
  unfold Server.handlePilotPosition
  cases (parseLatLon packet 4 5 : Option (F × F)) with
  | none => exact (SamePost.sendTo s id _).settled settled
  | some center =>
      have moved := settled_updatePosition settled registered center pilotVisRange
      have relayed := (samePost_broadcastRanged _ id packet).settled moved
      have stored := (samePost_storePilotFields _ now id packet).settled relayed
      exact (samePost_updateSendFast _ id).settled stored

theorem settled_handleATCPosition {s : Server F} (settled : Settled s) {id : SessionId}
    (registered : s.Registered id) (now : Time) (packet : Bytes) :
    Settled (s.handleATCPosition now id packet) := by
  unfold Server.handleATCPosition
  dsimp only
  split
  · exact (SamePost.sendTo s id _).settled settled
  · split
    · have cancelled := (Undisturbed.cancelCtx (s.sendError id InvalidPositionForRatingError
        (bytes "Invalid position for rating")) id).samePost
      exact cancelled.settled ((SamePost.sendTo s id _).settled settled)
    · have placed : SamePost s (s.modifyClient id fun client =>
          { client with facilityType := (parseInt (getField packet 2) 10 32).value }) :=
        .modifyClient s id _ rfl rfl rfl
      have before := placed.settled settled
      have remains := placed.registered registered
      generalize (s.modifyClient id fun client =>
        { client with facilityType := (parseInt (getField packet 2) 10 32).value }) = station
        at before remains
      unfold Server.atcPositionUpdate
      cases (parseLatLon packet 5 6 : Option (F × F)) with
      | none => exact (SamePost.sendTo station id _).settled before
      | some center =>
          cases (parseVisRange packet 3 : Option F) with
          | none => exact (SamePost.sendTo station id _).settled before
          | some visRange =>
              have moved := settled_updatePosition before remains center visRange
              have relayed := (samePost_broadcastRanged _ id packet).settled moved
              have updated : SamePost ((station.updatePosition id center visRange).broadcastRanged
                  id packet) (((station.updatePosition id center visRange).broadcastRanged
                    id packet).modifyClient id fun client => { client with lastUpdated := now }) :=
                .modifyClient _ id _ rfl rfl rfl
              exact updated.settled relayed

theorem settled_processPacket {s : Server F} (settled : Settled s) {id : SessionId}
    (registered : s.Registered id) (md5 : Bytes -> List.Vector UInt8 16) (now : Time)
    (packet : Bytes) : Settled (s.processPacket md5 now id packet) := by
  cases verified : verifyPacket packet (s.clients id).callsign with
  | refused code message =>
      have refused : s.processPacket md5 now id packet = s.sendError id code message := by
        unfold Server.processPacket
        rw [verified]
      rw [refused]
      exact (SamePost.sendTo s id _).settled settled
  | accepted packetType =>
      have typed := (verifyPacket_accepted verified).1
      by_cases atc : packetType = .atcPosition
      · subst atc
        rw [Server.processPacket_of_accepted verified]
        exact settled_handleATCPosition settled registered now packet
      · by_cases pilot : packetType = .pilotPosition
        · subst pilot
          rw [Server.processPacket_of_accepted verified]
          exact settled_handlePilotPosition settled registered now packet
        · rw [typed] at atc pilot
          exact (samePost_processPacket atc pilot md5 now id).settled settled

/-! ## The system -/

namespace System

variable {P : Platform}

omit [LawfulGoFloat F] in
theorem settled_start (heap : SessionId -> Client F) : Settled (start heap).server := by
  refine ⟨fun _ => .fresh, ?_, fun _ => True.intro⟩
  constructor
  · intro callsign id found
    cases found
  · exact fun _ => rfl

theorem settled_step {system next : System F} {action : Action} (wellFormed : WellFormed P system)
    (taken : System.step P system action = some next) (settled : Settled system.server) :
    Settled next.server := by
  cases action with
  | connect env database idLine addLine =>
      rcases step_connect_cases taken with same | ⟨server, connected, same⟩
      · rw [same]
        exact settled
      · rw [same]
        have unregistered : ¬ system.server.Registered system.allocated := fun registered =>
          lt_irrefl _ (wellFormed.allocated_of_registered registered)
        unfold Server.connect at connected
        rcases bind_eq_ok.mp connected with ⟨client, _, connected⟩
        cases stored : (system.server.allocate system.allocated client).register
            system.allocated with
        | none =>
            rw [stored] at connected
            exact absurd connected refuse_ne_ok
        | some registered =>
            rw [stored] at connected
            rw [← Except.ok.inj connected]
            exact settled_register settled unregistered stored
  | announce id =>
      rcases Option.ite_none_right_eq_some.mp taken with ⟨_, same⟩
      rw [← Option.some.inj same]
      have announced : Undisturbed system.server (system.server.broadcastAddPacket id) :=
        .sent rfl rfl
      exact announced.samePost.settled settled
  | packet now id packet =>
      rcases Option.ite_none_right_eq_some.mp taken with ⟨registered, same⟩
      rw [← Option.some.inj same]
      exact settled_processPacket settled registered P.md5 now packet
  | depart id =>
      rcases Option.ite_none_right_eq_some.mp taken with ⟨_, same⟩
      rw [← Option.some.inj same]
      have left : Undisturbed system.server
          ((system.server.cancelCtx id).broadcastDisconnectPacket id) :=
        (Undisturbed.cancelCtx _ id).trans (.sent rfl rfl)
      exact left.samePost.settled settled
  | release id =>
      rcases Option.ite_none_right_eq_some.mp taken with ⟨registered, same⟩
      rw [← Option.some.inj same]
      exact settled_release settled registered
  | kick callsign =>
      rcases Option.map_eq_some_iff.mp taken with ⟨server, kicked, same⟩
      rcases Option.map_eq_some_iff.mp kicked with ⟨victim, _, cancelled⟩
      rw [← same, ← cancelled]
      exact (Undisturbed.cancelCtx _ victim).samePost.settled settled

/-- Every reachable state of the system is, for the post office, a state
between operations. -/
theorem settled_of_reaches {heap : SessionId -> Client F} {system : System F}
    (reached : Reaches (System.step P) (start heap) system) : Settled system.server := by
  have preserved : forall (state : System F) (action : Action) (next : System F),
      System.step P state action = some next -> WellFormed P state ∧ Settled state.server ->
        WellFormed P next ∧ Settled next.server :=
    fun _ _ _ taken both => ⟨both.1.step taken, settled_step both.1 taken both.2⟩
  exact (invariant_of_reaches preserved ⟨wellFormed_start heap, settled_start heap⟩ reached).2

end System
end Fsd
end OpenFsd
