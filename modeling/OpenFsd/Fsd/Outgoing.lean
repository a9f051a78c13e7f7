import OpenFsd.Fsd.Turn

namespace OpenFsd
namespace Fsd

/-!
# What one packet makes the server send

The other side of `Acts`: there the question is who may cause an event, here
it is which packets the events carry.  `Outgoing` lists them.  Another client
is sent the received packet itself, or a flight plan that is made of it.
Everything else is a reply to the sender.

There is again one lemma for each handler.
-/

/-- The fixed texts of the error packets. -/
def errorTexts : List String :=
  ["Packet too short", "Unknown packet type", "Source invalid",
   "Minimum field count requirement not satisfied", "No such callsign",
   "Invalid latitude/longitude", "Invalid visibility range", "Invalid facility type",
   "Invalid position for rating", "Invalid recipient", "Invalid control", "Invalid ATC request",
   "Invalid flightplan request syntax",
   "Cannot reply to auth challenge since no initial challenge was recieved"]

variable {F : Type}

/-- The answers that only the sender of a packet gets. -/
inductive Reply (s : Server F) (id : SessionId) (packet : Bytes) : Bytes -> Prop
  | error (code : Int) (text : String) (worded : text ∈ errorTexts) :
      Reply s id packet (errorPacket code (bytes text))
  | missing (index : Nat) :
      Reply s id packet
        (errorPacket NoSuchCallsignError (bytes "No such callsign: " ++ getField packet index))
  | active (answer : Bytes) (short : answer = bytes "Y" ∨ answer = bytes "N") :
      Reply s id packet (bytes "$CRSERVER:" ++ (s.clients id).callsign ++ bytes ":ATC:" ++ answer ++
        [colon] ++ getField packet 3 ++ crlf)
  | address :
      Reply s id packet (bytes "$CRSERVER:" ++ (s.clients id).callsign ++ bytes ":IP:" ++
        (splitByte colon (s.clients id).remoteAddr).headD [] ++ crlf)
  | flightPlan (target : SessionId) (registered : s.find (getField packet 3) = some target) :
      Reply s id packet
        (buildFileFlightplanPacket (getField packet 3) (bytes "*A") (s.clients target).flightPlan)
  | beaconCode (target : SessionId) (registered : s.find (getField packet 3) = some target)
      (code : Bytes) (stored : code = bytes "0" ∨ code = (s.clients target).assignedBeaconCode) :
      Reply s id packet
        (buildBeaconCodePacket (bytes "server") (s.clients id).callsign (getField packet 3) code)
  | challenged (digest : List.Vector UInt8 16) :
      Reply s id packet (bytes "$ZRSERVER:" ++ (s.clients id).callsign ++ [colon] ++
        (asHex digest).toList ++ crlf)
  | sendFast (enabled : Bool) : Reply s id packet (sendFastPacket (s.clients id).callsign enabled)

/-- The events that one packet of a client leads to. -/
inductive Outgoing (s : Server F) (id : SessionId) (packet : Bytes) : Event -> Prop
  | relayed (recipient : SessionId) : Outgoing s id packet (.send recipient packet)
  | filed (recipient : SessionId) (typed : getPacketType packet = .flightPlan) :
      Outgoing s id packet (.send recipient (buildFileFlightplanPacket (s.clients id).callsign
        (bytes "*A") (extractFlightplanInfoSection packet)))
  | amended (recipient : SessionId) (typed : getPacketType packet = .flightPlanAmendment) :
      Outgoing s id packet (.send recipient (buildAmendFlightplanPacket (s.clients id).callsign
        (bytes "*A") (getField packet 2) (extractFlightplanInfoSection packet)))
  | replied (reply : Bytes) (answers : Reply s id packet reply) :
      Outgoing s id packet (.send id reply)
  | cancelled (victim : SessionId)
      (known : victim = id ∨ Exists fun callsign => s.find callsign = some victim) :
      Outgoing s id packet (.cancel victim)
  | metar (icaoCode : Bytes) : Outgoing s id packet (.metarRequest id icaoCode)

namespace Server

/-- The events are appended, and each of them is permitted. -/
def Emits (permits : Event -> Prop) (s next : Server F) : Prop :=
  Exists fun caused => next.events = s.events ++ caused ∧
    forall event, event ∈ caused -> permits event

variable {permits : Event -> Prop}

theorem Emits.silent {s next : Server F} (same : next.events = s.events) : Emits permits s next :=
  ⟨[], by rw [same, List.append_nil], fun _ member => absurd member List.not_mem_nil⟩

theorem Emits.trans {s middle next : Server F} (left : Emits permits s middle)
    (right : Emits permits middle next) : Emits permits s next := by
  rcases left with ⟨earlier, earlierSame, earlierPermitted⟩
  rcases right with ⟨later, laterSame, laterPermitted⟩
  refine ⟨earlier ++ later, by rw [laterSame, earlierSame, List.append_assoc], ?_⟩
  intro event member
  rcases List.mem_append.mp member with early | late
  · exact earlierPermitted event early
  · exact laterPermitted event late

theorem Emits.mono {weaker : Event -> Prop} {s next : Server F} (emits : Emits permits s next)
    (implies : forall event, permits event -> weaker event) : Emits weaker s next := by
  rcases emits with ⟨caused, same, permitted⟩
  exact ⟨caused, same, fun event member => implies event (permitted event member)⟩

theorem emits_sendTo (s : Server F) {recipient : SessionId} {packet : Bytes}
    (permitted : permits (.send recipient packet)) : Emits permits s (s.sendTo recipient packet) := by
  refine ⟨[.send recipient packet], rfl, ?_⟩
  intro event member
  rw [List.mem_singleton.mp member]
  exact permitted

theorem emits_cancelCtx (s : Server F) {victim : SessionId} (permitted : permits (.cancel victim)) :
    Emits permits s (s.cancelCtx victim) := by
  refine ⟨[.cancel victim], rfl, ?_⟩
  intro event member
  rw [List.mem_singleton.mp member]
  exact permitted

theorem emits_map {s : Server F} {recipients : List SessionId} {packet : Bytes}
    (permitted : forall recipient, permits (.send recipient packet)) {next : Server F}
    (same : next.events = s.events ++ recipients.map fun recipient => Event.send recipient packet) :
    Emits permits s next := by
  refine ⟨_, same, ?_⟩
  intro event member
  rcases List.mem_map.mp member with ⟨recipient, _, sent⟩
  rw [← sent]
  exact permitted recipient

theorem emits_broadcastAllWhere (s : Server F) (id : SessionId) (accepts : Client F -> Bool)
    {packet : Bytes} (permitted : forall recipient, permits (.send recipient packet)) :
    Emits permits s (s.broadcastAllWhere id accepts packet) := by
  rw [broadcastAllWhere_eq]
  exact emits_map permitted rfl

theorem emits_sendDirectOrErr (s : Server F) (id : SessionId) (recipient : Bytes) {packet : Bytes}
    (permitted : forall found, permits (.send found packet))
    (refused : permits (.send id (errorPacket NoSuchCallsignError (bytes "No such callsign")))) :
    Emits permits s (s.sendDirectOrErr id recipient packet) := by
  cases found : s.find recipient with
  | none =>
      unfold sendDirectOrErr
      rw [found]
      exact s.emits_sendTo refused
  | some target =>
      rw [sendDirectOrErr_of_find found]
      refine ⟨_, rfl, ?_⟩
      intro event member
      rcases List.mem_cons.mp member with direct | told
      · rw [direct]
        exact permitted target
      · rw [mem_refusal told]
        exact refused

section Ranged

variable [GoFloat F]

theorem emits_broadcastRangedWhere (s : Server F) (id : SessionId) (accepts : Client F -> Bool)
    {packet : Bytes} (permitted : forall recipient, permits (.send recipient packet)) :
    Emits permits s (s.broadcastRangedWhere id accepts packet) := by
  rcases s.broadcastRangedWhere_eq id accepts packet with ⟨dist, same⟩
  rw [same]
  exact emits_map permitted rfl

theorem emits_updatePosition (s : Server F) (id : SessionId) (newCenter : F × F) (newVisRange : F) :
    Emits permits s (s.updatePosition id newCenter newVisRange) := by
  refine .silent ?_
  unfold updatePosition
  dsimp only
  split <;> rfl

end Ranged

/-! ## The handlers -/

variable {md5 : Bytes -> List.Vector UInt8 16} {id : SessionId}

theorem emits_error (s : Server F) (packet : Bytes) (code : Int) {text : String}
    (worded : text ∈ errorTexts) :
    Emits (Outgoing s id packet) s (s.sendError id code (bytes text)) :=
  s.emits_sendTo (.replied _ (.error code text worded))

theorem emits_relayDirect (s : Server F) (packet recipient : Bytes) :
    Emits (Outgoing s id packet) s (s.sendDirectOrErr id recipient packet) :=
  s.emits_sendDirectOrErr id recipient (fun found => .relayed found)
    (.replied _ (.error _ _ (by simp [errorTexts])))

theorem emits_relayAll (s : Server F) (packet : Bytes) (accepts : Client F -> Bool) :
    Emits (Outgoing s id packet) s (s.broadcastAllWhere id accepts packet) :=
  s.emits_broadcastAllWhere id accepts fun recipient => .relayed recipient

theorem emits_handleDelete (s : Server F) (packet : Bytes) :
    Emits (Outgoing s id packet) s (s.handleDelete id packet) := by
  unfold handleDelete
  exact (s.emits_relayAll packet _).trans (emits_cancelCtx _ (.cancelled id (Or.inl rfl)))

theorem emits_handleClientQueryATCRequest (s : Server F) (packet : Bytes) :
    Emits (Outgoing s id packet) s (s.handleClientQueryATCRequest id packet) := by
  unfold handleClientQueryATCRequest
  dsimp only
  split
  · exact s.emits_error packet _ (by simp [errorTexts])
  · cases s.find (getField packet 3) with
    | none => exact s.emits_error packet _ (by simp [errorTexts])
    | some target =>
        refine s.emits_sendTo (.replied _ (.active _ ?_))
        split
        · exact Or.inl rfl
        · exact Or.inr rfl

theorem emits_handleClientQueryFlightplanRequest (s : Server F) (packet : Bytes) :
    Emits (Outgoing s id packet) s (s.handleClientQueryFlightplanRequest id packet) := by
  unfold handleClientQueryFlightplanRequest
  dsimp only
  split
  · exact .silent rfl
  · split
    · exact s.emits_error packet _ (by simp [errorTexts])
    · cases registered : s.find (getField packet 3) with
      | none => exact s.emits_sendTo (.replied _ (.missing 3))
      | some target =>
          dsimp only
          split
          · exact .silent rfl
          · have plan : Emits (Outgoing s id packet) s (s.sendTo id (buildFileFlightplanPacket
                (getField packet 3) (bytes "*A") (s.clients target).flightPlan)) :=
              s.emits_sendTo (.replied _ (.flightPlan target registered))
            refine plan.trans (emits_sendTo _ (.replied _ (.beaconCode target registered _ ?_)))
            split
            · exact Or.inl rfl
            · exact Or.inr rfl

theorem emits_handleServerQuery (s : Server F) (packet queryType : Bytes) :
    Emits (Outgoing s id packet) s (s.handleServerQuery id packet queryType) := by
  unfold handleServerQuery
  split
  · exact s.emits_handleClientQueryATCRequest packet
  · split
    · exact s.emits_sendTo (.replied _ .address)
    · split
      · exact s.emits_handleClientQueryFlightplanRequest packet
      · exact .silent rfl

theorem emits_handleMetarRequest (s : Server F) (packet : Bytes) :
    Emits (Outgoing s id packet) s (s.handleMetarRequest id packet) := by
  unfold handleMetarRequest
  dsimp only
  split
  · exact .silent rfl
  · refine ⟨[.metarRequest id (getField packet 3)], rfl, ?_⟩
    intro event member
    rw [List.mem_singleton.mp member]
    exact .metar _

theorem emits_handleKillRequest (s : Server F) (packet : Bytes) :
    Emits (Outgoing s id packet) s (s.handleKillRequest id packet) := by
  unfold handleKillRequest
  split
  · exact .silent rfl
  · cases found : s.find (getField packet 1) with
    | none => exact s.emits_error packet _ (by simp [errorTexts])
    | some victim => exact s.emits_cancelCtx (.cancelled victim (Or.inr ⟨_, found⟩))

theorem emits_handleAuthChallenge (s : Server F) (packet : Bytes) :
    Emits (Outgoing s id packet) s (s.handleAuthChallenge md5 id packet) := by
  unfold handleAuthChallenge
  split
  · exact s.emits_error packet _ (by simp [errorTexts])
  · next authState _ =>
      have advanced : forall response, Emits (Outgoing s id packet) s (s.modifyClient id fun client =>
          { client with authState := authState.updateState md5 response }) := fun _ => .silent rfl
      exact (advanced _).trans (emits_sendTo _ (.replied _ (.challenged _)))

theorem emits_handleHandoff (s : Server F) (packet : Bytes) :
    Emits (Outgoing s id packet) s (s.handleHandoff id packet) := by
  unfold handleHandoff
  split
  · exact .silent rfl
  · exact s.emits_relayDirect packet _

theorem emits_handleFileFlightplan (s : Server F) {packet : Bytes}
    (typed : getPacketType packet = .flightPlan) :
    Emits (Outgoing s id packet) s (s.handleFileFlightplan id packet) := by
  have stored : Emits (Outgoing s id packet) s (s.modifyClient id fun client =>
      { client with flightPlan := extractFlightplanInfoSection packet }) := .silent rfl
  unfold handleFileFlightplan
  exact stored.trans (emits_broadcastAllWhere _ id _ fun recipient => .filed recipient typed)

theorem emits_handleAmendFlightplan (s : Server F) {packet : Bytes}
    (typed : getPacketType packet = .flightPlanAmendment) :
    Emits (Outgoing s id packet) s (s.handleAmendFlightplan id packet) := by
  unfold handleAmendFlightplan
  split
  · exact .silent rfl
  · dsimp only
    cases s.find (getField packet 2) with
    | none => exact s.emits_sendTo (.replied _ (.missing 2))
    | some target =>
        have stored : Emits (Outgoing s id packet) s (s.modifyClient target fun client =>
            { client with flightPlan := extractFlightplanInfoSection packet }) := .silent rfl
        exact stored.trans (emits_broadcastAllWhere _ id _ fun recipient => .amended recipient typed)

variable [GoFloat F]

theorem emits_relayRanged (s : Server F) (packet : Bytes) (accepts : Client F -> Bool) :
    Emits (Outgoing s id packet) s (s.broadcastRangedWhere id accepts packet) :=
  s.emits_broadcastRangedWhere id accepts fun recipient => .relayed recipient

theorem emits_handleTextMessage (s : Server F) (packet : Bytes) :
    Emits (Outgoing s id packet) s (s.handleTextMessage id packet) := by
  unfold handleTextMessage
  dsimp only
  split
  · split
    · exact .silent rfl
    · exact s.emits_relayRanged packet _
  · split
    · exact s.emits_relayRanged packet _
    · split
      · exact s.emits_relayAll packet _
      · split
        · split
          · exact .silent rfl
          · exact s.emits_relayAll packet _
        · split
          · exact .silent rfl
          · split
            · exact .silent rfl
            · exact s.emits_relayDirect packet _

theorem emits_atcPositionUpdate {actual : Server F} (s : Server F) (now : Time) (packet : Bytes) :
    Emits (Outgoing actual id packet) s (s.atcPositionUpdate now id packet) := by
  unfold atcPositionUpdate
  cases (parseLatLon packet 5 6 : Option (F × F)) with
  | none => exact s.emits_sendTo (.replied _ (.error _ _ (by simp [errorTexts])))
  | some center =>
      cases (parseVisRange packet 3 : Option F) with
      | none => exact s.emits_sendTo (.replied _ (.error _ _ (by simp [errorTexts])))
      | some visRange =>
          have moved : Emits (Outgoing actual id packet) s (s.updatePosition id center visRange) :=
            s.emits_updatePosition id center visRange
          have relayed := moved.trans
            (emits_broadcastRangedWhere _ id (fun _ => true) fun recipient => .relayed recipient)
          exact relayed.trans (.silent rfl)

theorem emits_handleATCPosition (s : Server F) (now : Time) (packet : Bytes) :
    Emits (Outgoing s id packet) s (s.handleATCPosition now id packet) := by
  unfold handleATCPosition
  dsimp only
  split
  · exact s.emits_error packet _ (by simp [errorTexts])
  · split
    · exact (s.emits_error packet _ (by simp [errorTexts])).trans
        (emits_cancelCtx _ (.cancelled id (Or.inl rfl)))
    · have stored : Emits (Outgoing s id packet) s (s.modifyClient id fun client =>
          { client with facilityType := (parseInt (getField packet 2) 10 32).value }) := .silent rfl
      exact stored.trans (emits_atcPositionUpdate _ now packet)

theorem emits_updateSendFast {actual : Server F} (s : Server F) (packet : Bytes)
    (named : (s.clients id).callsign = (actual.clients id).callsign) :
    Emits (Outgoing actual id packet) s (s.updateSendFast id) := by
  rcases s.updateSendFast_cases id with kept | ⟨enabled, switched, _⟩
  · rw [kept]
    exact .silent rfl
  · have stored : Emits (Outgoing actual id packet) s (s.modifyClient id fun client =>
        { client with sendFastEnabled := enabled }) := .silent rfl
    rw [switched, switchSendFast, named]
    exact stored.trans (emits_sendTo _ (.replied _ (.sendFast enabled)))

theorem emits_handlePilotPosition (s : Server F) (md5 : Bytes -> List.Vector UInt8 16) (now : Time)
    {packet : Bytes}
    (typed : getPacketType packet = .pilotPosition) :
    Emits (Outgoing s id packet) s (s.handlePilotPosition now id packet) := by
  unfold handlePilotPosition
  cases (parseLatLon packet 4 5 : Option (F × F)) with
  | none => exact s.emits_error packet _ (by simp [errorTexts])
  | some center =>
      have held : (s.clients id).Holds (requiredPrivilege packet) :=
        holds_of_untabled typed (by decide)
      have acts : Acts md5 (s.clients id) id s
          (((s.updatePosition id center pilotVisRange).broadcastRanged id packet).storePilotFields
            now id packet) :=
        ((s.acts_updatePosition center pilotVisRange).trans
          (acts_broadcastRangedWhere _ (fun _ => true) held)).trans
            (acts_storePilotFields _ now packet)
      have moved : Emits (Outgoing s id packet) s (s.updatePosition id center pilotVisRange) :=
        s.emits_updatePosition id center pilotVisRange
      have relayed := moved.trans
        (emits_broadcastRangedWhere _ id (fun _ => true) fun recipient => .relayed recipient)
      have stored : Emits (Outgoing s id packet) s
          (((s.updatePosition id center pilotVisRange).broadcastRanged id packet).storePilotFields
            now id packet) := relayed.trans (.silent rfl)
      exact stored.trans (emits_updateSendFast _ packet
        (congrArg LoginData.callsign (acts.loginData id)))

theorem emits_handleProcontroller (s : Server F) (packet : Bytes) :
    Emits (Outgoing s id packet) s (s.handleProcontroller id packet) := by
  unfold handleProcontroller
  dsimp only
  split
  · exact .silent rfl
  · split
    · exact s.emits_error packet _ (by simp [errorTexts])
    · split
      · exact s.emits_relayDirect packet _
      · split
        · split
          · exact s.emits_error packet _ (by simp [errorTexts])
          · split
            · exact s.emits_relayRanged packet _
            · exact s.emits_relayDirect packet _
        · exact .silent rfl

theorem emits_forwardClientQuery (s : Server F) (packet : Bytes) :
    Emits (Outgoing s id packet) s (s.forwardClientQuery id packet) := by
  unfold forwardClientQuery
  dsimp only
  split
  · exact s.emits_error packet _ (by simp [errorTexts])
  · split
    · exact s.emits_relayRanged packet _
    · split
      · exact s.emits_relayRanged packet _
      · exact s.emits_relayDirect packet _

theorem emits_handleInfQuery (s : Server F) (packet recipient : Bytes) :
    Emits (Outgoing s id packet) s (s.handleInfQuery id packet recipient) := by
  unfold handleInfQuery
  split
  · exact s.emits_relayDirect packet _
  · split
    · exact s.emits_error packet _ (by simp [errorTexts])
    · exact s.emits_forwardClientQuery packet

theorem emits_handleClientQuery (s : Server F) (packet : Bytes) :
    Emits (Outgoing s id packet) s (s.handleClientQuery id packet) := by
  unfold handleClientQuery
  dsimp only
  split
  · exact s.emits_handleServerQuery packet _
  · split
    · split
      · exact s.emits_error packet _ (by simp [errorTexts])
      · exact s.emits_forwardClientQuery packet
    · split
      · split
        · exact s.emits_error packet _ (by simp [errorTexts])
        · exact s.emits_forwardClientQuery packet
      · split
        · exact s.emits_forwardClientQuery packet
        · split
          · exact s.emits_handleInfQuery packet _
          · exact .silent rfl

/-! ## One turn of the event loop -/

theorem emits_runHandler (s : Server F) (now : Time) {packet : Bytes} {packetType : PacketType}
    (typed : getPacketType packet = packetType) :
    Emits (Outgoing s id packet) s (s.runHandler md5 now packetType id packet) := by
  cases packetType with
  | unknown => exact .silent rfl
  | textMessage => exact s.emits_handleTextMessage packet
  | pilotPosition => exact s.emits_handlePilotPosition md5 now typed
  | pilotPositionFast => exact s.emits_relayRanged packet _
  | pilotPositionSlow => exact s.emits_relayRanged packet _
  | pilotPositionStopped => exact s.emits_relayRanged packet _
  | atcPosition => exact s.emits_handleATCPosition now packet
  | deleteATC => exact s.emits_handleDelete packet
  | deletePilot => exact s.emits_handleDelete packet
  | clientQuery => exact s.emits_handleClientQuery packet
  | clientQueryResponse => exact s.emits_handleClientQuery packet
  | proController => exact s.emits_handleProcontroller packet
  | squawkbox => exact s.emits_relayDirect packet _
  | metarRequest => exact s.emits_handleMetarRequest packet
  | killRequest => exact s.emits_handleKillRequest packet
  | authChallenge => exact s.emits_handleAuthChallenge packet
  | handoffRequest => exact s.emits_handleHandoff packet
  | handoffAccept => exact s.emits_handleHandoff packet
  | flightPlan => exact s.emits_handleFileFlightplan typed
  | flightPlanAmendment => exact s.emits_handleAmendFlightplan typed

theorem exists_errorText_of_refused {packet callsign : Bytes} {code : Int} {message : Bytes}
    (refused : verifyPacket packet callsign = .refused code message) :
    Exists fun text => text ∈ errorTexts ∧ message = bytes text := by
  unfold verifyPacket at refused
  simp only at refused
  split_ifs at refused with short unknown source fields
  · cases refused
    exact ⟨_, by simp [errorTexts], rfl⟩
  · cases refused
    exact ⟨_, by simp [errorTexts], rfl⟩
  · cases refused
    exact ⟨_, by simp [errorTexts], rfl⟩
  · cases refused
    exact ⟨_, by simp [errorTexts], rfl⟩

/-- Whatever a client sends, the list of what goes out is complete. -/
theorem emits_processPacket (s : Server F) (md5 : Bytes -> List.Vector UInt8 16) (now : Time)
    (id : SessionId) (packet : Bytes) :
    Emits (Outgoing s id packet) s (s.processPacket md5 now id packet) := by
  unfold processPacket
  cases verified : verifyPacket packet (s.clients id).callsign with
  | refused code message =>
      rcases exists_errorText_of_refused verified with ⟨text, worded, same⟩
      rw [same]
      exact s.emits_error packet code worded
  | accepted packetType => exact s.emits_runHandler now (verifyPacket_accepted verified).1.symm

end Server
end Fsd
end OpenFsd
