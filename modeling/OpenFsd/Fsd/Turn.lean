import OpenFsd.Fsd.Authority

namespace OpenFsd
namespace Fsd

/-!
# Every handler keeps to the table of privileges

One lemma for each handler of `handler.go`.  The actor is always the client
as it was before the packet.  A handler that
guards a forwarding step proves the privilege of the packet it forwards, and
a handler that makes a packet of its own proves the privilege of that packet.
-/

/-! ## Packets that the handlers make -/

theorem getPacketType_dollar (first second : UInt8) (rest : Bytes) :
    getPacketType (36 :: first :: second :: rest) = dollarPacketType [36, first, second] := by
  unfold getPacketType
  simp only [List.take_succ_cons, List.take_zero]
  rfl

theorem getPacketType_hash (first second : UInt8) (rest : Bytes) :
    getPacketType (35 :: first :: second :: rest) = hashPacketType [35, first, second] := by
  unfold getPacketType
  simp only [List.take_succ_cons, List.take_zero]
  rfl

/-- A filed flight plan may be sent by anybody. -/
theorem requiredPrivilege_fileFlightplan (source recipient fplInfo : Bytes) :
    requiredPrivilege (buildFileFlightplanPacket source recipient fplInfo) = .none := by
  have typed : getPacketType (buildFileFlightplanPacket source recipient fplInfo) = .flightPlan :=
    (getPacketType_dollar _ _ _).trans (by decide)
  unfold requiredPrivilege
  rw [typed]

/-- An amended flight plan needs an active ATC client. -/
theorem requiredPrivilege_amendFlightplan (source recipient targetCallsign fplInfo : Bytes) :
    requiredPrivilege (buildAmendFlightplanPacket source recipient targetCallsign fplInfo) =
      .activeAtc := by
  have typed : getPacketType (buildAmendFlightplanPacket source recipient targetCallsign fplInfo) =
      .flightPlanAmendment :=
    (getPacketType_dollar _ _ _).trans (by decide)
  unfold requiredPrivilege
  rw [typed]

/-- The packet types that the table does not mention. -/
def untabledTypes : List PacketType :=
  [.unknown, .pilotPosition, .pilotPositionFast, .pilotPositionSlow, .pilotPositionStopped,
   .atcPosition, .deleteATC, .deletePilot, .squawkbox]

theorem requiredPrivilege_of_untabled {packet : Bytes} {packetType : PacketType}
    (typed : getPacketType packet = packetType) (untabled : packetType ∈ untabledTypes) :
    requiredPrivilege packet = .none := by
  unfold requiredPrivilege
  rw [typed]
  cases packetType <;> first
    | rfl
    | exact absurd untabled (by decide)

namespace Server

variable {F : Type} {md5 : Bytes -> List.Vector UInt8 16} {id : SessionId}

/-! ## Handlers that do not search the spatial index -/

theorem holds_of_untabled {actor : Client F} {packet : Bytes} {packetType : PacketType}
    (typed : getPacketType packet = packetType) (untabled : packetType ∈ untabledTypes) :
    actor.Holds (requiredPrivilege packet) := by
  rw [requiredPrivilege_of_untabled typed untabled]
  exact True.intro

theorem acts_handleDelete (s : Server F) {packet : Bytes} {packetType : PacketType}
    (typed : getPacketType packet = packetType)
    (delete : packetType ∈ [.deletePilot, .deleteATC]) :
    Acts md5 (s.clients id) id s (s.handleDelete id packet) := by
  have held : (s.clients id).Holds (requiredPrivilege packet) := by
    refine holds_of_untabled typed ?_
    revert delete
    cases packetType <;> decide
  exact (s.acts_broadcastAllWhere (fun _ => true) held).trans (acts_cancelCtx _ (Or.inl rfl))

theorem acts_handleSquawkbox (s : Server F) {packet : Bytes}
    (typed : getPacketType packet = .squawkbox) :
    Acts md5 (s.clients id) id s (s.handleSquawkbox id packet) :=
  s.acts_sendDirectOrErr _ (holds_of_untabled typed (by decide))

/-- No message type is both unprivileged and privileged. -/
theorem not_privileged_of_unprivileged {pcType : Bytes}
    (unprivileged : pcType ∈ unprivilegedProcontrollerTypes) :
    pcType ∉ privilegedProcontrollerTypes := by
  have disjoint : forall other, other ∈ unprivilegedProcontrollerTypes ->
      other ∉ privilegedProcontrollerTypes := by decide
  exact disjoint pcType unprivileged

/-- A query to the server is answered to its sender, with two packets at most. -/
theorem handleServerQuery_cases (s : Server F) (id : SessionId) (packet queryType : Bytes) :
    s.handleServerQuery id packet queryType = s ∨
      (Exists fun reply => s.handleServerQuery id packet queryType = s.sendTo id reply) ∨
      Exists fun plan => Exists fun beaconCode =>
        s.handleServerQuery id packet queryType = (s.sendTo id plan).sendTo id beaconCode := by
  unfold handleServerQuery
  split
  · unfold handleClientQueryATCRequest
    dsimp only
    split
    · exact Or.inr (Or.inl ⟨_, rfl⟩)
    · cases s.find (getField packet 3) with
      | none => exact Or.inr (Or.inl ⟨_, rfl⟩)
      | some target => exact Or.inr (Or.inl ⟨_, rfl⟩)
  · split
    · exact Or.inr (Or.inl ⟨_, rfl⟩)
    · split
      · unfold handleClientQueryFlightplanRequest
        dsimp only
        split
        · exact Or.inl rfl
        · split
          · exact Or.inr (Or.inl ⟨_, rfl⟩)
          · cases s.find (getField packet 3) with
            | none => exact Or.inr (Or.inl ⟨_, rfl⟩)
            | some target =>
                dsimp only
                split
                · exact Or.inl rfl
                · exact Or.inr (Or.inr ⟨_, _, rfl⟩)
      · exact Or.inl rfl

theorem acts_handleServerQuery (s : Server F) {actor : Client F} (packet queryType : Bytes) :
    Acts md5 actor id s (s.handleServerQuery id packet queryType) := by
  rcases s.handleServerQuery_cases id packet queryType with
    silent | ⟨reply, sent⟩ | ⟨plan, beaconCode, sent⟩
  · rw [silent]
    exact Acts.refl s
  · rw [sent]
    exact s.acts_sendSelf reply
  · rw [sent]
    exact (s.acts_sendSelf plan).trans (acts_sendSelf _ beaconCode)

/-- The query types that need no privilege are on neither list of ATC queries. -/
theorem queryPrivilege_configuration {queryType : Bytes} (packetType : PacketType)
    (configuration : queryType ∈ configurationQueries) :
    queryPrivilege packetType queryType = .none := by
  have free : forall other, other ∈ configurationQueries ->
      other ∉ unprivilegedAtcQueries ∧ other ∉ privilegedAtcQueries ∧ other ≠ bytes "INF" := by
    decide
  rcases free queryType configuration with ⟨noUnprivileged, noPrivileged, noInf⟩
  rw [queryPrivilege, if_neg noUnprivileged, if_neg noPrivileged, if_neg (fun both => noInf both.2)]

theorem queryPrivilege_information (packetType : PacketType) :
    queryPrivilege packetType (bytes "INF") =
      if packetType = .clientQuery then .supervisor else .none := by
  have noUnprivileged : bytes "INF" ∉ unprivilegedAtcQueries := by decide
  have noPrivileged : bytes "INF" ∉ privilegedAtcQueries := by decide
  rw [queryPrivilege, if_neg noUnprivileged, if_neg noPrivileged]
  cases packetType <;> rfl

theorem acts_handleMetarRequest (s : Server F) {actor : Client F} (packet : Bytes) :
    Acts md5 actor id s (s.handleMetarRequest id packet) := by
  unfold handleMetarRequest
  dsimp only
  split
  · exact Acts.refl s
  · refine s.acts_events ?_
    intro event member
    rw [List.mem_singleton.mp member]
    exact rfl

theorem acts_handleKillRequest (s : Server F) (packet : Bytes) :
    Acts md5 (s.clients id) id s (s.handleKillRequest id packet) := by
  unfold handleKillRequest
  by_cases low : (s.clients id).networkRating < NetworkRatingSupervisor
  · rw [if_pos low]
    exact Acts.refl s
  rw [if_neg low]
  cases s.find (getField packet 1) with
  | none => exact s.acts_sendError _ _
  | some victim => exact s.acts_cancelCtx (Or.inr (Int.not_lt.mp low))

theorem acts_handleAuthChallenge (s : Server F) {actor : Client F} (packet : Bytes) :
    Acts md5 actor id s (s.handleAuthChallenge md5 id packet) := by
  unfold handleAuthChallenge challengedState
  split
  · exact s.acts_sendError _ _
  · next authState found =>
      split at found
      · cases found
      · have same : (s.clients id).authState = authState := Option.some.inj found
        have advanced : forall response, Acts md5 actor id s (s.modifyClient id fun client =>
            { client with authState := authState.updateState md5 response }) := by
          intro response
          refine s.acts_modifyClient ⟨rfl, ?_, Or.inl rfl⟩ (fun different => absurd rfl different)
          intro clientId challenge initialized
          rw [same] at initialized
          exact initialized.updateState response
        exact (advanced _).trans (acts_sendSelf _ _)

theorem acts_handleHandoff (s : Server F) {packet : Bytes} {packetType : PacketType}
    (typed : getPacketType packet = packetType)
    (handoff : packetType = .handoffRequest ∨ packetType = .handoffAccept) :
    Acts md5 (s.clients id) id s (s.handleHandoff id packet) := by
  have required : requiredPrivilege packet = .activeAtc := by
    unfold requiredPrivilege
    rw [typed]
    rcases handoff with request | accept
    · rw [request]
    · rw [accept]
  unfold handleHandoff
  split
  · exact Acts.refl s
  · next active =>
      refine s.acts_sendDirectOrErr _ ?_
      rw [required]
      simp only [Bool.or_eq_true, Bool.not_eq_true', decide_eq_true_eq, not_or, Bool.not_eq_false,
        Int.not_le] at active
      have facility := active.2
      exact ⟨active.1, by omega⟩

theorem acts_handleFileFlightplan (s : Server F) {actor : Client F} (packet : Bytes) :
    Acts md5 actor id s (s.handleFileFlightplan id packet) := by
  have stored : Acts md5 actor id s (s.modifyClient id fun client =>
      { client with flightPlan := extractFlightplanInfoSection packet }) :=
    s.acts_modifySelf rfl rfl rfl
  unfold handleFileFlightplan
  refine stored.trans (acts_broadcastAllWhere _ _ ?_)
  rw [requiredPrivilege_fileFlightplan]
  exact True.intro

theorem acts_handleAmendFlightplan (s : Server F) (packet : Bytes) :
    Acts md5 (s.clients id) id s (s.handleAmendFlightplan id packet) := by
  unfold handleAmendFlightplan
  split
  · exact Acts.refl s
  · next active =>
      simp only [Bool.or_eq_true, Bool.not_eq_true', decide_eq_true_eq, not_or, Bool.not_eq_false,
        Int.not_le] at active
      have held : (s.clients id).Holds .activeAtc := active
      dsimp only
      cases s.find (getField packet 2) with
      | none => exact s.acts_sendError _ _
      | some target =>
          have stored : Acts md5 (s.clients id) id s (s.modifyClient target fun client =>
              { client with flightPlan := extractFlightplanInfoSection packet }) :=
            s.acts_modifyClient ⟨rfl, fun _ _ initialized => initialized, Or.inl rfl⟩
              (fun _ => Or.inr held)
          refine stored.trans (acts_broadcastAllWhere _ _ ?_)
          rw [requiredPrivilege_amendFlightplan]
          exact held

/-! ## Handlers that search it -/

/-- The flag of a client changes, and the client is told so. -/
def switchSendFast (s : Server F) (id : SessionId) (enabled : Bool) : Server F :=
  (s.modifyClient id fun client => { client with sendFastEnabled := enabled }).sendTo id
    (sendFastPacket (s.clients id).callsign enabled)

@[simp] theorem switchSendFast_same (s : Server F) (id : SessionId) (enabled : Bool) :
    (s.switchSendFast id enabled).clients id = { s.clients id with sendFastEnabled := enabled } := by
  simp [switchSendFast]

@[simp] theorem switchSendFast_other (s : Server F) {id other : SessionId} (different : other ≠ id)
    (enabled : Bool) : (s.switchSendFast id enabled).clients other = s.clients other := by
  simp [switchSendFast, different]

variable [GoFloat F]

theorem acts_handleTextMessage (s : Server F) {packet : Bytes}
    (typed : getPacketType packet = .textMessage) :
    Acts md5 (s.clients id) id s (s.handleTextMessage id packet) := by
  have required : requiredPrivilege packet = textPrivilege (getField packet 1) := by
    unfold requiredPrivilege
    rw [typed]
  have unprivileged : getField packet 1 ≠ bytes "@49999" -> getField packet 1 ≠ bytes "*" ->
      (s.clients id).Holds (requiredPrivilege packet) := by
    intro noChat noBroadcast
    rw [required, textPrivilege, if_neg noChat, if_neg noBroadcast]
    exact True.intro
  unfold handleTextMessage
  dsimp only
  by_cases chat : getField packet 1 = bytes "@49999"
  · rw [if_pos chat]
    cases isAtc : (s.clients id).isAtc with
    | false => exact Acts.refl s
    | true =>
        refine s.acts_broadcastRangedWhere _ ?_
        rw [required, textPrivilege, if_pos chat]
        exact isAtc
  rw [if_neg chat]
  by_cases frequency : hasPrefix (getField packet 1) (bytes "@") = true
  · rw [if_pos frequency]
    refine s.acts_broadcastRangedWhere _ (unprivileged chat ?_)
    intro star
    rw [star] at frequency
    revert frequency
    decide
  rw [if_neg frequency]
  by_cases wallop : getField packet 1 = bytes "*S"
  · rw [if_pos wallop]
    refine s.acts_broadcastAllWhere _ (unprivileged chat ?_)
    rw [wallop]
    decide
  rw [if_neg wallop]
  by_cases serverWide : getField packet 1 = bytes "*"
  · rw [if_pos serverWide]
    by_cases low : (s.clients id).networkRating < NetworkRatingSupervisor
    · rw [if_pos low]
      exact Acts.refl s
    · rw [if_neg low]
      refine s.acts_broadcastAllWhere _ ?_
      rw [required, textPrivilege, if_neg chat, if_pos serverWide]
      exact Int.not_lt.mp low
  rw [if_neg serverWide]
  split
  · exact Acts.refl s
  · split
    · exact Acts.refl s
    · exact s.acts_sendDirectOrErr _ (unprivileged chat serverWide)

theorem acts_atcPositionUpdate (s : Server F) {actor : Client F} (now : Time) {packet : Bytes}
    (held : actor.Holds (requiredPrivilege packet)) :
    Acts md5 actor id s (s.atcPositionUpdate now id packet) := by
  unfold atcPositionUpdate
  cases (parseLatLon packet 5 6 : Option (F × F)) with
  | none => exact s.acts_sendError _ _
  | some center =>
      cases (parseVisRange packet 3 : Option F) with
      | none => exact s.acts_sendError _ _
      | some visRange =>
          have moved : Acts md5 actor id s (s.updatePosition id center visRange) :=
            s.acts_updatePosition center visRange
          have relayed := moved.trans (acts_broadcastRangedWhere _ (fun _ => true) held)
          exact relayed.trans (acts_modifySelf _ rfl rfl rfl)

theorem acts_handleATCPosition (s : Server F) (now : Time) {packet : Bytes}
    (typed : getPacketType packet = .atcPosition) :
    Acts md5 (s.clients id) id s (s.handleATCPosition now id packet) := by
  have held : (s.clients id).Holds (requiredPrivilege packet) :=
    holds_of_untabled typed (by decide)
  unfold handleATCPosition
  dsimp only
  split
  · exact s.acts_sendError _ _
  · split
    · exact (s.acts_sendError _ _).trans (acts_cancelCtx _ (Or.inl rfl))
    · next allowed =>
        have permitted : isAllowedFacilityType (s.clients id).networkRating
            (parseInt (getField packet 2) 10 32).value = true := by
          simpa only [Bool.not_eq_true', Bool.not_eq_false] using allowed
        have stored : Acts md5 (s.clients id) id s (s.modifyClient id fun client =>
            { client with facilityType := (parseInt (getField packet 2) 10 32).value }) :=
          s.acts_modifyClient ⟨rfl, fun _ _ initialized => initialized, Or.inr permitted⟩
            (fun different => absurd rfl different)
        exact stored.trans (acts_atcPositionUpdate _ now held)

/-- The decision either keeps the flag and says nothing, or it turns the flag
and says so. -/
theorem updateSendFast_cases (s : Server F) (id : SessionId) :
    s.updateSendFast id = s ∨
      Exists fun enabled => s.updateSendFast id = s.switchSendFast id enabled ∧
        (s.clients id).protoRevision = 101 ∧ (s.clients id).sendFastEnabled = !enabled := by
  unfold updateSendFast
  dsimp only
  split
  · next revision =>
      split
      · next enabled =>
          split
          · exact Or.inr ⟨false, rfl, revision, enabled⟩
          · exact Or.inl rfl
      · next disabled =>
          split
          · exact Or.inr ⟨true, rfl, revision, by simpa using disabled⟩
          · exact Or.inl rfl
  · exact Or.inl rfl

theorem acts_updateSendFast (s : Server F) {actor : Client F} :
    Acts md5 actor id s (s.updateSendFast id) := by
  rcases s.updateSendFast_cases id with kept | ⟨enabled, switched, _⟩
  · rw [kept]
    exact Acts.refl s
  · rw [switched]
    exact (s.acts_modifySelf rfl rfl rfl).trans (acts_sendSelf _ _)

theorem acts_storePilotFields (s : Server F) {actor : Client F} (now : Time) (packet : Bytes) :
    Acts md5 actor id s (s.storePilotFields now id packet) := by
  unfold storePilotFields
  exact s.acts_modifySelf rfl rfl rfl

theorem acts_handlePilotPosition (s : Server F) (now : Time) {packet : Bytes}
    (typed : getPacketType packet = .pilotPosition) :
    Acts md5 (s.clients id) id s (s.handlePilotPosition now id packet) := by
  have held : (s.clients id).Holds (requiredPrivilege packet) :=
    holds_of_untabled typed (by decide)
  unfold handlePilotPosition
  cases (parseLatLon packet 4 5 : Option (F × F)) with
  | none => exact s.acts_sendError _ _
  | some center =>
      have moved : Acts md5 (s.clients id) id s (s.updatePosition id center pilotVisRange) :=
        s.acts_updatePosition center pilotVisRange
      have relayed := moved.trans (acts_broadcastRangedWhere _ (fun _ => true) held)
      have stored := relayed.trans (acts_storePilotFields _ now packet)
      exact stored.trans (acts_updateSendFast _)

theorem acts_handleFastPilotPosition (s : Server F) {packet : Bytes} {packetType : PacketType}
    (typed : getPacketType packet = packetType)
    (fast : packetType ∈ [.pilotPositionFast, .pilotPositionSlow, .pilotPositionStopped]) :
    Acts md5 (s.clients id) id s (s.handleFastPilotPosition id packet) := by
  refine s.acts_broadcastRangedWhere _ (holds_of_untabled typed ?_)
  revert fast
  cases packetType <;> decide

theorem acts_handleProcontroller (s : Server F) {packet : Bytes}
    (typed : getPacketType packet = .proController) :
    Acts md5 (s.clients id) id s (s.handleProcontroller id packet) := by
  have required : requiredPrivilege packet =
      if getField packet 3 ∈ privilegedProcontrollerTypes then .activeAtc else .atc := by
    unfold requiredPrivilege
    rw [typed]
  unfold handleProcontroller
  dsimp only
  cases isAtc : (s.clients id).isAtc with
  | false => exact Acts.refl s
  | true =>
      rw [if_neg (by decide)]
      split
      · exact s.acts_sendError _ _
      by_cases unprivileged : getField packet 3 ∈ unprivilegedProcontrollerTypes
      · rw [if_pos unprivileged]
        refine s.acts_sendDirectOrErr _ ?_
        rw [required, if_neg (not_privileged_of_unprivileged unprivileged)]
        exact isAtc
      rw [if_neg unprivileged]
      by_cases privileged : getField packet 3 ∈ privilegedProcontrollerTypes
      · rw [if_pos privileged]
        by_cases inactive : (s.clients id).facilityType ≤ 0
        · rw [if_pos inactive]
          exact s.acts_sendError _ _
        rw [if_neg inactive]
        have held : (s.clients id).Holds (requiredPrivilege packet) := by
          rw [required, if_pos privileged]
          exact ⟨isAtc, Int.not_le.mp inactive⟩
        split
        · exact s.acts_broadcastRangedWhere _ held
        · exact s.acts_sendDirectOrErr _ held
      rw [if_neg privileged]
      exact Acts.refl s

theorem acts_forwardClientQuery (s : Server F) {actor : Client F} {packet : Bytes}
    (held : actor.Holds (requiredPrivilege packet)) :
    Acts md5 actor id s (s.forwardClientQuery id packet) := by
  unfold forwardClientQuery
  dsimp only
  split
  · exact s.acts_sendError _ _
  · split
    · exact s.acts_broadcastRangedWhere _ held
    · split
      · exact s.acts_broadcastRangedWhere _ held
      · exact s.acts_sendDirectOrErr _ held

theorem acts_handleInfQuery (s : Server F) {packet recipient : Bytes} {packetType : PacketType}
    (typed : getPacketType packet = packetType)
    (required : requiredPrivilege packet =
      if packetType = .clientQuery then .supervisor else .none)
    (query : packetType = .clientQuery ∨ packetType = .clientQueryResponse) :
    Acts md5 (s.clients id) id s (s.handleInfQuery id packet recipient) := by
  unfold handleInfQuery
  rcases query with request | response
  · rw [typed, request, if_neg (by decide)]
    by_cases low : (s.clients id).networkRating < NetworkRatingSupervisor
    · rw [if_pos low]
      exact s.acts_sendError _ _
    · rw [if_neg low]
      refine s.acts_forwardClientQuery ?_
      rw [required, if_pos request]
      exact Int.not_lt.mp low
  · rw [typed, response, if_pos rfl]
    refine s.acts_sendDirectOrErr _ ?_
    rw [required, response, if_neg (by decide)]
    exact True.intro

theorem acts_handleClientQuery (s : Server F) {packet : Bytes} {packetType : PacketType}
    (typed : getPacketType packet = packetType)
    (query : packetType = .clientQuery ∨ packetType = .clientQueryResponse) :
    Acts md5 (s.clients id) id s (s.handleClientQuery id packet) := by
  have required : requiredPrivilege packet = queryPrivilege packetType (getField packet 2) := by
    unfold requiredPrivilege
    rw [typed]
    rcases query with request | response
    · rw [request]
    · rw [response]
  unfold handleClientQuery
  dsimp only
  split
  · exact s.acts_handleServerQuery _ _
  by_cases unprivileged : getField packet 2 ∈ unprivilegedAtcQueries
  · rw [if_pos unprivileged]
    cases isAtc : (s.clients id).isAtc with
    | false =>
        rw [if_pos Bool.not_false]
        exact s.acts_sendError _ _
    | true =>
        rw [if_neg (by decide)]
        refine s.acts_forwardClientQuery ?_
        rw [required, queryPrivilege, if_pos unprivileged]
        exact isAtc
  rw [if_neg unprivileged]
  by_cases privileged : getField packet 2 ∈ privilegedAtcQueries
  · rw [if_pos privileged]
    split
    · exact s.acts_sendError _ _
    · next active =>
        refine s.acts_forwardClientQuery ?_
        rw [required, queryPrivilege, if_neg unprivileged, if_pos privileged]
        simp only [Bool.or_eq_true, Bool.not_eq_true', decide_eq_true_eq, not_or,
          Bool.not_eq_false, Int.not_le] at active
        exact active
  rw [if_neg privileged]
  by_cases configuration : getField packet 2 ∈ configurationQueries
  · rw [if_pos configuration]
    refine s.acts_forwardClientQuery ?_
    rw [required, queryPrivilege_configuration packetType configuration]
    exact True.intro
  rw [if_neg configuration]
  by_cases information : getField packet 2 = bytes "INF"
  · rw [if_pos information]
    refine s.acts_handleInfQuery typed ?_ query
    rw [required, information, queryPrivilege_information]
  rw [if_neg information]
  exact Acts.refl s

/-! ## One turn of the event loop -/

theorem acts_runHandler (s : Server F) (now : Time) {packet : Bytes} {packetType : PacketType}
    (typed : getPacketType packet = packetType) :
    Acts md5 (s.clients id) id s (s.runHandler md5 now packetType id packet) := by
  cases packetType with
  | unknown => exact Acts.refl s
  | textMessage => exact s.acts_handleTextMessage typed
  | pilotPosition => exact s.acts_handlePilotPosition now typed
  | pilotPositionFast => exact s.acts_handleFastPilotPosition typed (by decide)
  | pilotPositionSlow => exact s.acts_handleFastPilotPosition typed (by decide)
  | pilotPositionStopped => exact s.acts_handleFastPilotPosition typed (by decide)
  | atcPosition => exact s.acts_handleATCPosition now typed
  | deleteATC => exact s.acts_handleDelete typed (by decide)
  | deletePilot => exact s.acts_handleDelete typed (by decide)
  | clientQuery => exact s.acts_handleClientQuery typed (Or.inl rfl)
  | clientQueryResponse => exact s.acts_handleClientQuery typed (Or.inr rfl)
  | proController => exact s.acts_handleProcontroller typed
  | squawkbox => exact s.acts_handleSquawkbox typed
  | metarRequest => exact s.acts_handleMetarRequest packet
  | killRequest => exact s.acts_handleKillRequest packet
  | authChallenge => exact s.acts_handleAuthChallenge packet
  | handoffRequest => exact s.acts_handleHandoff typed (Or.inl rfl)
  | handoffAccept => exact s.acts_handleHandoff typed (Or.inr rfl)
  | flightPlan => exact s.acts_handleFileFlightplan packet
  | flightPlanAmendment => exact s.acts_handleAmendFlightplan packet

/-- Whatever a client sends, the turn keeps to the table. -/
theorem acts_processPacket (s : Server F) (now : Time) (packet : Bytes) :
    Acts md5 (s.clients id) id s (s.processPacket md5 now id packet) := by
  unfold processPacket
  cases verified : verifyPacket packet (s.clients id).callsign with
  | refused code message => exact s.acts_sendError code message
  | accepted packetType => exact s.acts_runHandler now (verifyPacket_accepted verified).1.symm

end Server
end Fsd
end OpenFsd
