import OpenFsd.Fsd.Outgoing

namespace OpenFsd
namespace Fsd

/-!
# What one packet makes the server store

The counterpart of `Outgoing` for the client records.  `Altered` lists every
write that the handlers make: which client it changes, which fields, and what
the packet must be for it.  A turn of the event loop alters the record of
each client by a sequence of such writes, possibly by none.

What a later module needs about one field follows by induction on this
relation, without another look at the handlers.
-/

variable {F : Type}

/-- The facility type that an ATC position of the client stores. -/
def storedFacility (client : Client F) (packet : Bytes) : Option Int :=
  if (parseInt (getField packet 2) 10 32).err.isSome then none
  else if isAllowedFacilityType client.networkRating (parseInt (getField packet 2) 10 32).value then
    some (parseInt (getField packet 2) 10 32).value
  else none

/-- The position and range that an ATC position of the client stores. -/
def storedAtcPosition [GoFloat F] (client : Client F) (packet : Bytes) : Option ((F × F) × F) :=
  (storedFacility client packet).bind fun _ =>
    (parseLatLon packet 5 6).bind fun center =>
      (parseVisRange packet 3).map fun visRange => (center, visRange)

/-- The position and range that a pilot position stores. -/
def storedPilotPosition [GoFloat F] (packet : Bytes) : Option ((F × F) × F) :=
  (parseLatLon packet 4 5).map fun center => (center, pilotVisRange)

/-- The position and range that a packet of the client stores. -/
def storedPosition [GoFloat F] (client : Client F) (packet : Bytes) : Option ((F × F) × F) :=
  match getPacketType packet with
  | .atcPosition => storedAtcPosition client packet
  | .pilotPosition => storedPilotPosition packet
  | _ => none

/-- The record of one client before and after some of the writes that a
packet of the client `id` leads to. -/
inductive Altered [GoFloat F] (s : Server F) (id : SessionId) (packet : Bytes) :
    SessionId -> Client F -> Client F -> Prop
  | same (other : SessionId) (client : Client F) : Altered s id packet other client client
  | andThen {other : SessionId} {client middle next : Client F}
      (first : Altered s id packet other client middle)
      (second : Altered s id packet other middle next) : Altered s id packet other client next
  | cancelled (other : SessionId) (client : Client F) :
      Altered s id packet other client { client with cancelled := true }
  | searched (client : Client F) (dist : F) :
      Altered s id packet id client { client with closestVelocityClientDistance := dist }
  | moved (client : Client F) (center : F × F) (visRange : F)
      (stored : storedPosition (s.clients id) packet = some (center, visRange)) :
      Altered s id packet id client { client with coords := center, visRange := visRange }
  | placed (client : Client F) (facilityType : Int)
      (typed : getPacketType packet = .atcPosition)
      (stored : storedFacility (s.clients id) packet = some facilityType) :
      Altered s id packet id client { client with facilityType := facilityType }
  | updated (client : Client F) (now : Time) :
      Altered s id packet id client { client with lastUpdated := now }
  | reported (client : Client F) (groundspeed altitude heading : Int) :
      Altered s id packet id client { client with
        transponder := getField packet 2
        groundspeed := groundspeed
        altitude := altitude
        heading := heading }
  | switched (client : Client F) (enabled : Bool) :
      Altered s id packet id client { client with sendFastEnabled := enabled }
  | challenged (client : Client F) (authState : VatsimAuthState) :
      Altered s id packet id client { client with authState := authState }
  | filed (client : Client F) (typed : getPacketType packet = .flightPlan) :
      Altered s id packet id client
        { client with flightPlan := extractFlightplanInfoSection packet }
  | amended (target : SessionId) (client : Client F)
      (typed : getPacketType packet = .flightPlanAmendment)
      (active : (s.clients id).IsActiveAtc)
      (found : s.find (getField packet 2) = some target) :
      Altered s id packet target client
        { client with flightPlan := extractFlightplanInfoSection packet }

namespace Server

variable [GoFloat F] {md5 : Bytes -> List.Vector UInt8 16} {actual : Server F} {id : SessionId}
  {packet : Bytes}

/-- Every client's record is altered by writes that the packet leads to. -/
def Alters (actual : Server F) (id : SessionId) (packet : Bytes) (s next : Server F) : Prop :=
  forall other, Altered actual id packet other (s.clients other) (next.clients other)

theorem Alters.silent {s next : Server F} (same : next.clients = s.clients) :
    Alters actual id packet s next := by
  intro other
  rw [same]
  exact .same other _

theorem Alters.trans {s middle next : Server F} (left : Alters actual id packet s middle)
    (right : Alters actual id packet middle next) : Alters actual id packet s next :=
  fun other => .andThen (left other) (right other)

theorem alters_modifyClient (s : Server F) {target : SessionId} {change : Client F -> Client F}
    (altered : Altered actual id packet target (s.clients target) (change (s.clients target))) :
    Alters actual id packet s (s.modifyClient target change) := by
  intro other
  by_cases own : other = target
  · rw [own, modifyClient_same]
    exact altered
  · rw [modifyClient_other _ _ own]
    exact .same other _

theorem alters_cancelCtx (s : Server F) (victim : SessionId) :
    Alters actual id packet s (s.cancelCtx victim) := by
  have cancelled : Alters actual id packet s (s.modifyClient victim fun client =>
      { client with cancelled := true }) := alters_modifyClient s (.cancelled victim _)
  exact cancelled

theorem alters_broadcastRangedWhere (s : Server F) (accepts : Client F -> Bool) (sent : Bytes) :
    Alters actual id packet s (s.broadcastRangedWhere id accepts sent) := by
  rcases s.broadcastRangedWhere_eq id accepts sent with ⟨dist, same⟩
  have searched : Alters actual id packet s (s.setClosest id dist) :=
    alters_modifyClient s (.searched _ dist)
  rw [same]
  exact searched

theorem alters_broadcastAllWhere (s : Server F) (accepts : Client F -> Bool) (sent : Bytes) :
    Alters actual id packet s (s.broadcastAllWhere id accepts sent) :=
  .silent rfl

theorem alters_sendDirectOrErr (s : Server F) (recipient sent : Bytes) :
    Alters actual id packet s (s.sendDirectOrErr id recipient sent) := by
  cases found : s.find recipient with
  | none =>
      unfold sendDirectOrErr
      rw [found]
      exact .silent rfl
  | some target =>
      rw [sendDirectOrErr_of_find found]
      exact .silent rfl

theorem alters_updatePosition (s : Server F) {center : F × F} {visRange : F}
    (stored : storedPosition (actual.clients id) packet = some (center, visRange)) :
    Alters actual id packet s (s.updatePosition id center visRange) := by
  have moved : Alters actual id packet s (s.storePosition id center visRange) :=
    alters_modifyClient s (.moved _ center visRange stored)
  unfold updatePosition
  dsimp only
  split
  · exact moved
  · exact moved.trans (.silent rfl)

/-! ## The handlers -/

theorem alters_handleDelete (s : Server F) :
    Alters actual id packet s (s.handleDelete id packet) :=
  (alters_broadcastAllWhere s _ packet).trans (alters_cancelCtx _ id)

theorem alters_handleTextMessage (s : Server F) :
    Alters actual id packet s (s.handleTextMessage id packet) := by
  unfold handleTextMessage
  dsimp only
  split
  · split
    · exact .silent rfl
    · exact alters_broadcastRangedWhere s _ packet
  · split
    · exact alters_broadcastRangedWhere s _ packet
    · split
      · exact alters_broadcastAllWhere s _ packet
      · split
        · split
          · exact .silent rfl
          · exact alters_broadcastAllWhere s _ packet
        · split
          · exact .silent rfl
          · split
            · exact .silent rfl
            · exact alters_sendDirectOrErr s _ packet

theorem alters_handleProcontroller (s : Server F) :
    Alters actual id packet s (s.handleProcontroller id packet) := by
  unfold handleProcontroller
  dsimp only
  split
  · exact .silent rfl
  · split
    · exact .silent rfl
    · split
      · exact alters_sendDirectOrErr s _ packet
      · split
        · split
          · exact .silent rfl
          · split
            · exact alters_broadcastRangedWhere s _ packet
            · exact alters_sendDirectOrErr s _ packet
        · exact .silent rfl

theorem alters_forwardClientQuery (s : Server F) :
    Alters actual id packet s (s.forwardClientQuery id packet) := by
  unfold forwardClientQuery
  dsimp only
  split
  · exact .silent rfl
  · split
    · exact alters_broadcastRangedWhere s _ packet
    · split
      · exact alters_broadcastRangedWhere s _ packet
      · exact alters_sendDirectOrErr s _ packet

omit [GoFloat F] in
/-- The queries to the server change no record. -/
theorem clients_handleServerQuery (s : Server F) (queryType : Bytes) :
    (s.handleServerQuery id packet queryType).clients = s.clients := by
  rcases s.handleServerQuery_cases id packet queryType with
    silent | ⟨reply, sent⟩ | ⟨plan, beaconCode, sent⟩
  · rw [silent]
  · rw [sent, sendTo_clients]
  · rw [sent, sendTo_clients, sendTo_clients]

theorem alters_handleInfQuery (s : Server F) (recipient : Bytes) :
    Alters actual id packet s (s.handleInfQuery id packet recipient) := by
  unfold handleInfQuery
  split
  · exact alters_sendDirectOrErr s _ packet
  · split
    · exact .silent rfl
    · exact alters_forwardClientQuery s

theorem alters_handleClientQuery (s : Server F) :
    Alters actual id packet s (s.handleClientQuery id packet) := by
  unfold handleClientQuery
  dsimp only
  split
  · exact .silent (s.clients_handleServerQuery _)
  · split
    · split
      · exact .silent rfl
      · exact alters_forwardClientQuery s
    · split
      · split
        · exact .silent rfl
        · exact alters_forwardClientQuery s
      · split
        · exact alters_forwardClientQuery s
        · split
          · exact alters_handleInfQuery s _
          · exact .silent rfl

theorem alters_handleMetarRequest (s : Server F) :
    Alters actual id packet s (s.handleMetarRequest id packet) := by
  unfold handleMetarRequest
  dsimp only
  split <;> exact .silent rfl

theorem alters_handleKillRequest (s : Server F) :
    Alters actual id packet s (s.handleKillRequest id packet) := by
  unfold handleKillRequest
  split
  · exact .silent rfl
  · cases s.find (getField packet 1) with
    | none => exact .silent rfl
    | some victim => exact alters_cancelCtx s victim

theorem alters_handleAuthChallenge (s : Server F) :
    Alters actual id packet s (s.handleAuthChallenge md5 id packet) := by
  unfold handleAuthChallenge
  split
  · exact .silent rfl
  · next authState _ =>
      have advanced : forall response, Alters actual id packet s (s.modifyClient id fun client =>
          { client with authState := authState.updateState md5 response }) :=
        fun response => alters_modifyClient s (.challenged _ _)
      exact advanced _

theorem alters_handleHandoff (s : Server F) :
    Alters actual id packet s (s.handleHandoff id packet) := by
  unfold handleHandoff
  split
  · exact .silent rfl
  · exact alters_sendDirectOrErr s _ packet

theorem alters_handleFileFlightplan (s : Server F) (typed : getPacketType packet = .flightPlan) :
    Alters actual id packet s (s.handleFileFlightplan id packet) := by
  have stored : Alters actual id packet s (s.modifyClient id fun client =>
      { client with flightPlan := extractFlightplanInfoSection packet }) :=
    alters_modifyClient s (.filed _ typed)
  exact stored.trans (alters_broadcastAllWhere _ _ _)

theorem alters_handleAmendFlightplan (s : Server F)
    (typed : getPacketType packet = .flightPlanAmendment) :
    Alters s id packet s (s.handleAmendFlightplan id packet) := by
  unfold handleAmendFlightplan
  split
  · exact .silent rfl
  · next guarded =>
      have active : (s.clients id).IsActiveAtc := by
        simp only [Bool.or_eq_true, Bool.not_eq_true', decide_eq_true_eq, not_or,
          Bool.not_eq_false, Int.not_le] at guarded
        exact guarded
      dsimp only
      cases found : s.find (getField packet 2) with
      | none => exact .silent rfl
      | some target =>
          have stored : Alters s id packet s (s.modifyClient target fun client =>
              { client with flightPlan := extractFlightplanInfoSection packet }) :=
            alters_modifyClient s (.amended target _ typed active found)
          exact stored.trans (alters_broadcastAllWhere _ _ _)

theorem alters_atcPositionUpdate (s : Server F) (now : Time) {facilityType : Int}
    (typed : getPacketType packet = .atcPosition)
    (placed : storedFacility (actual.clients id) packet = some facilityType) :
    Alters actual id packet s (s.atcPositionUpdate now id packet) := by
  unfold atcPositionUpdate
  cases parsed : (parseLatLon packet 5 6 : Option (F × F)) with
  | none => exact .silent rfl
  | some center =>
      cases ranged : (parseVisRange packet 3 : Option F) with
      | none => exact .silent rfl
      | some visRange =>
          have stored : storedPosition (actual.clients id) packet = some (center, visRange) := by
            simp only [storedPosition, typed, storedAtcPosition, placed, parsed, ranged,
              Option.bind_some, Option.map_some]
          have moved := (alters_updatePosition s stored).trans
            (alters_broadcastRangedWhere _ (fun _ => true) packet)
          exact moved.trans (alters_modifyClient _ (.updated _ now))

theorem alters_handleATCPosition (s : Server F) (now : Time)
    (typed : getPacketType packet = .atcPosition) :
    Alters s id packet s (s.handleATCPosition now id packet) := by
  unfold handleATCPosition
  dsimp only
  split
  · exact .silent rfl
  · next parsed =>
      split
      · exact (Alters.silent rfl).trans (alters_cancelCtx _ id)
      · next allowed =>
          have placed : storedFacility (s.clients id) packet =
              some (parseInt (getField packet 2) 10 32).value := by
            rw [storedFacility, if_neg parsed, if_pos (by simpa using allowed)]
          exact (alters_modifyClient s (.placed _ _ typed placed)).trans
            (alters_atcPositionUpdate _ now typed placed)

theorem alters_updateSendFast (s : Server F) :
    Alters actual id packet s (s.updateSendFast id) := by
  rcases s.updateSendFast_cases id with kept | ⟨enabled, switched, _⟩
  · rw [kept]
    exact .silent rfl
  · have stored : Alters actual id packet s (s.modifyClient id fun client =>
        { client with sendFastEnabled := enabled }) := alters_modifyClient s (.switched _ enabled)
    rw [switched]
    exact stored

theorem alters_storePilotFields (s : Server F) (now : Time) :
    Alters actual id packet s (s.storePilotFields now id packet) := by
  unfold storePilotFields
  apply alters_modifyClient s
  exact .andThen (.updated _ now) (.reported _ _ _ _)

theorem alters_handlePilotPosition (s : Server F) (now : Time)
    (typed : getPacketType packet = .pilotPosition) :
    Alters actual id packet s (s.handlePilotPosition now id packet) := by
  unfold handlePilotPosition
  cases parsed : (parseLatLon packet 4 5 : Option (F × F)) with
  | none => exact .silent rfl
  | some center =>
      have stored : storedPosition (actual.clients id) packet = some (center, pilotVisRange) := by
        simp only [storedPosition, typed, storedPilotPosition, parsed, Option.map_some]
      have moved := (alters_updatePosition s stored).trans
        (alters_broadcastRangedWhere _ (fun _ => true) packet)
      exact (moved.trans (alters_storePilotFields _ now)).trans (alters_updateSendFast _)

theorem alters_runHandler (s : Server F) (now : Time) {packetType : PacketType}
    (typed : getPacketType packet = packetType) :
    Alters s id packet s (s.runHandler md5 now packetType id packet) := by
  cases packetType with
  | unknown => exact .silent rfl
  | textMessage => exact alters_handleTextMessage s
  | atcPosition => exact alters_handleATCPosition s now typed
  | pilotPosition => exact alters_handlePilotPosition s now typed
  | pilotPositionFast => exact alters_broadcastRangedWhere s _ packet
  | pilotPositionSlow => exact alters_broadcastRangedWhere s _ packet
  | pilotPositionStopped => exact alters_broadcastRangedWhere s _ packet
  | deletePilot => exact alters_handleDelete s
  | deleteATC => exact alters_handleDelete s
  | squawkbox => exact alters_sendDirectOrErr s _ packet
  | proController => exact alters_handleProcontroller s
  | clientQuery => exact alters_handleClientQuery s
  | clientQueryResponse => exact alters_handleClientQuery s
  | killRequest => exact alters_handleKillRequest s
  | authChallenge => exact alters_handleAuthChallenge s
  | handoffRequest => exact alters_handleHandoff s
  | handoffAccept => exact alters_handleHandoff s
  | metarRequest => exact alters_handleMetarRequest s
  | flightPlan => exact alters_handleFileFlightplan s typed
  | flightPlanAmendment => exact alters_handleAmendFlightplan s typed

/-- Whatever a client sends, the list of what is written is complete. -/
theorem alters_processPacket (s : Server F) (md5 : Bytes -> List.Vector UInt8 16) (now : Time)
    (id : SessionId) (packet : Bytes) :
    Alters s id packet s (s.processPacket md5 now id packet) := by
  unfold processPacket
  cases verified : verifyPacket packet (s.clients id).callsign with
  | refused code message => exact .silent rfl
  | accepted packetType => exact alters_runHandler s now (verifyPacket_accepted verified).1.symm

/-! ## Positions -/

/-- A packet changes the coordinates of a client by an accepted position of its
own only. -/
theorem coords_processPacket (s : Server F) (md5 : Bytes -> List.Vector UInt8 16) (now : Time)
    (id other : SessionId) (packet : Bytes) :
    ((s.processPacket md5 now id packet).clients other).coords = (s.clients other).coords ∨
      other = id ∧ Exists fun packetType => Exists fun visRange =>
        verifyPacket packet (s.clients id).callsign = .accepted packetType ∧
          storedPosition (s.clients id) packet =
            some (((s.processPacket md5 now id packet).clients other).coords, visRange) := by
  have written : forall client next, Altered s id packet other client next ->
      next.coords = client.coords ∨ other = id ∧ Exists fun visRange =>
        storedPosition (s.clients id) packet = some (next.coords, visRange) := by
    intro client next altered
    induction altered with
    | andThen first second firstHypothesis secondHypothesis =>
        rcases secondHypothesis with kept | stored
        · rw [kept]
          exact firstHypothesis
        · exact Or.inr stored
    | moved client center visRange stored => exact Or.inr ⟨rfl, visRange, stored⟩
    | _ => exact Or.inl rfl
  cases verified : verifyPacket packet (s.clients id).callsign with
  | refused code message =>
      left
      unfold processPacket
      rw [verified]
      rfl
  | accepted packetType =>
      rcases written _ _ (s.alters_processPacket md5 now id packet other) with
        kept | ⟨own, visRange, stored⟩
      · exact Or.inl kept
      · exact Or.inr ⟨own, packetType, visRange, rfl, stored⟩

omit [GoFloat F] in
theorem coords_storePosition (s : Server F) (id : SessionId) (center : F × F) (visRange : F) :
    ((s.storePosition id center visRange).clients id).coords = center := by
  unfold storePosition
  rw [modifyClient_same]

theorem coords_updatePosition (s : Server F) (id : SessionId) (center : F × F) (visRange : F) :
    ((s.updatePosition id center visRange).clients id).coords = center := by
  unfold updatePosition
  dsimp only
  split <;> exact s.coords_storePosition id center visRange

/-- A position that is stored stays until the end of the turn. -/
theorem coords_of_altered {center : F × F} {visRange : F}
    (stored : storedPosition (actual.clients id) packet = some (center, visRange))
    {other : SessionId} {client next : Client F} (altered : Altered actual id packet other client next)
    (before : client.coords = center) : next.coords = center := by
  induction altered with
  | andThen first second firstHypothesis secondHypothesis =>
      exact secondHypothesis (firstHypothesis before)
  | moved client other range again =>
      exact (Prod.mk.inj (Option.some.inj (again.symm.trans stored))).1
  | _ => exact before

theorem coords_handlePilotPosition (s : Server F) (now : Time) {center : F × F} {visRange : F}
    (typed : getPacketType packet = .pilotPosition)
    (stored : storedPosition (s.clients id) packet = some (center, visRange)) :
    ((s.handlePilotPosition now id packet).clients id).coords = center := by
  have parsed : parseLatLon packet 4 5 = some center := by
    rw [storedPosition, typed] at stored
    rcases Option.map_eq_some_iff.mp stored with ⟨other, parsed, same⟩
    rw [parsed, (Prod.mk.inj same).1]
  unfold handlePilotPosition
  rw [parsed]
  have relayed : forall moved, Alters s id packet moved (moved.broadcastRanged id packet) :=
    fun moved => alters_broadcastRangedWhere moved _ packet
  have after := ((relayed (s.updatePosition id center pilotVisRange)).trans
    (alters_storePilotFields _ now)).trans (alters_updateSendFast _)
  exact coords_of_altered stored (after id) (s.coords_updatePosition id center pilotVisRange)

theorem coords_handleATCPosition (s : Server F) (now : Time) {center : F × F} {visRange : F}
    (typed : getPacketType packet = .atcPosition)
    (stored : storedPosition (s.clients id) packet = some (center, visRange)) :
    ((s.handleATCPosition now id packet).clients id).coords = center := by
  have position := stored
  rw [storedPosition, typed] at position
  rcases Option.bind_eq_some_iff.mp position with ⟨facilityType, placed, position⟩
  rcases Option.bind_eq_some_iff.mp position with ⟨parsedCenter, parsed, position⟩
  rcases Option.map_eq_some_iff.mp position with ⟨parsedRange, ranged, same⟩
  cases same
  unfold storedFacility at placed
  split at placed
  · cases placed
  · next wellFormed =>
      split at placed
      · next allowed =>
          unfold handleATCPosition
          rw [if_neg wellFormed, if_neg (by simp [allowed])]
          unfold atcPositionUpdate
          rw [parsed]
          dsimp only
          rw [ranged, modifyClient_same]
          dsimp only
          have relayed : forall moved, Alters s id packet moved (moved.broadcastRanged id packet) :=
            fun moved => alters_broadcastRangedWhere moved _ packet
          exact coords_of_altered stored (relayed _ id) (coords_updatePosition _ id center visRange)
      · cases placed

/-- An accepted packet with a position stores it. -/
theorem coords_of_accepted (s : Server F) (md5 : Bytes -> List.Vector UInt8 16) (now : Time)
    {packetType : PacketType} {center : F × F} {visRange : F}
    (accepted : verifyPacket packet (s.clients id).callsign = .accepted packetType)
    (stored : storedPosition (s.clients id) packet = some (center, visRange)) :
    ((s.processPacket md5 now id packet).clients id).coords = center := by
  have typed := (verifyPacket_accepted accepted).1.symm
  rw [processPacket_of_accepted accepted]
  have position := stored
  rw [storedPosition, typed] at position
  cases packetType with
  | atcPosition => exact s.coords_handleATCPosition now typed stored
  | pilotPosition => exact s.coords_handlePilotPosition now typed stored
  | _ => cases position

end Server
end Fsd
end OpenFsd
