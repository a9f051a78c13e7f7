import OpenFsd.Fsd.Gates
import OpenFsd.Fsd.Speaker

namespace OpenFsd
namespace Fsd

/-!
# Rejected position packets

A position packet that is answered with an error is meant to leave no trace:
neither in the record of its sender, nor in the post office, nor with another
client.  A pilot position is parsed before anything is stored.  An ATC
position stores its facility type first, and is then still refused if its
coordinates or its range cannot be parsed.
-/

variable {F : Type}

/-- What position packets store of their sender is the same in both records. -/
structure SameReport (before after : Client F) : Prop where
  facilityType : after.facilityType = before.facilityType
  coords : after.coords = before.coords
  visRange : after.visRange = before.visRange
  transponder : after.transponder = before.transponder
  altitude : after.altitude = before.altitude
  groundspeed : after.groundspeed = before.groundspeed
  heading : after.heading = before.heading
  lastUpdated : after.lastUpdated = before.lastUpdated

/-- The step from `s` to `next` leaves a client's report and the post office
as they are, and sends packets to that client alone. -/
structure LeavesNoTrace (s next : Server F) (id : SessionId) : Prop where
  report : SameReport (s.clients id) (next.clients id)
  postOffice : next.postOffice = s.postOffice
  quiet : forall recipient packet, Sends s next recipient packet -> recipient = id

/-- The step from `s` to `next` answers the client with an error packet. -/
def AnswersWithError (s next : Server F) (id : SessionId) : Prop :=
  Exists fun code => Exists fun message => Sends s next id (errorPacket code message)

/-- An ATC position that stores another facility type than the client has,
before it is refused for its coordinates or its range. -/
structure StoresThenRefuses [GoFloat F] (client : Client F) (packet : Bytes) (packetType : PacketType) :
    Prop where
  typed : packetType = .atcPosition
  stored : Exists fun facilityType => storedFacility client packet = some facilityType ∧
    facilityType ≠ client.facilityType
  malformed : (parseLatLon packet 5 6 : Option (F × F)) = none ∨
    (parseVisRange packet 3 : Option F) = none

namespace Server

/-! ## Errors and other packets -/

theorem sends_sendTo {s : Server F} {id recipient : SessionId} {sent packet : Bytes} :
    Sends s (s.sendTo id sent) recipient packet ↔ recipient = id ∧ packet = sent := by
  simp [Sends, sendTo]

theorem answersWithError_sendError (s : Server F) (id : SessionId) (code : Int) (message : Bytes) :
    AnswersWithError s (s.sendError id code message) id :=
  ⟨code, message, sends_sendTo.mpr ⟨rfl, rfl⟩⟩

/-- An error to its sender leaves no trace of the packet. -/
theorem leavesNoTrace_sendError (s : Server F) (id : SessionId) (code : Int) (message : Bytes) :
    LeavesNoTrace s (s.sendError id code message) id := by
  refine ⟨⟨rfl, rfl, rfl, rfl, rfl, rfl, rfl, rfl⟩, rfl, ?_⟩
  intro recipient packet sent
  exact (sends_sendTo.mp sent).1

/-- The same, if the client is disconnected thereafter. -/
theorem leavesNoTrace_sendError_cancelCtx (s : Server F) (id : SessionId) (code : Int)
    (message : Bytes) : LeavesNoTrace s ((s.sendError id code message).cancelCtx id) id := by
  refine ⟨?_, rfl, ?_⟩
  · simp only [cancelCtx, modifyClient_same, sendError, sendTo_clients]
    exact ⟨rfl, rfl, rfl, rfl, rfl, rfl, rfl, rfl⟩
  · intro recipient packet sent
    simp only [Sends, cancelCtx, sendError, sendTo, List.append_assoc, List.drop_left,
      List.mem_append, List.mem_singleton, reduceCtorEq, or_false,
      Event.send.injEq] at sent
    exact sent.1

/-- The event is no error for the client. -/
def NoErrorFor (id : SessionId) (event : Event) : Prop :=
  forall code message, event ≠ .send id (errorPacket code message)

theorem not_answersWithError {s next : Server F} {id : SessionId}
    (emits : Emits (NoErrorFor id) s next) : ¬ AnswersWithError s next id := by
  rintro ⟨code, message, sent⟩
  rcases emits with ⟨caused, same, permitted⟩
  rw [Sends, same, List.drop_left] at sent
  exact permitted _ sent code message rfl

/-- Packets that start in another way are no errors. -/
theorem noErrorFor_send {id recipient : SessionId} {packet : Bytes}
    (other : hasPrefix packet (bytes "$ER") = false) : NoErrorFor id (.send recipient packet) := by
  intro code message same
  cases same
  have starts : hasPrefix (errorPacket code message) (bytes "$ER") = true := by
    apply List.isPrefixOf_iff_prefix.mpr
    unfold errorPacket
    simp only [List.append_assoc]
    exact ⟨_, rfl⟩
  rw [starts] at other
  cases other

theorem sendFastPacket_not_error (callsign : Bytes) (enabled : Bool) :
    hasPrefix (sendFastPacket callsign enabled) (bytes "$ER") = false :=
  rfl

theorem notError_of_position {packet : Bytes} {packetType : PacketType}
    (typed : packetType = getPacketType packet)
    (position : packetType = .atcPosition ∨ packetType = .pilotPosition) :
    hasPrefix packet (bytes "$ER") = false := by
  have starts := hasPrefix_getPacketPrefix packet
  rw [← typed] at starts
  rcases List.isPrefixOf_iff_prefix.mp starts with ⟨rest, same⟩
  subst same
  rcases position with atc | pilot
  · rw [atc]
    rfl
  · rw [pilot]
    rfl

section Turns

variable [GoFloat F]

/-! ## The two handlers -/

/-- Once its facility type is stored, an ATC position is refused exactly if
its coordinates or its range are malformed. -/
theorem atcPositionUpdate_refused {s : Server F} {packet : Bytes} (now : Time) (id : SessionId)
    (malformed : (parseLatLon packet 5 6 : Option (F × F)) = none ∨
      (parseVisRange packet 3 : Option F) = none) :
    Exists fun message => s.atcPositionUpdate now id packet = s.sendError id SyntaxError message := by
  unfold atcPositionUpdate
  cases parsed : (parseLatLon packet 5 6 : Option (F × F)) with
  | none => exact ⟨_, rfl⟩
  | some center =>
      cases ranged : (parseVisRange packet 3 : Option F) with
      | none => exact ⟨_, rfl⟩
      | some visRange =>
          rw [parsed, ranged] at malformed
          rcases malformed with impossible | impossible
          · cases impossible
          · cases impossible

theorem emits_atcPositionUpdate_accepted (s : Server F) {packet : Bytes} (now : Time)
    (id : SessionId) (other : hasPrefix packet (bytes "$ER") = false)
    (wellFormed : ¬ ((parseLatLon packet 5 6 : Option (F × F)) = none ∨
      (parseVisRange packet 3 : Option F) = none)) :
    Emits (NoErrorFor id) s (s.atcPositionUpdate now id packet) := by
  unfold atcPositionUpdate
  cases parsed : (parseLatLon packet 5 6 : Option (F × F)) with
  | none => exact absurd (Or.inl parsed) wellFormed
  | some center =>
      cases ranged : (parseVisRange packet 3 : Option F) with
      | none => exact absurd (Or.inr ranged) wellFormed
      | some visRange =>
          have moved : Emits (NoErrorFor id) s (s.updatePosition id center visRange) :=
            s.emits_updatePosition id center visRange
          have relayed := moved.trans
            (emits_broadcastRangedWhere _ id (fun _ => true) fun _ => noErrorFor_send other)
          exact relayed.trans (.silent rfl)

theorem emits_updateSendFast_noError (s : Server F) (id : SessionId) :
    Emits (NoErrorFor id) s (s.updateSendFast id) := by
  rcases s.updateSendFast_cases id with kept | ⟨enabled, switched, _⟩
  · rw [kept]
    exact .silent rfl
  · have stored : Emits (NoErrorFor id) s (s.modifyClient id fun client =>
        { client with sendFastEnabled := enabled }) := .silent rfl
    rw [switched]
    exact stored.trans (emits_sendTo _ (noErrorFor_send (sendFastPacket_not_error _ _)))

theorem emits_handlePilotPosition_parsed (s : Server F) (now : Time) (id : SessionId)
    {packet : Bytes} (other : hasPrefix packet (bytes "$ER") = false) {center : F × F}
    (parsed : parseLatLon packet 4 5 = some center) :
    Emits (NoErrorFor id) s (s.handlePilotPosition now id packet) := by
  unfold handlePilotPosition
  rw [parsed]
  have moved : Emits (NoErrorFor id) s (s.updatePosition id center pilotVisRange) :=
    s.emits_updatePosition id center pilotVisRange
  have relayed := moved.trans
    (emits_broadcastRangedWhere _ id (fun _ => true) fun _ => noErrorFor_send other)
  have stored : Emits (NoErrorFor id) s
      (((s.updatePosition id center pilotVisRange).broadcastRanged id packet).storePilotFields
        now id packet) := relayed.trans (.silent rfl)
  exact stored.trans (emits_updateSendFast_noError _ id)

/-- A pilot position is answered with an error before anything is stored, or
not at all. -/
theorem handlePilotPosition_cases (s : Server F) (now : Time) (id : SessionId) {packet : Bytes}
    (other : hasPrefix packet (bytes "$ER") = false) :
    s.handlePilotPosition now id packet =
        s.sendError id SyntaxError (bytes "Invalid latitude/longitude") ∨
      Emits (NoErrorFor id) s (s.handlePilotPosition now id packet) := by
  cases parsed : (parseLatLon packet 4 5 : Option (F × F)) with
  | none =>
      left
      unfold handlePilotPosition
      rw [parsed]
  | some center => exact Or.inr (emits_handlePilotPosition_parsed s now id other parsed)

/-- An ATC position that stores no facility type is refused for it. -/
theorem leavesNoTrace_of_storedFacility_none {s : Server F} (now : Time) {id : SessionId}
    {packet : Bytes} (stored : storedFacility (s.clients id) packet = none) :
    LeavesNoTrace s (s.handleATCPosition now id packet) id := by
  unfold storedFacility at stored
  unfold handleATCPosition
  dsimp only
  split
  · exact leavesNoTrace_sendError _ _ _ _
  · next parsed =>
      rw [if_neg parsed] at stored
      split
      · exact leavesNoTrace_sendError_cancelCtx _ _ _ _
      · next allowed =>
          rw [if_pos (by simpa using allowed)] at stored
          cases stored

theorem handleATCPosition_of_storedFacility {s : Server F} (now : Time) {id : SessionId}
    {packet : Bytes} {facilityType : Int}
    (stored : storedFacility (s.clients id) packet = some facilityType) :
    s.handleATCPosition now id packet =
      (s.modifyClient id fun client =>
        { client with facilityType := facilityType }).atcPositionUpdate now id packet := by
  unfold storedFacility at stored
  unfold handleATCPosition
  dsimp only
  split
  · next failed =>
      rw [if_pos failed] at stored
      cases stored
  · next parsed =>
      rw [if_neg parsed] at stored
      split
      · next refused =>
          rw [if_neg (by simpa using refused)] at stored
          cases stored
      · next allowed =>
          rw [if_pos (by simpa using allowed)] at stored
          cases stored
          rfl

/-- Where the facility type is stored and the position is refused, it is the
facility type alone that changes. -/
theorem refused_after_store {s : Server F} (now : Time) {id : SessionId} {packet : Bytes}
    {facilityType : Int} (stored : storedFacility (s.clients id) packet = some facilityType)
    (malformed : (parseLatLon packet 5 6 : Option (F × F)) = none ∨
      (parseVisRange packet 3 : Option F) = none) :
    AnswersWithError s (s.handleATCPosition now id packet) id ∧
      (LeavesNoTrace s (s.handleATCPosition now id packet) id ↔
        facilityType = (s.clients id).facilityType) := by
  rw [handleATCPosition_of_storedFacility now stored]
  rcases atcPositionUpdate_refused (s := s.modifyClient id fun client =>
    { client with facilityType := facilityType }) now id malformed with ⟨message, refused⟩
  rw [refused]
  have answered := answersWithError_sendError (s.modifyClient id fun client =>
    { client with facilityType := facilityType }) id SyntaxError message
  have untraced := leavesNoTrace_sendError (s.modifyClient id fun client =>
    { client with facilityType := facilityType }) id SyntaxError message
  refine ⟨answered, ?_⟩
  constructor
  · intro unchanged
    have same := unchanged.report.facilityType
    simpa only [sendError, sendTo_clients, modifyClient_same] using same
  · intro same
    refine ⟨?_, untraced.postOffice, untraced.quiet⟩
    simp only [sendError, sendTo_clients, modifyClient_same]
    exact ⟨same, rfl, rfl, rfl, rfl, rfl, rfl, rfl⟩

/-! ## Turns -/

/-- The property that a position packet is meant to have. -/
def RejectsCleanly (s : Server F) (md5 : Bytes -> List.Vector UInt8 16) (now : Time)
    (id : SessionId) (packet : Bytes) : Prop :=
  AnswersWithError s (s.processPacket md5 now id packet) id ->
    LeavesNoTrace s (s.processPacket md5 now id packet) id

/-- A rejected position packet leaves no trace, except that an ATC position
may store its facility type first. -/
theorem rejectsCleanly_iff {s : Server F} (md5 : Bytes -> List.Vector UInt8 16) (now : Time)
    {id : SessionId} {packet : Bytes} {packetType : PacketType}
    (accepted : verifyPacket packet (s.clients id).callsign = .accepted packetType)
    (position : packetType = .atcPosition ∨ packetType = .pilotPosition) :
    s.RejectsCleanly md5 now id packet ↔
      ¬ StoresThenRefuses (s.clients id) packet packetType := by
  have typed := (verifyPacket_accepted accepted).1
  unfold RejectsCleanly
  rw [processPacket_of_accepted accepted]
  rcases position with atc | pilot
  · subst atc
    have other := notError_of_position typed (Or.inl rfl)
    dsimp only [runHandler]
    cases stored : storedFacility (s.clients id) packet with
    | none =>
        constructor
        · rintro _ ⟨_, ⟨facilityType, placed, _⟩, _⟩
          rw [stored] at placed
          cases placed
        · intro _ _
          exact leavesNoTrace_of_storedFacility_none now stored
    | some facilityType =>
        by_cases malformed : (parseLatLon packet 5 6 : Option (F × F)) = none ∨
            (parseVisRange packet 3 : Option F) = none
        · rcases refused_after_store now stored malformed with ⟨answered, traced⟩
          constructor
          · rintro clean ⟨_, ⟨placed, same, changed⟩, _⟩
            rw [stored] at same
            cases same
            exact changed (traced.mp (clean answered))
          · intro harmless _
            apply traced.mpr
            by_contra changed
            exact harmless ⟨rfl, ⟨facilityType, stored, changed⟩, malformed⟩
        · constructor
          · rintro _ refused
            exact malformed refused.malformed
          · intro _ answered
            rw [handleATCPosition_of_storedFacility now stored] at answered
            exact absurd answered
              (not_answersWithError (emits_atcPositionUpdate_accepted _ now id other malformed))
  · subst pilot
    have other := notError_of_position typed (Or.inr rfl)
    dsimp only [runHandler]
    constructor
    · rintro _ ⟨impossible, _, _⟩
      cases impossible
    · intro _ answered
      rcases s.handlePilotPosition_cases now id other with refused | silent
      · rw [refused]
        exact leavesNoTrace_sendError _ _ _ _
      · exact absurd answered (not_answersWithError silent)

/-- An observer that poses as a tower is refused before anything is stored. -/
theorem rejectsCleanly_iff_unlisted :
    (serverOf (bytes "OAK_TWR") : Server Real).RejectsCleanly
      (fun _ => List.Vector.replicate 16 0) 0 0
      (bytes "%OAK_TWR:28200:4:40:1:x:0:0" ++ crlf) := by
  apply (rejectsCleanly_iff _ 0 (by decide +kernel) (Or.inl rfl)).mpr
  rintro ⟨_, ⟨facilityType, stored, _⟩, _⟩
  have unstored : storedFacility ((serverOf (bytes "OAK_TWR") : Server Real).clients 0)
      (bytes "%OAK_TWR:28200:4:40:1:x:0:0" ++ crlf) = none := by
    unfold storedFacility
    rw [if_neg (by decide +kernel), if_neg (by decide +kernel)]
  rw [unstored] at stored
  cases stored

/-- A server whose clients are all towers that have not sent a position. -/
def towerServer : Server F :=
  ⟨fun _ => newClient [] ⟨[], bytes "OAK_TWR", 1, [], 5, 5, 100, 0, 0, true⟩, ⟨∅, []⟩, []⟩

/-- A tower sends coordinates that cannot be parsed, and is a tower from then on. -/
theorem mistyped_position_places : ¬ forall (s : Server Real)
    (md5 : Bytes -> List.Vector UInt8 16) (now : Time) (id : SessionId) (packet : Bytes)
    (packetType : PacketType),
      verifyPacket packet (s.clients id).callsign = .accepted packetType ->
      packetType = .atcPosition ∨ packetType = .pilotPosition ->
      s.RejectsCleanly md5 now id packet := by
  intro always
  have accepted : verifyPacket (bytes "%OAK_TWR:28200:4:40:5:x:0:0" ++ crlf) (bytes "OAK_TWR") =
      .accepted .atcPosition := by
    decide +kernel
  have stored : storedFacility ((towerServer : Server Real).clients 0)
      (bytes "%OAK_TWR:28200:4:40:5:x:0:0" ++ crlf) = some 4 := by
    unfold storedFacility
    rw [if_neg (by decide +kernel), if_pos (by decide +kernel)]
    decide +kernel
  have malformed : (parseLatLon (bytes "%OAK_TWR:28200:4:40:5:x:0:0" ++ crlf) 5 6 :
      Option (Real × Real)) = none := by
    have unread : parseDecimal (getField (bytes "%OAK_TWR:28200:4:40:5:x:0:0" ++ crlf) 5) = none := by
      decide +kernel
    unfold parseLatLon
    simp [GoFloat.parseFloat, unread]
  rcases refused_after_store (s := (towerServer : Server Real)) 0 stored (Or.inl malformed) with
    ⟨answered, traced⟩
  have clean := always towerServer (fun _ => List.Vector.replicate 16 0) 0 0 _ .atcPosition
    accepted (Or.inl rfl)
  unfold RejectsCleanly at clean
  rw [processPacket_of_accepted accepted] at clean
  have same : (4 : Int) = 0 := traced.mp (clean answered)
  cases same

end Turns
end Server
end Fsd
end OpenFsd
