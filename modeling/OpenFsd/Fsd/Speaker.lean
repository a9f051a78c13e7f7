import OpenFsd.Fsd.Fields
import OpenFsd.Fsd.Outgoing
import OpenFsd.Fsd.Session
import OpenFsd.Fsd.Visibility

namespace OpenFsd
namespace Fsd

/-!
# The name under which a client speaks

`verifyPacket` compares the callsign of the client with a field from which it
has cut the prefix of the packet type, if the prefix was there.  The handlers
relay the line as it came.  The two agree wherever the field really starts
with the prefix.  The source of a pilot position is the second field, where
the prefix does not belong, and one that is there nevertheless is cut as well.
-/

/-- The source callsign of a packet as it stands on the wire. -/
def wireSource (packet : Bytes) : Bytes :=
  if getPacketType packet = .pilotPosition then (splitByte colon packet).getD 1 []
  else ((splitByte colon packet).getD 0 []).drop (getPacketPrefix (getPacketType packet)).length

/-- The packet, and everything that others are sent because of it, names its
sender. -/
def SpeaksOwnName {F : Type} [GoFloat F] (s : Server F) (md5 : Bytes -> List.Vector UInt8 16)
    (now : Time) (id : SessionId) (packet : Bytes) : Prop :=
  wireSource packet = (s.clients id).callsign ∧
    forall caused, (s.processPacket md5 now id packet).events = s.events ++ caused ->
      forall other relayed, Event.send other relayed ∈ caused -> other ≠ id ->
        wireSource relayed = (s.clients id).callsign

/-- A pilot position whose source field starts with the prefix of the type. -/
def PrefixedPosition (packet : Bytes) : Prop :=
  getPacketType packet = .pilotPosition ∧
    hasPrefix ((splitByte colon packet).getD 1 []) (bytes "@") = true

theorem colon_not_mem_getPacketPrefix (packetType : PacketType) :
    colon ∉ getPacketPrefix packetType := by
  cases packetType <;> decide

/-- A prefix without a separator lies in the first field. -/
theorem prefix_of_first_field {start first rest : Bytes} (absent : colon ∉ start)
    (starts : start <+: first ++ colon :: rest) : start <+: first := by
  rcases List.prefix_or_prefix_of_prefix starts (List.prefix_append first (colon :: rest)) with
    inside | ⟨more, beyond⟩
  · exact inside
  · rw [← beyond] at starts absent
    cases more with
    | nil =>
        rw [List.append_nil] at beyond
        exact beyond ▸ List.prefix_rfl
    | cons head tail =>
        have next : head :: tail <+: colon :: rest := (List.prefix_append_right_inj first).mp starts
        rw [(List.cons_prefix_cons.mp next).1] at absent
        exact absurd (List.mem_append_right first List.mem_cons_self) absent

theorem cutPrefix_of_prefix {text start : Bytes} (starts : start <+: text) :
    (cutPrefix text start).1 = text.drop start.length := by
  unfold cutPrefix hasPrefix
  rw [if_pos (List.isPrefixOf_iff_prefix.mpr starts)]

/-- What the client's callsign is compared with, in the fields of the line. -/
theorem callsign_of_accepted {line callsign : Bytes} (unbroken : lineFeed ∉ line)
    {packetType : PacketType} (accepted : verifyPacket (line ++ crlf) callsign = .accepted packetType) :
    colon ∉ callsign ∧
      (wireSource (line ++ crlf) = callsign ↔ ¬ PrefixedPosition (line ++ crlf)) := by
  rcases verifyPacket_accepted accepted with ⟨typed, _, source, enough⟩
  have several : 3 ≤ countFields (line ++ crlf) := by
    unfold verifyPacket at accepted
    by_contra few
    rw [if_pos (Or.inr (by omega))] at accepted
    cases accepted
  rcases exists_first_field_of_line (Nat.le_of_succ_le several) with ⟨first, rest, split, absent, count⟩
  have split' : line ++ crlf = first ++ colon :: (rest ++ crlf) := by
    rw [split, List.append_assoc, List.cons_append]
  have pieces : splitByte colon (line ++ crlf) = first :: splitByte colon (rest ++ crlf) := by
    rw [split', splitByte_append absent]
  unfold PrefixedPosition wireSource
  by_cases position : packetType = .pilotPosition
  · rw [← typed, if_pos position]
    rcases exists_first_field_of_line (by omega : 2 ≤ countFields (rest ++ crlf)) with
      ⟨second, later, splitRest, absentSecond, _⟩
    have splitRest' : rest ++ crlf = second ++ colon :: (later ++ crlf) := by
      rw [splitRest, List.append_assoc, List.cons_append]
    have field : (splitByte colon (line ++ crlf)).getD 1 [] = second := by
      rw [pieces, splitRest', splitByte_append absentSecond]
      rfl
    have unbrokenSecond : lineFeed ∉ second := by
      intro member
      apply unbroken
      rw [split, splitRest]
      simp [member]
    have cut : (cutPrefix second (bytes "@")).1 = callsign := by
      rw [← source]
      unfold getSourceCallsign
      rw [position]
      show _ = (cutPrefix (getField (line ++ crlf) 1) _).1
      rw [split', getField_succ_append absent, splitRest', getField_zero_append absentSecond,
        cutSuffix_of_not_mem unbrokenSecond]
      rfl
    rw [field]
    unfold cutPrefix at cut
    by_cases marked : hasPrefix second (bytes "@") = true
    · rw [if_pos marked] at cut
      constructor
      · intro member
        rw [← cut] at member
        exact absentSecond (List.mem_of_mem_drop member)
      · constructor
        · intro same
          rw [← cut] at same
          have length := congrArg List.length same
          have positive : (bytes "@").length ≤ second.length :=
            (List.isPrefixOf_iff_prefix.mp marked).length_le
          have one : (bytes "@").length = 1 := rfl
          dsimp only at length
          rw [List.length_drop] at length
          omega
        · intro free
          exact absurd ⟨position, marked⟩ free
    · rw [if_neg marked] at cut
      constructor
      · rw [← cut]
        exact absentSecond
      · exact iff_of_true cut fun both => marked both.2
  · rw [← typed, if_neg position]
    have unbrokenFirst : lineFeed ∉ first := by
      intro member
      apply unbroken
      rw [split]
      exact List.mem_append_left _ member
    have starts : getPacketPrefix packetType <+: first := by
      have whole := List.isPrefixOf_iff_prefix.mp (hasPrefix_getPacketPrefix (line ++ crlf))
      rw [← typed, split'] at whole
      exact prefix_of_first_field (colon_not_mem_getPacketPrefix packetType) whole
    have cut : first.drop (getPacketPrefix packetType).length = callsign := by
      rw [← source, ← cutPrefix_of_prefix starts]
      unfold getSourceCallsign
      have index : sourceCallsignFieldIndex packetType = 0 := by
        cases packetType <;> first
          | rfl
          | exact absurd rfl position
      rw [index, split', getField_zero_append absent, cutSuffix_of_not_mem unbrokenFirst]
    rw [pieces]
    constructor
    · rw [← cut]
      exact fun member => absent (List.mem_of_mem_drop member)
    · exact iff_of_true cut fun both => position both.1

/-- The source of a packet that the server builds. -/
theorem wireSource_built {start callsign rest : Bytes} (absent : colon ∉ callsign)
    (plain : colon ∉ start) (typed : getPacketType (start ++ callsign ++ colon :: rest) ≠ .pilotPosition)
    (starts : getPacketPrefix (getPacketType (start ++ callsign ++ colon :: rest)) = start) :
    wireSource (start ++ callsign ++ colon :: rest) = callsign := by
  have first : colon ∉ start ++ callsign := by
    intro member
    rcases List.mem_append.mp member with inStart | inCallsign
    · exact plain inStart
    · exact absent inCallsign
  unfold wireSource
  rw [if_neg typed, starts, splitByte_append first]
  exact List.drop_left

theorem wireSource_fileFlightplan {callsign : Bytes} (absent : colon ∉ callsign)
    (recipient fplInfo : Bytes) :
    wireSource (buildFileFlightplanPacket callsign recipient fplInfo) = callsign := by
  have typed : getPacketType (buildFileFlightplanPacket callsign recipient fplInfo) = .flightPlan :=
    (getPacketType_dollar _ _ _).trans (by decide)
  have shape : buildFileFlightplanPacket callsign recipient fplInfo =
      bytes "$FP" ++ callsign ++ colon :: (recipient ++ [colon] ++ fplInfo ++ crlf) := by
    simp [buildFileFlightplanPacket, buildFlightplanPacket]
  rw [shape] at typed ⊢
  refine wireSource_built absent (by decide) ?_ ?_
  · rw [typed]
    decide
  · rw [typed]
    rfl

theorem wireSource_amendFlightplan {callsign : Bytes} (absent : colon ∉ callsign)
    (recipient targetCallsign fplInfo : Bytes) :
    wireSource (buildAmendFlightplanPacket callsign recipient targetCallsign fplInfo) = callsign := by
  have typed : getPacketType (buildAmendFlightplanPacket callsign recipient targetCallsign fplInfo) =
      .flightPlanAmendment := (getPacketType_dollar _ _ _).trans (by decide)
  have shape : buildAmendFlightplanPacket callsign recipient targetCallsign fplInfo =
      bytes "$AM" ++ callsign ++
        colon :: (recipient ++ [colon] ++ targetCallsign ++ [colon] ++ fplInfo ++ crlf) := by
    simp [buildAmendFlightplanPacket, buildFlightplanPacket]
  rw [shape] at typed ⊢
  refine wireSource_built absent (by decide) ?_ ?_
  · rw [typed]
    decide
  · rw [typed]
    rfl

variable {F : Type} [GoFloat F]

/-- A client speaks under its own name with every line that is accepted from
it, unless the line is a pilot position whose source field has the prefix. -/
theorem speaksOwnName_iff (s : Server F) (md5 : Bytes -> List.Vector UInt8 16) (now : Time)
    (id : SessionId) {line : Bytes} (unbroken : lineFeed ∉ line) {packetType : PacketType}
    (accepted : verifyPacket (line ++ crlf) (s.clients id).callsign = .accepted packetType) :
    SpeaksOwnName s md5 now id (line ++ crlf) ↔ ¬ PrefixedPosition (line ++ crlf) := by
  rcases callsign_of_accepted unbroken accepted with ⟨absent, agrees⟩
  constructor
  · intro speaks
    exact agrees.mp speaks.1
  · intro free
    refine ⟨agrees.mpr free, ?_⟩
    intro caused appended other relayed member different
    rcases s.emits_processPacket md5 now id (line ++ crlf) with
      ⟨emitted, same, outgoing⟩
    have equal : caused = emitted := List.append_cancel_left (appended.symm.trans same)
    rw [equal] at member
    generalize sent : Event.send other relayed = event at member
    cases outgoing event member with
    | relayed recipient =>
        cases sent
        exact agrees.mpr free
    | filed recipient typed =>
        cases sent
        exact wireSource_fileFlightplan absent _ _
    | amended recipient typed =>
        cases sent
        exact wireSource_amendFlightplan absent _ _ _
    | replied reply answers =>
        cases sent
        exact absurd rfl different
    | cancelled victim => cases sent
    | metar icaoCode => cases sent

/-- A position is relayed to everybody whom the client finds from there. -/
theorem relays_position {s : Server F} {id other : SessionId} {packet : Bytes} {center : F × F}
    (md5 : Bytes -> List.Vector UInt8 16) (now : Time)
    (accepted : verifyPacket packet (s.clients id).callsign = .accepted .pilotPosition)
    (parsed : parseLatLon packet 4 5 = some center)
    (found : other ∈ (s.updatePosition id center pilotVisRange).foundBy id) :
    Exists fun caused => (s.processPacket md5 now id packet).events = s.events ++ caused ∧
      Event.send other packet ∈ caused := by
  let moved := s.updatePosition id center pilotVisRange
  have unsent : moved.events = s.events := by
    show (s.updatePosition id center pilotVisRange).events = s.events
    unfold Server.updatePosition
    dsimp only
    split <;> rfl
  have relayed : (moved.broadcastRanged id packet).events = s.events ++
      (moved.recipientsRanged id fun _ => true).map fun recipient => Event.send recipient packet := by
    rcases moved.broadcastRangedWhere_eq id (fun _ => true) packet with ⟨dist, same⟩
    unfold Server.broadcastRanged
    rw [same, unsent]
  have listed : Event.send other packet ∈
      (moved.recipientsRanged id fun _ => true).map fun recipient => Event.send recipient packet :=
    List.mem_map_of_mem (List.mem_filter.mpr ⟨found, rfl⟩)
  have handled : s.processPacket md5 now id packet =
      ((moved.broadcastRanged id packet).storePilotFields now id packet).updateSendFast id := by
    refine (Server.processPacket_of_accepted accepted).trans ?_
    dsimp only [Server.runHandler]
    unfold Server.handlePilotPosition
    rw [parsed]
  rw [handled]
  rcases ((moved.broadcastRanged id packet).storePilotFields now id packet).updateSendFast_cases id
    with kept | ⟨enabled, switched, _⟩
  · exact ⟨_, by rw [kept]; exact relayed, listed⟩
  · refine ⟨_ ++ [.send id (sendFastPacket (((moved.broadcastRanged id packet).storePilotFields
      now id packet).clients id).callsign enabled)], ?_, List.mem_append_left _ listed⟩
    rw [switched, ← List.append_assoc, ← relayed]
    rfl

/-- The position goes to the pilot nearby under the name of its sender. -/
theorem speaksOwnName_iff_position : Exists fun s : Server Real => Exists fun caused =>
    (s.clients 0).callsign = bytes "N172SP" ∧ s.Registered 1 ∧
      (s.processPacket Symbolic.platform.md5 0 0 (equatorPosition ++ crlf)).events =
        s.events ++ caused ∧
      Event.send 1 (equatorPosition ++ crlf) ∈ caused ∧
      SpeaksOwnName s Symbolic.platform.md5 0 0 (equatorPosition ++ crlf) := by
  rcases Office.exists_equatorOffice with ⟨office, executed, quiescent, clients, registered⟩
  have named : (office.server.clients 0).callsign = bytes "N172SP" := by
    rw [clients]
    rfl
  have accepted : verifyPacket (equatorPosition ++ crlf) (office.server.clients 0).callsign =
      .accepted .pilotPosition := by
    rw [named]
    decide +kernel
  have parsed : (parseLatLon (equatorPosition ++ crlf) 4 5 : Option (Real × Real)) =
      some (((0 : Rat) : Real), ((0 : Rat) : Real)) :=
    parseLatLon_real (by decide +kernel) (by decide +kernel)
  rw [Rat.cast_zero] at parsed
  have found : 1 ∈ (office.server.updatePosition 0 (0, 0) pilotVisRange).foundBy 0 := by
    rw [(Office.consistent_of_reaches ⟨_, executed⟩).mem_foundBy_updatePosition quiescent
      (by decide)]
    refine ⟨(registered 1).mpr (by decide), ?_⟩
    -- The reported position is the one at which the pilot was before.
    have standing : office.server.currentBox 0 = calculateBoundingBox (0, 0) pilotVisRange := by
      unfold Server.currentBox
      rw [clients]
      show calculateBoundingBox (0, ((0 : Rat) : Real)) pilotVisRange = _
      rw [Rat.cast_zero]
    rw [← standing]
    exact (Office.near_equatorClients clients (by decide) (by decide)).mpr (Or.inl rfl)
  rcases relays_position Symbolic.platform.md5 0 accepted parsed found with
    ⟨caused, grown, relayed⟩
  refine ⟨office.server, caused, named, (registered 1).mpr (by decide), grown, relayed, ?_⟩
  refine (speaksOwnName_iff office.server _ 0 0 (by decide +kernel) accepted).mpr ?_
  rintro ⟨_, marked⟩
  revert marked
  decide +kernel

/-- A server whose clients all bear this callsign. -/
def serverOf (callsign : Bytes) : Server F :=
  ⟨fun _ => newClient [] ⟨[], callsign, 1, [], 1, 1, 100, 0, 0, false⟩, ⟨∅, []⟩, []⟩

/-- The client `AB1` speaks as `@AB1`. -/
theorem position_speaks_otherwise : ¬ forall (s : Server Real)
    (md5 : Bytes -> List.Vector UInt8 16) (now : Time) (id : SessionId) (line : Bytes)
    (packetType : PacketType), lineFeed ∉ line ->
      verifyPacket (line ++ crlf) (s.clients id).callsign = .accepted packetType ->
        SpeaksOwnName s md5 now id (line ++ crlf) := by
  intro always
  have speaks := always (serverOf (bytes "AB1")) (fun _ => List.Vector.replicate 16 0) 0 0
    (bytes "@N:@AB1:1200:1:0:0:0:0:0") .pilotPosition (by decide) (by decide +kernel)
  revert speaks
  rintro ⟨same, _⟩
  revert same
  decide +kernel

end Fsd
end OpenFsd
