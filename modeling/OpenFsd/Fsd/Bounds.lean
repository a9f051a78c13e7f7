import OpenFsd.Fsd.Pieces
import OpenFsd.Fsd.Handler
import OpenFsd.Go.Lines
import OpenFsd.Go.Exact
import OpenFsd.Library.Access

namespace OpenFsd
namespace Fsd

/-!
# Received packets are read in bounds

The functions that read a received packet, translated once more with every
index and slice expression checked.  Two further checks are not the
language's: a handler may ask for a field only if the packet has it, and may
skip only fields that are followed by another.  Where a check fails there is
no result.

Some handlers take a lock of the post office and visit its clients.  The
visits index nothing, so those functions are used as they are.  The hash
states have constant bounds into arrays of a fixed length, which the compiler
checks; only the halves of a challenge are sliced at a computed position.
-/

open Access

/-! ## Positions of a byte -/

theorem neg_one_le_indexByte (text : Bytes) (wanted : UInt8) : -1 ≤ indexByte text wanted := by
  unfold indexByte
  split
  · omega
  · exact le_refl _

theorem indexByte_lt_length {text : Bytes} {wanted : UInt8} (found : indexByte text wanted ≠ -1) :
    indexByte text wanted < text.length := by
  by_cases present : wanted ∈ text
  · rcases List.eq_append_cons_of_mem present with ⟨first, rest, rfl, absent⟩
    rw [indexByte_append_cons absent, List.length_append, List.length_cons]
    omega
  · exact absurd (indexByte_of_not_mem present) found

namespace Checked

/-! ## Fields -/

def rebaseToNextField (packet : Bytes) : Option Bytes :=
  window packet (indexByte packet colon + 1) packet.length

/-- The loop of `getField`. -/
def rebaseFields : Nat -> Bytes -> Option Bytes
  | 0, packet => some packet
  | count + 1, packet => (rebaseToNextField packet).bind (rebaseFields count)

def getField (packet : Bytes) (index : Nat) : Option Bytes := do
  let rest ← rebaseFields index packet
  let position := indexByte rest colon
  let field ← if position ≠ -1 then window rest 0 position else some rest
  some (cutSuffix field crlf).1

/-- A field that the packet must have. -/
def presentField (packet : Bytes) (index : Nat) : Option Bytes :=
  if index < countFields packet then getField packet index else none

/-- Fields that another one must follow. -/
def presentFields (count : Nat) (packet : Bytes) : Option Bytes :=
  if count < countFields packet then rebaseFields count packet else none

theorem rebaseToNextField_eq (packet : Bytes) :
    rebaseToNextField packet = some (Fsd.rebaseToNextField packet) := by
  have lower := neg_one_le_indexByte packet colon
  apply window_length (by omega)
  by_cases absent : indexByte packet colon = -1
  · omega
  · have within := indexByte_lt_length absent
    omega

theorem rebaseFields_eq (count : Nat) (packet : Bytes) :
    rebaseFields count packet = some (Fsd.rebaseFields count packet) := by
  induction count generalizing packet with
  | zero => rfl
  | succ count inductionHypothesis =>
      rw [rebaseFields, rebaseToNextField_eq, Option.bind_some, inductionHypothesis]
      rfl

/-- The slices of `getField` exist, whatever the index. -/
theorem getField_eq (packet : Bytes) (index : Nat) :
    getField packet index = some (Fsd.getField packet index) := by
  have lower := neg_one_le_indexByte (Fsd.rebaseFields index packet) colon
  unfold getField Fsd.getField
  rw [rebaseFields_eq]
  by_cases absent : indexByte (Fsd.rebaseFields index packet) colon = -1
  · simp [absent]
  · have within := indexByte_lt_length absent
    simp only [Option.bind_eq_bind, Option.bind_some, if_pos absent]
    rw [window_zero (by omega) (by omega)]
    rfl

theorem presentField_eq {packet : Bytes} {index : Nat} (below : index < countFields packet) :
    presentField packet index = some (Fsd.getField packet index) := by
  rw [presentField, if_pos below, getField_eq]

theorem presentFields_eq {packet : Bytes} {count : Nat} (below : count < countFields packet) :
    presentFields count packet = some (Fsd.rebaseFields count packet) := by
  rw [presentFields, if_pos below, rebaseFields_eq]

/-! ## `packet.go` -/

def getPacketType (packet : Bytes) : Option PacketType := do
  let first ← item packet 0
  if first = byte '^' then some .pilotPositionFast
  else if first = byte '@' then some .pilotPosition
  else if first = byte '%' then some .atcPosition
  else if first = byte '#' then (window packet 0 3).map hashPacketType
  else if first = byte '$' then (window packet 0 3).map dollarPacketType
  else some .unknown

def getSourceCallsign (packet : Bytes) (packetType : PacketType) : Option Bytes := do
  let field ← presentField packet (sourceCallsignFieldIndex packetType)
  some (cutPrefix field (getPacketPrefix packetType)).1

def verifySourceCallsign (packet : Bytes) (packetType : PacketType) (callsign : Bytes) :
    Option Bool := do
  let sourceCallsign ← getSourceCallsign packet packetType
  some (decide (sourceCallsign = callsign))

def verifyPacket (packet callsign : Bytes) : Option Verified := do
  let numFields := countFields packet
  if packet.length < 8 ∨ numFields < 3 then
    some (.refused SyntaxError (bytes "Packet too short"))
  else
    let packetType ← getPacketType packet
    if packetType = .unknown then some (.refused SyntaxError (bytes "Unknown packet type"))
    else
      let own ← verifySourceCallsign packet packetType callsign
      if !own then some (.refused SourceInvalidError (bytes "Source invalid"))
      else if (numFields : Int) < minFields packetType then
        some (.refused SyntaxError (bytes "Minimum field count requirement not satisfied"))
      else some (.accepted packetType)

theorem getPacketType_eq {packet : Bytes} (long : 8 ≤ packet.length) :
    getPacketType packet = some (Fsd.getPacketType packet) := by
  have start : window packet 0 3 = some (packet.take 3) :=
    window_zero (by decide) (by omega)
  cases packet with
  | nil => exact absurd long (by decide)
  | cons first rest =>
      have single : forall (text : String) (character : Char), bytes text = [byte character] ->
          ((first :: rest).take 1 = bytes text ↔ first = byte character) := by
        intro text character spelled
        rw [spelled, List.take_succ_cons, List.take_zero, List.cons.injEq]
        exact and_iff_left rfl
      unfold getPacketType Fsd.getPacketType
      rw [item_zero, start, List.head?_cons]
      simp only [Option.bind_eq_bind, Option.bind_some, Option.map_some, single "^" '^' rfl,
        single "@" '@' rfl, single "%" '%' rfl, single "#" '#' rfl, single "$" '$' rfl, apply_ite some]

theorem sourceCallsignFieldIndex_le (packetType : PacketType) :
    sourceCallsignFieldIndex packetType ≤ 1 := by
  cases packetType <;> decide

theorem verifySourceCallsign_eq {packet : Bytes} (several : 3 ≤ countFields packet)
    (packetType : PacketType) (callsign : Bytes) :
    verifySourceCallsign packet packetType callsign =
      some (Fsd.verifySourceCallsign packet packetType callsign) := by
  have below : sourceCallsignFieldIndex packetType < countFields packet := by
    have small := sourceCallsignFieldIndex_le packetType
    omega
  unfold verifySourceCallsign getSourceCallsign
  rw [presentField_eq below]
  rfl

/-- The checks of a packet read nothing outside it. -/
theorem verifyPacket_eq (packet callsign : Bytes) :
    verifyPacket packet callsign = some (Fsd.verifyPacket packet callsign) := by
  unfold verifyPacket Fsd.verifyPacket
  dsimp only
  by_cases short : packet.length < 8 ∨ countFields packet < 3
  · rw [if_pos short, if_pos short]
  · rw [if_neg short, if_neg short, getPacketType_eq (by omega)]
    simp only [Option.bind_eq_bind, Option.bind_some,
      verifySourceCallsign_eq (show 3 ≤ countFields packet by omega)]
    simp only [apply_ite some]

/-! ## `util.go` -/

section

variable {F : Type} [GoFloat F]

def parseLatLon (packet : Bytes) (latIndex lonIndex : Nat) : Option (Option (F × F)) := do
  let rawLat ← presentField packet latIndex
  let rawLon ← presentField packet lonIndex
  match (GoFloat.parseFloat rawLat : Option F) with
  | none => some none
  | some lat =>
      match (GoFloat.parseFloat rawLon : Option F) with
      | none => some none
      | some lon => some (some (lat, lon))

def parseVisRange (packet : Bytes) (index : Nat) : Option (Option F) := do
  let field ← presentField packet index
  match (GoFloat.parseFloat field : Option F) with
  | none => some none
  | some nauticalMiles => some (some (nauticalMiles * GoFloat.ofRat 1852))

theorem parseLatLon_eq {packet : Bytes} {latIndex lonIndex : Nat}
    (latBelow : latIndex < countFields packet) (lonBelow : lonIndex < countFields packet) :
    (parseLatLon packet latIndex lonIndex : Option (Option (F × F))) =
      some (Fsd.parseLatLon packet latIndex lonIndex) := by
  unfold parseLatLon Fsd.parseLatLon
  rw [presentField_eq latBelow, presentField_eq lonBelow]
  simp only [Option.bind_eq_bind, Option.bind_some]
  cases (GoFloat.parseFloat (Fsd.getField packet latIndex) : Option F) with
  | none => rfl
  | some lat => cases (GoFloat.parseFloat (Fsd.getField packet lonIndex) : Option F) <;> rfl

theorem parseVisRange_eq {packet : Bytes} {index : Nat} (below : index < countFields packet) :
    (parseVisRange packet index : Option (Option F)) = some (Fsd.parseVisRange packet index) := by
  unfold parseVisRange Fsd.parseVisRange
  rw [presentField_eq below]
  simp only [Option.bind_eq_bind, Option.bind_some]
  cases (GoFloat.parseFloat (Fsd.getField packet index) : Option F) <;> rfl

end

def extractFlightplanInfoSection (packet : Bytes) : Option Bytes := do
  let packetType ← getPacketType packet
  let rest ← match packetType with
    | .flightPlan => presentFields 2 packet
    | _ => presentFields 3 packet
  some (cutSuffix rest crlf).1

theorem extractFlightplanInfoSection_of_flightPlan {packet : Bytes} (long : 8 ≤ packet.length)
    (typed : Fsd.getPacketType packet = .flightPlan) (below : 2 < countFields packet) :
    extractFlightplanInfoSection packet = some (Fsd.extractFlightplanInfoSection packet) := by
  unfold extractFlightplanInfoSection Fsd.extractFlightplanInfoSection
  rw [getPacketType_eq long, typed]
  simp only [Option.bind_eq_bind, Option.bind_some, presentFields_eq below]

theorem extractFlightplanInfoSection_of_flightPlanAmendment {packet : Bytes}
    (long : 8 ≤ packet.length) (typed : Fsd.getPacketType packet = .flightPlanAmendment)
    (below : 3 < countFields packet) :
    extractFlightplanInfoSection packet = some (Fsd.extractFlightplanInfoSection packet) := by
  unfold extractFlightplanInfoSection Fsd.extractFlightplanInfoSection
  rw [getPacketType_eq long, typed]
  simp only [Option.bind_eq_bind, Option.bind_some, presentFields_eq below]

/-! ## `vatsimauth.go` -/

def runObfuscationRound (md5 : Bytes -> List.Vector UInt8 16) (state : VatsimAuthState)
    (curr : List.Vector UInt8 32) (challenge : Bytes) : Option (List.Vector UInt8 16) := do
  let firstHalf ← window challenge 0 (challenge.length / 2 : Nat)
  let secondHalf ← window challenge (challenge.length / 2 : Nat) challenge.length
  let c1 := if state.clientId &&& 1 = 1 then secondHalf else firstHalf
  let c2 := if state.clientId &&& 1 = 1 then firstHalf else secondHalf
  let s1 ← window curr.toList 0 12
  let s2 ← window curr.toList 12 22
  let s3 ← window curr.toList 22 32
  if state.clientId % 3 = 0 then some (md5 (s1 ++ c1 ++ s2 ++ c2 ++ s3))
  else if state.clientId % 3 = 1 then some (md5 (s2 ++ c1 ++ s3 ++ c2 ++ s1))
  else some (md5 (s3 ++ c1 ++ s1 ++ c2 ++ s2))

def getResponseForChallenge (md5 : Bytes -> List.Vector UInt8 16) (state : VatsimAuthState)
    (challenge : Bytes) : Option (List.Vector UInt8 32) :=
  (runObfuscationRound md5 state state.currAsHex challenge).map asHex

/-- A challenge of any length has two halves. -/
theorem runObfuscationRound_eq (md5 : Bytes -> List.Vector UInt8 16) (state : VatsimAuthState)
    (curr : List.Vector UInt8 32) (challenge : Bytes) :
    runObfuscationRound md5 state curr challenge =
      some (state.runObfuscationRound md5 curr challenge) := by
  have half : ((challenge.length / 2 : Nat) : Int) ≤ challenge.length := by omega
  have length := curr.toList_length
  have first := window_zero (by decide : (0 : Int) ≤ 12)
    (by omega : (12 : Int) ≤ curr.toList.length)
  have third : window curr.toList 22 32 = some (curr.toList.drop 22) := by
    have starts : ((22 : Nat) : Int) ≤ curr.toList.length := by omega
    have whole := window_length (Int.natCast_nonneg 22) starts
    rwa [length] at whole
  have second : window curr.toList 12 22 = some ((curr.toList.drop 12).take 10) := by
    unfold window Buffer.slice
    rw [if_pos (by omega), List.drop_take]
    rfl
  unfold runObfuscationRound VatsimAuthState.runObfuscationRound
  rw [window_zero (Int.natCast_nonneg _) half, window_length (Int.natCast_nonneg _) half, first,
    second, third]
  simp only [Option.bind_eq_bind, Option.bind_some, Int.toNat_natCast, apply_ite some]
  rfl

theorem getResponseForChallenge_eq (md5 : Bytes -> List.Vector UInt8 16) (state : VatsimAuthState)
    (challenge : Bytes) :
    getResponseForChallenge md5 state challenge =
      some (state.getResponseForChallenge md5 challenge) := by
  unfold getResponseForChallenge
  rw [runObfuscationRound_eq]
  rfl

/-! ## `handler.go` -/

section Handlers

variable {F : Type} [GoFloat F]

def handleTextMessage (s : Server F) (id : SessionId) (packet : Bytes) : Option (Server F) := do
  let recipient ← presentField packet 1
  if recipient = bytes "@49999" then
    if !(s.clients id).isAtc then some s
    else some (s.broadcastRangedAtcOnly id packet)
  else if hasPrefix recipient (bytes "@") then some (s.broadcastRanged id packet)
  else if recipient = bytes "*S" then some (s.broadcastAllSupervisors id packet)
  else if recipient = bytes "*" then
    if (s.clients id).networkRating < NetworkRatingSupervisor then some s
    else some (s.broadcastAll id packet)
  else if recipient = bytes "FP" then some s
  else if recipient = bytes "SERVER" then some s
  else some (s.sendDirectOrErr id recipient packet)

/-- The part of `handleATCPosition` after the facility type is stored. -/
def atcPositionUpdate (s : Server F) (now : Time) (id : SessionId) (packet : Bytes) :
    Option (Server F) := do
  let located ← parseLatLon packet 5 6
  match located with
  | none => some (s.sendError id SyntaxError (bytes "Invalid latitude/longitude"))
  | some center =>
      let ranged ← parseVisRange packet 3
      match ranged with
      | none => some (s.sendError id SyntaxError (bytes "Invalid visibility range"))
      | some visRange =>
          let moved := s.updatePosition id center visRange
          let relayed := moved.broadcastRanged id packet
          some (relayed.modifyClient id fun client => { client with lastUpdated := now })

def handleATCPosition (s : Server F) (now : Time) (id : SessionId) (packet : Bytes) :
    Option (Server F) := do
  let field ← presentField packet 2
  let facilityType := parseInt field 10 32
  if facilityType.err.isSome then
    some (s.sendError id SyntaxError (bytes "Invalid facility type"))
  else if !isAllowedFacilityType (s.clients id).networkRating facilityType.value then
    some ((s.sendError id InvalidPositionForRatingError
      (bytes "Invalid position for rating")).cancelCtx id)
  else
    atcPositionUpdate (s.modifyClient id fun client =>
      { client with facilityType := facilityType.value }) now id packet

/-- The fields that `handlePilotPosition` stores after its broadcast. -/
def storePilotFields (s : Server F) (now : Time) (id : SessionId) (packet : Bytes) :
    Option (Server F) := do
  let transponder ← presentField packet 2
  let rawGroundspeed ← presentField packet 7
  let rawAltitude ← presentField packet 6
  let rawPbh ← presentField packet 8
  let groundspeed := (atoi rawGroundspeed).value
  let altitude := (atoi rawAltitude).value
  let pbhUint := (parseUint rawPbh 10 32).value
  let heading : F := packedHeading pbhUint
  some (s.modifyClient id fun client => { client with
    transponder := transponder
    groundspeed := wrapInt32 groundspeed
    altitude := wrapInt32 altitude
    heading := wrapInt32 (GoFloat.truncate heading)
    lastUpdated := now })

def handlePilotPosition (s : Server F) (now : Time) (id : SessionId) (packet : Bytes) :
    Option (Server F) := do
  let located ← parseLatLon packet 4 5
  match located with
  | none => some (s.sendError id SyntaxError (bytes "Invalid latitude/longitude"))
  | some center =>
      let moved := s.updatePosition id center pilotVisRange
      let relayed := moved.broadcastRanged id packet
      let stored ← storePilotFields relayed now id packet
      some (stored.updateSendFast id)

def handleSquawkbox (s : Server F) (id : SessionId) (packet : Bytes) : Option (Server F) := do
  let recipient ← presentField packet 1
  some (s.sendDirectOrErr id recipient packet)

def handleProcontroller (s : Server F) (id : SessionId) (packet : Bytes) : Option (Server F) :=
  if !(s.clients id).isAtc then some s
  else do
    let recipient ← presentField packet 1
    if recipient.length < 2 then some (s.sendError id SyntaxError (bytes "Invalid recipient"))
    else
      let pcType ← presentField packet 3
      if pcType ∈ unprivilegedProcontrollerTypes then some (s.sendDirectOrErr id recipient packet)
      else if pcType ∈ privilegedProcontrollerTypes then
        if (s.clients id).facilityType ≤ 0 then
          some (s.sendError id InvalidControlError (bytes "Invalid control"))
        else
          let first ← item recipient 0
          if first = byte '@' then some (s.broadcastRangedAtcOnly id packet)
          else some (s.sendDirectOrErr id recipient packet)
      else some s

/-- `forwardClientQuery` -/
def forwardClientQuery (s : Server F) (id : SessionId) (packet : Bytes) : Option (Server F) := do
  let recipient ← presentField packet 1
  if recipient.length < 2 then
    some (s.sendError id NoSuchCallsignError (bytes "Invalid recipient"))
  else if recipient = bytes "@94835" then some (s.broadcastRangedAtcOnly id packet)
  else if recipient = bytes "@94836" then some (s.broadcastRanged id packet)
  else some (s.sendDirectOrErr id recipient packet)

def handleClientQueryATCRequest (s : Server F) (id : SessionId) (packet : Bytes) :
    Option (Server F) :=
  if countFields packet ≠ 4 then some (s.sendError id SyntaxError (bytes "Invalid ATC request"))
  else do
    let targetCallsign ← presentField packet 3
    match s.find targetCallsign with
    | none => some (s.sendError id NoSuchCallsignError (bytes "No such callsign"))
    | some target =>
        let answer := if 0 < (s.clients target).facilityType then bytes "Y" else bytes "N"
        some (s.sendTo id (bytes "$CRSERVER:" ++ (s.clients id).callsign ++ bytes ":ATC:" ++
          answer ++ [colon] ++ targetCallsign ++ crlf))

def handleClientQueryIPRequest (s : Server F) (id : SessionId) : Option (Server F) := do
  let ip ← item (splitByte colon (s.clients id).remoteAddr) 0
  some (s.sendTo id (bytes "$CRSERVER:" ++ (s.clients id).callsign ++ bytes ":IP:" ++ ip ++ crlf))

def handleClientQueryFlightplanRequest (s : Server F) (id : SessionId) (packet : Bytes) :
    Option (Server F) :=
  if !(s.clients id).isAtc then some s
  else if countFields packet ≠ 4 then
    some (s.sendError id SyntaxError (bytes "Invalid flightplan request syntax"))
  else do
    let targetCallsign ← presentField packet 3
    match s.find targetCallsign with
    | none =>
        some (s.sendError id NoSuchCallsignError (bytes "No such callsign: " ++ targetCallsign))
    | some target =>
        let fplInfo := (s.clients target).flightPlan
        if fplInfo = [] then some s
        else
          let stored := (s.clients target).assignedBeaconCode
          let beaconCode := if stored = [] then bytes "0" else stored
          some ((s.sendTo id
            (buildFileFlightplanPacket targetCallsign (bytes "*A") fplInfo)).sendTo id
              (buildBeaconCodePacket (bytes "server") (s.clients id).callsign targetCallsign
                beaconCode))

/-- The queries of `handleClientQuery` that are addressed to the server. -/
def handleServerQuery (s : Server F) (id : SessionId) (packet queryType : Bytes) :
    Option (Server F) :=
  if queryType = bytes "ATC" then handleClientQueryATCRequest s id packet
  else if queryType = bytes "IP" then handleClientQueryIPRequest s id
  else if queryType = bytes "FP" then handleClientQueryFlightplanRequest s id packet
  else some s

/-- The `INF` case of `handleClientQuery`. -/
def handleInfQuery (s : Server F) (id : SessionId) (packet recipient : Bytes) :
    Option (Server F) := do
  let packetType ← getPacketType packet
  if packetType = .clientQueryResponse then some (s.sendDirectOrErr id recipient packet)
  else if (s.clients id).networkRating < NetworkRatingSupervisor then
    some (s.sendError id InvalidControlError (bytes "Invalid control"))
  else forwardClientQuery s id packet

def handleClientQuery (s : Server F) (id : SessionId) (packet : Bytes) : Option (Server F) := do
  let recipient ← presentField packet 1
  let queryType ← presentField packet 2
  if recipient = bytes "SERVER" then handleServerQuery s id packet queryType
  else if queryType ∈ unprivilegedAtcQueries then
    if !(s.clients id).isAtc then
      some (s.sendError id InvalidControlError (bytes "Invalid control"))
    else forwardClientQuery s id packet
  else if queryType ∈ privilegedAtcQueries then
    if !(s.clients id).isAtc || decide ((s.clients id).facilityType ≤ 0) then
      some (s.sendError id InvalidControlError (bytes "Invalid control"))
    else forwardClientQuery s id packet
  else if queryType ∈ configurationQueries then forwardClientQuery s id packet
  else if queryType = bytes "INF" then handleInfQuery s id packet recipient
  else some s

def handleMetarRequest (s : Server F) (id : SessionId) (packet : Bytes) : Option (Server F) := do
  let recipient ← presentField packet 1
  let staticField ← presentField packet 2
  let icaoCode ← presentField packet 3
  if recipient ≠ bytes "SERVER" ∨ staticField ≠ bytes "METAR" then some s
  else some { s with events := s.events ++ [.metarRequest id icaoCode] }

def handleKillRequest (s : Server F) (id : SessionId) (packet : Bytes) : Option (Server F) :=
  if (s.clients id).networkRating < NetworkRatingSupervisor then some s
  else do
    let recipient ← presentField packet 1
    match s.find recipient with
    | none => some (s.sendError id NoSuchCallsignError (bytes "No such callsign"))
    | some victim => some (s.cancelCtx victim)

def handleAuthChallenge (s : Server F) (md5 : Bytes -> List.Vector UInt8 16) (id : SessionId)
    (packet : Bytes) : Option (Server F) :=
  match s.challengedState id with
  | none =>
      some (s.sendError id UnauthorizedSoftwareError
        (bytes "Cannot reply to auth challenge since no initial challenge was recieved"))
  | some authState => do
      let challenge ← presentField packet 2
      let resp ← getResponseForChallenge md5 authState challenge
      some ((s.modifyClient id fun client =>
        { client with authState := authState.updateState md5 resp }).sendTo id
          (bytes "$ZRSERVER:" ++ (s.clients id).callsign ++ [colon] ++ resp.toList ++ crlf))

def handleHandoff (s : Server F) (id : SessionId) (packet : Bytes) : Option (Server F) :=
  if !(s.clients id).isAtc || decide ((s.clients id).facilityType ≤ 1) then some s
  else do
    let recipient ← presentField packet 1
    some (s.sendDirectOrErr id recipient packet)

def handleFileFlightplan (s : Server F) (id : SessionId) (packet : Bytes) : Option (Server F) := do
  let fplInfo ← extractFlightplanInfoSection packet
  let stored := s.modifyClient id fun client => { client with flightPlan := fplInfo }
  some (stored.broadcastAllATC id
    (buildFileFlightplanPacket (s.clients id).callsign (bytes "*A") fplInfo))

def handleAmendFlightplan (s : Server F) (id : SessionId) (packet : Bytes) : Option (Server F) :=
  if !(s.clients id).isAtc || decide ((s.clients id).facilityType ≤ 0) then some s
  else do
    let fplInfo ← extractFlightplanInfoSection packet
    let targetCallsign ← presentField packet 2
    match s.find targetCallsign with
    | none =>
        some (s.sendError id NoSuchCallsignError (bytes "No such callsign: " ++ targetCallsign))
    | some target =>
        let stored := s.modifyClient target fun client => { client with flightPlan := fplInfo }
        some (stored.broadcastAllATC id
          (buildAmendFlightplanPacket (s.clients id).callsign (bytes "*A") targetCallsign fplInfo))

/-- `getHandler`, applied to the client and the packet.  Two handlers read
nothing in the packet. -/
def runHandler (s : Server F) (md5 : Bytes -> List.Vector UInt8 16) (now : Time)
    (packetType : PacketType) (id : SessionId) (packet : Bytes) : Option (Server F) :=
  match packetType with
  | .textMessage => handleTextMessage s id packet
  | .atcPosition => handleATCPosition s now id packet
  | .pilotPosition => handlePilotPosition s now id packet
  | .pilotPositionFast => some (s.handleFastPilotPosition id packet)
  | .pilotPositionSlow => some (s.handleFastPilotPosition id packet)
  | .pilotPositionStopped => some (s.handleFastPilotPosition id packet)
  | .deletePilot => some (s.handleDelete id packet)
  | .deleteATC => some (s.handleDelete id packet)
  | .squawkbox => handleSquawkbox s id packet
  | .proController => handleProcontroller s id packet
  | .clientQuery => handleClientQuery s id packet
  | .clientQueryResponse => handleClientQuery s id packet
  | .killRequest => handleKillRequest s id packet
  | .authChallenge => handleAuthChallenge s md5 id packet
  | .handoffRequest => handleHandoff s id packet
  | .handoffAccept => handleHandoff s id packet
  | .metarRequest => handleMetarRequest s id packet
  | .flightPlan => handleFileFlightplan s id packet
  | .flightPlanAmendment => handleAmendFlightplan s id packet
  | .unknown => some s

end Handlers

/-! ## Each handler on a packet with enough fields -/

section Fields

variable {F : Type} {packet : Bytes} (s : Server F) (id : SessionId)

theorem handleSquawkbox_eq (below : 1 < countFields packet) :
    handleSquawkbox s id packet = some (s.handleSquawkbox id packet) := by
  unfold handleSquawkbox Server.handleSquawkbox
  rw [presentField_eq below]
  rfl

/-- The request asks for its last field only when it has counted the fields. -/
theorem handleClientQueryATCRequest_eq (packet : Bytes) :
    handleClientQueryATCRequest s id packet = some (s.handleClientQueryATCRequest id packet) := by
  unfold handleClientQueryATCRequest Server.handleClientQueryATCRequest
  by_cases four : countFields packet = 4
  · rw [if_neg (not_not_intro four), if_neg (not_not_intro four), presentField_eq (by omega)]
    simp only [Option.bind_eq_bind, Option.bind_some]
    cases s.find (Fsd.getField packet 3) <;> rfl
  · rw [if_pos four, if_pos four]

theorem handleClientQueryIPRequest_eq :
    handleClientQueryIPRequest s id = some (s.handleClientQueryIPRequest id) := by
  unfold handleClientQueryIPRequest Server.handleClientQueryIPRequest
  rcases List.exists_cons_of_ne_nil (splitByte_ne_nil colon (s.clients id).remoteAddr) with
    ⟨ip, rest, split⟩
  rw [split, item_zero]
  rfl

theorem handleClientQueryFlightplanRequest_eq (packet : Bytes) :
    handleClientQueryFlightplanRequest s id packet =
      some (s.handleClientQueryFlightplanRequest id packet) := by
  unfold handleClientQueryFlightplanRequest Server.handleClientQueryFlightplanRequest
  by_cases four : countFields packet = 4
  · rw [if_neg (not_not_intro four), if_neg (not_not_intro four), presentField_eq (by omega)]
    simp only [Option.bind_eq_bind, Option.bind_some]
    cases s.find (Fsd.getField packet 3) <;> simp only [apply_ite some]
  · rw [if_pos four, if_pos four]
    simp only [apply_ite some]

theorem handleServerQuery_eq (packet queryType : Bytes) :
    handleServerQuery s id packet queryType = some (s.handleServerQuery id packet queryType) := by
  unfold handleServerQuery Server.handleServerQuery
  rw [handleClientQueryATCRequest_eq, handleClientQueryIPRequest_eq,
    handleClientQueryFlightplanRequest_eq]
  simp only [apply_ite some]

theorem handleMetarRequest_eq (below : 3 < countFields packet) :
    handleMetarRequest s id packet = some (s.handleMetarRequest id packet) := by
  unfold handleMetarRequest Server.handleMetarRequest
  rw [presentField_eq (by omega), presentField_eq (by omega), presentField_eq below]
  simp only [Option.bind_eq_bind, Option.bind_some, apply_ite some]

theorem handleKillRequest_eq (below : 1 < countFields packet) :
    handleKillRequest s id packet = some (s.handleKillRequest id packet) := by
  unfold handleKillRequest Server.handleKillRequest
  rw [presentField_eq below]
  simp only [Option.bind_eq_bind, Option.bind_some]
  cases s.find (Fsd.getField packet 1) <;> simp only [apply_ite some]

theorem handleAuthChallenge_eq (md5 : Bytes -> List.Vector UInt8 16)
    (below : 2 < countFields packet) :
    handleAuthChallenge s md5 id packet = some (s.handleAuthChallenge md5 id packet) := by
  unfold handleAuthChallenge Server.handleAuthChallenge
  cases s.challengedState id with
  | none => rfl
  | some authState =>
      dsimp only
      rw [presentField_eq below]
      simp only [Option.bind_eq_bind, Option.bind_some, getResponseForChallenge_eq]

theorem handleHandoff_eq (below : 1 < countFields packet) :
    handleHandoff s id packet = some (s.handleHandoff id packet) := by
  unfold handleHandoff Server.handleHandoff
  rw [presentField_eq below]
  simp only [Option.bind_eq_bind, Option.bind_some, apply_ite some]

theorem handleFileFlightplan_eq (long : 8 ≤ packet.length)
    (typed : Fsd.getPacketType packet = .flightPlan) (below : 2 < countFields packet) :
    handleFileFlightplan s id packet = some (s.handleFileFlightplan id packet) := by
  unfold handleFileFlightplan Server.handleFileFlightplan
  rw [extractFlightplanInfoSection_of_flightPlan long typed below]
  rfl

theorem handleAmendFlightplan_eq (long : 8 ≤ packet.length)
    (typed : Fsd.getPacketType packet = .flightPlanAmendment) (below : 3 < countFields packet) :
    handleAmendFlightplan s id packet = some (s.handleAmendFlightplan id packet) := by
  unfold handleAmendFlightplan Server.handleAmendFlightplan
  rw [extractFlightplanInfoSection_of_flightPlanAmendment long typed below,
    presentField_eq (by omega)]
  simp only [Option.bind_eq_bind, Option.bind_some]
  cases s.find (Fsd.getField packet 2) <;> simp only [apply_ite some]

variable [GoFloat F]

theorem handleTextMessage_eq (below : 1 < countFields packet) :
    handleTextMessage s id packet = some (s.handleTextMessage id packet) := by
  unfold handleTextMessage Server.handleTextMessage
  rw [presentField_eq below]
  simp only [Option.bind_eq_bind, Option.bind_some, apply_ite some]

theorem atcPositionUpdate_eq (now : Time) (below : 6 < countFields packet) :
    atcPositionUpdate s now id packet = some (s.atcPositionUpdate now id packet) := by
  unfold atcPositionUpdate Server.atcPositionUpdate
  rw [parseLatLon_eq (by omega) below, parseVisRange_eq (by omega)]
  simp only [Option.bind_eq_bind, Option.bind_some]
  cases (Fsd.parseLatLon packet 5 6 : Option (F × F)) with
  | none => rfl
  | some center => cases (Fsd.parseVisRange packet 3 : Option F) <;> rfl

theorem handleATCPosition_eq (now : Time) (below : 6 < countFields packet) :
    handleATCPosition s now id packet = some (s.handleATCPosition now id packet) := by
  unfold handleATCPosition Server.handleATCPosition
  rw [presentField_eq (by omega)]
  simp only [Option.bind_eq_bind, Option.bind_some, atcPositionUpdate_eq _ id now below,
    apply_ite some]

theorem storePilotFields_eq (now : Time) (below : 8 < countFields packet) :
    storePilotFields s now id packet = some (s.storePilotFields now id packet) := by
  unfold storePilotFields Server.storePilotFields
  rw [presentField_eq (by omega), presentField_eq (by omega), presentField_eq (by omega),
    presentField_eq below]
  rfl

theorem handlePilotPosition_eq (now : Time) (below : 8 < countFields packet) :
    handlePilotPosition s now id packet = some (s.handlePilotPosition now id packet) := by
  unfold handlePilotPosition Server.handlePilotPosition
  rw [parseLatLon_eq (by omega) (by omega)]
  simp only [Option.bind_eq_bind, Option.bind_some]
  cases (Fsd.parseLatLon packet 4 5 : Option (F × F)) with
  | none => rfl
  | some center =>
      dsimp only
      rw [storePilotFields_eq _ id now below]
      rfl

/-- A recipient of two bytes or more has a first one. -/
theorem handleProcontroller_eq (below : 3 < countFields packet) :
    handleProcontroller s id packet = some (s.handleProcontroller id packet) := by
  unfold handleProcontroller Server.handleProcontroller
  rw [presentField_eq (show 1 < countFields packet by omega), presentField_eq below]
  simp only [Option.bind_eq_bind, Option.bind_some]
  cases addressed : Fsd.getField packet 1 with
  | nil => simp only [List.length_nil, Nat.zero_lt_two, if_true, apply_ite some]
  | cons first rest =>
      have start : bytes "@" = [byte '@'] := rfl
      simp only [item_zero, List.head?_cons, Option.bind_some, List.take_succ_cons, List.take_zero,
        start, List.cons.injEq, and_true, apply_ite some]

theorem forwardClientQuery_eq (below : 1 < countFields packet) :
    forwardClientQuery s id packet = some (s.forwardClientQuery id packet) := by
  unfold forwardClientQuery Server.forwardClientQuery
  rw [presentField_eq below]
  simp only [Option.bind_eq_bind, Option.bind_some, apply_ite some]

theorem handleInfQuery_eq (long : 8 ≤ packet.length) (below : 1 < countFields packet)
    (recipient : Bytes) :
    handleInfQuery s id packet recipient = some (s.handleInfQuery id packet recipient) := by
  unfold handleInfQuery Server.handleInfQuery
  rw [getPacketType_eq long, forwardClientQuery_eq s id below]
  simp only [Option.bind_eq_bind, Option.bind_some, apply_ite some]

theorem handleClientQuery_eq (long : 8 ≤ packet.length) (below : 2 < countFields packet) :
    handleClientQuery s id packet = some (s.handleClientQuery id packet) := by
  have one : 1 < countFields packet := by omega
  unfold handleClientQuery Server.handleClientQuery
  rw [presentField_eq one, presentField_eq below]
  simp only [Option.bind_eq_bind, Option.bind_some, handleServerQuery_eq,
    forwardClientQuery_eq s id one, handleInfQuery_eq s id long one, apply_ite some]

end Fields

/-! ## Accepted packets -/

theorem below_of_minFields {packetType : PacketType} {packet : Bytes} {index : Nat}
    (fields : minFields packetType ≤ countFields packet) (small : (index : Int) < minFields packetType) :
    index < countFields packet := by
  omega

/-- The minimum of a type is enough for its handler. -/
theorem runHandler_eq {F : Type} [GoFloat F] (s : Server F)
    (md5 : Bytes -> List.Vector UInt8 16) (now : Time) {packetType : PacketType} {id : SessionId}
    {packet : Bytes}
    (accepted : Fsd.verifyPacket packet (s.clients id).callsign = .accepted packetType) :
    runHandler s md5 now packetType id packet = some (s.runHandler md5 now packetType id packet) := by
  rcases verifyPacket_accepted accepted with ⟨typed, long, _, fields⟩
  cases packetType with
  | unknown => rfl
  | textMessage => exact handleTextMessage_eq s id (below_of_minFields fields (by decide))
  | pilotPosition => exact handlePilotPosition_eq s id now (below_of_minFields fields (by decide))
  | pilotPositionFast => rfl
  | pilotPositionSlow => rfl
  | pilotPositionStopped => rfl
  | atcPosition => exact handleATCPosition_eq s id now (below_of_minFields fields (by decide))
  | deleteATC => rfl
  | deletePilot => rfl
  | clientQuery => exact handleClientQuery_eq s id long (below_of_minFields fields (by decide))
  | clientQueryResponse =>
      exact handleClientQuery_eq s id long (below_of_minFields fields (by decide))
  | proController => exact handleProcontroller_eq s id (below_of_minFields fields (by decide))
  | squawkbox => exact handleSquawkbox_eq s id (below_of_minFields fields (by decide))
  | metarRequest => exact handleMetarRequest_eq s id (below_of_minFields fields (by decide))
  | killRequest => exact handleKillRequest_eq s id (below_of_minFields fields (by decide))
  | authChallenge => exact handleAuthChallenge_eq s id md5 (below_of_minFields fields (by decide))
  | handoffRequest => exact handleHandoff_eq s id (below_of_minFields fields (by decide))
  | handoffAccept => exact handleHandoff_eq s id (below_of_minFields fields (by decide))
  | flightPlan =>
      exact handleFileFlightplan_eq s id long typed.symm (below_of_minFields fields (by decide))
  | flightPlanAmendment =>
      exact handleAmendFlightplan_eq s id long typed.symm (below_of_minFields fields (by decide))

end Checked

/-- Whatever is received, its checks index nothing outside it, and the handler
of an accepted packet finds every field that it asks for. -/
theorem accepted_packets_read_in_bounds (packet : Bytes) :
    (forall callsign, Checked.verifyPacket packet callsign = some (verifyPacket packet callsign)) ∧
      forall {F : Type} [GoFloat F] (s : Server F) (md5 : Bytes -> List.Vector UInt8 16) (now : Time)
        (packetType : PacketType) (id : SessionId),
        verifyPacket packet (s.clients id).callsign = .accepted packetType ->
          Checked.runHandler s md5 now packetType id packet =
            some (s.runHandler md5 now packetType id packet) :=
  ⟨Checked.verifyPacket_eq packet, fun s md5 now _ _ accepted =>
    Checked.runHandler_eq s md5 now accepted⟩

/-- A message from a client that is called `AAL1`. -/
theorem accepted_packets_read_in_bounds_sample :
    Checked.verifyPacket (bytes "#TMAAL1:BAW2:hi" ++ crlf) (bytes "AAL1") =
        some (.accepted .textMessage) ∧
      forall s : Server Real, (s.clients 0).callsign = bytes "AAL1" ->
        Checked.runHandler s (fun _ => List.Vector.replicate 16 0) 0 .textMessage 0
            (bytes "#TMAAL1:BAW2:hi" ++ crlf) =
          some (s.handleTextMessage 0 (bytes "#TMAAL1:BAW2:hi" ++ crlf)) := by
  have accepted : verifyPacket (bytes "#TMAAL1:BAW2:hi" ++ crlf) (bytes "AAL1") =
      .accepted .textMessage := by decide
  have bounds := accepted_packets_read_in_bounds (bytes "#TMAAL1:BAW2:hi" ++ crlf)
  refine ⟨(bounds.1 _).trans (congrArg some accepted), ?_⟩
  intro s named
  exact bounds.2 s _ 0 .textMessage 0 (by rw [named, accepted])

end Fsd
end OpenFsd
