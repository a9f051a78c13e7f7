import OpenFsd.Fsd.PostOffice

namespace OpenFsd
namespace Fsd

/-!
# Packet handlers

One definition for each handler of `handler.go`, and `processPacket` for one
turn of the event loop: check the packet, then run the handler of its type.
A handler is a function on the server state.  Handlers are given the MD5
function and the current time by their caller; everything else they read is
in the state.

The long `switch` statements over field texts are membership tests in lists
of the same texts.
-/

/-- The unprivileged message types of `handleProcontroller`. -/
def unprivilegedProcontrollerTypes : List Bytes :=
  [bytes "VER", bytes "ID", bytes "DI",
   bytes "IC", bytes "IK", bytes "IB", bytes "IO",
   bytes "OC", bytes "OK", bytes "OB", bytes "OO",
   bytes "MC", bytes "MK", bytes "MB", bytes "MO"]

/-- The privileged message types of `handleProcontroller`. -/
def privilegedProcontrollerTypes : List Bytes :=
  [bytes "IH", bytes "SC", bytes "GD", bytes "TA", bytes "FA", bytes "VT", bytes "BC",
   bytes "HC", bytes "PT", bytes "DP", bytes "ST"]

/-- The unprivileged ATC queries of `handleClientQuery`. -/
def unprivilegedAtcQueries : List Bytes :=
  [bytes "BY", bytes "HI", bytes "HLP", bytes "NOHLP", bytes "WH", bytes "NEWATIS",
   bytes "NEWINFO"]

/-- The privileged ATC queries of `handleClientQuery`. -/
def privilegedAtcQueries : List Bytes :=
  [bytes "IT", bytes "DR", bytes "HT", bytes "TA", bytes "FA", bytes "BC", bytes "SC",
   bytes "VT", bytes "EST", bytes "GD", bytes "IPC"]

/-- The aircraft configuration queries, allowed from any client. -/
def configurationQueries : List Bytes :=
  [bytes "ACC", bytes "CAPS", bytes "C?", bytes "RN", bytes "ATIS", bytes "SV"]

def extractFlightplanInfoSection (packet : Bytes) : Bytes :=
  let rest := match getPacketType packet with
    | .flightPlan => rebaseFields 2 packet
    | _ => rebaseFields 3 packet
  (cutSuffix rest crlf).1

/-- `pilotVisRange`, 50 nautical miles. -/
def pilotVisRange {F : Type} [GoFloat F] : F := GoFloat.ofRat (50 * 1852)

namespace Server

variable {F : Type} [GoFloat F]

def handleTextMessage (s : Server F) (id : SessionId) (packet : Bytes) : Server F :=
  let recipient := getField packet 1
  if recipient = bytes "@49999" then
    if !(s.clients id).isAtc then s
    else s.broadcastRangedAtcOnly id packet
  else if hasPrefix recipient (bytes "@") then s.broadcastRanged id packet
  else if recipient = bytes "*S" then s.broadcastAllSupervisors id packet
  else if recipient = bytes "*" then
    if (s.clients id).networkRating < NetworkRatingSupervisor then s
    else s.broadcastAll id packet
  else if recipient = bytes "FP" then s
  else if recipient = bytes "SERVER" then s
  else s.sendDirectOrErr id recipient packet

/-- The part of `handleATCPosition` after the facility type is stored. -/
def atcPositionUpdate (s : Server F) (now : Time) (id : SessionId) (packet : Bytes) : Server F :=
  match parseLatLon packet 5 6 with
  | none => s.sendError id SyntaxError (bytes "Invalid latitude/longitude")
  | some center =>
      match parseVisRange packet 3 with
      | none => s.sendError id SyntaxError (bytes "Invalid visibility range")
      | some visRange =>
          let moved := s.updatePosition id center visRange
          let relayed := moved.broadcastRanged id packet
          relayed.modifyClient id fun client => { client with lastUpdated := now }

def handleATCPosition (s : Server F) (now : Time) (id : SessionId) (packet : Bytes) : Server F :=
  let facilityType := parseInt (getField packet 2) 10 32
  if facilityType.err.isSome then
    s.sendError id SyntaxError (bytes "Invalid facility type")
  else if !isAllowedFacilityType (s.clients id).networkRating facilityType.value then
    (s.sendError id InvalidPositionForRatingError (bytes "Invalid position for rating")).cancelCtx id
  else
    (s.modifyClient id fun client =>
      { client with facilityType := facilityType.value }).atcPositionUpdate now id packet

/-- The fields that `handlePilotPosition` stores after its broadcast. -/
def storePilotFields (s : Server F) (now : Time) (id : SessionId) (packet : Bytes) : Server F :=
  let groundspeed := (atoi (getField packet 7)).value
  let altitude := (atoi (getField packet 6)).value
  let pbhUint := (parseUint (getField packet 8) 10 32).value
  let heading : F := packedHeading pbhUint
  s.modifyClient id fun client => { client with
    transponder := getField packet 2
    groundspeed := wrapInt32 groundspeed
    altitude := wrapInt32 altitude
    heading := wrapInt32 (GoFloat.truncate heading)
    lastUpdated := now }

/-- The send-fast decision at the end of `handlePilotPosition`. -/
def updateSendFast (s : Server F) (id : SessionId) : Server F :=
  let client := s.clients id
  let miles := client.closestVelocityClientDistance / GoFloat.ofRat 1852
  if client.protoRevision = 101 then
    if client.sendFastEnabled then
      if GoFloat.gt miles (GoFloat.ofRat 5) then
        (s.modifyClient id fun client => { client with sendFastEnabled := false }).sendTo id
          (sendFastPacket client.callsign false)
      else s
    else if GoFloat.lt miles (GoFloat.ofRat 5) then
      (s.modifyClient id fun client => { client with sendFastEnabled := true }).sendTo id
        (sendFastPacket client.callsign true)
    else s
  else s

def handlePilotPosition (s : Server F) (now : Time) (id : SessionId) (packet : Bytes) : Server F :=
  match parseLatLon packet 4 5 with
  | none => s.sendError id SyntaxError (bytes "Invalid latitude/longitude")
  | some center =>
      let moved := s.updatePosition id center pilotVisRange
      let relayed := moved.broadcastRanged id packet
      (relayed.storePilotFields now id packet).updateSendFast id

def handleFastPilotPosition (s : Server F) (id : SessionId) (packet : Bytes) : Server F :=
  s.broadcastRangedVelocity id packet

def handleDelete (s : Server F) (id : SessionId) (packet : Bytes) : Server F :=
  (s.broadcastAll id packet).cancelCtx id

def handleSquawkbox (s : Server F) (id : SessionId) (packet : Bytes) : Server F :=
  s.sendDirectOrErr id (getField packet 1) packet

def handleProcontroller (s : Server F) (id : SessionId) (packet : Bytes) : Server F :=
  if !(s.clients id).isAtc then s
  else
    let recipient := getField packet 1
    if recipient.length < 2 then s.sendError id SyntaxError (bytes "Invalid recipient")
    else
      let pcType := getField packet 3
      if pcType ∈ unprivilegedProcontrollerTypes then s.sendDirectOrErr id recipient packet
      else if pcType ∈ privilegedProcontrollerTypes then
        if (s.clients id).facilityType ≤ 0 then
          s.sendError id InvalidControlError (bytes "Invalid control")
        else if recipient.take 1 = bytes "@" then s.broadcastRangedAtcOnly id packet
        else s.sendDirectOrErr id recipient packet
      else s

/-- `forwardClientQuery` -/
def forwardClientQuery (s : Server F) (id : SessionId) (packet : Bytes) : Server F :=
  let recipient := getField packet 1
  if recipient.length < 2 then s.sendError id NoSuchCallsignError (bytes "Invalid recipient")
  else if recipient = bytes "@94835" then s.broadcastRangedAtcOnly id packet
  else if recipient = bytes "@94836" then s.broadcastRanged id packet
  else s.sendDirectOrErr id recipient packet

def handleClientQueryATCRequest (s : Server F) (id : SessionId) (packet : Bytes) : Server F :=
  if countFields packet ≠ 4 then s.sendError id SyntaxError (bytes "Invalid ATC request")
  else
    let targetCallsign := getField packet 3
    match s.find targetCallsign with
    | none => s.sendError id NoSuchCallsignError (bytes "No such callsign")
    | some target =>
        let answer := if 0 < (s.clients target).facilityType then bytes "Y" else bytes "N"
        s.sendTo id (bytes "$CRSERVER:" ++ (s.clients id).callsign ++ bytes ":ATC:" ++ answer ++
          [colon] ++ targetCallsign ++ crlf)

def handleClientQueryIPRequest (s : Server F) (id : SessionId) : Server F :=
  let ip := (splitByte colon (s.clients id).remoteAddr).headD []
  s.sendTo id (bytes "$CRSERVER:" ++ (s.clients id).callsign ++ bytes ":IP:" ++ ip ++ crlf)

def handleClientQueryFlightplanRequest (s : Server F) (id : SessionId) (packet : Bytes) : Server F :=
  if !(s.clients id).isAtc then s
  else if countFields packet ≠ 4 then
    s.sendError id SyntaxError (bytes "Invalid flightplan request syntax")
  else
    let targetCallsign := getField packet 3
    match s.find targetCallsign with
    | none => s.sendError id NoSuchCallsignError (bytes "No such callsign: " ++ targetCallsign)
    | some target =>
        let fplInfo := (s.clients target).flightPlan
        if fplInfo = [] then s
        else
          let stored := (s.clients target).assignedBeaconCode
          let beaconCode := if stored = [] then bytes "0" else stored
          (s.sendTo id (buildFileFlightplanPacket targetCallsign (bytes "*A") fplInfo)).sendTo id
            (buildBeaconCodePacket (bytes "server") (s.clients id).callsign targetCallsign beaconCode)

/-- The queries of `handleClientQuery` that are addressed to the server. -/
def handleServerQuery (s : Server F) (id : SessionId) (packet queryType : Bytes) : Server F :=
  if queryType = bytes "ATC" then s.handleClientQueryATCRequest id packet
  else if queryType = bytes "IP" then s.handleClientQueryIPRequest id
  else if queryType = bytes "FP" then s.handleClientQueryFlightplanRequest id packet
  else s

/-- The `INF` case of `handleClientQuery`. -/
def handleInfQuery (s : Server F) (id : SessionId) (packet recipient : Bytes) : Server F :=
  if getPacketType packet = .clientQueryResponse then s.sendDirectOrErr id recipient packet
  else if (s.clients id).networkRating < NetworkRatingSupervisor then
    s.sendError id InvalidControlError (bytes "Invalid control")
  else s.forwardClientQuery id packet

def handleClientQuery (s : Server F) (id : SessionId) (packet : Bytes) : Server F :=
  let recipient := getField packet 1
  let queryType := getField packet 2
  if recipient = bytes "SERVER" then s.handleServerQuery id packet queryType
  else if queryType ∈ unprivilegedAtcQueries then
    if !(s.clients id).isAtc then s.sendError id InvalidControlError (bytes "Invalid control")
    else s.forwardClientQuery id packet
  else if queryType ∈ privilegedAtcQueries then
    if !(s.clients id).isAtc || decide ((s.clients id).facilityType ≤ 0) then
      s.sendError id InvalidControlError (bytes "Invalid control")
    else s.forwardClientQuery id packet
  else if queryType ∈ configurationQueries then s.forwardClientQuery id packet
  else if queryType = bytes "INF" then s.handleInfQuery id packet recipient
  else s

def handleMetarRequest (s : Server F) (id : SessionId) (packet : Bytes) : Server F :=
  let recipient := getField packet 1
  let staticField := getField packet 2
  let icaoCode := getField packet 3
  if recipient ≠ bytes "SERVER" ∨ staticField ≠ bytes "METAR" then s
  else { s with events := s.events ++ [.metarRequest id icaoCode] }

def handleKillRequest (s : Server F) (id : SessionId) (packet : Bytes) : Server F :=
  if (s.clients id).networkRating < NetworkRatingSupervisor then s
  else
    match s.find (getField packet 1) with
    | none => s.sendError id NoSuchCallsignError (bytes "No such callsign")
    | some victim => s.cancelCtx victim

/-- The authentication state on which `GetResponseForChallenge` is run for a
client, if it is run at all. -/
def challengedState (s : Server F) (id : SessionId) : Option VatsimAuthState :=
  if (s.clients id).clientChallenge = [] then none else some (s.clients id).authState

def handleAuthChallenge (s : Server F) (md5 : Bytes -> List.Vector UInt8 16) (id : SessionId)
    (packet : Bytes) : Server F :=
  match s.challengedState id with
  | none =>
      s.sendError id UnauthorizedSoftwareError
        (bytes "Cannot reply to auth challenge since no initial challenge was recieved")
  | some authState =>
      let challenge := getField packet 2
      let resp := authState.getResponseForChallenge md5 challenge
      (s.modifyClient id fun client =>
        { client with authState := authState.updateState md5 resp }).sendTo id
          (bytes "$ZRSERVER:" ++ (s.clients id).callsign ++ [colon] ++ resp.toList ++ crlf)

def handleHandoff (s : Server F) (id : SessionId) (packet : Bytes) : Server F :=
  if !(s.clients id).isAtc || decide ((s.clients id).facilityType ≤ 1) then s
  else s.sendDirectOrErr id (getField packet 1) packet

def handleFileFlightplan (s : Server F) (id : SessionId) (packet : Bytes) : Server F :=
  let fplInfo := extractFlightplanInfoSection packet
  let stored := s.modifyClient id fun client => { client with flightPlan := fplInfo }
  stored.broadcastAllATC id (buildFileFlightplanPacket (s.clients id).callsign (bytes "*A") fplInfo)

def handleAmendFlightplan (s : Server F) (id : SessionId) (packet : Bytes) : Server F :=
  if !(s.clients id).isAtc || decide ((s.clients id).facilityType ≤ 0) then s
  else
    let fplInfo := extractFlightplanInfoSection packet
    let targetCallsign := getField packet 2
    match s.find targetCallsign with
    | none => s.sendError id NoSuchCallsignError (bytes "No such callsign: " ++ targetCallsign)
    | some target =>
        let stored := s.modifyClient target fun client => { client with flightPlan := fplInfo }
        stored.broadcastAllATC id
          (buildAmendFlightplanPacket (s.clients id).callsign (bytes "*A") targetCallsign fplInfo)

/-- `getHandler`, applied to the client and the packet. -/
def runHandler (s : Server F) (md5 : Bytes -> List.Vector UInt8 16) (now : Time)
    (packetType : PacketType) (id : SessionId) (packet : Bytes) : Server F :=
  match packetType with
  | .textMessage => s.handleTextMessage id packet
  | .atcPosition => s.handleATCPosition now id packet
  | .pilotPosition => s.handlePilotPosition now id packet
  | .pilotPositionFast => s.handleFastPilotPosition id packet
  | .pilotPositionSlow => s.handleFastPilotPosition id packet
  | .pilotPositionStopped => s.handleFastPilotPosition id packet
  | .deletePilot => s.handleDelete id packet
  | .deleteATC => s.handleDelete id packet
  | .squawkbox => s.handleSquawkbox id packet
  | .proController => s.handleProcontroller id packet
  | .clientQuery => s.handleClientQuery id packet
  | .clientQueryResponse => s.handleClientQuery id packet
  | .killRequest => s.handleKillRequest id packet
  | .authChallenge => s.handleAuthChallenge md5 id packet
  | .handoffRequest => s.handleHandoff id packet
  | .handoffAccept => s.handleHandoff id packet
  | .metarRequest => s.handleMetarRequest id packet
  | .flightPlan => s.handleFileFlightplan id packet
  | .flightPlanAmendment => s.handleAmendFlightplan id packet
  | .unknown => s

/-- One turn of the event loop: verify the packet, then run its handler. -/
def processPacket (s : Server F) (md5 : Bytes -> List.Vector UInt8 16) (now : Time)
    (id : SessionId) (packet : Bytes) : Server F :=
  match verifyPacket packet (s.clients id).callsign with
  | .refused code message => s.sendError id code message
  | .accepted packetType => s.runHandler md5 now packetType id packet

theorem processPacket_of_accepted {s : Server F} {md5 : Bytes -> List.Vector UInt8 16} {now : Time}
    {id : SessionId} {packet : Bytes} {packetType : PacketType}
    (accepted : verifyPacket packet (s.clients id).callsign = .accepted packetType) :
    s.processPacket md5 now id packet = s.runHandler md5 now packetType id packet := by
  unfold processPacket
  rw [accepted]

end Server
end Fsd
end OpenFsd
