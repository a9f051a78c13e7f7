import OpenFsd.Fsd.Handler
import OpenFsd.Fsd.Jwt
import OpenFsd.Db.Repository

namespace OpenFsd
namespace Fsd

open Db

/-!
# The login of a connection

`handleConn` up to the registration: two lines are read and parsed, the
callsign is checked, the client is authenticated by token or by password, and
the post office takes it unless its callsign is in use.  Every exit is a
value of `LoginResult`; an error is the packet that is written to the socket,
if there is one.
-/

abbrev LoginResult (X : Type) := Except (Option Bytes) X

/-- Stop the login with an error packet. -/
def refuse {X : Type} (code : Int) (message : String) : LoginResult X :=
  .error (some (errorPacket code (bytes message)))

/-- Continue only if the condition holds. -/
def require (condition : Bool) (code : Int) (message : String) : LoginResult Unit :=
  if condition then .ok () else refuse code message

/-- A line that the scanner returned. -/
def scanned (line : Option Bytes) (message : String) : LoginResult Bytes :=
  match line with
  | none => refuse SyntaxError message
  | some packet => .ok packet

/-- A field that must be a decimal number. -/
def numericField (packet : Bytes) (index : Nat) (message : String) : LoginResult Int :=
  if (atoi (getField packet index)).err.isSome then refuse SyntaxError message
  else .ok (atoi (getField packet index)).value

theorem bind_eq_ok {X Y : Type} {first : LoginResult X} {next : X -> LoginResult Y} {result : Y} :
    (first >>= next) = .ok result ↔ Exists fun value => first = .ok value ∧ next value = .ok result := by
  cases first with
  | error sent =>
      constructor
      · intro impossible
        cases impossible
      · rintro ⟨value, impossible, _⟩
        cases impossible
  | ok value =>
      constructor
      · intro done
        exact ⟨value, rfl, done⟩
      · rintro ⟨same, equal, done⟩
        cases equal
        exact done

theorem refuse_ne_ok {X : Type} {code : Int} {message : String} {result : X} :
    (refuse code message : LoginResult X) ≠ .ok result := by
  intro impossible
  cases impossible

theorem require_eq_ok {condition : Bool} {code : Int} {message : String} :
    require condition code message = .ok () ↔ condition = true := by
  cases condition
  · exact ⟨fun impossible => (by cases impossible), fun impossible => (by cases impossible)⟩
  · exact ⟨fun _ => rfl, fun _ => rfl⟩

/-- The packet of `sendServerIdent`, before anything is read. -/
def serverIdent : Bytes :=
  bytes "$DISERVER:CLIENT:openfsd:6f70656e667364" ++ crlf

/-! ## Reading the two lines -/

/-- The challenge and the client ID of the ident packet, when it has a
challenge field. -/
def readChallenge (idPacket : Bytes) : LoginResult (Bytes × UInt16) :=
  if countFields idPacket = 9 then
    let clientId := parseUint (getField idPacket 2) 16 16
    if clientId.err.isSome then refuse SyntaxError "Error parsing client ID"
    else .ok (getField idPacket 8, UInt16.ofNat clientId.value)
  else .ok ([], 0)

/-- The client type, from the prefix of the add packet. -/
def readClientType (addPacket : Bytes) : LoginResult Bool :=
  if addPacket.take 3 = bytes "#AA" then .ok true
  else if addPacket.take 3 = bytes "#AP" then .ok false
  else refuse SyntaxError "Invalid add packet prefix"

/-- The callsign, from the first field of the add packet. -/
def readCallsign (addPacket : Bytes) (isAtc : Bool) : LoginResult Bytes :=
  let (callsign, found) := cutPrefix (getField addPacket 0) (if isAtc then bytes "#AA" else bytes "#AP")
  if found then .ok callsign else refuse SyntaxError "Invalid callsign in add packet"

/-- What the two layouts of the add packet have in common. -/
structure AddFields where
  realName : Bytes
  cid : Int
  token : Bytes
  networkRating : NetworkRating
  protoRevision : Int

/-- The fields of an ATC add packet. -/
def readAtcFields (addPacket : Bytes) : LoginResult AddFields := do
  let cid ← numericField addPacket 3 "Invalid CID in ATC add packet"
  let networkRating ← numericField addPacket 5 "Invalid network rating in pilot add packet"
  let protoRevision ← numericField addPacket 6 "Invalid protocol revision in ATC add packet"
  .ok ⟨getField addPacket 2, cid, getField addPacket 4, networkRating, protoRevision⟩

/-- The fields of a pilot add packet. -/
def readPilotFields (addPacket : Bytes) : LoginResult AddFields := do
  let cid ← numericField addPacket 2 "Invalid CID in pilot add packet"
  let networkRating ← numericField addPacket 4 "Invalid network rating in pilot add packet"
  let protoRevision ← numericField addPacket 5 "Invalid protocol revision in pilot add packet"
  .ok ⟨getField addPacket 7, cid, getField addPacket 3, networkRating, protoRevision⟩

def readFields (addPacket : Bytes) (isAtc : Bool) : LoginResult AddFields :=
  if isAtc then readAtcFields addPacket else readPilotFields addPacket

/-- `readLoginPackets`: the login data, and the token beside it. -/
def readLoginPackets (now : Time) (idLine addLine : Option Bytes) : LoginResult (LoginData × Bytes) := do
  let idPacket ← scanned idLine "Error reading Client ident packet"
  let addPacket ← scanned addLine "Error reading add packet"
  let challenge ← readChallenge idPacket
  require (decide (16 ≤ addPacket.length)) SyntaxError "Invalid add packet"
  let isAtc ← readClientType addPacket
  require (decide (countFields addPacket = if isAtc then 7 else 8)) SyntaxError
    (if isAtc then "Invalid number of fields in ATC add packet"
      else "Invalid number of fields in pilot add packet")
  let callsign ← readCallsign addPacket isAtc
  let fields ← readFields addPacket isAtc
  require (decide (100 ≤ fields.protoRevision) && decide (fields.protoRevision ≤ 101))
    InvalidProtocolRevisionError "Invalid protocol revision"
  .ok ({
    clientChallenge := challenge.1
    callsign := callsign
    cid := fields.cid
    realName := fields.realName
    networkRating := fields.networkRating
    maxNetworkRating := 0
    protoRevision := fields.protoRevision
    loginTime := now
    clientId := challenge.2
    isAtc := isAtc }, fields.token)

/-! ## Authentication -/

/-- What a login meets outside the program. -/
structure LoginEnv where
  now : Time
  remoteAddr : Bytes
  getConfigFails : Bool
  getUserFails : Bool
  /-- The choices of `Client.send` after the end of the session's context. -/
  takesDone : Nat -> Bool

variable {F : Type} [GoFloat F]

/-- The check of the client software: a challenge needs a known client ID. -/
def initializeChallenge (P : Platform) (client : Client F) : LoginResult (Client F) :=
  if client.clientChallenge = [] then .ok client
  else
    match client.authState.initializeAuth P.md5 client.clientId client.clientChallenge with
    | none => refuse UnauthorizedSoftwareError "Client incompatible with auth challenges"
    | some authState => .ok { client with authState := authState }

/-- The checks of the claimed rating, which both branches make. -/
def checkRating (networkRating limit : NetworkRating) : LoginResult Unit := do
  require (!decide (limit < networkRating)) RequestedLevelTooHighError "Requested level too high"
  require (!decide (networkRating < NetworkRatingObserver)) CertificateSuspendedError
    "Certificate inactive or suspended"

/-- The branch of `attemptAuthentication` for a token: the rating in it. -/
def authenticateToken (P : Platform) (env : LoginEnv) (database : Database) (client : Client F)
    (token : Bytes) : LoginResult NetworkRating := do
  match database.getConfig env.getConfigFails configJwtSecretKey with
  | .error _ => .error none
  | .ok jwtSecret =>
      match parseJwtToken P env.now token jwtSecret with
      | none => refuse InvalidLogonError "Invalid CID/password"
      | some claims =>
          require (decide (claims.tokenType = bytes "fsd")) InvalidLogonError "Invalid CID/password"
          require (decide (client.cid = claims.cid)) RequestedLevelTooHighError "Invalid CID/password"
          checkRating client.networkRating claims.networkRating
          .ok claims.networkRating

/-- The branch of `attemptAuthentication` for a password: the stored rating. -/
def authenticatePassword (P : Platform) (env : LoginEnv) (database : Database) (client : Client F)
    (password : Bytes) : LoginResult NetworkRating := do
  match database.getUserByCID env.getUserFails client.cid with
  | .error _ => refuse InvalidLogonError "Invalid CID/password"
  | .ok user =>
      require (verifyPasswordHash P password user.password) InvalidLogonError "Invalid CID/password"
      checkRating client.networkRating user.networkRating
      .ok user.networkRating

/-- The two branches of `attemptAuthentication`. -/
def authenticate (P : Platform) (env : LoginEnv) (database : Database) (client : Client F)
    (token : Bytes) : LoginResult NetworkRating :=
  if mostLikelyJwt P token then authenticateToken P env database client token
  else authenticatePassword P env database client token

def attemptAuthentication (P : Platform) (env : LoginEnv) (database : Database) (client : Client F)
    (token : Bytes) : LoginResult (Client F) := do
  let challenged ← initializeChallenge P client
  let maxNetworkRating ← authenticate P env database challenged token
  .ok { challenged with maxNetworkRating := maxNetworkRating }

/-- `handleConn` before the registration. -/
def login (P : Platform) (env : LoginEnv) (database : Database) (idLine addLine : Option Bytes) :
    LoginResult (Client F) := do
  let data ← readLoginPackets env.now idLine addLine
  require (isValidClientCallsign data.1.callsign) CallsignInvalidError "Callsign invalid"
  attemptAuthentication P env database (newClient env.remoteAddr data.1 env.takesDone) data.2

namespace Server

/-- Allocate the client of a new session. -/
def allocate (s : Server F) (id : SessionId) (client : Client F) : Server F :=
  s.modifyClient id fun _ => client

/-- `handleConn` up to and including the registration. -/
def connect (s : Server F) (P : Platform) (env : LoginEnv) (database : Database) (id : SessionId)
    (idLine addLine : Option Bytes) : LoginResult (Server F) := do
  let client ← login P env database idLine addLine
  match (s.allocate id client).register id with
  | none => refuse CallsignInUseError "Callsign already in use"
  | some registered => .ok registered

/-- The packet of `sendServerTextMessage`. -/
def serverTextMessage (client : Client F) (message : Bytes) : Bytes :=
  bytes "#TMserver:" ++ client.callsign ++ [colon] ++ message ++ crlf

/-- The packets that `sendMotd` writes to the socket of a registered client. -/
def motdPackets (database : Database) (getConfigFails : Bool) (client : Client F) : List Bytes :=
  let welcomeMsg := database.getWelcomeMessage getConfigFails
  if welcomeMsg ≠ [] then (splitByte lineFeed welcomeMsg).map (serverTextMessage client)
  else [serverTextMessage client (bytes "Connected to openfsd")]

/-- The packet of `broadcastAddPacket`. -/
def addPacket (client : Client F) : Bytes :=
  if client.isAtc then
    bytes "#AA" ++ client.callsign ++ bytes ":SERVER:" ++ client.realName ++ [colon] ++
      itoa client.cid ++ bytes "::" ++ itoa client.networkRating ++ [colon] ++
      itoa client.protoRevision ++ crlf
  else
    bytes "#AP" ++ client.callsign ++ bytes ":SERVER:" ++ itoa client.cid ++ bytes "::" ++
      itoa client.networkRating ++ [colon] ++ itoa client.protoRevision ++ bytes ":1:" ++
      client.realName ++ crlf

def broadcastAddPacket (s : Server F) (id : SessionId) : Server F :=
  s.broadcastAll id (addPacket (s.clients id))

/-- The packet of `broadcastDisconnectPacket`. -/
def disconnectPacket (client : Client F) : Bytes :=
  (if client.isAtc then bytes "#DA" else bytes "#DP") ++ client.callsign ++ bytes ":SERVER:" ++
    itoa client.cid ++ crlf

def broadcastDisconnectPacket (s : Server F) (id : SessionId) : Server F :=
  s.broadcastAll id (disconnectPacket (s.clients id))

end Server
end Fsd
end OpenFsd
