import OpenFsd.Library.Interleaving
import OpenFsd.Db.DefaultConfig
import OpenFsd.Fsd.HttpService
import OpenFsd.Web.FsdConn
import OpenFsd.Web.Server

namespace OpenFsd
namespace Web
namespace Steps

open Db Fsd Interleaving

/-!
# The requests, one database step at a time

The handlers around tokens as programs whose calls are the statements they
execute, and the signatures they make and check.  Executed without
interruption, each of them is the handler of the other modules.  Whether a
statement fails is part of the call, so a program is one for all failures.
-/

inductive Call
  | getConfig (fails : Bool) (key : Bytes)
  | setConfig (fails : Bool) (key value : Bytes)
  | setConfigIfNotExists (fails : Bool) (key value : Bytes)
  | getUserByCID (fails : Bool) (cid : Int)
  | signedString (claims : CustomClaims) (secretKey : Bytes)
  | parseJwtToken (now : Time) (rawToken secretKey : Bytes)

abbrev Answer : Call -> Type
  | .getConfig _ _ => Except DbError Bytes
  | .setConfig _ _ _ => Except DbError Unit
  | .setConfigIfNotExists _ _ _ => Except DbError Unit
  | .getUserByCID _ _ => Except DbError User
  | .signedString _ _ => Option Bytes
  | .parseJwtToken _ _ _ => Option CustomClaims

/-- The outcome of a statement that writes. -/
def executed (database : Database) : Except DbError Database -> Except DbError Unit × Database
  | .error reason => (.error reason, database)
  | .ok written => (.ok (), written)

def exec (P : Platform) (database : Database) : (call : Call) -> Answer call × Database
  | .getConfig fails key => (database.getConfig fails key, database)
  | .setConfig fails key value => executed database (database.setConfig fails key value)
  | .setConfigIfNotExists fails key value =>
      executed database (database.setConfigIfNotExists fails key value)
  | .getUserByCID fails cid => (database.getUserByCID fails cid, database)
  | .signedString claims secretKey => (P.signedString claims secretKey, database)
  | .parseJwtToken now rawToken secretKey => (parseJwtToken P now rawToken secretKey, database)

abbrev Flow (X : Type) := Prog Answer X

/-! ## The token endpoints -/

/-- Make and sign a token for a user. -/
def makeUserToken (env : Env) (uuid : Option Bytes) (tokenType : Bytes) (user : User)
    (validityDuration : Time) (jwtSecret : Bytes) : Flow (Option Bytes) :=
  match makeJwtToken env.now uuid (userFields tokenType user) validityDuration with
  | none => .done none
  | some claims => .call (.signedString claims jwtSecret) .done

def makeAccessToken (env : Env) (user : User) (jwtSecret : Bytes) : Flow (Option Bytes) :=
  makeUserToken env (env.uuid 0) (bytes "access") user (15 * 60) jwtSecret

def makeRefreshToken (env : Env) (user : User) (rememberMe : Bool) (jwtSecret : Bytes) :
    Flow (Option Bytes) :=
  makeUserToken env (env.uuid 1) (bytes "refresh") user
    (if rememberMe then 24 * 3600 * 30 else 24 * 3600) jwtSecret

def makeAccessRefreshTokens (env : Env) (user : User) (rememberMe : Bool) :
    Flow (Option (Bytes × Bytes)) :=
  .call (.getConfig (env.getConfigFails configJwtSecretKey) configJwtSecretKey) fun
    | .error _ => .done none
    | .ok jwtSecret =>
        (makeAccessToken env user jwtSecret).bind fun
          | none => .done none
          | some access =>
              (makeRefreshToken env user rememberMe jwtSecret).bind fun
                | none => .done none
                | some refresh => .done (some (access, refresh))

def getAccessRefreshTokens (P : Platform) (env : Env) (body : Option LoginBody) : Flow Response :=
  match bindBody body LoginBody.accepted with
  | none => .done Response.invalidJSON
  | some reqBody =>
      .call (.getUserByCID env.getUserFails reqBody.cid) fun
        | .error _ => .done badCidOrPassword
        | .ok user =>
            if !verifyPasswordHash P reqBody.password user.password then .done badCidOrPassword
            else
              (makeAccessRefreshTokens env user reqBody.rememberMe).bind fun
                | none => .done Response.internalServerError
                | some (access, refresh) => .done (Response.ok 200 (.tokens access refresh))

def refreshAccessToken (env : Env) (body : Option Bytes) : Flow Response :=
  match bindBody body (fun refreshToken => decide (refreshToken ≠ [])) with
  | none => .done Response.invalidJSON
  | some refreshToken =>
      .call (.getConfig (env.getConfigFails configJwtSecretKey) configJwtSecretKey) fun
        | .error _ => .done Response.internalServerError
        | .ok jwtSecret =>
            .call (.parseJwtToken env.now refreshToken jwtSecret) fun
              | none => .done badToken
              | some claims =>
                  if claims.tokenType ≠ bytes "refresh" then .done badToken
                  else
                    .call (.getUserByCID env.getUserFails claims.cid) fun
                      | .error _ => .done badToken
                      | .ok user =>
                          (makeAccessToken env user jwtSecret).bind fun
                            | none => .done Response.internalServerError
                            | some access => .done (Response.ok 200 (.accessToken access))

def makeFsdToken (env : Env) (user : User) : Flow Response :=
  match makeJwtToken env.now (env.uuid 0) (userFields (bytes "fsd") user) (5 * 60) with
  | none => .done ⟨500, .fsdFailure (bytes "Internal server error")⟩
  | some claims =>
      .call (.getConfig (env.getConfigFails configJwtSecretKey) configJwtSecretKey) fun
        | .error _ => .done Response.internalServerError
        | .ok jwtSecret =>
            .call (.signedString claims jwtSecret) fun
              | none => .done ⟨500, .fsdFailure (bytes "Internal server error")⟩
              | some token => .done ⟨200, .fsdToken token⟩

def getFsdJwt (env : Env) (body : Option FsdJwtBody) : Flow Response :=
  match bindBody body FsdJwtBody.accepted with
  | none => .done ⟨200, .empty⟩
  | some reqBody =>
      let cid := atoi reqBody.cid
      if cid.err.isSome || decide (cid.value < 1) then
        .done ⟨400, .fsdFailure (bytes "Invalid CID")⟩
      else
        .call (.getUserByCID env.getUserFails cid.value) fun
          | .error .noRows => .done ⟨401, .fsdFailure (bytes "Invalid CID and/or password")⟩
          | .error _ => .done ⟨500, .fsdFailure (bytes "Internal server error")⟩
          | .ok user =>
              if user.networkRating ≤ NetworkRatingSuspended then
                .done ⟨403, .fsdFailure (bytes "Certificate suspended or inactive")⟩
              else makeFsdToken env user

def jwtBearerMiddleware (env : Env) (authorization : Bytes) : Flow (Except Response CustomClaims) :=
  let (authHeader, found) := cutPrefix authorization (bytes "Bearer ")
  if !found then .done (.error (Response.fail 400 "bad bearer token"))
  else
    .call (.getConfig env.bearerConfigFails configJwtSecretKey) fun
      | .error _ => .done (.error Response.internalServerError)
      | .ok jwtSecret =>
          .call (.parseJwtToken env.now authHeader jwtSecret) fun
            | none => .done (.error (Response.fail 401 "invalid bearer token"))
            | some claims =>
                if claims.tokenType ≠ bytes "access" then
                  .done (.error (Response.fail 401 "invalid token type"))
                else .done (.ok claims)

/-- Run a handler behind the bearer middleware. -/
def withBearer (env : Env) (authorization : Bytes) (handler : CustomClaims -> Flow Response) :
    Flow Response :=
  (jwtBearerMiddleware env authorization).bind fun
    | .error response => .done response
    | .ok claims => handler claims

/-! ## The configuration -/

def handleCreateNewAPIToken (env : Env) (claims : CustomClaims) (body : Option Time) :
    Flow Response :=
  if claims.networkRating < NetworkRatingAdministator then .done Response.forbidden
  else
    match bindBody body (fun expiry => decide (expiry ≠ zeroTime)) with
    | none => .done Response.invalidJSON
    | some expiryDateTime =>
        if expiryDateTime < env.now then
          .done (Response.fail 400 "expiry_date_time cannot be in the past")
        else
          match makeJwtToken env.now (env.uuid 0)
              ⟨bytes "access", claims.cid, [], [], NetworkRatingAdministator⟩
              (timeSub expiryDateTime env.now) with
          | none => .done Response.internalServerError
          | some tokenClaims =>
              .call (.getConfig (env.getConfigFails configJwtSecretKey) configJwtSecretKey) fun
                | .error _ => .done Response.internalServerError
                | .ok secretKey =>
                    .call (.signedString tokenClaims secretKey) fun
                      | none => .done Response.internalServerError
                      | some token => .done (Response.ok 201 (.apiToken token))

/-- The loop of `handleUpdateConfig`. -/
def writeConfig (env : Env) : Nat -> List (Bytes × Bytes) -> Flow Bool
  | _, [] => .done true
  | call, (key, value) :: rest =>
      .call (.setConfig (env.setConfigFails call) key value) fun
        | .error _ => .done false
        | .ok _ => writeConfig env (call + 1) rest

def handleUpdateConfig (env : Env) (claims : CustomClaims)
    (body : Option (Option (List (Bytes × Bytes)))) : Flow Response :=
  if claims.networkRating < NetworkRatingAdministator then .done Response.forbidden
  else
    match bindBody body Option.isSome with
    | none => .done Response.invalidJSON
    | some reqBody =>
        (writeConfig env 0 (reqBody.getD [])).bind fun written =>
          .done (if written then Response.ok 200 .none
            else Response.fail 500 "Error writing key/value into persistent storage")

def handleResetSecretKey (env : Env) (claims : CustomClaims) : Flow Response :=
  if claims.networkRating < NetworkRatingAdministator then .done Response.forbidden
  else
    match env.secretKey with
    | none => .done Response.internalServerError
    | some secretKey =>
        .call (.setConfig (env.setConfigFails 0) configJwtSecretKey secretKey) fun
          | .error _ => .done Response.internalServerError
          | .ok _ => .done (Response.ok 200 .none)

/-- The loop of `InitDefaultConfig`. -/
def writeDefaults (env : InitEnv) : Nat -> List (Bytes × Bytes) -> Flow (Except DbError Unit)
  | _, [] => .done (.ok ())
  | call, (key, value) :: rest =>
      .call (.setConfigIfNotExists (env.setConfigFails call) key value) fun
        | .error reason => .done (.error reason)
        | .ok _ => writeDefaults env (call + 1) rest

/-- `InitDefaultConfig` -/
def initDefaultConfig (env : InitEnv) : Flow (Except DbError Unit) :=
  match env.secretKey with
  | none => .done (.error .failed)
  | some secretKey => writeDefaults env 0 (env.order secretKey)

/-! ## The internal service -/

def makeFsdHttpServiceHttpRequest (env : Env) (newRequestFails : Bool) : Flow (Option Bytes) :=
  match makeJwtToken env.now (env.uuid 0) serviceFields (15 * 60) with
  | none => .done none
  | some token =>
      .call (.getConfig (env.getConfigFails configJwtSecretKey) configJwtSecretKey) fun
        | .error _ => .done none
        | .ok secretKey =>
            .call (.signedString token secretKey) fun
              | none => .done none
              | some tokenStr =>
                  .done (if newRequestFails then none else some (bytes "Bearer " ++ tokenStr))

/-- `authMiddleware`: the status that aborts the request, if one does. -/
def authMiddleware (now : Time) (getConfigFails : Bool) (authorization : Bytes) :
    Flow (Option Nat) :=
  let (authHeader, found) := cutPrefix authorization (bytes "Bearer ")
  if !found then .done (some 400)
  else
    .call (.getConfig getConfigFails configJwtSecretKey) fun
      | .error _ => .done (some 500)
      | .ok jwtSecret =>
          .call (.parseJwtToken now authHeader jwtSecret) fun
            | none => .done (some 400)
            | some claims =>
                .done (if claims.tokenType ≠ bytes "fsd_service" ∨
                    claims.networkRating < NetworkRatingAdministator then some 403
                  else none)

/-! ## The login of a connection -/

variable {F : Type}

def authenticateToken (env : LoginEnv) (client : Client F) (token : Bytes) :
    Flow (LoginResult NetworkRating) :=
  .call (.getConfig env.getConfigFails configJwtSecretKey) fun
    | .error _ => .done (.error none)
    | .ok jwtSecret =>
        .call (.parseJwtToken env.now token jwtSecret) fun
          | none => .done (refuse InvalidLogonError "Invalid CID/password")
          | some claims => .done do
              require (decide (claims.tokenType = bytes "fsd")) InvalidLogonError
                "Invalid CID/password"
              require (decide (client.cid = claims.cid)) RequestedLevelTooHighError
                "Invalid CID/password"
              checkRating client.networkRating claims.networkRating
              .ok claims.networkRating

def authenticatePassword (P : Platform) (env : LoginEnv) (client : Client F) (password : Bytes) :
    Flow (LoginResult NetworkRating) :=
  .call (.getUserByCID env.getUserFails client.cid) fun
    | .error _ => .done (refuse InvalidLogonError "Invalid CID/password")
    | .ok user => .done do
        require (verifyPasswordHash P password user.password) InvalidLogonError
          "Invalid CID/password"
        checkRating client.networkRating user.networkRating
        .ok user.networkRating

def authenticate (P : Platform) (env : LoginEnv) (client : Client F) (token : Bytes) :
    Flow (LoginResult NetworkRating) :=
  if mostLikelyJwt P token then authenticateToken env client token
  else authenticatePassword P env client token

def attemptAuthentication [GoFloat F] (P : Platform) (env : LoginEnv) (client : Client F)
    (token : Bytes) : Flow (LoginResult (Client F)) :=
  match initializeChallenge P client with
  | .error sent => .done (.error sent)
  | .ok challenged =>
      (authenticate P env challenged token).bind fun
        | .error sent => .done (.error sent)
        | .ok maxNetworkRating =>
            .done (.ok { challenged with maxNetworkRating := maxNetworkRating })

/-- `handleConn` before the registration. -/
def login [GoFloat F] (P : Platform) (env : LoginEnv) (idLine addLine : Option Bytes) :
    Flow (LoginResult (Client F)) :=
  match readLoginPackets env.now idLine addLine with
  | .error sent => .done (.error sent)
  | .ok data =>
      match require (isValidClientCallsign data.1.callsign) CallsignInvalidError
          "Callsign invalid" with
      | .error sent => .done (.error sent)
      | .ok _ => attemptAuthentication P env (newClient env.remoteAddr data.1 env.takesDone) data.2

/-! ## Without interruption -/

section Atomic

variable (P : Platform) (env : Env) (database : Database)

theorem atomically_makeUserToken (uuid : Option Bytes) (tokenType : Bytes) (user : User)
    (validityDuration : Time) (jwtSecret : Bytes) :
    (makeUserToken env uuid tokenType user validityDuration jwtSecret).atomically (exec P)
        database =
      (Web.makeUserToken P env uuid tokenType user validityDuration jwtSecret, database) := by
  unfold makeUserToken Web.makeUserToken
  cases makeJwtToken env.now uuid (userFields tokenType user) validityDuration <;> rfl

theorem atomically_makeAccessRefreshTokens (user : User) (rememberMe : Bool) :
    (makeAccessRefreshTokens env user rememberMe).atomically (exec P) database =
      (Web.makeAccessRefreshTokens P env database user rememberMe, database) := by
  simp only [makeAccessRefreshTokens, Web.makeAccessRefreshTokens, Prog.atomically, exec]
  cases database.getConfig (env.getConfigFails configJwtSecretKey) configJwtSecretKey with
  | error reason => rfl
  | ok jwtSecret =>
      have access := atomically_makeUserToken P env database (env.uuid 0) (bytes "access") user
        (15 * 60) jwtSecret
      simp only [Prog.atomically_bind, makeAccessToken, Web.makeAccessToken, access]
      cases Web.makeUserToken P env (env.uuid 0) (bytes "access") user (15 * 60) jwtSecret with
      | none => rfl
      | some token =>
          simp only [Prog.atomically_bind, makeRefreshToken, Web.makeRefreshToken,
            atomically_makeUserToken]
          cases Web.makeUserToken P env (env.uuid 1) (bytes "refresh") user
            (if rememberMe then 24 * 3600 * 30 else 24 * 3600) jwtSecret <;> rfl

theorem atomically_getAccessRefreshTokens (body : Option LoginBody) :
    (getAccessRefreshTokens P env body).atomically (exec P) database =
      (Web.getAccessRefreshTokens P env database body, database) := by
  unfold getAccessRefreshTokens Web.getAccessRefreshTokens
  cases bindBody body LoginBody.accepted with
  | none => rfl
  | some reqBody =>
      simp only [Prog.atomically, exec]
      cases database.getUserByCID env.getUserFails reqBody.cid with
      | error reason => rfl
      | ok user =>
          simp only
          split
          · rfl
          · rw [Prog.atomically_bind, atomically_makeAccessRefreshTokens]
            cases Web.makeAccessRefreshTokens P env database user reqBody.rememberMe <;> rfl

theorem atomically_refreshAccessToken (body : Option Bytes) :
    (refreshAccessToken env body).atomically (exec P) database =
      (Web.refreshAccessToken P env database body, database) := by
  unfold refreshAccessToken Web.refreshAccessToken
  cases bindBody body (fun refreshToken => decide (refreshToken ≠ [])) with
  | none => rfl
  | some refreshToken =>
      simp only [Prog.atomically, exec]
      cases database.getConfig (env.getConfigFails configJwtSecretKey) configJwtSecretKey with
      | error reason => rfl
      | ok jwtSecret =>
          simp only [Prog.atomically, exec]
          cases parseJwtToken P env.now refreshToken jwtSecret with
          | none => rfl
          | some claims =>
              simp only
              split
              · rfl
              · simp only [Prog.atomically, exec]
                cases database.getUserByCID env.getUserFails claims.cid with
                | error reason => rfl
                | ok user =>
                    simp only [Prog.atomically_bind, makeAccessToken, Web.makeAccessToken,
                      atomically_makeUserToken]
                    cases Web.makeUserToken P env (env.uuid 0) (bytes "access") user (15 * 60)
                      jwtSecret <;> rfl

theorem atomically_getFsdJwt (body : Option FsdJwtBody) :
    (getFsdJwt env body).atomically (exec P) database =
      (Web.getFsdJwt P env database body, database) := by
  have made : forall user, (makeFsdToken env user).atomically (exec P) database =
      (Web.makeFsdToken P env database user, database) := by
    intro user
    unfold makeFsdToken Web.makeFsdToken
    cases makeJwtToken env.now (env.uuid 0) (userFields (bytes "fsd") user) (5 * 60) with
    | none => rfl
    | some claims =>
        simp only [Prog.atomically, exec]
        cases database.getConfig (env.getConfigFails configJwtSecretKey) configJwtSecretKey with
        | error reason => rfl
        | ok jwtSecret =>
            simp only [Prog.atomically, exec]
            cases P.signedString claims jwtSecret <;> rfl
  unfold getFsdJwt Web.getFsdJwt
  cases bindBody body FsdJwtBody.accepted with
  | none => rfl
  | some reqBody =>
      simp only
      split
      · rfl
      · simp only [Prog.atomically, exec]
        cases database.getUserByCID env.getUserFails (atoi reqBody.cid).value with
        | error reason => cases reason <;> rfl
        | ok user =>
            simp only
            split
            · rfl
            · exact made user

theorem atomically_jwtBearerMiddleware (authorization : Bytes) :
    (jwtBearerMiddleware env authorization).atomically (exec P) database =
      (Web.jwtBearerMiddleware P env database authorization, database) := by
  unfold jwtBearerMiddleware Web.jwtBearerMiddleware
  cases cutPrefix authorization (bytes "Bearer ") with
  | mk authHeader found =>
      cases found with
      | false => rfl
      | true =>
          simp only [Bool.not_true, Bool.false_eq_true, if_false, Prog.atomically, exec]
          cases database.getConfig env.bearerConfigFails configJwtSecretKey with
          | error reason => rfl
          | ok jwtSecret =>
              simp only [Prog.atomically, exec]
              cases parseJwtToken P env.now authHeader jwtSecret with
              | none => rfl
              | some claims =>
                  simp only
                  split <;> rfl

/-- A handler behind the middleware, if it is executed like its step program. -/
theorem atomically_withBearer {authorization : Bytes} {handler : CustomClaims -> Flow Response}
    {served : CustomClaims -> Response × Database}
    (same : forall claims, (handler claims).atomically (exec P) database = served claims) :
    (withBearer env authorization handler).atomically (exec P) database =
      Web.withBearer P env database authorization served := by
  unfold withBearer Web.withBearer
  rw [Prog.atomically_bind, atomically_jwtBearerMiddleware]
  cases Web.jwtBearerMiddleware P env database authorization with
  | error response => rfl
  | ok claims => exact same claims

theorem atomically_handleCreateNewAPIToken (claims : CustomClaims) (body : Option Time) :
    (handleCreateNewAPIToken env claims body).atomically (exec P) database =
      (Web.handleCreateNewAPIToken P env database claims body, database) := by
  unfold handleCreateNewAPIToken Web.handleCreateNewAPIToken
  split
  · rfl
  · cases bindBody body (fun expiry => decide (expiry ≠ zeroTime)) with
    | none => rfl
    | some expiryDateTime =>
        simp only
        split
        · rfl
        · cases makeJwtToken env.now (env.uuid 0)
              ⟨bytes "access", claims.cid, [], [], NetworkRatingAdministator⟩
              (timeSub expiryDateTime env.now) with
          | none => rfl
          | some tokenClaims =>
              simp only [Prog.atomically, exec]
              cases database.getConfig (env.getConfigFails configJwtSecretKey)
                  configJwtSecretKey with
              | error reason => rfl
              | ok secretKey =>
                  simp only [Prog.atomically, exec]
                  cases P.signedString tokenClaims secretKey <;> rfl

theorem atomically_writeConfig (call : Nat) (pairs : List (Bytes × Bytes)) :
    (writeConfig env call pairs).atomically (exec P) database =
      Web.writeConfig env call database pairs := by
  induction pairs generalizing call database with
  | nil => rfl
  | cons pair rest inductionHypothesis =>
      rcases pair with ⟨key, value⟩
      simp only [writeConfig, Web.writeConfig, Prog.atomically, exec]
      cases database.setConfig (env.setConfigFails call) key value with
      | error reason => rfl
      | ok written => exact inductionHypothesis written (call + 1)

theorem atomically_handleUpdateConfig (claims : CustomClaims)
    (body : Option (Option (List (Bytes × Bytes)))) :
    (handleUpdateConfig env claims body).atomically (exec P) database =
      Web.handleUpdateConfig env database claims body := by
  unfold handleUpdateConfig Web.handleUpdateConfig
  split
  · rfl
  · cases bindBody body Option.isSome with
    | none => rfl
    | some reqBody =>
        simp only [Prog.atomically_bind, atomically_writeConfig]
        rcases Web.writeConfig env 0 database (reqBody.getD []) with ⟨written, after⟩
        cases written <;> rfl

theorem atomically_handleResetSecretKey (claims : CustomClaims) :
    (handleResetSecretKey env claims).atomically (exec P) database =
      Web.handleResetSecretKey env database claims := by
  unfold handleResetSecretKey Web.handleResetSecretKey
  split
  · rfl
  · cases env.secretKey with
    | none => rfl
    | some secretKey =>
        simp only [Prog.atomically, exec]
        cases database.setConfig (env.setConfigFails 0) configJwtSecretKey secretKey <;> rfl

theorem atomically_makeFsdHttpServiceHttpRequest (newRequestFails : Bool) :
    (makeFsdHttpServiceHttpRequest env newRequestFails).atomically (exec P) database =
      (Web.makeFsdHttpServiceHttpRequest P env newRequestFails database, database) := by
  unfold makeFsdHttpServiceHttpRequest Web.makeFsdHttpServiceHttpRequest
  cases makeJwtToken env.now (env.uuid 0) serviceFields (15 * 60) with
  | none => rfl
  | some token =>
      simp only [Prog.atomically, exec]
      cases database.getConfig (env.getConfigFails configJwtSecretKey) configJwtSecretKey with
      | error reason => rfl
      | ok secretKey =>
          simp only [Prog.atomically, exec]
          cases P.signedString token secretKey <;> rfl

theorem atomically_authMiddleware (service : ServiceEnv) (authorization : Bytes) :
    (authMiddleware service.now service.getConfigFails authorization).atomically (exec P)
        service.database =
      (Fsd.authMiddleware P service authorization, service.database) := by
  unfold authMiddleware Fsd.authMiddleware
  cases cutPrefix authorization (bytes "Bearer ") with
  | mk authHeader found =>
      cases found with
      | false => rfl
      | true =>
          simp only [Bool.not_true, Bool.false_eq_true, if_false, Prog.atomically, exec]
          cases service.database.getConfig service.getConfigFails configJwtSecretKey with
          | error reason => rfl
          | ok jwtSecret =>
              simp only [Prog.atomically, exec]
              cases parseJwtToken P service.now authHeader jwtSecret <;> rfl

theorem atomically_authenticate [GoFloat F] (entry : LoginEnv) (client : Client F)
    (token : Bytes) :
    (authenticate P entry client token).atomically (exec P) database =
      (Fsd.authenticate P entry database client token, database) := by
  unfold authenticate Fsd.authenticate
  split
  · simp only [authenticateToken, Fsd.authenticateToken, Prog.atomically, exec]
    cases database.getConfig entry.getConfigFails configJwtSecretKey with
    | error reason => rfl
    | ok jwtSecret =>
        simp only [Prog.atomically, exec]
        cases parseJwtToken P entry.now token jwtSecret <;> rfl
  · simp only [authenticatePassword, Fsd.authenticatePassword, Prog.atomically, exec]
    cases database.getUserByCID entry.getUserFails client.cid <;> rfl

theorem atomically_login [GoFloat F] (entry : LoginEnv) (idLine addLine : Option Bytes) :
    (login P entry idLine addLine : Flow (LoginResult (Client F))).atomically (exec P) database =
      (Fsd.login P entry database idLine addLine, database) := by
  unfold login Fsd.login
  cases readLoginPackets entry.now idLine addLine with
  | error sent => rfl
  | ok data =>
      simp only [bind, Except.bind]
      cases require (isValidClientCallsign data.1.callsign) CallsignInvalidError
          "Callsign invalid" with
      | error sent => rfl
      | ok _ =>
          simp only [attemptAuthentication, Fsd.attemptAuthentication, bind, Except.bind]
          cases initializeChallenge P (newClient entry.remoteAddr data.1 entry.takesDone : Client F) with
          | error sent => rfl
          | ok challenged =>
              simp only [Prog.atomically_bind, atomically_authenticate]
              cases Fsd.authenticate P entry database challenged data.2 <;> rfl

end Atomic

end Steps
end Web
end OpenFsd
