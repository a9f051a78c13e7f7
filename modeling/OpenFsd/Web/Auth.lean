import OpenFsd.Web.Response

namespace OpenFsd
namespace Web

open Db Fsd

/-!
# The token endpoints

`auth.go`: login, refresh, the FSD token endpoint, and the bearer middleware
in front of the other groups.  `getFsdJwt` receives a password like the login
endpoint, and reads no field of the request but the CID after binding it.
-/

/-- The body of `POST /auth/login`. -/
structure LoginBody where
  cid : Int
  password : Bytes
  rememberMe : Bool
  deriving DecidableEq

def LoginBody.accepted (body : LoginBody) : Bool :=
  decide (1 ≤ body.cid) && decide (body.password ≠ [])

/-- The body of `POST /fsd-jwt`. -/
structure FsdJwtBody where
  cid : Bytes
  password : Bytes
  deriving DecidableEq

def FsdJwtBody.accepted (body : FsdJwtBody) : Bool :=
  decide (body.cid ≠ []) && decide (body.password ≠ [])

/-- The claims about a user that every token of the user carries. -/
def userFields (tokenType : Bytes) (user : User) : CustomFields where
  tokenType := tokenType
  cid := user.cid
  firstName := safeStr user.firstName
  lastName := safeStr user.lastName
  networkRating := user.networkRating

/-- Make and sign a token for a user. -/
def makeUserToken (P : Platform) (env : Env) (uuid : Option Bytes) (tokenType : Bytes) (user : User)
    (validityDuration : Time) (jwtSecret : Bytes) : Option Bytes :=
  match makeJwtToken env.now uuid (userFields tokenType user) validityDuration with
  | none => none
  | some claims => P.signedString claims jwtSecret

/-- `makeAccessToken`: fifteen minutes. -/
def makeAccessToken (P : Platform) (env : Env) (user : User) (jwtSecret : Bytes) : Option Bytes :=
  makeUserToken P env (env.uuid 0) (bytes "access") user (15 * 60) jwtSecret

/-- `makeRefreshToken`: one day, or thirty days. -/
def makeRefreshToken (P : Platform) (env : Env) (user : User) (rememberMe : Bool)
    (jwtSecret : Bytes) : Option Bytes :=
  makeUserToken P env (env.uuid 1) (bytes "refresh") user
    (if rememberMe then 24 * 3600 * 30 else 24 * 3600) jwtSecret

/-- `makeAccessRefreshTokens` -/
def makeAccessRefreshTokens (P : Platform) (env : Env) (database : Database) (user : User)
    (rememberMe : Bool) : Option (Bytes × Bytes) :=
  match database.getConfig (env.getConfigFails configJwtSecretKey) configJwtSecretKey with
  | .error _ => none
  | .ok jwtSecret =>
      match makeAccessToken P env user jwtSecret with
      | none => none
      | some access =>
          match makeRefreshToken P env user rememberMe jwtSecret with
          | none => none
          | some refresh => some (access, refresh)

def badCidOrPassword : Response := Response.fail 401 "Bad CID and/or password"
def badToken : Response := Response.fail 401 "bad token"

def getAccessRefreshTokens (P : Platform) (env : Env) (database : Database)
    (body : Option LoginBody) : Response :=
  match bindBody body LoginBody.accepted with
  | none => Response.invalidJSON
  | some reqBody =>
      match database.getUserByCID env.getUserFails reqBody.cid with
      | .error _ => badCidOrPassword
      | .ok user =>
          if !verifyPasswordHash P reqBody.password user.password then badCidOrPassword
          else
            match makeAccessRefreshTokens P env database user reqBody.rememberMe with
            | none => Response.internalServerError
            | some (access, refresh) => Response.ok 200 (.tokens access refresh)

/-- `refreshAccessToken`.  The body is the refresh token. -/
def refreshAccessToken (P : Platform) (env : Env) (database : Database) (body : Option Bytes) :
    Response :=
  match bindBody body (fun refreshToken => decide (refreshToken ≠ [])) with
  | none => Response.invalidJSON
  | some refreshToken =>
      match database.getConfig (env.getConfigFails configJwtSecretKey) configJwtSecretKey with
      | .error _ => Response.internalServerError
      | .ok jwtSecret =>
          match parseJwtToken P env.now refreshToken jwtSecret with
          | none => badToken
          | some claims =>
              if claims.tokenType ≠ bytes "refresh" then badToken
              else
                match database.getUserByCID env.getUserFails claims.cid with
                | .error _ => badToken
                | .ok user =>
                    match makeAccessToken P env user jwtSecret with
                    | none => Response.internalServerError
                    | some access => Response.ok 200 (.accessToken access)

/-- The token of `getFsdJwt`, once the user is known. -/
def makeFsdToken (P : Platform) (env : Env) (database : Database) (user : User) : Response :=
  match makeJwtToken env.now (env.uuid 0) (userFields (bytes "fsd") user) (5 * 60) with
  | none => ⟨500, .fsdFailure (bytes "Internal server error")⟩
  | some claims =>
      match database.getConfig (env.getConfigFails configJwtSecretKey) configJwtSecretKey with
      | .error _ => Response.internalServerError
      | .ok jwtSecret =>
          match P.signedString claims jwtSecret with
          | none => ⟨500, .fsdFailure (bytes "Internal server error")⟩
          | some token => ⟨200, .fsdToken token⟩

def getFsdJwt (P : Platform) (env : Env) (database : Database) (body : Option FsdJwtBody) :
    Response :=
  match bindBody body FsdJwtBody.accepted with
  | none => ⟨200, .empty⟩
  | some reqBody =>
      let cid := atoi reqBody.cid
      if cid.err.isSome || decide (cid.value < 1) then ⟨400, .fsdFailure (bytes "Invalid CID")⟩
      else
        match database.getUserByCID env.getUserFails cid.value with
        | .error .noRows => ⟨401, .fsdFailure (bytes "Invalid CID and/or password")⟩
        | .error _ => ⟨500, .fsdFailure (bytes "Internal server error")⟩
        | .ok user =>
            if user.networkRating ≤ NetworkRatingSuspended then
              ⟨403, .fsdFailure (bytes "Certificate suspended or inactive")⟩
            else makeFsdToken P env database user

/-- `jwtBearerMiddleware`: the claims for the handlers behind it, or the
response that aborts the request. -/
def jwtBearerMiddleware (P : Platform) (env : Env) (database : Database) (authorization : Bytes) :
    Except Response CustomClaims :=
  let (authHeader, found) := cutPrefix authorization (bytes "Bearer ")
  if !found then .error (Response.fail 400 "bad bearer token")
  else
    match database.getConfig env.bearerConfigFails configJwtSecretKey with
    | .error _ => .error Response.internalServerError
    | .ok jwtSecret =>
        match parseJwtToken P env.now authHeader jwtSecret with
        | none => .error (Response.fail 401 "invalid bearer token")
        | some claims =>
            if claims.tokenType ≠ bytes "access" then
              .error (Response.fail 401 "invalid token type")
            else .ok claims

end Web
end OpenFsd
