import OpenFsd.Web.Auth

namespace OpenFsd
namespace Web

open Db Fsd

/-!
# The configuration endpoints and API tokens

`config.go` and `api_tokens.go`.  All four need the Administrator rating in
the bearer token.
-/

/-- The keys that `handleGetConfig` reads. -/
def configKeys : List Bytes :=
  [configWelcomeMessage, configFsdServerHostname, configFsdServerIdent, configFsdServerLocation,
   configApiServerBaseURL]

/-- The loop of `handleGetConfig`, without a result for a failed read. -/
def readConfig (env : Env) (database : Database) : List Bytes -> Option (List (Bytes × Bytes))
  | [] => some []
  | key :: rest =>
      match database.getConfig (env.getConfigFails key) key with
      | .error .keyNotFound => readConfig env database rest
      | .error _ => none
      | .ok value => (readConfig env database rest).map fun pairs => (key, value) :: pairs

def handleGetConfig (env : Env) (database : Database) (claims : CustomClaims) : Response :=
  if claims.networkRating < NetworkRatingAdministator then Response.forbidden
  else
    match readConfig env database configKeys with
    | none => Response.fail 500 "Error reading key/value from persistent storage"
    | some pairs => Response.ok 200 (.keyValuePairs pairs)

/-- The loop of `handleUpdateConfig`: whether every write succeeded, and the
database after the writes that did.  The number counts the calls of `Set`. -/
def writeConfig (env : Env) : Nat -> Database -> List (Bytes × Bytes) -> Bool × Database
  | _, database, [] => (true, database)
  | call, database, (key, value) :: rest =>
      match database.setConfig (env.setConfigFails call) key value with
      | .error _ => (false, database)
      | .ok written => writeConfig env (call + 1) written rest

def handleUpdateConfig (env : Env) (database : Database) (claims : CustomClaims)
    (body : Option (Option (List (Bytes × Bytes)))) : Response × Database :=
  if claims.networkRating < NetworkRatingAdministator then (Response.forbidden, database)
  else
    match bindBody body Option.isSome with
    | none => (Response.invalidJSON, database)
    | some reqBody =>
        let (written, after) := writeConfig env 0 database (reqBody.getD [])
        if written then (Response.ok 200 .none, after)
        else (Response.fail 500 "Error writing key/value into persistent storage", after)

def handleResetSecretKey (env : Env) (database : Database) (claims : CustomClaims) :
    Response × Database :=
  if claims.networkRating < NetworkRatingAdministator then (Response.forbidden, database)
  else
    match env.secretKey with
    | none => (Response.internalServerError, database)
    | some secretKey =>
        match database.setConfig (env.setConfigFails 0) configJwtSecretKey secretKey with
        | .error _ => (Response.internalServerError, database)
        | .ok written => (Response.ok 200 .none, written)

/-- The zero `time.Time`, which a required field must not have. -/
def zeroTime : Time := -62135596800

/-- `time.Time.Sub` in whole seconds.  A difference of more than 2^63 nanoseconds
does not fit a `time.Duration`. -/
def timeSub (later earlier : Time) : Time :=
  max (-9223372036) (min (later - earlier) 9223372036)

/-- `handleCreateNewAPIToken`.  The body is the expiry time. -/
def handleCreateNewAPIToken (P : Platform) (env : Env) (database : Database) (claims : CustomClaims)
    (body : Option Time) : Response :=
  if claims.networkRating < NetworkRatingAdministator then Response.forbidden
  else
    match bindBody body (fun expiry => decide (expiry ≠ zeroTime)) with
    | none => Response.invalidJSON
    | some expiryDateTime =>
        if expiryDateTime < env.now then
          Response.fail 400 "expiry_date_time cannot be in the past"
        else
          match makeJwtToken env.now (env.uuid 0)
              ⟨bytes "access", claims.cid, [], [], NetworkRatingAdministator⟩
              (timeSub expiryDateTime env.now) with
          | none => Response.internalServerError
          | some tokenClaims =>
              match database.getConfig (env.getConfigFails configJwtSecretKey) configJwtSecretKey with
              | .error _ => Response.internalServerError
              | .ok secretKey =>
                  match P.signedString tokenClaims secretKey with
                  | none => Response.internalServerError
                  | some token => Response.ok 201 (.apiToken token)

end Web
end OpenFsd
