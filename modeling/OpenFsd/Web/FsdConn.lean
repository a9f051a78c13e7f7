import OpenFsd.Web.UserUpdate

namespace OpenFsd
namespace Web

open Db Fsd

/-!
# Kicking a connection

`fsdconn.go`: the API asks the FSD server to cancel a client, over the
internal HTTP service.  The request carries a token that the API signs for
itself.  Two of the ways in which the call can fail end the handler before it
has written a response, and gin then sends an empty success.
-/

/-- The exchange with the service.  A call that fails may have reached the
service all the same, and only its response is lost. -/
inductive Exchange
  | answered
  | failed (delivered : Bool)
  deriving DecidableEq

/-- What the internal call meets outside the program. -/
structure CallEnv where
  encodeFails : Bool
  newRequestFails : Bool
  exchange : Exchange
  service : ServiceEnv

def serviceFields : CustomFields where
  tokenType := bytes "fsd_service"
  cid := -1
  firstName := []
  lastName := []
  networkRating := NetworkRatingAdministator

/-- `makeFsdHttpServiceHttpRequest`: the `Authorization` header of the
request, if one can be made. -/
def makeFsdHttpServiceHttpRequest (P : Platform) (env : Env) (newRequestFails : Bool)
    (database : Database) : Option Bytes :=
  match makeJwtToken env.now (env.uuid 0) serviceFields (15 * 60) with
  | none => none
  | some token =>
      match database.getConfig (env.getConfigFails configJwtSecretKey) configJwtSecretKey with
      | .error _ => none
      | .ok secretKey =>
          match P.signedString token secretKey with
          | none => none
          | some tokenStr => if newRequestFails then none else some (bytes "Bearer " ++ tokenStr)

variable {F : Type}

/-- `handleKickActiveConnection`.  The body is the callsign, which is valid
UTF-8 as every decoded string, so the service decodes the same callsign. -/
def handleKickActiveConnection (P : Platform) (env : Env) (call : CallEnv) (database : Database)
    (fsd : Server F) (claims : CustomClaims) (body : Option Bytes) : Response × Server F :=
  if claims.networkRating < NetworkRatingSupervisor then (Response.forbidden, fsd)
  else
    match bindBody body (fun callsign => decide (callsign ≠ [])) with
    | none => (Response.invalidJSON, fsd)
    | some callsign =>
        if call.encodeFails then (Response.internalServerError, fsd)
        else
          match makeFsdHttpServiceHttpRequest P env call.newRequestFails database with
          | none => (⟨200, .empty⟩, fsd)
          | some authorization =>
              let (status, after) := kickUser P call.service fsd authorization true callsign
              match call.exchange with
              | .failed delivered => (⟨200, .empty⟩, if delivered then after else fsd)
              | .answered =>
                  if status = 204 then (Response.ok 200 .none, after)
                  else if status = 404 then (Response.fail 404 "Callsign not found", after)
                  else (Response.internalServerError, after)

/-! ## The API with the kick -/

/-- What the API works on. -/
structure Backend (F : Type) where
  database : Database
  fsd : Server F

/-- A request to `/api/v1`, the kick among them. -/
inductive V1Request
  | stored (request : Request)
  | kickUser (authorization : Bytes) (body : Option Bytes)

def serveV1 (driver : Driver) (P : Platform) (env : Env) (call : CallEnv) (backend : Backend F) :
    V1Request -> Response × Backend F
  | .stored request =>
      let (response, database) := serve driver P env backend.database request
      (response, { backend with database := database })
  | .kickUser authorization body =>
      match jwtBearerMiddleware P env backend.database authorization with
      | .error response => (response, backend)
      | .ok claims =>
          let (response, fsd) := handleKickActiveConnection P env call backend.database
            backend.fsd claims body
          (response, { backend with fsd := fsd })

/-! ## The two ends of the call -/

/-- A token was made with these fields, and signed with the key. -/
def TokenMade (P : Platform) (now : Time) (uuid : Option Bytes) (customFields : CustomFields)
    (validityDuration : Time) (secret token : Bytes) : Prop :=
  Exists fun claims => makeJwtToken now uuid customFields validityDuration = some claims ∧
    P.signedString claims secret = some token

/-- The key that signs tokens, read without an error. -/
structure KeyRead (env : Env) (database : Database) (secret : Bytes) : Prop where
  readable : env.getConfigFails configJwtSecretKey = false
  configured : database.config.lookup configJwtSecretKey = some secret

/-- The request to the service can be made, with this header. -/
inductive CanCall (P : Platform) (env : Env) (call : CallEnv) (database : Database)
    (authorization : Bytes) : Prop
  | signed (secret token : Bytes)
      (key : KeyRead env database secret)
      (made : TokenMade P env.now (env.uuid 0) serviceFields (15 * 60) secret token)
      (valid : call.newRequestFails = false)
      (header : authorization = bytes "Bearer " ++ token) :
      CanCall P env call database authorization

variable {P : Platform} {env : Env} {call : CallEnv} {database : Database} {secret : Bytes}

theorem keyRead_iff :
    database.getConfig (env.getConfigFails configJwtSecretKey) configJwtSecretKey = .ok secret ↔
      KeyRead env database secret := by
  rw [Database.getConfig_eq_ok_iff]
  exact ⟨fun ⟨readable, configured⟩ => ⟨readable, configured⟩,
    fun ⟨readable, configured⟩ => ⟨readable, configured⟩⟩

theorem makeFsdHttpServiceHttpRequest_eq_some {authorization : Bytes} :
    makeFsdHttpServiceHttpRequest P env call.newRequestFails database = some authorization ↔
      CanCall P env call database authorization := by
  unfold makeFsdHttpServiceHttpRequest
  constructor
  · intro made
    cases claimed : makeJwtToken env.now (env.uuid 0) serviceFields (15 * 60) with
    | none =>
        simp only [claimed] at made
        cases made
    | some token =>
        cases read : database.getConfig (env.getConfigFails configJwtSecretKey)
            configJwtSecretKey with
        | error reason =>
            simp only [claimed, read] at made
            cases made
        | ok secretKey =>
            cases signed : P.signedString token secretKey with
            | none =>
                simp only [claimed, read, signed] at made
                cases made
            | some tokenStr =>
                simp only [claimed, read, signed, Option.ite_none_left_eq_some,
                  Option.some.injEq] at made
                have valid : call.newRequestFails = false := Bool.eq_false_iff.mpr made.1
                exact ⟨secretKey, tokenStr, keyRead_iff.mp read, ⟨token, claimed, signed⟩, valid,
                  made.2.symm⟩
  · rintro ⟨secretKey, tokenStr, key, ⟨token, claimed, signed⟩, valid, header⟩
    have read := keyRead_iff.mpr key
    simp only [claimed, read, signed, valid, header, Bool.false_eq_true, if_false]

end Web
end OpenFsd
