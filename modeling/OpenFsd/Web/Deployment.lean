import OpenFsd.Web.Issuance
import OpenFsd.Fsd.Session

namespace OpenFsd
namespace Web

open Db Fsd Transition

/-!
# The web API and the FSD login over one database

A deployment is the shared database, every token that the API has handed out
so far, and the FSD server.  A move is one request to the API or one FSD
connection attempt, each with everything that it meets outside the program.

The results about whole runs put conditions on every move of the run.  What a
party knows appears as `Unforged`: a token that verifies under the current
key was issued before.
-/

structure Deployment (F : Type) where
  database : Database
  issued : List Bytes
  fsd : System F

/-- One interaction with the deployment. -/
inductive Move
  | api (env : Env) (request : Request)
  | connect (env : LoginEnv) (idLine addLine : Option Bytes)

namespace Deployment

variable {F : Type} [GoFloat F]

def step (driver : Driver) (P : Platform) (state : Deployment F) : Move -> Option (Deployment F)
  | .api env request =>
      let (response, database) := serve driver P env state.database request
      some { state with database := database, issued := state.issued ++ response.issued }
  | .connect env idLine addLine =>
      (System.step P state.fsd (.connect env state.database idLine addLine)).map fun fsd =>
        { state with fsd := fsd }

theorem step_api (driver : Driver) (P : Platform) (state : Deployment F) (env : Env)
    (request : Request) :
    step driver P state (.api env request) = some { state with
      database := (serve driver P env state.database request).2
      issued := state.issued ++ (serve driver P env state.database request).1.issued } :=
  rfl

theorem step_login (driver : Driver) (P : Platform) (state : Deployment F) (env : Env)
    (body : Option LoginBody) :
    step driver P state (.api env (.login body)) = some { state with
      issued := state.issued ++ (getAccessRefreshTokens P env state.database body).issued } :=
  rfl

end Deployment

/-- The tokens that a request presents: a bearer header, or a refresh token. -/
def Request.tokens : Request -> List Bytes
  | .login _ => []
  | .refresh body => body.toList
  | .fsdJwt _ => []
  | .loadUser authorization _ => [(cutPrefix authorization (bytes "Bearer ")).1]
  | .updateUser authorization _ => [(cutPrefix authorization (bytes "Bearer ")).1]
  | .createUser authorization _ => [(cutPrefix authorization (bytes "Bearer ")).1]
  | .loadConfig authorization => [(cutPrefix authorization (bytes "Bearer ")).1]
  | .updateConfig authorization _ => [(cutPrefix authorization (bytes "Bearer ")).1]
  | .resetSecretKey authorization => [(cutPrefix authorization (bytes "Bearer ")).1]
  | .createToken authorization _ => [(cutPrefix authorization (bytes "Bearer ")).1]

/-- The token verifies under the key that the database holds. -/
def Verifies (P : Platform) (database : Database) (raw : Bytes) : Prop :=
  Exists fun secret => database.config.lookup configJwtSecretKey = some secret ∧
    P.verifies raw secret = true

/-- The claims that the middleware passes on come from the presented token. -/
theorem presented_of_middleware {P : Platform} {env : Env} {database : Database}
    {authorization : Bytes} {claims : CustomClaims}
    (passed : jwtBearerMiddleware P env database authorization = .ok claims) :
    Presented P database (cutPrefix authorization (bytes "Bearer ")).1 (bytes "access") claims := by
  unfold jwtBearerMiddleware at passed
  dsimp only at passed
  split at passed
  · cases passed
  · split at passed
    · cases passed
    · next jwtSecret configured =>
        split at passed
        · cases passed
        · next found parsed =>
            split at passed
            · cases passed
            · next typed =>
                cases passed
                exact parseJwtToken_presented configured parsed (not_not.mp typed)

end Web
end OpenFsd
