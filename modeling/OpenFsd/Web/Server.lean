import OpenFsd.Web.User
import OpenFsd.Web.Config

namespace OpenFsd
namespace Web

open Db Fsd

/-!
# The API as one function

The routes of `routes.go`: the token endpoints are public, and the user and
configuration groups are behind the bearer middleware.
-/

/-- A request to `/api/v1`, with its `Authorization` header where the group
of the route reads it. -/
inductive Request
  | login (body : Option LoginBody)
  | refresh (body : Option Bytes)
  | fsdJwt (body : Option FsdJwtBody)
  | loadUser (authorization : Bytes) (body : Option Int)
  | updateUser (authorization : Bytes) (body : Option UpdateUserBody)
  | createUser (authorization : Bytes) (body : Option CreateUserBody)
  | loadConfig (authorization : Bytes)
  | updateConfig (authorization : Bytes) (body : Option (Option (List (Bytes × Bytes))))
  | resetSecretKey (authorization : Bytes)
  | createToken (authorization : Bytes) (body : Option Time)

/-- Run a handler behind the bearer middleware. -/
def withBearer (P : Platform) (env : Env) (database : Database) (authorization : Bytes)
    (handler : CustomClaims -> Response × Database) : Response × Database :=
  match jwtBearerMiddleware P env database authorization with
  | .error response => (response, database)
  | .ok claims => handler claims

/-- Route and serve one request. -/
def serve (driver : Driver) (P : Platform) (env : Env) (database : Database) :
    Request -> Response × Database
  | .login body => (getAccessRefreshTokens P env database body, database)
  | .refresh body => (refreshAccessToken P env database body, database)
  | .fsdJwt body => (getFsdJwt P env database body, database)
  | .loadUser authorization body =>
      withBearer P env database authorization fun claims =>
        (getUserByCID env database claims body, database)
  | .updateUser authorization body =>
      withBearer P env database authorization fun claims =>
        updateUser P env database claims body
  | .createUser authorization body =>
      withBearer P env database authorization fun claims =>
        createUser driver P env database claims body
  | .loadConfig authorization =>
      withBearer P env database authorization fun claims =>
        (handleGetConfig env database claims, database)
  | .updateConfig authorization body =>
      withBearer P env database authorization fun claims =>
        handleUpdateConfig env database claims body
  | .resetSecretKey authorization =>
      withBearer P env database authorization fun claims =>
        handleResetSecretKey env database claims
  | .createToken authorization body =>
      withBearer P env database authorization fun claims =>
        (handleCreateNewAPIToken P env database claims body, database)

end Web
end OpenFsd
