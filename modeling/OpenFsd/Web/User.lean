import OpenFsd.Web.Auth

namespace OpenFsd
namespace Web

open Db Fsd

/-!
# The user endpoints

`user.go`.  Every handler is given the claims that the bearer middleware put
into the request context.  `updateUser` reads a record, overwrites the fields
that the request names, and writes the record back.
-/

/-- The body of `PATCH /user/update`. -/
structure UpdateUserBody where
  cid : Int
  password : Option Bytes
  firstName : Option Bytes
  lastName : Option Bytes
  networkRating : Option Int
  deriving DecidableEq

/-- The tags `min=-1,max=12`. -/
def ratingInRange (networkRating : Int) : Bool :=
  decide (-1 ≤ networkRating) && decide (networkRating ≤ 12)

def UpdateUserBody.accepted (P : Platform) (body : UpdateUserBody) : Bool :=
  decide (1 ≤ body.cid) &&
    (match body.networkRating with
      | none => P.nilPassesMinMax
      | some networkRating => ratingInRange networkRating)

/-- The body of `POST /user/create`. -/
structure CreateUserBody where
  password : Bytes
  firstName : Option Bytes
  lastName : Option Bytes
  networkRating : Int
  deriving DecidableEq

def CreateUserBody.accepted (body : CreateUserBody) : Bool :=
  decide (8 ≤ runeCount body.password) && decide (body.networkRating ≠ 0) &&
    ratingInRange body.networkRating

/-- The response body of the user endpoints. -/
def userData (user : User) : Data :=
  .user user.cid (some (safeStr user.firstName)) (some (safeStr user.lastName)) user.networkRating

/-- `getUserByCID` of the web server.  The body is the CID. -/
def getUserByCID (env : Env) (database : Database) (claims : CustomClaims) (body : Option Int) :
    Response :=
  match bindBody body (fun cid => decide (1 ≤ cid)) with
  | none => Response.invalidJSON
  | some cid =>
      if cid ≠ claims.cid ∧ claims.networkRating < NetworkRatingSupervisor then Response.forbidden
      else
        match database.getUserByCID env.getUserFails cid with
        | .error .noRows => Response.notFound
        | .error _ => Response.internalServerError
        | .ok user => Response.ok 200 (userData user)

/-- The overwrites of `updateUser` on the record that it has read. -/
def applyUpdate (reqBody : UpdateUserBody) (targetUser : User) : User where
  cid := targetUser.cid
  password := reqBody.password.getD targetUser.password
  firstName := reqBody.firstName.or targetUser.firstName
  lastName := reqBody.lastName.or targetUser.lastName
  networkRating := reqBody.networkRating.getD targetUser.networkRating

def updateUser (P : Platform) (env : Env) (database : Database) (claims : CustomClaims)
    (body : Option UpdateUserBody) : Response × Database :=
  if claims.networkRating < NetworkRatingSupervisor then (Response.forbidden, database)
  else
    match bindBody body (UpdateUserBody.accepted P) with
    | none => (Response.invalidJSON, database)
    | some reqBody =>
        match database.getUserByCID env.getUserFails reqBody.cid with
        | .error _ => (Response.notFound, database)
        | .ok targetUser =>
            if claims.networkRating < targetUser.networkRating then
              (Response.fail 403 "cannot update user with higher network rating", database)
            else
              let updated := applyUpdate reqBody targetUser
              match database.updateUser P env.updateUserFails env.salt updated with
              | .error .noRows => (Response.notFound, database)
              | .error _ => (Response.internalServerError, database)
              | .ok written => (Response.ok 200 (userData updated), written)

def createUser (driver : Driver) (P : Platform) (env : Env) (database : Database)
    (claims : CustomClaims) (body : Option CreateUserBody) : Response × Database :=
  match bindBody body CreateUserBody.accepted with
  | none => (Response.invalidJSON, database)
  | some reqBody =>
      if claims.networkRating < NetworkRatingSupervisor ∨
          claims.networkRating < reqBody.networkRating then (Response.forbidden, database)
      else
        let user : User := ⟨0, reqBody.password, reqBody.firstName, reqBody.lastName,
          reqBody.networkRating⟩
        match driver.createUser P database env.createUserFails env.salt user with
        | .error _ => (Response.internalServerError, database)
        | .ok (created, written) =>
            (Response.ok 201
              (.user created.cid created.firstName created.lastName created.networkRating), written)

end Web
end OpenFsd
