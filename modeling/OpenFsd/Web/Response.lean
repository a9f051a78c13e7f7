import OpenFsd.Db.Repository
import OpenFsd.Fsd.Jwt

namespace OpenFsd
namespace Web

open Db

/-!
# Requests, responses and the environment of one request

A response is its status and its body.  A handler that returns without
writing leaves gin's default, status 200 and nothing in the body.

A request body is what `ShouldBindJSON` decoded, or nothing when it is not a
JSON document of the expected shape; the `binding` tags are a predicate on
the decoded value.
-/

/-- The `data` of a successful response. -/
inductive Data
  | none
  | tokens (access refresh : Bytes)
  | accessToken (access : Bytes)
  | user (cid : Int) (firstName lastName : Option Bytes) (networkRating : Int)
  | apiToken (token : Bytes)
  | keyValuePairs (pairs : List (Bytes × Bytes))
  deriving DecidableEq

/-- `APIV1Response` without its version, and the bodies of `getFsdJwt`. -/
inductive Body
  | success (data : Data)
  | failure (err : Bytes)
  | fsdToken (token : Bytes)
  | fsdFailure (errorMsg : Bytes)
  | empty
  deriving DecidableEq

structure Response where
  status : Nat
  body : Body
  deriving DecidableEq

namespace Response

/-- The status of a request that was carried out. -/
def IsSuccess (response : Response) : Prop :=
  200 ≤ response.status ∧ response.status < 300

instance (response : Response) : Decidable response.IsSuccess :=
  inferInstanceAs (Decidable (_ ∧ _))

/-- The status of a request that failed, by its own fault or the server's. -/
def IsFailure (response : Response) : Prop :=
  400 ≤ response.status ∧ response.status < 600

theorem IsFailure.not_isSuccess {response : Response} (failed : response.IsFailure) :
    ¬ response.IsSuccess := by
  intro success
  have low : response.status < 300 := success.2
  have high : 400 ≤ response.status := failed.1
  omega

/-- The tokens that a response hands out. -/
def issued (response : Response) : List Bytes :=
  match response.body with
  | .success (.tokens access refresh) => [access, refresh]
  | .success (.accessToken access) => [access]
  | .success (.apiToken token) => [token]
  | .fsdToken token => [token]
  | _ => []

def ok (status : Nat) (data : Data) : Response := ⟨status, .success data⟩

def fail (status : Nat) (err : String) : Response := ⟨status, .failure (bytes err)⟩

def internalServerError : Response := fail 500 "internal server error"
def forbidden : Response := fail 403 "forbidden"
def notFound : Response := fail 404 "not found"
def invalidJSON : Response := fail 400 "invalid JSON body"

theorem isFailure_fail {status : Nat} (err : String) (high : 400 ≤ status ∧ status < 600) :
    (fail status err).IsFailure :=
  high

theorem isFailure_internalServerError : internalServerError.IsFailure :=
  isFailure_fail _ (by decide)

theorem isFailure_forbidden : forbidden.IsFailure :=
  isFailure_fail _ (by decide)

theorem isFailure_notFound : notFound.IsFailure :=
  isFailure_fail _ (by decide)

theorem isFailure_invalidJSON : invalidJSON.IsFailure :=
  isFailure_fail _ (by decide)

theorem isSuccess_ok (data : Data) : (ok 200 data).IsSuccess := by
  constructor
  · exact Nat.le_refl 200
  · show 200 < 300
    omega

end Response

/-- What a request meets outside the program: the clock, the random numbers,
and which calls of the database fail.  A request draws several UUIDs and may
write several configuration keys, so these are indexed by the call. -/
structure Env where
  now : Fsd.Time
  uuid : Nat -> Option Bytes
  salt : Bytes
  secretKey : Option Bytes
  bearerConfigFails : Bool
  getConfigFails : Bytes -> Bool
  setConfigFails : Nat -> Bool
  getUserFails : Bool
  createUserFails : Bool
  updateUserFails : Bool

/-- `bindJSONOrAbort`, and `ShouldBind`. -/
def bindBody {B : Type} (body : Option B) (accepted : B -> Bool) : Option B :=
  match body with
  | none => none
  | some decoded => if accepted decoded then some decoded else none

theorem bindBody_eq_some {B : Type} {body : Option B} {accepted : B -> Bool} {bound : B}
    (done : bindBody body accepted = some bound) : body = some bound ∧ accepted bound = true := by
  unfold bindBody at done
  cases body with
  | none => cases done
  | some decoded =>
      simp only at done
      split at done
      · next valid =>
          cases done
          exact ⟨rfl, valid⟩
      · cases done

/-- `safeStr` -/
def safeStr (str : Option Bytes) : Bytes :=
  str.getD []

/-- `utf8.RuneCountInString` of a valid UTF-8 string. -/
def runeCount (text : Bytes) : Nat :=
  text.countP fun b => decide (b &&& 0xC0 ≠ 0x80)

end Web
end OpenFsd
