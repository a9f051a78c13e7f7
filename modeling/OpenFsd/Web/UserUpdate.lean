import OpenFsd.Fsd.HttpService
import OpenFsd.Web.Server
import OpenFsd.Symbolic

namespace OpenFsd
namespace Web

open Db Fsd

/-!
# What an update of a user changes

`updateUser` reads a record, whose password field then holds the stored hash,
and writes it back through a function that hashes a non-empty password field.
A request without a password therefore hashes the stored hash once more.  The
main result states exactly when the record keeps its passwords all the same.
-/

/-! ## Responses that report an error -/

/-- The middleware aborts only with errors, and passes on the claims of a
verified access token. -/
theorem jwtBearerMiddleware_cases (P : Platform) (env : Env) (database : Database)
    (authorization : Bytes) :
    (Exists fun response =>
        jwtBearerMiddleware P env database authorization = .error response ∧ response.IsFailure) ∨
      Exists fun claims =>
        jwtBearerMiddleware P env database authorization = .ok claims ∧
          BearerToken P env.now env.bearerConfigFails database authorization claims ∧
          claims.tokenType = bytes "access" := by
  unfold jwtBearerMiddleware
  cases cut : cutPrefix authorization (bytes "Bearer ") with
  | mk authHeader found =>
      cases found with
      | false => exact Or.inl ⟨_, rfl, Response.isFailure_fail _ (by decide)⟩
      | true =>
          cases read : database.getConfig env.bearerConfigFails configJwtSecretKey with
          | error reason => exact Or.inl ⟨_, rfl, Response.isFailure_internalServerError⟩
          | ok jwtSecret =>
              cases parsed : parseJwtToken P env.now authHeader jwtSecret with
              | none =>
                  refine Or.inl ⟨Response.fail 401 "invalid bearer token", ?_, ?_⟩
                  · simp [parsed]
                  · exact Response.isFailure_fail _ (by decide)
              | some claims =>
                  by_cases access : claims.tokenType = bytes "access"
                  · refine Or.inr ⟨claims, by simp [parsed, access], ?_, access⟩
                    exact bearerToken_iff.mpr ⟨authHeader, jwtSecret, cut, read, parsed⟩
                  · refine Or.inl ⟨Response.fail 401 "invalid token type", ?_, ?_⟩
                    · simp [parsed, access]
                    · exact Response.isFailure_fail _ (by decide)

/-- A request behind the middleware is either aborted, and then changes
nothing, or served with the claims of its token. -/
theorem withBearer_cases (P : Platform) (env : Env) (database : Database) (authorization : Bytes)
    (handler : CustomClaims -> Response × Database) :
    ((withBearer P env database authorization handler).1.IsFailure ∧
        (withBearer P env database authorization handler).2 = database) ∨
      Exists fun claims => jwtBearerMiddleware P env database authorization = .ok claims ∧
        withBearer P env database authorization handler = handler claims := by
  unfold withBearer
  rcases jwtBearerMiddleware_cases P env database authorization with
    ⟨response, aborted, failed⟩ | ⟨claims, passed, _⟩
  · rw [aborted]
    exact Or.inl ⟨failed, rfl⟩
  · rw [passed]
    exact Or.inr ⟨claims, rfl, rfl⟩

/-! ## The two outcomes of an update -/

/-- An update that was carried out, with everything it has checked. -/
structure Updated (P : Platform) (env : Env) (claims : CustomClaims)
    (body : Option UpdateUserBody) (reqBody : UpdateUserBody) (row : UserRow)
    (before after : Database) : Prop where
  body : body = some reqBody
  accepted : reqBody.accepted P = true
  found : before.users.rows.lookup reqBody.cid = some row
  supervisor : NetworkRatingSupervisor ≤ claims.networkRating
  notHigher : row.networkRating ≤ claims.networkRating
  readable : env.getUserFails = false
  written : before.updateUser P env.updateUserFails env.salt
    (applyUpdate reqBody (userOf reqBody.cid row)) = .ok after

/-- An update either reports an error and changes nothing, or is carried out. -/
theorem updateUser_cases (P : Platform) (env : Env) (database : Database) (claims : CustomClaims)
    (body : Option UpdateUserBody) :
    ((updateUser P env database claims body).1.IsFailure ∧
        (updateUser P env database claims body).2 = database) ∨
      Exists fun reqBody => Exists fun row =>
        (updateUser P env database claims body).1 =
            Response.ok 200 (userData (applyUpdate reqBody (userOf reqBody.cid row))) ∧
          Updated P env claims body reqBody row database
            (updateUser P env database claims body).2 := by
  have failed : forall status err, 400 ≤ status ∧ status < 600 ->
      ((Response.fail status err, database) : Response × Database).1.IsFailure ∧
        ((Response.fail status err, database) : Response × Database).2 = database :=
    fun _ err high => ⟨Response.isFailure_fail err high, rfl⟩
  unfold updateUser
  by_cases low : claims.networkRating < NetworkRatingSupervisor
  · rw [if_pos low]
    exact Or.inl (failed 403 _ (by decide))
  rw [if_neg low]
  cases bound : bindBody body (UpdateUserBody.accepted P) with
  | none => exact Or.inl (failed 400 _ (by decide))
  | some reqBody =>
      dsimp only
      cases read : database.getUserByCID env.getUserFails reqBody.cid with
      | error reason => exact Or.inl (failed 404 _ (by decide))
      | ok targetUser =>
          rcases Database.getUserByCID_eq_ok read with ⟨row, found, same⟩
          dsimp only
          by_cases higher : claims.networkRating < targetUser.networkRating
          · rw [if_pos higher]
            exact Or.inl (failed 403 _ (by decide))
          rw [if_neg higher]
          cases written : database.updateUser P env.updateUserFails env.salt
              (applyUpdate reqBody targetUser) with
          | error reason =>
              cases reason with
              | noRows => exact Or.inl (failed 404 _ (by decide))
              | keyNotFound => exact Or.inl (failed 500 _ (by decide))
              | failed => exact Or.inl (failed 500 _ (by decide))
          | ok after =>
              rw [same] at higher written
              rcases bindBody_eq_some bound with ⟨isBody, accepted⟩
              exact Or.inr ⟨reqBody, row, by rw [same], {
                body := isBody
                accepted := accepted
                found := found
                supervisor := Int.not_lt.mp low
                notHigher := Int.not_lt.mp higher
                readable := Database.getUserByCID_readable read
                written := written }⟩

/-! ## The record after an update -/

/-- The update changes exactly what the request names. -/
structure ChangesExactly (P : Platform) (reqBody : UpdateUserBody) (row changed : UserRow)
    (before after : UserTable) : Prop where
  stored : after.rows.lookup reqBody.cid = some changed
  keepsPasswords : reqBody.password.getD [] = [] -> forall password,
    verifyPasswordHash P password row.password = true ->
      verifyPasswordHash P password changed.password = true
  setsPassword : forall password, reqBody.password = some password -> password ≠ [] ->
    verifyPasswordHash P password changed.password = true
  firstName : changed.firstName = reqBody.firstName.or row.firstName
  lastName : changed.lastName = reqBody.lastName.or row.lastName
  networkRating : changed.networkRating = reqBody.networkRating.getD row.networkRating
  others : forall other, other ≠ reqBody.cid -> after.rows.lookup other = before.rows.lookup other

/-- The password that is hashed when the request has none is the old hash, so
it must be the only password that the old hash has verified. -/
def KeepsPasswords (P : Platform) (reqBody : UpdateUserBody) (row : UserRow) : Prop :=
  reqBody.password ≠ none ∨ row.password = [] ∨
    forall password, verifyPasswordHash P password row.password = true -> password = row.password

variable {P : Platform} {env : Env} {claims : CustomClaims} {body : Option UpdateUserBody}
  {reqBody : UpdateUserBody} {row : UserRow} {before after : Database}

/-- The stored row after an update, whatever its password column is. -/
theorem Updated.stored (updated : Updated P env claims body reqBody row before after) :
    Exists fun column =>
      (forall other, after.users.rows.lookup other =
        if other = reqBody.cid then
          some (UserTable.rowOf (applyUpdate reqBody (userOf reqBody.cid row)) column)
        else before.users.rows.lookup other) ∧
      ((reqBody.password.getD row.password = [] ∧ column = row.password) ∨
        (reqBody.password.getD row.password ≠ [] ∧
          P.generateFromPassword env.salt (reqBody.password.getD row.password) = some column)) := by
  rcases Database.updateUser_eq_ok updated.written with ⟨old, column, found, _, stored, password⟩
  have sameRow : row = old := Option.some.inj (updated.found.symm.trans found)
  subst sameRow
  exact ⟨column, stored, password⟩

/-- An update that is carried out changes exactly what it names if and only if
its request keeps the passwords. -/
theorem Updated.changesExactly_iff (hashing : P.IdealHashing)
    (updated : Updated P env claims body reqBody row before after) :
    (Exists fun changed => ChangesExactly P reqBody row changed before.users after.users) ↔
      KeepsPasswords P reqBody row := by
  rcases updated.stored with ⟨column, stored, password⟩
  have own := (stored reqBody.cid).trans (if_pos rfl)
  constructor
  · rintro ⟨changed, exactly⟩
    have sameChanged := Option.some.inj (exactly.stored.symm.trans own)
    by_cases absent : reqBody.password = none
    · refine Or.inr ?_
      rw [absent] at password
      rcases password with ⟨empty, _⟩ | ⟨_, hashed⟩
      · exact Or.inl empty
      · refine Or.inr ?_
        intro presented verified
        have kept := exactly.keepsPasswords (by rw [absent]; rfl) presented verified
        rw [sameChanged] at kept
        exact (hashing _ _ _ hashed presented).mp kept
    · exact Or.inl absent
  · intro keeps
    refine ⟨_, {
      stored := own
      keepsPasswords := ?_
      setsPassword := ?_
      firstName := rfl
      lastName := rfl
      networkRating := rfl
      others := fun other different => (stored other).trans (if_neg different) }⟩
    · intro withoutPassword presented verified
      rcases password with ⟨_, kept⟩ | ⟨nonempty, hashed⟩
      · rw [kept]
        exact verified
      · have absent : reqBody.password = none := by
          cases given : reqBody.password with
          | none => rfl
          | some empty =>
              rw [given] at withoutPassword nonempty
              exact absurd withoutPassword nonempty
        rw [absent] at nonempty hashed
        rcases keeps with present | empty | only
        · exact absurd absent present
        · exact absurd empty nonempty
        · exact (hashing _ _ _ hashed presented).mpr (only presented verified)
    · intro given present nonempty
      rw [present] at password
      rcases password with ⟨empty, _⟩ | ⟨_, hashed⟩
      · exact absurd empty nonempty
      · exact (hashing _ _ _ hashed given).mpr rfl

/-! ## The endpoint -/

/-- The endpoint behind its middleware. -/
theorem serve_updateUser_cases (driver : Driver) (P : Platform) (env : Env) (database : Database)
    (authorization : Bytes) (body : Option UpdateUserBody) :
    (¬ (serve driver P env database (.updateUser authorization body)).1.IsSuccess ∧
        (serve driver P env database (.updateUser authorization body)).2 = database) ∨
      ((serve driver P env database (.updateUser authorization body)).1.IsSuccess ∧
        Exists fun claims => Exists fun reqBody => Exists fun row =>
          jwtBearerMiddleware P env database authorization = .ok claims ∧
            Updated P env claims body reqBody row database
              (serve driver P env database (.updateUser authorization body)).2) := by
  rcases withBearer_cases P env database authorization fun claims =>
      updateUser P env database claims body with aborted | ⟨claims, passed, same⟩
  · exact Or.inl ⟨aborted.1.not_isSuccess, aborted.2⟩
  · have served : serve driver P env database (.updateUser authorization body) =
        updateUser P env database claims body := same
    rw [served]
    rcases updateUser_cases P env database claims body with
      ⟨failed, kept⟩ | ⟨reqBody, row, answered, updated⟩
    · exact Or.inl ⟨failed.not_isSuccess, kept⟩
    · refine Or.inr ⟨?_, claims, reqBody, row, passed, updated⟩
      rw [answered]
      exact Response.isSuccess_ok _

/-- `PATCH /user/update`: an error changes nothing, and a success changes
exactly what the request names if and only if it keeps the passwords. -/
theorem serve_updateUser_changesExactly (hashing : P.IdealHashing) {driver : Driver}
    {authorization : Bytes} {response : Response}
    (served : serve driver P env before (.updateUser authorization body) = (response, after)) :
    (¬ response.IsSuccess -> after = before) ∧
      (response.IsSuccess -> Exists fun reqBody => Exists fun row =>
        body = some reqBody ∧ before.users.rows.lookup reqBody.cid = some row ∧
          ((Exists fun changed => ChangesExactly P reqBody row changed before.users after.users) ↔
            KeepsPasswords P reqBody row)) := by
  have outcome := serve_updateUser_cases driver P env before authorization body
  rw [served] at outcome
  rcases outcome with ⟨failed, same⟩ | ⟨success, claims, reqBody, row, _, updated⟩
  · exact ⟨fun _ => same, fun success => absurd success failed⟩
  · refine ⟨fun failed => absurd success failed, fun _ => ?_⟩
    exact ⟨reqBody, row, updated.body, updated.found, updated.changesExactly_iff hashing⟩

/-! ### A request without a password -/

def sampleEnv : Env where
  now := 0
  uuid := fun _ => some []
  salt := []
  secretKey := none
  bearerConfigFails := false
  getConfigFails := fun _ => false
  setConfigFails := fun _ => false
  getUserFails := false
  createUserFails := false
  updateUserFails := false

/-- A bearer header with an access token, signed with the key of the sample
database. -/
def bearerOf (cid networkRating : Int) : Bytes :=
  bytes "Bearer " ++ Symbolic.signedString {
    issuer := jwtIssuer
    expiresAt := none
    notBefore := none
    issuedAt := none
    jti := []
    tokenType := bytes "access"
    cid := cid
    firstName := []
    lastName := []
    networkRating := networkRating } (bytes "key")

/-- The administrator changes a first name, and names the rating it has. -/
def sampleUpdate (password : Option Bytes) : UpdateUserBody :=
  ⟨1, password, some (bytes "Ada"), none, some 12⟩

/-- An update without a password locks the user out. -/
theorem serve_updateUser_rehashes :
    (serve .sqlite Symbolic.platform sampleEnv Symbolic.database
        (.updateUser (bearerOf 1 12) (some (sampleUpdate none)))).1.IsSuccess ∧
      Symbolic.database.users.rows.lookup 1 = some (Symbolic.userRow (bytes "secret") 12) ∧
      ¬ Exists fun changed => ChangesExactly Symbolic.platform (sampleUpdate none)
        (Symbolic.userRow (bytes "secret") 12) changed Symbolic.database.users
        (serve .sqlite Symbolic.platform sampleEnv Symbolic.database
          (.updateUser (bearerOf 1 12) (some (sampleUpdate none)))).2.users := by
  have stored : (serve .sqlite Symbolic.platform sampleEnv Symbolic.database
      (.updateUser (bearerOf 1 12) (some (sampleUpdate none)))).2.users.rows.lookup 1 =
        some ⟨pack [[], pack [[], bytes "secret"]], some (bytes "Ada"), none, 12⟩ := by
    decide +kernel
  refine ⟨by decide +kernel, by decide +kernel, ?_⟩
  rintro ⟨changed, exactly⟩
  have same := Option.some.inj (exactly.stored.symm.trans stored)
  have kept := exactly.keepsPasswords rfl (bytes "secret") (by decide +kernel)
  rw [same] at kept
  revert kept
  decide +kernel

/-- With an empty password field the same request keeps the password. -/
theorem serve_updateUser_emptyPassword :
    Exists fun reqBody => Exists fun row =>
      some (sampleUpdate (some [])) = some reqBody ∧
        Symbolic.database.users.rows.lookup reqBody.cid = some row ∧
        ((Exists fun changed => ChangesExactly Symbolic.platform reqBody row changed
            Symbolic.database.users
            (serve .sqlite Symbolic.platform sampleEnv Symbolic.database
              (.updateUser (bearerOf 1 12) (some (sampleUpdate (some []))))).2.users) ↔
          KeepsPasswords Symbolic.platform reqBody row) := by
  have success : (serve .sqlite Symbolic.platform sampleEnv Symbolic.database
      (.updateUser (bearerOf 1 12) (some (sampleUpdate (some []))))).1.IsSuccess := by
    decide +kernel
  exact (serve_updateUser_changesExactly Symbolic.platform_idealHashing (Prod.mk.eta).symm).2 success

end Web
end OpenFsd
