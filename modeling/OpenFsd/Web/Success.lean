import OpenFsd.Fsd.Speaker
import OpenFsd.Web.FsdConn

namespace OpenFsd
namespace Web

open Db Fsd

/-!
# What a success says

`Performed` lists, for every endpoint, the steps of a request that is carried
out: what is bound, authorized, read, signed and written, and the response
that reports it.  It mentions no handler.  A response is truthful when a
success says that the request was carried out, and a request that was not is
answered with an error.

`truthful_iff_answered` finds the requests without a truthful response.  They
are those whose handler returns before it has written anything.
-/

/-! ## Requests that are carried out -/

/-- The access token of a request is accepted. -/
structure Authorized (P : Platform) (env : Env) (database : Database) (authorization : Bytes)
    (claims : CustomClaims) : Prop where
  bearer : BearerToken P env.now env.bearerConfigFails database authorization claims
  access : claims.tokenType = bytes "access"

/-- The row of a user, read without an error. -/
structure RowRead (env : Env) (database : Database) (cid : Int) (row : UserRow) : Prop where
  readable : env.getUserFails = false
  found : database.users.rows.lookup cid = some row

/-- One row of the table of users is written, and nothing else. -/
structure RowWritten (cid : Int) (row : UserRow) (before after : Database) : Prop where
  config : after.config = before.config
  rows : forall other, after.users.rows.lookup other =
    if other = cid then some row else before.users.rows.lookup other

/-- Every key is written, with the last of its values, and nothing else. -/
structure ConfigWritten (pairs : List (Bytes × Bytes)) (before after : Database) : Prop where
  users : after.users = before.users
  values : forall key, after.config.lookup key =
    (pairs.reverse.lookup key).or (before.config.lookup key)

/-- The steps of a request that is carried out, with its response and the
database that it leaves.  Those of `fsdJwt` are the checks that its handler
makes, and the password is not among them. -/
inductive Performed (P : Platform) (env : Env) (before : Database) :
    Request -> Response -> Database -> Prop
  | login (reqBody : LoginBody) (row : UserRow) (secret access refresh : Bytes)
      (accepted : reqBody.accepted = true)
      (read : RowRead env before reqBody.cid row)
      (verified : verifyPasswordHash P reqBody.password row.password = true)
      (key : KeyRead env before secret)
      (madeAccess : TokenMade P env.now (env.uuid 0)
        (userFields (bytes "access") (userOf reqBody.cid row)) (15 * 60) secret access)
      (madeRefresh : TokenMade P env.now (env.uuid 1)
        (userFields (bytes "refresh") (userOf reqBody.cid row))
        (if reqBody.rememberMe then 24 * 3600 * 30 else 24 * 3600) secret refresh) :
      Performed P env before (.login (some reqBody)) (.ok 200 (.tokens access refresh)) before
  | refresh (token : Bytes) (claims : CustomClaims) (row : UserRow) (secret access : Bytes)
      (present : token ≠ [])
      (key : KeyRead env before secret)
      (parsed : parseJwtToken P env.now token secret = some claims)
      (typed : claims.tokenType = bytes "refresh")
      (read : RowRead env before claims.cid row)
      (made : TokenMade P env.now (env.uuid 0) (userFields (bytes "access") (userOf claims.cid row))
        (15 * 60) secret access) :
      Performed P env before (.refresh (some token)) (.ok 200 (.accessToken access)) before
  | fsdJwt (reqBody : FsdJwtBody) (row : UserRow) (secret token : Bytes)
      (accepted : reqBody.accepted = true)
      (numeric : (atoi reqBody.cid).err = none)
      (positive : 1 ≤ (atoi reqBody.cid).value)
      (read : RowRead env before (atoi reqBody.cid).value row)
      (active : NetworkRatingSuspended < row.networkRating)
      (key : KeyRead env before secret)
      (made : TokenMade P env.now (env.uuid 0)
        (userFields (bytes "fsd") (userOf (atoi reqBody.cid).value row)) (5 * 60) secret token) :
      Performed P env before (.fsdJwt (some reqBody)) ⟨200, .fsdToken token⟩ before
  | loadUser (authorization : Bytes) (cid : Int) (claims : CustomClaims) (row : UserRow)
      (authorized : Authorized P env before authorization claims)
      (positive : 1 ≤ cid)
      (permitted : cid = claims.cid ∨ NetworkRatingSupervisor ≤ claims.networkRating)
      (read : RowRead env before cid row) :
      Performed P env before (.loadUser authorization (some cid))
        (.ok 200 (userData (userOf cid row))) before
  | updateUser (authorization : Bytes) (reqBody : UpdateUserBody) (claims : CustomClaims)
      (row : UserRow) (column : Bytes) (after : Database)
      (authorized : Authorized P env before authorization claims)
      (updated : Updated P env claims (some reqBody) reqBody row before after)
      (writable : env.updateUserFails = false)
      (written : RowWritten reqBody.cid
        (UserTable.rowOf (applyUpdate reqBody (userOf reqBody.cid row)) column) before after) :
      Performed P env before (.updateUser authorization (some reqBody))
        (.ok 200 (userData (applyUpdate reqBody (userOf reqBody.cid row)))) after
  | createUser (authorization : Bytes) (reqBody : CreateUserBody) (claims : CustomClaims)
      (hash : Bytes) (after : Database)
      (authorized : Authorized P env before authorization claims)
      (accepted : reqBody.accepted = true)
      (supervisor : NetworkRatingSupervisor ≤ claims.networkRating)
      (notHigher : reqBody.networkRating ≤ claims.networkRating)
      (writable : env.createUserFails = false)
      (hashed : P.generateFromPassword env.salt reqBody.password = some hash)
      (written : RowWritten before.users.nextCid
        ⟨hash, reqBody.firstName, reqBody.lastName, reqBody.networkRating⟩ before after) :
      Performed P env before (.createUser authorization (some reqBody))
        (.ok 201 (.user before.users.nextCid reqBody.firstName reqBody.lastName
          reqBody.networkRating)) after
  | loadConfig (authorization : Bytes) (claims : CustomClaims)
      (authorized : Authorized P env before authorization claims)
      (administrator : NetworkRatingAdministator ≤ claims.networkRating)
      (readable : forall key, key ∈ configKeys -> env.getConfigFails key = false) :
      Performed P env before (.loadConfig authorization)
        (.ok 200 (.keyValuePairs (configKeys.filterMap fun key =>
          (before.config.lookup key).map fun value => (key, value)))) before
  | updateConfig (authorization : Bytes) (pairs : List (Bytes × Bytes)) (claims : CustomClaims)
      (after : Database)
      (authorized : Authorized P env before authorization claims)
      (administrator : NetworkRatingAdministator ≤ claims.networkRating)
      (writable : forall call, call < pairs.length -> env.setConfigFails call = false)
      (written : ConfigWritten pairs before after) :
      Performed P env before (.updateConfig authorization (some (some pairs))) (.ok 200 .none) after
  | resetSecretKey (authorization secretKey : Bytes) (claims : CustomClaims) (after : Database)
      (authorized : Authorized P env before authorization claims)
      (administrator : NetworkRatingAdministator ≤ claims.networkRating)
      (drawn : env.secretKey = some secretKey)
      (writable : env.setConfigFails 0 = false)
      (written : ConfigWritten [(configJwtSecretKey, secretKey)] before after) :
      Performed P env before (.resetSecretKey authorization) (.ok 200 .none) after
  | createToken (authorization : Bytes) (expiryDateTime : Time) (claims : CustomClaims)
      (secret token : Bytes)
      (authorized : Authorized P env before authorization claims)
      (administrator : NetworkRatingAdministator ≤ claims.networkRating)
      (present : expiryDateTime ≠ zeroTime)
      (future : env.now ≤ expiryDateTime)
      (key : KeyRead env before secret)
      (made : TokenMade P env.now (env.uuid 0)
        ⟨bytes "access", claims.cid, [], [], NetworkRatingAdministator⟩ (timeSub expiryDateTime env.now)
        secret token) :
      Performed P env before (.createToken authorization (some expiryDateTime))
        (.ok 201 (.apiToken token)) before

variable {F : Type}

/-- The steps of a request that is carried out, those of the kick across both
servers among them. -/
inductive Succeeds (P : Platform) (env : Env) (call : CallEnv) (before : Backend F) :
    V1Request -> Response -> Backend F -> Prop
  | stored (request : Request) (response : Response) (database : Database)
      (performed : Performed P env before.database request response database) :
      Succeeds P env call before (.stored request) response { before with database := database }
  | kickUser (authorization header callsign : Bytes) (claims : CustomClaims) (fsd : Server F)
      (authorized : Authorized P env before.database authorization claims)
      (supervisor : NetworkRatingSupervisor ≤ claims.networkRating)
      (present : callsign ≠ [])
      (encoded : call.encodeFails = false)
      (called : CanCall P env call before.database header)
      (answered : call.exchange = .answered)
      (kicked : Kicked P call.service header callsign before.fsd fsd) :
      Succeeds P env call before (.kickUser authorization (some callsign)) (.ok 200 .none)
        { before with fsd := fsd }

/-- A success says that the request was carried out, and a request that was
not carried out is answered with an error. -/
structure Truthful (driver : Driver) (P : Platform) (env : Env) (call : CallEnv)
    (before : Backend F) (request : V1Request) : Prop where
  success : (serveV1 driver P env call before request).1.IsSuccess ->
    Succeeds P env call before request (serveV1 driver P env call before request).1
      (serveV1 driver P env call before request).2
  failure : ¬ Succeeds P env call before request (serveV1 driver P env call before request).1
      (serveV1 driver P env call before request).2 ->
    (serveV1 driver P env call before request).1.IsFailure

/-- The requests that nothing is written to: an FSD token is asked for with a
body that cannot be bound, or the service cannot be called, or the call fails,
for a kick that has passed every check before it. -/
inductive Unanswered (P : Platform) (env : Env) (call : CallEnv) (before : Backend F) :
    V1Request -> Prop
  | fsdJwt (body : Option FsdJwtBody)
      (unbound : forall reqBody, body = some reqBody -> reqBody.accepted = false) :
      Unanswered P env call before (.stored (.fsdJwt body))
  | kickUser (authorization callsign : Bytes) (claims : CustomClaims)
      (authorized : Authorized P env before.database authorization claims)
      (supervisor : NetworkRatingSupervisor ≤ claims.networkRating)
      (present : callsign ≠ [])
      (encoded : call.encodeFails = false)
      (broken : (forall header, ¬ CanCall P env call before.database header) ∨
        call.exchange ≠ .answered) :
      Unanswered P env call before (.kickUser authorization (some callsign))

/-! ## Steps -/

variable {P : Platform} {env : Env} {database : Database}

theorem rowRead_of_getUserByCID {cid : Int} {user : User}
    (read : database.getUserByCID env.getUserFails cid = .ok user) :
    Exists fun row => RowRead env database cid row ∧ user = userOf cid row := by
  rcases Database.getUserByCID_eq_ok read with ⟨row, found, same⟩
  exact ⟨row, ⟨Database.getUserByCID_readable read, found⟩, same⟩

theorem tokenMade_of_makeUserToken {uuid : Option Bytes} {tokenType secret token : Bytes}
    {user : User} {validityDuration : Time}
    (made : makeUserToken P env uuid tokenType user validityDuration secret = some token) :
    TokenMade P env.now uuid (userFields tokenType user) validityDuration secret token := by
  unfold makeUserToken at made
  cases claimed : makeJwtToken env.now uuid (userFields tokenType user) validityDuration with
  | none =>
      simp only [claimed] at made
      cases made
  | some claims =>
      simp only [claimed] at made
      exact ⟨claims, claimed, made⟩

theorem makeAccessRefreshTokens_eq_some {user : User} {rememberMe : Bool} {access refresh : Bytes}
    (made : makeAccessRefreshTokens P env database user rememberMe = some (access, refresh)) :
    Exists fun secret => KeyRead env database secret ∧
      makeAccessToken P env user secret = some access ∧
      makeRefreshToken P env user rememberMe secret = some refresh := by
  unfold makeAccessRefreshTokens at made
  cases read : database.getConfig (env.getConfigFails configJwtSecretKey) configJwtSecretKey with
  | error reason =>
      simp only [read] at made
      cases made
  | ok secret =>
      cases madeAccess : makeAccessToken P env user secret with
      | none =>
          simp only [read, madeAccess] at made
          cases made
      | some first =>
          cases madeRefresh : makeRefreshToken P env user rememberMe secret with
          | none =>
              simp only [read, madeAccess, madeRefresh] at made
              cases made
          | some second =>
              simp only [read, madeAccess, madeRefresh, Option.some.injEq, Prod.mk.injEq] at made
              rcases made with ⟨sameAccess, sameRefresh⟩
              subst sameAccess sameRefresh
              exact ⟨secret, keyRead_iff.mp read, madeAccess, madeRefresh⟩

theorem rowWritten_insertRow (database : Database) (row : UserRow) :
    RowWritten database.users.nextCid row database
      { database with users := database.users.insertRow row } where
  config := rfl
  rows := UserTable.lookup_insertRow database.users row

theorem configWritten_insert (database : Database) (key value : Bytes) :
    ConfigWritten [(key, value)] database
      { database with config := database.config.insert key value } where
  users := rfl
  values := by
    intro other
    by_cases same : other = key
    · subst same
      simp
    · simp [AList.lookup_insert_ne same, beq_false_of_ne same]

/-- A write after which the remaining pairs are written. -/
theorem ConfigWritten.cons {pair : Bytes × Bytes} {rest : List (Bytes × Bytes)}
    {before between after : Database} (first : ConfigWritten [pair] before between)
    (later : ConfigWritten rest between after) : ConfigWritten (pair :: rest) before after where
  users := later.users.trans first.users
  values := by
    intro key
    simp only [later.values key, first.values key, List.reverse_cons, List.reverse_nil,
      List.nil_append, List.lookup_append, Option.or_assoc]

/-- The loop of `handleUpdateConfig` writes every key if it does not stop. -/
theorem writeConfig_eq_true {call : Nat} {pairs : List (Bytes × Bytes)} {after : Database}
    (done : writeConfig env call database pairs = (true, after)) :
    (forall later, later < pairs.length -> env.setConfigFails (call + later) = false) ∧
      ConfigWritten pairs database after := by
  induction pairs generalizing call database with
  | nil =>
      cases done
      exact ⟨nofun, rfl, fun key => rfl⟩
  | cons pair rest inductionHypothesis =>
      rcases pair with ⟨key, value⟩
      unfold writeConfig at done
      cases set : database.setConfig (env.setConfigFails call) key value with
      | error reason =>
          simp only [set] at done
          cases done
      | ok between =>
          simp only [set] at done
          rcases Database.setConfig_eq_ok set with ⟨writable, same⟩
          subst same
          rcases inductionHypothesis done with ⟨writableLater, written⟩
          refine ⟨?_, (configWritten_insert database key value).cons written⟩
          intro later inside
          cases later with
          | zero => exact writable
          | succ before =>
              have next := writableLater before (Nat.lt_of_succ_lt_succ inside)
              rwa [Nat.add_assoc, Nat.add_comm 1 before] at next

/-- The loop of `handleGetConfig` reads every key that is stored. -/
theorem readConfig_eq_some {keys : List Bytes} {pairs : List (Bytes × Bytes)}
    (done : readConfig env database keys = some pairs) :
    (forall key, key ∈ keys -> env.getConfigFails key = false) ∧
      pairs = keys.filterMap fun key =>
        (database.config.lookup key).map fun value => (key, value) := by
  induction keys generalizing pairs with
  | nil =>
      cases done
      exact ⟨nofun, rfl⟩
  | cons key rest inductionHypothesis =>
      unfold readConfig at done
      cases fails : env.getConfigFails key with
      | true =>
          simp [fails, Database.getConfig] at done
      | false =>
          cases found : database.config.lookup key with
          | none =>
              simp only [fails, found, Database.getConfig, Bool.false_eq_true, if_false] at done
              rcases inductionHypothesis done with ⟨readable, same⟩
              refine ⟨List.forall_mem_cons.mpr ⟨fails, readable⟩, ?_⟩
              simp [found, same]
          | some value =>
              simp only [fails, found, Database.getConfig, Bool.false_eq_true, if_false,
                Option.map_eq_some_iff] at done
              rcases done with ⟨later, read, same⟩
              rcases inductionHypothesis read with ⟨readable, sameLater⟩
              refine ⟨List.forall_mem_cons.mpr ⟨fails, readable⟩, ?_⟩
              simp [found, ← same, sameLater]

/-! ## The handlers -/

/-- An outcome that is an error, or reports a request that was carried out. -/
def Accounted (P : Platform) (env : Env) (before : Database) (request : Request)
    (outcome : Response × Database) : Prop :=
  outcome.1.IsFailure ∨ Performed P env before request outcome.1 outcome.2

theorem isFailure_badCidOrPassword : badCidOrPassword.IsFailure :=
  Response.isFailure_fail _ (by decide)

theorem isFailure_badToken : badToken.IsFailure :=
  Response.isFailure_fail _ (by decide)

theorem accounted_login (body : Option LoginBody) :
    Accounted P env database (.login body)
      (getAccessRefreshTokens P env database body, database) := by
  unfold getAccessRefreshTokens
  cases bound : bindBody body LoginBody.accepted with
  | none => exact Or.inl Response.isFailure_invalidJSON
  | some reqBody =>
      rcases bindBody_eq_some bound with ⟨same, accepted⟩
      subst same
      dsimp only
      cases found : database.getUserByCID env.getUserFails reqBody.cid with
      | error reason => exact Or.inl isFailure_badCidOrPassword
      | ok user =>
          rcases rowRead_of_getUserByCID found with ⟨row, read, same⟩
          subst same
          dsimp only
          cases verified : verifyPasswordHash P reqBody.password (userOf reqBody.cid row).password with
          | false => exact Or.inl isFailure_badCidOrPassword
          | true =>
              cases made : makeAccessRefreshTokens P env database (userOf reqBody.cid row)
                  reqBody.rememberMe with
              | none => exact Or.inl Response.isFailure_internalServerError
              | some tokens =>
                  rcases tokens with ⟨access, refresh⟩
                  rcases makeAccessRefreshTokens_eq_some made with
                    ⟨secret, key, madeAccess, madeRefresh⟩
                  exact Or.inr (.login reqBody row secret access refresh accepted read verified key
                    (tokenMade_of_makeUserToken madeAccess) (tokenMade_of_makeUserToken madeRefresh))

theorem accounted_refresh (body : Option Bytes) :
    Accounted P env database (.refresh body) (refreshAccessToken P env database body, database) := by
  unfold refreshAccessToken
  cases bound : bindBody body (fun refreshToken => decide (refreshToken ≠ [])) with
  | none => exact Or.inl Response.isFailure_invalidJSON
  | some token =>
      rcases bindBody_eq_some bound with ⟨same, present⟩
      subst same
      dsimp only
      cases read : database.getConfig (env.getConfigFails configJwtSecretKey)
          configJwtSecretKey with
      | error reason => exact Or.inl Response.isFailure_internalServerError
      | ok secret =>
          dsimp only
          cases parsed : parseJwtToken P env.now token secret with
          | none => exact Or.inl isFailure_badToken
          | some claims =>
              dsimp only
              by_cases typed : claims.tokenType = bytes "refresh"
              · rw [if_neg (not_not_intro typed)]
                cases found : database.getUserByCID env.getUserFails claims.cid with
                | error reason => exact Or.inl isFailure_badToken
                | ok user =>
                    rcases rowRead_of_getUserByCID found with ⟨row, rowRead, same⟩
                    subst same
                    dsimp only
                    cases made : makeAccessToken P env (userOf claims.cid row) secret with
                    | none => exact Or.inl Response.isFailure_internalServerError
                    | some access =>
                        exact Or.inr (.refresh token claims row secret access
                          (of_decide_eq_true present) (keyRead_iff.mp read) parsed typed rowRead
                          (tokenMade_of_makeUserToken made))
              · rw [if_pos typed]
                exact Or.inl isFailure_badToken

theorem isFailure_fsdFailure {status : Nat} (errorMsg : Bytes) (high : 400 ≤ status ∧ status < 600) :
    (Response.mk status (.fsdFailure errorMsg)).IsFailure :=
  high

theorem makeFsdToken_cases (P : Platform) (env : Env) (database : Database) (user : User) :
    (makeFsdToken P env database user).IsFailure ∨
      Exists fun secret => Exists fun token =>
        makeFsdToken P env database user = ⟨200, .fsdToken token⟩ ∧ KeyRead env database secret ∧
          TokenMade P env.now (env.uuid 0) (userFields (bytes "fsd") user) (5 * 60) secret token := by
  unfold makeFsdToken
  cases claimed : makeJwtToken env.now (env.uuid 0) (userFields (bytes "fsd") user) (5 * 60) with
  | none => exact Or.inl (isFailure_fsdFailure _ (by decide))
  | some claims =>
      cases read : database.getConfig (env.getConfigFails configJwtSecretKey)
          configJwtSecretKey with
      | error reason => exact Or.inl Response.isFailure_internalServerError
      | ok secret =>
          dsimp only
          cases signed : P.signedString claims secret with
          | none => exact Or.inl (isFailure_fsdFailure _ (by decide))
          | some token =>
              exact Or.inr ⟨secret, token, rfl, keyRead_iff.mp read, claims, claimed, signed⟩

/-- Once its body is bound, the FSD token endpoint answers every request. -/
theorem accounted_fsdJwt {reqBody : FsdJwtBody} (accepted : reqBody.accepted = true) :
    Accounted P env database (.fsdJwt (some reqBody))
      (getFsdJwt P env database (some reqBody), database) := by
  unfold getFsdJwt bindBody
  simp only [accepted, if_true]
  by_cases invalid : ((atoi reqBody.cid).err.isSome || decide ((atoi reqBody.cid).value < 1)) = true
  · rw [if_pos invalid]
    exact Or.inl (isFailure_fsdFailure _ (by decide))
  rw [if_neg invalid]
  simp only [Bool.or_eq_true, decide_eq_true_eq, not_or, Option.not_isSome_iff_eq_none,
    Int.not_lt] at invalid
  cases found : database.getUserByCID env.getUserFails (atoi reqBody.cid).value with
  | error reason =>
      cases reason with
      | noRows => exact Or.inl (isFailure_fsdFailure _ (by decide))
      | keyNotFound => exact Or.inl (isFailure_fsdFailure _ (by decide))
      | failed => exact Or.inl (isFailure_fsdFailure _ (by decide))
  | ok user =>
      rcases rowRead_of_getUserByCID found with ⟨row, read, same⟩
      subst same
      dsimp only
      by_cases inactive : (userOf (atoi reqBody.cid).value row).networkRating ≤ NetworkRatingSuspended
      · rw [if_pos inactive]
        exact Or.inl (isFailure_fsdFailure _ (by decide))
      rw [if_neg inactive]
      rcases makeFsdToken_cases P env database (userOf (atoi reqBody.cid).value row) with
        failed | ⟨secret, token, answered, key, made⟩
      · exact Or.inl failed
      · rw [answered]
        exact Or.inr (.fsdJwt reqBody row secret token accepted invalid.1 invalid.2 read
          (Int.not_le.mp inactive) key made)

/-! ### Behind the middleware -/

/-- The middleware is accounted for, so that only the handler is left. -/
theorem accounted_withBearer {request : Request} {authorization : Bytes}
    {handler : CustomClaims -> Response × Database}
    (served : forall claims, Authorized P env database authorization claims ->
      Accounted P env database request (handler claims)) :
    Accounted P env database request (withBearer P env database authorization handler) := by
  unfold withBearer
  rcases jwtBearerMiddleware_cases P env database authorization with
    ⟨response, aborted, failed⟩ | ⟨claims, passed, bearer, access⟩
  · rw [aborted]
    exact Or.inl failed
  · rw [passed]
    exact served claims ⟨bearer, access⟩

section Bearer

variable {authorization : Bytes} {claims : CustomClaims}

theorem accounted_loadUser (authorized : Authorized P env database authorization claims)
    (body : Option Int) :
    Accounted P env database (.loadUser authorization body)
      (getUserByCID env database claims body, database) := by
  unfold getUserByCID
  cases bound : bindBody body (fun cid => decide (1 ≤ cid)) with
  | none => exact Or.inl Response.isFailure_invalidJSON
  | some cid =>
      rcases bindBody_eq_some bound with ⟨same, positive⟩
      subst same
      dsimp only
      by_cases forbidden : cid ≠ claims.cid ∧ claims.networkRating < NetworkRatingSupervisor
      · rw [if_pos forbidden]
        exact Or.inl Response.isFailure_forbidden
      rw [if_neg forbidden]
      have permitted : cid = claims.cid ∨ NetworkRatingSupervisor ≤ claims.networkRating := by
        by_cases own : cid = claims.cid
        · exact Or.inl own
        · exact Or.inr (Int.not_lt.mp fun low => forbidden ⟨own, low⟩)
      cases found : database.getUserByCID env.getUserFails cid with
      | error reason =>
          cases reason with
          | noRows => exact Or.inl Response.isFailure_notFound
          | keyNotFound => exact Or.inl Response.isFailure_internalServerError
          | failed => exact Or.inl Response.isFailure_internalServerError
      | ok user =>
          rcases rowRead_of_getUserByCID found with ⟨row, read, same⟩
          subst same
          exact Or.inr (.loadUser authorization cid claims row authorized
            (of_decide_eq_true positive) permitted read)

theorem accounted_updateUser (authorized : Authorized P env database authorization claims)
    (body : Option UpdateUserBody) :
    Accounted P env database (.updateUser authorization body)
      (updateUser P env database claims body) := by
  rcases updateUser_cases P env database claims body with
    ⟨failed, _⟩ | ⟨reqBody, row, answered, updated⟩
  · exact Or.inl failed
  · apply Or.inr
    rw [answered]
    have same := updated.body
    subst same
    rcases updated.stored with ⟨column, stored, _⟩
    rcases Database.updateUser_eq_ok updated.written with ⟨_, _, _, config, _⟩
    exact .updateUser authorization reqBody claims row column _ authorized updated
      (Database.updateUser_writable updated.written) ⟨config, stored⟩

theorem accounted_createUser (driver : Driver)
    (authorized : Authorized P env database authorization claims) (body : Option CreateUserBody) :
    Accounted P env database (.createUser authorization body)
      (createUser driver P env database claims body) := by
  unfold createUser
  cases bound : bindBody body CreateUserBody.accepted with
  | none => exact Or.inl Response.isFailure_invalidJSON
  | some reqBody =>
      rcases bindBody_eq_some bound with ⟨same, accepted⟩
      subst same
      dsimp only
      by_cases forbidden : claims.networkRating < NetworkRatingSupervisor ∨
          claims.networkRating < reqBody.networkRating
      · rw [if_pos forbidden]
        exact Or.inl Response.isFailure_forbidden
      rw [if_neg forbidden]
      simp only [not_or, Int.not_lt] at forbidden
      cases done : driver.createUser P database env.createUserFails env.salt
          ⟨0, reqBody.password, reqBody.firstName, reqBody.lastName, reqBody.networkRating⟩ with
      | error reason => exact Or.inl Response.isFailure_internalServerError
      | ok pair =>
          rcases pair with ⟨created, written⟩
          rcases Driver.createUser_eq_ok done with ⟨writable, sameUser, hash, hashed, sameDatabase⟩
          subst sameUser sameDatabase
          exact Or.inr (.createUser authorization reqBody claims hash _ authorized accepted
            forbidden.1 forbidden.2 writable hashed (rowWritten_insertRow database _))

theorem accounted_loadConfig (authorized : Authorized P env database authorization claims) :
    Accounted P env database (.loadConfig authorization)
      (handleGetConfig env database claims, database) := by
  unfold handleGetConfig
  by_cases low : claims.networkRating < NetworkRatingAdministator
  · rw [if_pos low]
    exact Or.inl Response.isFailure_forbidden
  rw [if_neg low]
  cases read : readConfig env database configKeys with
  | none => exact Or.inl (Response.isFailure_fail _ (by decide))
  | some pairs =>
      rcases readConfig_eq_some read with ⟨readable, same⟩
      subst same
      exact Or.inr (.loadConfig authorization claims authorized (Int.not_lt.mp low) readable)

theorem accounted_updateConfig (authorized : Authorized P env database authorization claims)
    (body : Option (Option (List (Bytes × Bytes)))) :
    Accounted P env database (.updateConfig authorization body)
      (handleUpdateConfig env database claims body) := by
  unfold handleUpdateConfig
  by_cases low : claims.networkRating < NetworkRatingAdministator
  · rw [if_pos low]
    exact Or.inl Response.isFailure_forbidden
  rw [if_neg low]
  cases bound : bindBody body Option.isSome with
  | none => exact Or.inl Response.isFailure_invalidJSON
  | some reqBody =>
      rcases bindBody_eq_some bound with ⟨same, present⟩
      subst same
      rcases Option.isSome_iff_exists.mp present with ⟨pairs, same⟩
      subst same
      dsimp only [Option.getD_some]
      by_cases finished : (writeConfig env 0 database pairs).1 = true
      · rcases writeConfig_eq_true (Prod.ext finished rfl) with ⟨writable, written⟩
        simp only [Nat.zero_add] at writable
        rw [if_pos finished]
        exact Or.inr (.updateConfig authorization pairs claims _ authorized (Int.not_lt.mp low)
          writable written)
      · rw [if_neg finished]
        exact Or.inl (Response.isFailure_fail _ (by decide))

theorem accounted_resetSecretKey (authorized : Authorized P env database authorization claims) :
    Accounted P env database (.resetSecretKey authorization)
      (handleResetSecretKey env database claims) := by
  unfold handleResetSecretKey
  by_cases low : claims.networkRating < NetworkRatingAdministator
  · rw [if_pos low]
    exact Or.inl Response.isFailure_forbidden
  rw [if_neg low]
  cases drawn : env.secretKey with
  | none => exact Or.inl Response.isFailure_internalServerError
  | some secretKey =>
      dsimp only
      cases set : database.setConfig (env.setConfigFails 0) configJwtSecretKey secretKey with
      | error reason => exact Or.inl Response.isFailure_internalServerError
      | ok after =>
          rcases Database.setConfig_eq_ok set with ⟨writable, same⟩
          subst same
          exact Or.inr (.resetSecretKey authorization secretKey claims _ authorized
            (Int.not_lt.mp low) drawn writable (configWritten_insert database _ secretKey))

theorem accounted_createToken (authorized : Authorized P env database authorization claims)
    (body : Option Time) :
    Accounted P env database (.createToken authorization body)
      (handleCreateNewAPIToken P env database claims body, database) := by
  unfold handleCreateNewAPIToken
  by_cases low : claims.networkRating < NetworkRatingAdministator
  · rw [if_pos low]
    exact Or.inl Response.isFailure_forbidden
  rw [if_neg low]
  cases bound : bindBody body (fun expiry => decide (expiry ≠ zeroTime)) with
  | none => exact Or.inl Response.isFailure_invalidJSON
  | some expiryDateTime =>
      rcases bindBody_eq_some bound with ⟨same, present⟩
      subst same
      dsimp only
      by_cases past : expiryDateTime < env.now
      · rw [if_pos past]
        exact Or.inl (Response.isFailure_fail _ (by decide))
      rw [if_neg past]
      cases claimed : makeJwtToken env.now (env.uuid 0)
          ⟨bytes "access", claims.cid, [], [], NetworkRatingAdministator⟩
          (timeSub expiryDateTime env.now) with
      | none => exact Or.inl Response.isFailure_internalServerError
      | some tokenClaims =>
          dsimp only
          cases read : database.getConfig (env.getConfigFails configJwtSecretKey)
              configJwtSecretKey with
          | error reason => exact Or.inl Response.isFailure_internalServerError
          | ok secret =>
              dsimp only
              cases signed : P.signedString tokenClaims secret with
              | none => exact Or.inl Response.isFailure_internalServerError
              | some token =>
                  exact Or.inr (.createToken authorization expiryDateTime claims secret token
                    authorized (Int.not_lt.mp low) (of_decide_eq_true present) (Int.not_lt.mp past)
                    (keyRead_iff.mp read) ⟨tokenClaims, claimed, signed⟩)

end Bearer

/-- Every request is accounted for, one to `/fsd-jwt` if its body is bound. -/
theorem accounted_serve (driver : Driver) (request : Request)
    (bound : forall body, request = .fsdJwt body ->
      Exists fun reqBody => body = some reqBody ∧ reqBody.accepted = true) :
    Accounted P env database request (serve driver P env database request) := by
  cases request with
  | login body => exact accounted_login body
  | refresh body => exact accounted_refresh body
  | fsdJwt body =>
      rcases bound body rfl with ⟨reqBody, same, accepted⟩
      subst same
      exact accounted_fsdJwt accepted
  | loadUser authorization body =>
      exact accounted_withBearer fun _ authorized => accounted_loadUser authorized body
  | updateUser authorization body =>
      exact accounted_withBearer fun _ authorized => accounted_updateUser authorized body
  | createUser authorization body =>
      exact accounted_withBearer fun _ authorized => accounted_createUser driver authorized body
  | loadConfig authorization =>
      exact accounted_withBearer fun _ authorized => accounted_loadConfig authorized
  | updateConfig authorization body =>
      exact accounted_withBearer fun _ authorized => accounted_updateConfig authorized body
  | resetSecretKey authorization =>
      exact accounted_withBearer fun _ authorized => accounted_resetSecretKey authorized
  | createToken authorization body =>
      exact accounted_withBearer fun _ authorized => accounted_createToken authorized body

/-! ## The API -/

variable {call : CallEnv} {before : Backend F}

theorem Performed.body_ne_empty {request : Request} {response : Response} {after : Database}
    (performed : Performed P env database request response after) : response.body ≠ .empty := by
  cases performed <;> exact nofun

theorem Succeeds.body_ne_empty {request : V1Request} {response : Response} {after : Backend F}
    (succeeds : Succeeds P env call before request response after) : response.body ≠ .empty := by
  cases succeeds with
  | stored request response database performed => exact performed.body_ne_empty
  | kickUser authorization header callsign claims fsd => exact nofun

theorem jwtBearerMiddleware_of_authorized {authorization : Bytes} {claims : CustomClaims}
    (authorized : Authorized P env database authorization claims) :
    jwtBearerMiddleware P env database authorization = .ok claims := by
  rcases bearerToken_iff.mp authorized.bearer with ⟨token, secret, cut, read, parsed⟩
  simp [jwtBearerMiddleware, cut, read, parsed, authorized.access]

/-- A kick is accounted for, or it is left without an answer. -/
theorem accounted_kickUser (driver : Driver) (authorization : Bytes) (body : Option Bytes) :
    Unanswered P env call before (.kickUser authorization body) ∨
      (serveV1 driver P env call before (.kickUser authorization body)).1.IsFailure ∨
      Succeeds P env call before (.kickUser authorization body)
        (serveV1 driver P env call before (.kickUser authorization body)).1
        (serveV1 driver P env call before (.kickUser authorization body)).2 := by
  unfold serveV1
  rcases jwtBearerMiddleware_cases P env before.database authorization with
    ⟨response, aborted, failed⟩ | ⟨claims, passed, bearer, access⟩
  · simp only [aborted]
    exact Or.inr (Or.inl failed)
  simp only [passed]
  unfold handleKickActiveConnection
  by_cases low : claims.networkRating < NetworkRatingSupervisor
  · simp only [if_pos low]
    exact Or.inr (Or.inl Response.isFailure_forbidden)
  simp only [if_neg low]
  cases bound : bindBody body (fun callsign => decide (callsign ≠ [])) with
  | none => exact Or.inr (Or.inl Response.isFailure_invalidJSON)
  | some callsign =>
      rcases bindBody_eq_some bound with ⟨same, present⟩
      subst same
      dsimp only
      by_cases unencoded : call.encodeFails = true
      · simp only [if_pos unencoded]
        exact Or.inr (Or.inl Response.isFailure_internalServerError)
      simp only [if_neg unencoded]
      have encoded : call.encodeFails = false := Bool.eq_false_iff.mpr unencoded
      have unanswered : ((forall header, ¬ CanCall P env call before.database header) ∨
          call.exchange ≠ .answered) ->
          Unanswered P env call before (.kickUser authorization (some callsign)) :=
        .kickUser authorization callsign claims ⟨bearer, access⟩ (Int.not_lt.mp low)
          (of_decide_eq_true present) encoded
      cases made : makeFsdHttpServiceHttpRequest P env call.newRequestFails before.database with
      | none =>
          refine Or.inl (unanswered (Or.inl ?_))
          intro header called
          rw [makeFsdHttpServiceHttpRequest_eq_some.mpr called] at made
          cases made
      | some header =>
          have called := makeFsdHttpServiceHttpRequest_eq_some.mp made
          cases exchanged : call.exchange with
          | failed delivered => exact Or.inl (unanswered (Or.inr (by rw [exchanged]; exact nofun)))
          | answered =>
              apply Or.inr
              rcases kickUser_cases P call.service before.fsd header callsign with
                ⟨noContent, kicked⟩ | error
              · simp only [noContent, if_true]
                exact Or.inr (.kickUser authorization header callsign claims _ ⟨bearer, access⟩
                  (Int.not_lt.mp low) (of_decide_eq_true present) encoded called exchanged kicked)
              · apply Or.inl
                have other : (kickUser P call.service before.fsd header true callsign).1 ≠ 204 := by
                  omega
                by_cases absent :
                    (kickUser P call.service before.fsd header true callsign).1 = 404
                · simp only [absent]
                  exact Response.isFailure_fail _ (by decide)
                · simp only [if_neg other, if_neg absent]
                  exact Response.isFailure_internalServerError

/-- Nothing is written to an unanswered request. -/
theorem serveV1_of_unanswered (driver : Driver) {request : V1Request}
    (unanswered : Unanswered P env call before request) :
    (serveV1 driver P env call before request).1 = ⟨200, .empty⟩ := by
  cases unanswered with
  | fsdJwt body unbound =>
      show getFsdJwt P env before.database body = ⟨200, .empty⟩
      unfold getFsdJwt bindBody
      cases body with
      | none => rfl
      | some reqBody => simp only [unbound reqBody rfl, Bool.false_eq_true, if_false]
  | kickUser authorization callsign claims authorized supervisor present encoded broken =>
      unfold serveV1
      simp only [jwtBearerMiddleware_of_authorized authorized]
      unfold handleKickActiveConnection bindBody
      simp only [if_neg (Int.not_lt.mpr supervisor), present, ne_eq, not_false_eq_true, decide_true,
        if_true, encoded, Bool.false_eq_true, if_false]
      cases made : makeFsdHttpServiceHttpRequest P env call.newRequestFails before.database with
      | none => rfl
      | some header =>
          cases exchanged : call.exchange with
          | failed delivered => rfl
          | answered =>
              rcases broken with uncalled | lost
              · exact absurd (makeFsdHttpServiceHttpRequest_eq_some.mp made) (uncalled header)
              · exact absurd exchanged lost

theorem not_truthful_of_unanswered (driver : Driver) {request : V1Request}
    (unanswered : Unanswered P env call before request) :
    ¬ Truthful driver P env call before request := by
  intro truthful
  have empty := serveV1_of_unanswered driver unanswered
  have success : (serveV1 driver P env call before request).1.IsSuccess := by
    rw [empty]
    show 200 ≤ 200 ∧ 200 < 300
    decide
  apply (truthful.success success).body_ne_empty
  rw [empty]

theorem truthful_of_accounted {driver : Driver} {request : V1Request}
    (accounted : (serveV1 driver P env call before request).1.IsFailure ∨
      Succeeds P env call before request (serveV1 driver P env call before request).1
        (serveV1 driver P env call before request).2) :
    Truthful driver P env call before request where
  success := fun success => accounted.resolve_left fun failed => failed.not_isSuccess success
  failure := fun unperformed => accounted.resolve_right unperformed

/-- The response to a request is truthful if and only if one is written. -/
theorem truthful_iff_answered (driver : Driver) (P : Platform) (env : Env) (call : CallEnv)
    (before : Backend F) (request : V1Request) :
    Truthful driver P env call before request ↔ ¬ Unanswered P env call before request := by
  constructor
  · intro truthful unanswered
    exact not_truthful_of_unanswered driver unanswered truthful
  · intro answered
    apply truthful_of_accounted
    cases request with
    | stored request =>
        have accounted : Accounted P env before.database request
            (serve driver P env before.database request) := by
          apply accounted_serve
          intro body same
          subst same
          by_contra unbound
          refine answered (.fsdJwt body ?_)
          intro reqBody same
          by_contra accepted
          exact unbound ⟨reqBody, same, Bool.eq_true_of_not_eq_false accepted⟩
        rcases accounted with failed | performed
        · exact Or.inl failed
        · exact Or.inr (.stored request _ _ performed)
    | kickUser authorization body =>
        exact (accounted_kickUser driver authorization body).resolve_left answered

/-! ### A kick that does not reach the service -/

/-- The service refuses the connection. -/
def unreachable : CallEnv where
  encodeFails := false
  newRequestFails := false
  exchange := .failed false
  service := ⟨0, Symbolic.database, false⟩

/-- One client is registered, as `AB1`. -/
def sampleBackend [GoFloat F] : Backend F where
  database := Symbolic.database
  fsd := { serverOf (bytes "AB1") with postOffice := ⟨AList.singleton (bytes "AB1") 0, []⟩ }

theorem unanswered_unreachable [GoFloat F] :
    Unanswered Symbolic.platform sampleEnv unreachable (sampleBackend : Backend F)
      (.kickUser (bearerOf 1 12) (some (bytes "AB1"))) := by
  have rated : (jwtBearerMiddleware Symbolic.platform sampleEnv Symbolic.database
      (bearerOf 1 12)).toOption.map (fun claims => claims.networkRating) = some 12 := by
    decide +kernel
  rcases jwtBearerMiddleware_cases Symbolic.platform sampleEnv Symbolic.database (bearerOf 1 12) with
    ⟨response, aborted, _⟩ | ⟨claims, passed, bearer, access⟩
  · rw [aborted] at rated
    cases rated
  · rw [passed] at rated
    have administrator : claims.networkRating = 12 := Option.some.inj rated
    have supervisor : NetworkRatingSupervisor ≤ claims.networkRating := by
      rw [administrator]
      decide
    exact .kickUser (bearerOf 1 12) (bytes "AB1") claims ⟨bearer, access⟩ supervisor (by decide) rfl
      (Or.inr nofun)

/-- An administrator kicks a client while the service cannot be reached, and
somebody asks for an FSD token without a body.  Both are told that all went
well. -/
theorem unreachable_service_succeeds :
    ((serveV1 .sqlite Symbolic.platform sampleEnv unreachable (sampleBackend : Backend Real)
        (.kickUser (bearerOf 1 12) (some (bytes "AB1")))).1.IsSuccess ∧
      ((serveV1 .sqlite Symbolic.platform sampleEnv unreachable (sampleBackend : Backend Real)
        (.kickUser (bearerOf 1 12) (some (bytes "AB1")))).2.fsd.clients 0).cancelled = false ∧
      ¬ Truthful .sqlite Symbolic.platform sampleEnv unreachable (sampleBackend : Backend Real)
        (.kickUser (bearerOf 1 12) (some (bytes "AB1")))) ∧
    ¬ Truthful .sqlite Symbolic.platform sampleEnv unreachable (sampleBackend : Backend Real)
      (.stored (.fsdJwt none)) := by
  refine ⟨⟨?_, by decide +kernel, not_truthful_of_unanswered _ unanswered_unreachable⟩, ?_⟩
  · rw [serveV1_of_unanswered _ unanswered_unreachable]
    exact ⟨Nat.le_refl 200, show 200 < 300 by decide⟩
  · exact not_truthful_of_unanswered _ (.fsdJwt none nofun)

end Web
end OpenFsd
