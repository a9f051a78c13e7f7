import OpenFsd.Web.UserUpdate

namespace OpenFsd
namespace Web

open Db Fsd

/-!
# Who is issued a token, and who is written

Two inversion lemmas about one request to the API.  `issuedBy_of_mem` lists,
for every token in a response, the endpoint that issued it and all that the
endpoint has checked.  `writtenBy_serve` does the same for the table of users.
The invariants of whole runs are derived from these two lists.
-/

/-- The raw token carries this type, this CID and this rating. -/
def Carries (P : Platform) (raw tokenType : Bytes) (cid : Int) (networkRating : NetworkRating) :
    Prop :=
  Exists fun carried => P.payload raw = some carried ∧ carried.tokenType = tokenType ∧
    carried.cid = cid ∧ carried.networkRating = networkRating

theorem Carries.of_signed {P : Platform} (faithful : P.FaithfulTokens) {claims : CustomClaims}
    {key raw : Bytes} (signed : P.signedString claims key = some raw) :
    Carries P raw claims.tokenType claims.cid claims.networkRating := by
  rcases faithful claims key raw signed with ⟨_, carried, payload, cid, tokenType, networkRating⟩
  exact ⟨carried, payload, tokenType, cid, networkRating⟩

/-- The claims of an accepted bearer token, with the token itself. -/
structure Presented (P : Platform) (database : Database) (raw tokenType : Bytes)
    (claims : CustomClaims) : Prop where
  verified : Exists fun secret => database.config.lookup configJwtSecretKey = some secret ∧
    P.verifies raw secret = true
  payload : P.payload raw = some claims
  tokenType : claims.tokenType = tokenType

/-- The raw token is the FSD token that `getFsdJwt` makes for this user. -/
def FsdSigned (P : Platform) (env : Env) (database : Database) (user : User) (raw : Bytes) : Prop :=
  Exists fun claims => Exists fun jwtSecret =>
    makeJwtToken env.now (env.uuid 0) (userFields (bytes "fsd") user) (5 * 60) = some claims ∧
      database.getConfig (env.getConfigFails configJwtSecretKey) configJwtSecretKey =
        .ok jwtSecret ∧
      P.signedString claims jwtSecret = some raw

/-- Why a token is in a response. -/
inductive IssuedBy (P : Platform) (env : Env) (database : Database) (raw : Bytes) : Request -> Prop
  | login (body : LoginBody) (row : UserRow) (tokenType : Bytes)
      (found : database.users.rows.lookup body.cid = some row)
      (verified : verifyPasswordHash P body.password row.password = true)
      (carries : Carries P raw tokenType body.cid row.networkRating) :
      IssuedBy P env database raw (.login (some body))
  | refresh (token : Bytes) (claims : CustomClaims) (row : UserRow)
      (presented : Presented P database token (bytes "refresh") claims)
      (found : database.users.rows.lookup claims.cid = some row)
      (carries : Carries P raw (bytes "access") claims.cid row.networkRating) :
      IssuedBy P env database raw (.refresh (some token))
  | fsdJwt (body : FsdJwtBody) (row : UserRow)
      (accepted : body.accepted = true)
      (numeric : (atoi body.cid).err = none)
      (positive : 1 ≤ (atoi body.cid).value)
      (readable : env.getUserFails = false)
      (found : database.users.rows.lookup (atoi body.cid).value = some row)
      (active : NetworkRatingSuspended < row.networkRating)
      (signed : FsdSigned P env database (userOf (atoi body.cid).value row) raw) :
      IssuedBy P env database raw (.fsdJwt (some body))
  | createToken (authorization : Bytes) (body : Option Time) (claims : CustomClaims)
      (passed : jwtBearerMiddleware P env database authorization = .ok claims)
      (administrator : NetworkRatingAdministator ≤ claims.networkRating)
      (carries : Carries P raw (bytes "access") claims.cid NetworkRatingAdministator) :
      IssuedBy P env database raw (.createToken authorization body)

/-! ## The three makers of tokens -/

variable {P : Platform} {env : Env} {database : Database}

theorem parseJwtToken_presented {now : Time} {raw secret tokenType : Bytes} {claims : CustomClaims}
    {fails : Bool} (configured : database.getConfig fails configJwtSecretKey = .ok secret)
    (parsed : parseJwtToken P now raw secret = some claims) (typed : claims.tokenType = tokenType) :
    Presented P database raw tokenType claims := by
  rcases parseJwtToken_eq_some parsed with ⟨payload, verified, _⟩
  exact ⟨⟨secret, Database.getConfig_eq_ok configured, verified⟩, payload, typed⟩

theorem carries_makeUserToken (faithful : P.FaithfulTokens) {uuid : Option Bytes}
    {tokenType : Bytes} {user : User} {validityDuration : Time} {jwtSecret raw : Bytes}
    (made : makeUserToken P env uuid tokenType user validityDuration jwtSecret = some raw) :
    Carries P raw tokenType user.cid user.networkRating := by
  unfold makeUserToken at made
  split at made
  · cases made
  · next claims madeClaims =>
      have carried := Carries.of_signed faithful made
      rw [makeJwtToken_eq_some madeClaims] at carried
      exact carried

theorem carries_makeAccessRefreshTokens (faithful : P.FaithfulTokens) {user : User}
    {rememberMe : Bool} {access refresh : Bytes}
    (made : makeAccessRefreshTokens P env database user rememberMe = some (access, refresh)) :
    Carries P access (bytes "access") user.cid user.networkRating ∧
      Carries P refresh (bytes "refresh") user.cid user.networkRating := by
  unfold makeAccessRefreshTokens at made
  split at made
  · cases made
  · next jwtSecret _ =>
      cases madeAccess : makeAccessToken P env user jwtSecret with
      | none =>
          simp only [madeAccess] at made
          cases made
      | some first =>
          simp only [madeAccess] at made
          cases madeRefresh : makeRefreshToken P env user rememberMe jwtSecret with
          | none =>
              simp only [madeRefresh] at made
              cases made
          | some second =>
              simp only [madeRefresh, Option.some.injEq, Prod.mk.injEq] at made
              rcases made with ⟨sameAccess, sameRefresh⟩
              subst sameAccess
              subst sameRefresh
              exact ⟨carries_makeUserToken faithful madeAccess,
                carries_makeUserToken faithful madeRefresh⟩

theorem issuedBy_login (faithful : P.FaithfulTokens) {body : Option LoginBody} {raw : Bytes}
    (member : raw ∈ (getAccessRefreshTokens P env database body).issued) :
    IssuedBy P env database raw (.login body) := by
  unfold getAccessRefreshTokens at member
  cases bound : bindBody body LoginBody.accepted with
  | none =>
      rw [bound] at member
      cases member
  | some reqBody =>
      rw [bound] at member
      dsimp only at member
      cases read : database.getUserByCID env.getUserFails reqBody.cid with
      | error reason =>
          rw [read] at member
          cases member
      | ok user =>
          rw [read] at member
          dsimp only at member
          cases verified : verifyPasswordHash P reqBody.password user.password with
          | false =>
              rw [verified] at member
              cases member
          | true =>
              rw [verified] at member
              rcases Database.getUserByCID_eq_ok read with ⟨row, found, same⟩
              subst same
              rw [(bindBody_eq_some bound).1]
              cases made : makeAccessRefreshTokens P env database (userOf reqBody.cid row)
                  reqBody.rememberMe with
              | none =>
                  simp only [made] at member
                  cases member
              | some pair =>
                  simp only [made] at member
                  have carried := carries_makeAccessRefreshTokens faithful made
                  rcases List.mem_pair.mp member with access | refresh
                  · rw [access]
                    exact .login reqBody row _ found verified carried.1
                  · rw [refresh]
                    exact .login reqBody row _ found verified carried.2

theorem issuedBy_refresh (faithful : P.FaithfulTokens) {body : Option Bytes} {raw : Bytes}
    (member : raw ∈ (refreshAccessToken P env database body).issued) :
    IssuedBy P env database raw (.refresh body) := by
  unfold refreshAccessToken at member
  cases bound : bindBody body (fun refreshToken => decide (refreshToken ≠ [])) with
  | none =>
      rw [bound] at member
      cases member
  | some token =>
      rw [bound] at member
      dsimp only at member
      cases configured : database.getConfig (env.getConfigFails configJwtSecretKey)
          configJwtSecretKey with
      | error reason =>
          rw [configured] at member
          cases member
      | ok jwtSecret =>
          rw [configured] at member
          dsimp only at member
          cases parsed : parseJwtToken P env.now token jwtSecret with
          | none =>
              rw [parsed] at member
              cases member
          | some claims =>
              rw [parsed] at member
              dsimp only at member
              by_cases typed : claims.tokenType = bytes "refresh"
              · rw [if_neg (not_not_intro typed)] at member
                cases read : database.getUserByCID env.getUserFails claims.cid with
                | error reason =>
                    rw [read] at member
                    cases member
                | ok user =>
                    rw [read] at member
                    dsimp only at member
                    rcases Database.getUserByCID_eq_ok read with ⟨row, found, same⟩
                    subst same
                    rw [(bindBody_eq_some bound).1]
                    cases made : makeAccessToken P env (userOf claims.cid row) jwtSecret with
                    | none =>
                        rw [made] at member
                        cases member
                    | some access =>
                        rw [made] at member
                        rw [List.mem_singleton.mp member]
                        exact .refresh token claims row
                          (parseJwtToken_presented configured parsed typed) found
                          (carries_makeUserToken faithful made)
              · rw [if_pos typed] at member
                cases member

theorem FsdSigned.carries (faithful : P.FaithfulTokens) {user : User} {raw : Bytes}
    (signed : FsdSigned P env database user raw) :
    Carries P raw (bytes "fsd") user.cid user.networkRating := by
  rcases signed with ⟨claims, jwtSecret, made, _, signed⟩
  have carried := Carries.of_signed faithful signed
  rw [makeJwtToken_eq_some made] at carried
  exact carried

theorem mem_issued_makeFsdToken {user : User} {raw : Bytes} :
    raw ∈ (makeFsdToken P env database user).issued ↔ FsdSigned P env database user raw := by
  unfold makeFsdToken FsdSigned
  constructor
  · intro member
    split at member
    · cases member
    · next claims made =>
        split at member
        · cases member
        · next jwtSecret configured =>
            split at member
            · cases member
            · next signed =>
                rw [List.mem_singleton.mp member]
                exact ⟨claims, jwtSecret, made, configured, signed⟩
  · rintro ⟨claims, jwtSecret, made, configured, signed⟩
    simp only [made, configured, signed]
    exact List.mem_singleton.mpr rfl

theorem issuedBy_fsdJwt {body : Option FsdJwtBody} {raw : Bytes}
    (member : raw ∈ (getFsdJwt P env database body).issued) :
    IssuedBy P env database raw (.fsdJwt body) := by
  unfold getFsdJwt at member
  cases bound : bindBody body FsdJwtBody.accepted with
  | none =>
      rw [bound] at member
      cases member
  | some reqBody =>
      rw [bound] at member
      dsimp only at member
      split at member
      · cases member
      · next parsed =>
          simp only [Bool.or_eq_true, decide_eq_true_eq, not_or, Option.not_isSome_iff_eq_none,
            Int.not_lt] at parsed
          cases read : database.getUserByCID env.getUserFails (atoi reqBody.cid).value with
          | error reason =>
              rw [read] at member
              cases reason <;> cases member
          | ok user =>
              rw [read] at member
              dsimp only at member
              rcases Database.getUserByCID_eq_ok read with ⟨row, found, same⟩
              subst same
              rcases bindBody_eq_some bound with ⟨isBody, accepted⟩
              rw [isBody]
              split at member
              · cases member
              · next active =>
                  exact .fsdJwt reqBody row accepted parsed.1 parsed.2
                    (Database.getUserByCID_readable read) found (Int.not_le.mp active)
                    (mem_issued_makeFsdToken.mp member)

theorem issuedBy_createToken (faithful : P.FaithfulTokens) {authorization : Bytes}
    {body : Option Time} {claims : CustomClaims} {raw : Bytes}
    (passed : jwtBearerMiddleware P env database authorization = .ok claims)
    (member : raw ∈ (handleCreateNewAPIToken P env database claims body).issued) :
    IssuedBy P env database raw (.createToken authorization body) := by
  unfold handleCreateNewAPIToken at member
  split at member
  · cases member
  · next administrator =>
      split at member
      · cases member
      · split at member
        · cases member
        · split at member
          · cases member
          · next tokenClaims madeClaims =>
              split at member
              · cases member
              · split at member
                · cases member
                · next signed =>
                    have carried := Carries.of_signed faithful signed
                    rw [makeJwtToken_eq_some madeClaims] at carried
                    rw [List.mem_singleton.mp member]
                    exact .createToken authorization body claims passed
                      (Int.not_lt.mp administrator) carried

/-! ## The other endpoints -/

/-- A token that passes the middleware comes from the handler. -/
theorem exists_claims_of_mem_withBearer {authorization raw : Bytes}
    {handler : CustomClaims -> Response × Database}
    (member : raw ∈ (withBearer P env database authorization handler).1.issued) :
    Exists fun claims => jwtBearerMiddleware P env database authorization = .ok claims ∧
      raw ∈ (handler claims).1.issued := by
  unfold withBearer at member
  cases passed : jwtBearerMiddleware P env database authorization with
  | ok claims =>
      rw [passed] at member
      exact ⟨claims, rfl, member⟩
  | error response =>
      rw [passed] at member
      have none : response.issued = [] := by
        unfold jwtBearerMiddleware at passed
        dsimp only at passed
        repeat' split at passed
        all_goals first
          | cases passed
            rfl
          | cases passed
      rw [none] at member
      cases member

theorem issued_getUserByCID (claims : CustomClaims) (body : Option Int) :
    (getUserByCID env database claims body).issued = [] := by
  unfold getUserByCID
  repeat' split
  all_goals rfl

theorem issued_updateUser (claims : CustomClaims) (body : Option UpdateUserBody) :
    (updateUser P env database claims body).1.issued = [] := by
  unfold updateUser
  dsimp only
  repeat' split
  all_goals rfl

theorem issued_createUser (driver : Driver) (claims : CustomClaims) (body : Option CreateUserBody) :
    (createUser driver P env database claims body).1.issued = [] := by
  unfold createUser
  dsimp only
  repeat' split
  all_goals rfl

theorem issued_handleGetConfig (claims : CustomClaims) :
    (handleGetConfig env database claims).issued = [] := by
  unfold handleGetConfig
  repeat' split
  all_goals rfl

theorem issued_handleUpdateConfig (claims : CustomClaims)
    (body : Option (Option (List (Bytes × Bytes)))) :
    (handleUpdateConfig env database claims body).1.issued = [] := by
  unfold handleUpdateConfig
  dsimp only
  repeat' split
  all_goals rfl

theorem issued_handleResetSecretKey (claims : CustomClaims) :
    (handleResetSecretKey env database claims).1.issued = [] := by
  unfold handleResetSecretKey
  repeat' split
  all_goals rfl

/-- Every token in a response was issued by one of the four endpoints. -/
theorem issuedBy_of_mem (faithful : P.FaithfulTokens) {driver : Driver} {request : Request}
    {raw : Bytes} (member : raw ∈ (serve driver P env database request).1.issued) :
    IssuedBy P env database raw request := by
  cases request with
  | login body => exact issuedBy_login faithful member
  | refresh body => exact issuedBy_refresh faithful member
  | fsdJwt body => exact issuedBy_fsdJwt member
  | loadUser authorization body =>
      rcases exists_claims_of_mem_withBearer member with ⟨claims, _, inHandler⟩
      rw [issued_getUserByCID] at inHandler
      cases inHandler
  | updateUser authorization body =>
      rcases exists_claims_of_mem_withBearer member with ⟨claims, _, inHandler⟩
      rw [issued_updateUser] at inHandler
      cases inHandler
  | createUser authorization body =>
      rcases exists_claims_of_mem_withBearer member with ⟨claims, _, inHandler⟩
      rw [issued_createUser] at inHandler
      cases inHandler
  | loadConfig authorization =>
      rcases exists_claims_of_mem_withBearer member with ⟨claims, _, inHandler⟩
      rw [issued_handleGetConfig] at inHandler
      cases inHandler
  | updateConfig authorization body =>
      rcases exists_claims_of_mem_withBearer member with ⟨claims, _, inHandler⟩
      rw [issued_handleUpdateConfig] at inHandler
      cases inHandler
  | resetSecretKey authorization =>
      rcases exists_claims_of_mem_withBearer member with ⟨claims, _, inHandler⟩
      rw [issued_handleResetSecretKey] at inHandler
      cases inHandler
  | createToken authorization body =>
      rcases exists_claims_of_mem_withBearer member with ⟨claims, passed, inHandler⟩
      exact issuedBy_createToken faithful passed inHandler

/-! ## The table of users -/

/-- A creation that was carried out. -/
structure Created (claims : CustomClaims) (reqBody : CreateUserBody) (before after : Database) :
    Prop where
  supervisor : NetworkRatingSupervisor ≤ claims.networkRating
  notHigher : reqBody.networkRating ≤ claims.networkRating
  stored : Exists fun column => after.users =
    before.users.insertRow ⟨column, reqBody.firstName, reqBody.lastName, reqBody.networkRating⟩

/-- What a request has done to the table of users. -/
inductive WrittenBy (P : Platform) (env : Env) (before after : Database) : Request -> Prop
  | unchanged (request : Request) (same : after.users = before.users) :
      WrittenBy P env before after request
  | updated (authorization : Bytes) (body : Option UpdateUserBody) (claims : CustomClaims)
      (reqBody : UpdateUserBody) (row : UserRow)
      (passed : jwtBearerMiddleware P env before authorization = .ok claims)
      (updated : Updated P env claims body reqBody row before after) :
      WrittenBy P env before after (.updateUser authorization body)
  | created (authorization : Bytes) (body : Option CreateUserBody) (claims : CustomClaims)
      (reqBody : CreateUserBody)
      (passed : jwtBearerMiddleware P env before authorization = .ok claims)
      (created : Created claims reqBody before after) :
      WrittenBy P env before after (.createUser authorization body)

theorem users_setConfig {fails : Bool} {key value : Bytes} {written : Database}
    (done : database.setConfig fails key value = .ok written) : written.users = database.users := by
  rcases Database.setConfig_eq_ok done with ⟨_, same⟩
  rw [same]

theorem users_writeConfig (call : Nat) (pairs : List (Bytes × Bytes)) :
    (writeConfig env call database pairs).2.users = database.users := by
  induction pairs generalizing call database with
  | nil => rfl
  | cons pair rest inductionHypothesis =>
      rcases pair with ⟨key, value⟩
      unfold writeConfig
      cases written : database.setConfig (env.setConfigFails call) key value with
      | error reason => rfl
      | ok next => exact (inductionHypothesis (call + 1)).trans (users_setConfig written)

theorem users_handleUpdateConfig (claims : CustomClaims)
    (body : Option (Option (List (Bytes × Bytes)))) :
    (handleUpdateConfig env database claims body).2.users = database.users := by
  unfold handleUpdateConfig
  dsimp only
  split
  · rfl
  · split
    · rfl
    · split
      · exact users_writeConfig 0 _
      · exact users_writeConfig 0 _

theorem users_handleResetSecretKey (claims : CustomClaims) :
    (handleResetSecretKey env database claims).2.users = database.users := by
  unfold handleResetSecretKey
  split
  · rfl
  · split
    · rfl
    · split
      · rfl
      · next written => exact users_setConfig written

theorem createUser_cases (driver : Driver) (claims : CustomClaims) (body : Option CreateUserBody) :
    (createUser driver P env database claims body).2 = database ∨
      Exists fun reqBody =>
        Created claims reqBody database (createUser driver P env database claims body).2 := by
  unfold createUser
  cases bindBody body CreateUserBody.accepted with
  | none => exact Or.inl rfl
  | some reqBody =>
      dsimp only
      split
      · exact Or.inl rfl
      · next allowed =>
          simp only [not_or, Int.not_lt] at allowed
          split
          · exact Or.inl rfl
          · next created written done =>
              rcases Driver.createUser_eq_ok done with ⟨_, _, hash, _, stored⟩
              exact Or.inr ⟨reqBody, allowed.1, allowed.2, hash, congrArg Database.users stored⟩

/-- A request writes the table of users only as an update or a creation. -/
theorem writtenBy_serve (driver : Driver) (P : Platform) (env : Env) (database : Database)
    (request : Request) :
    WrittenBy P env database (serve driver P env database request).2 request := by
  cases request with
  | login body => exact .unchanged _ rfl
  | refresh body => exact .unchanged _ rfl
  | fsdJwt body => exact .unchanged _ rfl
  | loadUser authorization body =>
      rcases withBearer_cases P env database authorization fun claims =>
        (getUserByCID env database claims body, database) with aborted | ⟨claims, _, same⟩
      · exact .unchanged _ (congrArg Database.users aborted.2)
      · exact .unchanged _ (congrArg (fun outcome => Database.users outcome.2) same)
  | updateUser authorization body =>
      rcases serve_updateUser_cases driver P env database authorization body with
        failed | ⟨_, claims, reqBody, row, passed, updated⟩
      · exact .unchanged _ (congrArg Database.users failed.2)
      · exact .updated authorization body claims reqBody row passed updated
  | createUser authorization body =>
      rcases withBearer_cases P env database authorization fun claims =>
        createUser driver P env database claims body with aborted | ⟨claims, passed, same⟩
      · exact .unchanged _ (congrArg Database.users aborted.2)
      · have served : serve driver P env database (.createUser authorization body) =
            createUser driver P env database claims body := same
        rw [served]
        rcases createUser_cases driver claims body with unchanged | ⟨reqBody, created⟩
        · exact .unchanged _ (congrArg Database.users unchanged)
        · exact .created authorization body claims reqBody passed created
  | loadConfig authorization =>
      rcases withBearer_cases P env database authorization fun claims =>
        (handleGetConfig env database claims, database) with aborted | ⟨claims, _, same⟩
      · exact .unchanged _ (congrArg Database.users aborted.2)
      · exact .unchanged _ (congrArg (fun outcome => Database.users outcome.2) same)
  | updateConfig authorization body =>
      rcases withBearer_cases P env database authorization fun claims =>
        handleUpdateConfig env database claims body with aborted | ⟨claims, _, same⟩
      · exact .unchanged _ (congrArg Database.users aborted.2)
      · exact .unchanged _ ((congrArg (fun outcome => Database.users outcome.2) same).trans
          (users_handleUpdateConfig claims body))
  | resetSecretKey authorization =>
      rcases withBearer_cases P env database authorization fun claims =>
        handleResetSecretKey env database claims with aborted | ⟨claims, _, same⟩
      · exact .unchanged _ (congrArg Database.users aborted.2)
      · exact .unchanged _ ((congrArg (fun outcome => Database.users outcome.2) same).trans
          (users_handleResetSecretKey claims))
  | createToken authorization body =>
      rcases withBearer_cases P env database authorization fun claims =>
        (handleCreateNewAPIToken P env database claims body, database) with
          aborted | ⟨claims, _, same⟩
      · exact .unchanged _ (congrArg Database.users aborted.2)
      · exact .unchanged _ (congrArg (fun outcome => Database.users outcome.2) same)

end Web
end OpenFsd
