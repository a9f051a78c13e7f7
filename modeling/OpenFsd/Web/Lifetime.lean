import OpenFsd.Library.History
import OpenFsd.Web.Escalation

namespace OpenFsd

/-- Signing and parsing keep the issuer and the times of a token.  Times are in
whole seconds, as in the payload. -/
def Platform.FaithfulRegistered (P : Platform) : Prop :=
  forall claims key raw, P.signedString claims key = some raw ->
    Exists fun carried => P.payload raw = some carried ∧ carried.expiresAt = claims.expiresAt ∧
      carried.notBefore = claims.notBefore ∧ carried.issuer = claims.issuer

theorem Symbolic.platform_faithfulRegistered : Symbolic.platform.FaithfulRegistered := by
  intro claims key raw signed
  rw [← Option.some.inj signed]
  exact ⟨claims, Symbolic.payload_signedString claims key, rfl, rfl, rfl⟩

/-- Signing with a shared key does not fail, and a token is not empty. -/
def Platform.Signs (P : Platform) : Prop :=
  forall claims key, Exists fun raw => P.signedString claims key = some raw ∧ raw ≠ []

theorem Symbolic.platform_signs : Symbolic.platform.Signs := by
  intro claims key
  refine ⟨_, rfl, ?_⟩
  intro empty
  have carried : Symbolic.payload [] = some claims := by
    rw [← empty]
    exact Symbolic.payload_signedString claims key
  have absent : Symbolic.payload [] = none := by decide +kernel
  rw [absent] at carried
  cases carried

namespace Web

open Db Fsd Transition

/-!
# How long a login lasts

A login hands out a refresh token for a day or for thirty, and access tokens
are good for fifteen minutes.  A refresh checks the one and makes the other,
and it never makes a refresh token.  So every access token can be traced to a
login, however many refreshes and key resets lie between, and it speaks for a
rating that the table has held in the last fifteen minutes.  API tokens are
the exception, since an administrator chooses their expiry.

`Traceable` is the invariant.  It says about every token handed out where in
the past of the run it comes from.
-/

/-- What a token that can be parsed says, with its expiry. -/
structure CarriesUntil (P : Platform) (raw tokenType : Bytes) (cid : Int)
    (networkRating : NetworkRating) (expiry : Time) (claims : CustomClaims) : Prop where
  payload : P.payload raw = some claims
  tokenType : claims.tokenType = tokenType
  cid : claims.cid = cid
  networkRating : claims.networkRating = networkRating
  expiry : claims.expiresAt = some expiry

/-- The validity of a refresh token. -/
def refreshValidity (rememberMe : Bool) : Time :=
  if rememberMe then 24 * 3600 * 30 else 24 * 3600

section Tokens

variable {P : Platform} {env : Env} {database : Database}

theorem carriesUntil_makeUserToken (faithful : P.FaithfulTokens) (timed : P.FaithfulRegistered)
    {uuid : Option Bytes} {tokenType : Bytes} {user : User} {validityDuration : Time}
    {jwtSecret raw : Bytes}
    (made : makeUserToken P env uuid tokenType user validityDuration jwtSecret = some raw) :
    Exists fun claims => CarriesUntil P raw tokenType user.cid user.networkRating
      (env.now + validityDuration) claims := by
  rcases carries_makeUserToken faithful made with ⟨carried, payload, type, cid, networkRating⟩
  refine ⟨carried, payload, type, cid, networkRating, ?_⟩
  unfold makeUserToken at made
  cases uuid with
  | none => cases made
  | some id =>
      rcases timed _ jwtSecret raw made with ⟨claims, samePayload, expiry, _⟩
      rw [Option.some.inj (payload.symm.trans samePayload)]
      exact expiry

/-- Why a token is in a response, with its expiry. -/
inductive GrantedBy (P : Platform) (env : Env) (database : Database) (raw : Bytes)
    (claims : CustomClaims) : Request -> Prop
  | access (body : LoginBody) (row : UserRow)
      (found : database.users.rows.lookup body.cid = some row)
      (verified : verifyPasswordHash P body.password row.password = true)
      (carries : CarriesUntil P raw (bytes "access") body.cid row.networkRating (env.now + 15 * 60)
        claims) :
      GrantedBy P env database raw claims (.login (some body))
  | refresh (body : LoginBody) (row : UserRow)
      (found : database.users.rows.lookup body.cid = some row)
      (verified : verifyPasswordHash P body.password row.password = true)
      (carries : CarriesUntil P raw (bytes "refresh") body.cid row.networkRating
        (env.now + refreshValidity body.rememberMe) claims) :
      GrantedBy P env database raw claims (.login (some body))
  | renewed (token : Bytes) (presented : CustomClaims) (row : UserRow)
      (verifies : Verifies P database token)
      (payload : P.payload token = some presented)
      (typed : presented.tokenType = bytes "refresh")
      (valid : claimsValid env.now presented = true)
      (found : database.users.rows.lookup presented.cid = some row)
      (carries : CarriesUntil P raw (bytes "access") presented.cid row.networkRating
        (env.now + 15 * 60) claims) :
      GrantedBy P env database raw claims (.refresh (some token))
  | fsd (body : Option FsdJwtBody) (typed : claims.tokenType = bytes "fsd") :
      GrantedBy P env database raw claims (.fsdJwt body)
  | api (authorization : Bytes) (body : Option Time) (typed : claims.tokenType = bytes "access") :
      GrantedBy P env database raw claims (.createToken authorization body)

/-- The two tokens of a login. -/
theorem granted_makeAccessRefreshTokens (faithful : P.FaithfulTokens) (timed : P.FaithfulRegistered)
    {user : User} {rememberMe : Bool} {access refresh : Bytes}
    (made : makeAccessRefreshTokens P env database user rememberMe = some (access, refresh)) :
    (Exists fun claims => CarriesUntil P access (bytes "access") user.cid user.networkRating
        (env.now + 15 * 60) claims) ∧
      Exists fun claims => CarriesUntil P refresh (bytes "refresh") user.cid user.networkRating
        (env.now + refreshValidity rememberMe) claims := by
  unfold makeAccessRefreshTokens at made
  split at made
  · cases made
  · next jwtSecret _ =>
      split at made
      · cases made
      · next first madeAccess =>
          split at made
          · cases made
          · next second madeRefresh =>
              rcases Prod.mk.inj (Option.some.inj made) with ⟨sameAccess, sameRefresh⟩
              rw [← sameAccess, ← sameRefresh]
              exact ⟨carriesUntil_makeUserToken faithful timed madeAccess,
                carriesUntil_makeUserToken faithful timed madeRefresh⟩

theorem granted_login (faithful : P.FaithfulTokens) (timed : P.FaithfulRegistered)
    {body : Option LoginBody} {raw : Bytes} {claims : CustomClaims}
    (member : raw ∈ (getAccessRefreshTokens P env database body).issued)
    (payload : P.payload raw = some claims) :
    GrantedBy P env database raw claims (.login body) := by
  unfold getAccessRefreshTokens at member
  cases bound : bindBody body LoginBody.accepted with
  | none =>
      rw [bound] at member
      cases member
  | some reqBody =>
      rw [bound] at member
      rw [(bindBody_eq_some bound).1]
      dsimp only at member
      cases read : database.getUserByCID env.getUserFails reqBody.cid with
      | error reason =>
          rw [read] at member
          cases member
      | ok user =>
          rw [read] at member
          rcases Database.getUserByCID_eq_ok read with ⟨row, found, same⟩
          subst same
          dsimp only at member
          split at member
          · cases member
          · next verified =>
              rw [Bool.not_eq_true, Bool.not_eq_false'] at verified
              split at member
              · cases member
              · next access refresh made =>
                  rcases granted_makeAccessRefreshTokens faithful timed made with
                    ⟨⟨first, carriesAccess⟩, second, carriesRefresh⟩
                  rcases List.mem_pair.mp member with isAccess | isRefresh
                  · rw [← isAccess] at carriesAccess
                    have same := Option.some.inj (payload.symm.trans carriesAccess.payload)
                    exact .access reqBody row found verified (same ▸ carriesAccess)
                  · rw [← isRefresh] at carriesRefresh
                    have same := Option.some.inj (payload.symm.trans carriesRefresh.payload)
                    exact .refresh reqBody row found verified (same ▸ carriesRefresh)

theorem granted_refresh (faithful : P.FaithfulTokens) (timed : P.FaithfulRegistered)
    {body : Option Bytes} {raw : Bytes} {claims : CustomClaims}
    (member : raw ∈ (refreshAccessToken P env database body).issued)
    (payload : P.payload raw = some claims) :
    GrantedBy P env database raw claims (.refresh body) := by
  unfold refreshAccessToken at member
  cases bound : bindBody body (fun refreshToken => decide (refreshToken ≠ [])) with
  | none =>
      rw [bound] at member
      cases member
  | some token =>
      rw [bound] at member
      rw [(bindBody_eq_some bound).1]
      dsimp only at member
      split at member
      · cases member
      · next jwtSecret configured =>
          split at member
          · cases member
          · next presented parsed =>
              rcases parseJwtToken_eq_some parsed with ⟨carried, verified, valid⟩
              split at member
              · cases member
              · next typed =>
                  cases read : database.getUserByCID env.getUserFails presented.cid with
                  | error reason =>
                      rw [read] at member
                      cases member
                  | ok user =>
                      rw [read] at member
                      rcases Database.getUserByCID_eq_ok read with ⟨row, found, same⟩
                      subst same
                      dsimp only at member
                      split at member
                      · cases member
                      · next access made =>
                          rcases carriesUntil_makeUserToken faithful timed made with
                            ⟨first, carries⟩
                          rw [← List.mem_singleton.mp member] at carries
                          have same := Option.some.inj (payload.symm.trans carries.payload)
                          exact .renewed token presented row
                            ⟨jwtSecret, Database.getConfig_eq_ok configured, verified⟩ carried
                            (not_not.mp typed) valid found (same ▸ carries)

/-- Every token in a response was granted by one of the four endpoints. -/
theorem grantedBy_of_mem (faithful : P.FaithfulTokens) (timed : P.FaithfulRegistered) {driver : Driver}
    {request : Request} {raw : Bytes} {claims : CustomClaims}
    (member : raw ∈ (serve driver P env database request).1.issued)
    (payload : P.payload raw = some claims) : GrantedBy P env database raw claims request := by
  cases issuedBy_of_mem faithful member with
  | login body row tokenType found verified carries => exact granted_login faithful timed member payload
  | refresh token presented row checked found carries =>
      exact granted_refresh faithful timed member payload
  | fsdJwt body row accepted numeric positive readable found active signed =>
      rcases signed.carries faithful with ⟨carried, samePayload, typed, _⟩
      rw [Option.some.inj (samePayload.symm.trans payload)] at typed
      exact .fsd _ typed
  | createToken authorization body presented passed administrator carries =>
      rcases carries with ⟨carried, samePayload, typed, _⟩
      rw [Option.some.inj (samePayload.symm.trans payload)] at typed
      exact .api authorization body typed

end Tokens

/-! ## The past of a token -/

variable {F : Type}

/-- Every token of a request that verifies was handed out before. -/
def Unforged (P : Platform) (state : Deployment F) : Move -> Prop
  | .api _ request =>
      forall raw, raw ∈ request.tokens -> Verifies P state.database raw -> raw ∈ state.issued
  | .connect _ _ _ => True

/-- The past has a login for this CID with a password that was verified, whose
refresh token is good until this time or longer. -/
inductive LoggedIn (P : Platform) (past : Deployment F -> Move -> Prop) (cid : Int) (time : Time) :
    Prop
  | verified (state : Deployment F) (env : Env) (body : LoginBody) (row : UserRow)
      (served : past state (.api env (.login (some body))))
      (own : body.cid = cid)
      (found : state.database.users.rows.lookup cid = some row)
      (password : verifyPasswordHash P body.password row.password = true)
      (lasts : time ≤ env.now + refreshValidity body.rememberMe) :
      LoggedIn P past cid time

/-- The past has a request, fifteen minutes before the expiry, at which the
table held this rating. -/
inductive RatedUntil (past : Deployment F -> Move -> Prop) (cid : Int)
    (networkRating : NetworkRating) (expiry : Time) : Prop
  | read (state : Deployment F) (env : Env) (request : Request) (row : UserRow)
      (served : past state (.api env request))
      (found : state.database.users.rows.lookup cid = some row)
      (rating : row.networkRating = networkRating)
      (time : expiry = env.now + 15 * 60) :
      RatedUntil past cid networkRating expiry

/-- The past has the request to `/config/createtoken` that was answered with
the token. -/
inductive MadeForApi (driver : Driver) (P : Platform) (past : Deployment F -> Move -> Prop)
    (raw : Bytes) : Prop
  | created (state : Deployment F) (env : Env) (authorization : Bytes) (body : Option Time)
      (served : past state (.api env (.createToken authorization body)))
      (answered : raw ∈ (serve driver P env state.database (.createToken authorization body)).1.issued) :
      MadeForApi driver P past raw

/-- Where a token that was handed out comes from. -/
structure Traceable (driver : Driver) (P : Platform) (past : Deployment F -> Move -> Prop)
    (raw : Bytes) (claims : CustomClaims) : Prop where
  access : claims.tokenType = bytes "access" -> MadeForApi driver P past raw ∨
    Exists fun expiry => claims.expiresAt = some expiry ∧
      LoggedIn P past claims.cid (expiry - 15 * 60) ∧
      RatedUntil past claims.cid claims.networkRating expiry
  refresh : claims.tokenType = bytes "refresh" -> Exists fun expiry =>
    claims.expiresAt = some expiry ∧ LoggedIn P past claims.cid expiry
  foreign : claims.tokenType ≠ bytes "fsd_service"

variable {driver : Driver} {P : Platform} {past : Deployment F -> Move -> Prop}

theorem LoggedIn.mono {cid : Int} {earlier later : Time} (loggedIn : LoggedIn P past cid later)
    (before : earlier ≤ later) : LoggedIn P past cid earlier := by
  cases loggedIn with
  | verified state env body row served own found password lasts =>
      exact .verified state env body row served own found password (before.trans lasts)

theorem LoggedIn.extend {cid : Int} {time : Time} (loggedIn : LoggedIn P past cid time)
    (state : Deployment F) (move : Move) : LoggedIn P (Extend past state move) cid time := by
  cases loggedIn with
  | verified first env body row served own found password lasts =>
      exact .verified first env body row (Or.inl served) own found password lasts

theorem RatedUntil.extend {cid : Int} {networkRating : NetworkRating} {expiry : Time}
    (rated : RatedUntil past cid networkRating expiry) (state : Deployment F) (move : Move) :
    RatedUntil (Extend past state move) cid networkRating expiry := by
  cases rated with
  | read first env request row served found rating time =>
      exact .read first env request row (Or.inl served) found rating time

theorem MadeForApi.extend {raw : Bytes} (made : MadeForApi driver P past raw)
    (state : Deployment F) (move : Move) : MadeForApi driver P (Extend past state move) raw := by
  cases made with
  | created first env authorization body served answered =>
      exact .created first env authorization body (Or.inl served) answered

theorem Traceable.extend {raw : Bytes} {claims : CustomClaims}
    (traceable : Traceable driver P past raw claims) (state : Deployment F) (move : Move) :
    Traceable driver P (Extend past state move) raw claims := by
  refine ⟨?_, ?_, traceable.foreign⟩
  · intro typed
    rcases traceable.access typed with made | ⟨expiry, expires, loggedIn, rated⟩
    · exact Or.inl (made.extend state move)
    · exact Or.inr ⟨expiry, expires, loggedIn.extend state move, rated.extend state move⟩
  · intro typed
    rcases traceable.refresh typed with ⟨expiry, expires, loggedIn⟩
    exact ⟨expiry, expires, loggedIn.extend state move⟩

/-- Every token handed out so far is accounted for by the past. -/
def AllTraceable (driver : Driver) (P : Platform) (past : Deployment F -> Move -> Prop)
    (state : Deployment F) : Prop :=
  forall raw claims, raw ∈ state.issued -> P.payload raw = some claims ->
    Traceable driver P past raw claims

theorem claimsValid_of_middleware {env : Env} {database : Database} {authorization : Bytes}
    {claims : CustomClaims}
    (passed : jwtBearerMiddleware P env database authorization = .ok claims) :
    claimsValid env.now claims = true := by
  unfold jwtBearerMiddleware at passed
  dsimp only at passed
  split at passed
  · cases passed
  · split at passed
    · cases passed
    · split at passed
      · cases passed
      · next found parsed =>
          split at passed
          · cases passed
          · cases passed
            exact (parseJwtToken_eq_some parsed).2.2

theorem lt_of_claimsValid {now expiry : Time} {claims : CustomClaims}
    (valid : claimsValid now claims = true) (expires : claims.expiresAt = some expiry) :
    now < expiry := by
  unfold claimsValid at valid
  rw [expires] at valid
  simp only [Bool.and_eq_true, decide_eq_true_eq] at valid
  exact valid.1.1

/-- A token that one request grants is accounted for by the past with this
request. -/
theorem traceable_of_granted {state : Deployment F} {env : Env} {request : Request} {raw : Bytes}
    {claims : CustomClaims} (traceable : AllTraceable driver P past state)
    (unforged : Unforged P state (.api env request))
    (member : raw ∈ (serve driver P env state.database request).1.issued)
    (granted : GrantedBy P env state.database raw claims request) :
    Traceable driver P (Extend past state (.api env request)) raw claims := by
  have present : Extend past state (.api env request) state (.api env request) := Or.inr ⟨rfl, rfl⟩
  cases granted with
  | access body row found verified carries =>
      have validity : 0 ≤ refreshValidity body.rememberMe := by
        unfold refreshValidity
        split <;> decide
      refine ⟨fun _ => Or.inr ⟨_, carries.expiry, ?_, ?_⟩, ?_, ?_⟩
      · rw [carries.cid, Int.add_sub_cancel]
        exact .verified state env body row present rfl found verified
          (Int.le_add_of_nonneg_right validity)
      · rw [carries.cid, carries.networkRating]
        exact .read state env _ row present found rfl rfl
      · intro typed
        exact absurd (carries.tokenType.symm.trans typed) (by decide)
      · rw [carries.tokenType]
        decide
  | refresh body row found verified carries =>
      refine ⟨?_, fun _ => ⟨_, carries.expiry, ?_⟩, ?_⟩
      · intro typed
        exact absurd (carries.tokenType.symm.trans typed) (by decide)
      · rw [carries.cid]
        exact .verified state env body row present rfl found verified (Int.le_refl _)
      · rw [carries.tokenType]
        decide
  | renewed token presented row verifies payload typed valid found carries =>
      have known := unforged token List.mem_cons_self verifies
      rcases (traceable token presented known payload).refresh typed with ⟨expiry, expires, loggedIn⟩
      have alive := lt_of_claimsValid valid expires
      refine ⟨fun _ => Or.inr ⟨_, carries.expiry, ?_, ?_⟩, ?_, ?_⟩
      · rw [carries.cid, Int.add_sub_cancel]
        exact (loggedIn.mono (Int.le_of_lt alive)).extend state _
      · rw [carries.cid, carries.networkRating]
        exact .read state env _ row present found rfl rfl
      · intro typed
        exact absurd (carries.tokenType.symm.trans typed) (by decide)
      · rw [carries.tokenType]
        decide
  | fsd body typed =>
      refine ⟨?_, ?_, ?_⟩
      · exact fun same => absurd (typed.symm.trans same) (by decide)
      · exact fun same => absurd (typed.symm.trans same) (by decide)
      · rw [typed]
        decide
  | api authorization body typed =>
      refine ⟨fun _ => Or.inl (.created state env authorization body present member), ?_, ?_⟩
      · exact fun same => absurd (typed.symm.trans same) (by decide)
      · rw [typed]
        decide

variable [GoFloat F]

theorem allTraceable_of_step (faithful : P.FaithfulTokens) (timed : P.FaithfulRegistered)
    {state next : Deployment F} {move : Move}
    (taken : Deployment.step driver P state move = some next) (unforged : Unforged P state move)
    (traceable : AllTraceable driver P past state) :
    AllTraceable driver P (Extend past state move) next := by
  intro raw claims member payload
  cases move with
  | api env request =>
      rw [← Option.some.inj taken] at member
      rcases List.mem_append.mp member with old | fresh
      · exact (traceable raw claims old payload).extend state _
      · exact traceable_of_granted traceable unforged fresh
          (grantedBy_of_mem faithful timed fresh payload)
  | connect env idLine addLine =>
      rcases Option.map_eq_some_iff.mp taken with ⟨fsd, _, same⟩
      rw [← same] at member
      exact (traceable raw claims member payload).extend state _

/-- In a run of parties that forge nothing, every token is traceable. -/
theorem allTraceable_of_run (faithful : P.FaithfulTokens) (timed : P.FaithfulRegistered)
    {start state : Deployment F} {moves : List Move} (noTokens : start.issued = [])
    (unforged : Along (Deployment.step driver P) (Unforged P) start moves)
    (executed : run (Deployment.step driver P) start moves = some state) :
    AllTraceable driver P (Performed (Deployment.step driver P) start moves) state := by
  refine accounted_of_run (fun _ _ _ _ taken honest => allTraceable_of_step faithful timed taken honest)
    ?_ unforged executed
  intro raw claims member
  rw [noTokens] at member
  cases member

/-! ## What the past says about a request -/

/-- The token of a bearer header was handed out before, if it verifies. -/
def KnownBearer (P : Platform) (state : Deployment F) (authorization : Bytes) : Prop :=
  Verifies P state.database (cutPrefix authorization (bytes "Bearer ")).1 ->
    (cutPrefix authorization (bytes "Bearer ")).1 ∈ state.issued

/-- The bearer header has an API token that an administrator asked for. -/
def BearsApiToken (driver : Driver) (P : Platform) (start : Deployment F) (moves : List Move)
    (authorization : Bytes) : Prop :=
  MadeForApi driver P (Performed (Deployment.step driver P) start moves)
    (cutPrefix authorization (bytes "Bearer ")).1

/-- The claims that the middleware passes on, with the past of their token. -/
theorem past_of_middleware (faithful : P.FaithfulTokens) (timed : P.FaithfulRegistered)
    {start state : Deployment F} {moves : List Move} (noTokens : start.issued = [])
    (unforged : Along (Deployment.step driver P) (Unforged P) start moves)
    (executed : run (Deployment.step driver P) start moves = some state) {env : Env}
    {authorization : Bytes} {claims : CustomClaims} (known : KnownBearer P state authorization)
    (passed : jwtBearerMiddleware P env state.database authorization = .ok claims) :
    BearsApiToken driver P start moves authorization ∨ Exists fun expiry => env.now < expiry ∧
      LoggedIn P (Performed (Deployment.step driver P) start moves) claims.cid (expiry - 15 * 60) ∧
      RatedUntil (Performed (Deployment.step driver P) start moves) claims.cid
        claims.networkRating expiry := by
  have presented := presented_of_middleware passed
  have traceable := allTraceable_of_run faithful timed noTokens unforged executed _ claims
    (known presented.verified) presented.payload
  rcases traceable.access presented.tokenType with made | ⟨expiry, expires, loggedIn, rated⟩
  · exact Or.inl made
  · exact Or.inr ⟨expiry, lt_of_claimsValid (claimsValid_of_middleware passed) expires, loggedIn, rated⟩

/-- However often it was refreshed, a session ends with its login: a request is
only let through within the validity of the refresh token that a login with
the right password has brought, and a quarter of an hour. -/
theorem bearer_stems_from_login (faithful : P.FaithfulTokens) (timed : P.FaithfulRegistered)
    {start state : Deployment F} {moves : List Move} (noTokens : start.issued = [])
    (unforged : Along (Deployment.step driver P) (Unforged P) start moves)
    (executed : run (Deployment.step driver P) start moves = some state) {env : Env}
    {authorization : Bytes} {claims : CustomClaims} (known : KnownBearer P state authorization)
    (passed : jwtBearerMiddleware P env state.database authorization = .ok claims)
    (personal : ¬ BearsApiToken driver P start moves authorization) :
    Exists fun before => Exists fun loginEnv => Exists fun body => Exists fun row =>
      Performed (Deployment.step driver P) start moves before (.api loginEnv (.login (some body))) ∧
        body.cid = claims.cid ∧ before.database.users.rows.lookup claims.cid = some row ∧
        verifyPasswordHash P body.password row.password = true ∧
        env.now < loginEnv.now + refreshValidity body.rememberMe + 15 * 60 := by
  rcases past_of_middleware faithful timed noTokens unforged executed known passed with
    made | ⟨expiry, alive, loggedIn, _⟩
  · exact absurd made personal
  · cases loggedIn with
    | verified before loginEnv body row served own found password lasts =>
        refine ⟨before, loginEnv, body, row, served, own, found, password, ?_⟩
        exact Int.lt_of_lt_of_le alive (sub_le_iff_le_add.mp lasts)

/-- Fifteen minutes after the login. -/
def renewEnv : Env := { sampleEnv with now := 900 }

/-- The refresh token of the supervisor's login. -/
def supervisorRefresh : Bytes :=
  Symbolic.signedString {
    issuer := jwtIssuer
    expiresAt := some 86400
    notBefore := some (-30)
    issuedAt := some 0
    jti := []
    tokenType := bytes "refresh"
    cid := 1
    firstName := []
    lastName := []
    networkRating := 11 } (bytes "key")

/-- The access token for which it is exchanged. -/
def renewedAccess : Bytes :=
  Symbolic.signedString {
    issuer := jwtIssuer
    expiresAt := some 1800
    notBefore := some 870
    issuedAt := some 900
    jti := []
    tokenType := bytes "access"
    cid := 1
    firstName := []
    lastName := []
    networkRating := 11 } (bytes "key")

/-- Log in, and exchange the refresh token when the access token has expired. -/
def renewalMoves : List Move :=
  [.api sampleEnv supervisorLogin, .api renewEnv (.refresh (some supervisorRefresh))]

/-- The supervisor after both moves. -/
structure Renewed {F : Type} [GoFloat F] (state : Deployment F) : Prop where
  executed : run (Deployment.step .sqlite Symbolic.platform) supervisorStart renewalMoves = some state
  unforged : Along (Deployment.step .sqlite Symbolic.platform) (Unforged Symbolic.platform)
    (supervisorStart : Deployment F) renewalMoves
  users : state.database = (supervisorStart : Deployment F).database
  issued : renewedAccess ∈ state.issued

theorem exists_renewed {F : Type} [GoFloat F] : Exists fun state : Deployment F => Renewed state := by
  have first : supervisorRefresh ∈ (serve .sqlite Symbolic.platform sampleEnv
      (supervisorStart : Deployment F).database supervisorLogin).1.issued := by
    show supervisorRefresh ∈ (serve .sqlite Symbolic.platform sampleEnv
      (supervisorStart : Deployment Real).database supervisorLogin).1.issued
    decide +kernel
  have second : renewedAccess ∈ (serve .sqlite Symbolic.platform renewEnv
      (supervisorStart : Deployment F).database (.refresh (some supervisorRefresh))).1.issued := by
    show renewedAccess ∈ (serve .sqlite Symbolic.platform renewEnv
      (supervisorStart : Deployment Real).database (.refresh (some supervisorRefresh))).1.issued
    decide +kernel
  have login := Deployment.step_api .sqlite Symbolic.platform (supervisorStart : Deployment F)
    sampleEnv supervisorLogin
  have executed : run (Deployment.step .sqlite Symbolic.platform) (supervisorStart : Deployment F)
      renewalMoves = some _ :=
    (run_cons_of_step login _).trans
      (run_cons_of_step (Deployment.step_api .sqlite Symbolic.platform _ renewEnv _) [])
  refine ⟨_, executed, ?_, ?_, ?_⟩
  · constructor
    · intro raw member
      cases member
    · intro next taken
      rw [← Option.some.inj (login.symm.trans taken)]
      refine ⟨?_, fun _ _ => True.intro⟩
      intro raw member _
      rw [List.mem_singleton.mp member]
      exact List.mem_append_right _ first
  · rfl
  · exact List.mem_append_right _ second

/-- Whoever the middleware lets through has claims. -/
theorem exists_passed {result : Except Response CustomClaims} {cid : Int}
    (owner : result.toOption.map (fun claims => claims.cid) = some cid) :
    Exists fun claims => result = .ok claims ∧ claims.cid = cid := by
  cases result with
  | error response => cases owner
  | ok claims => exact ⟨claims, rfl, Option.some.inj owner⟩

/-- The new access token opens the middleware, and it is no API token. -/
theorem Renewed.passes {F : Type} [GoFloat F] {state : Deployment F} (renewed : Renewed state) :
    (Exists fun claims =>
      jwtBearerMiddleware Symbolic.platform renewEnv state.database (bytes "Bearer " ++ renewedAccess) =
        .ok claims ∧ claims.cid = 1) ∧
      KnownBearer Symbolic.platform state (bytes "Bearer " ++ renewedAccess) ∧
      ¬ BearsApiToken .sqlite Symbolic.platform (supervisorStart : Deployment F) renewalMoves
        (bytes "Bearer " ++ renewedAccess) := by
  have cut : cutPrefix (bytes "Bearer " ++ renewedAccess) (bytes "Bearer ") = (renewedAccess, true) :=
    cutPrefix_eq_true_iff.mpr rfl
  refine ⟨?_, ?_, ?_⟩
  · have owner : (jwtBearerMiddleware Symbolic.platform renewEnv
        (supervisorStart : Deployment Real).database (bytes "Bearer " ++ renewedAccess)).toOption.map
          (fun claims => claims.cid) = some 1 := by
      decide +kernel
    have same : state.database = (supervisorStart : Deployment Real).database := renewed.users
    rw [same]
    exact exists_passed owner
  · intro _
    rw [cut]
    exact renewed.issued
  · rintro ⟨before, env, authorization, body, served, _⟩
    have listed := served.mem
    simp [renewalMoves, supervisorLogin] at listed

theorem bearer_stems_from_login_renewed : Exists fun state : Deployment Real =>
    run (Deployment.step .sqlite Symbolic.platform) supervisorStart renewalMoves = some state ∧
      Exists fun before => Exists fun loginEnv => Exists fun body => Exists fun row =>
        Performed (Deployment.step .sqlite Symbolic.platform) (supervisorStart : Deployment Real)
            renewalMoves before (.api loginEnv (.login (some body))) ∧
          body.cid = 1 ∧ before.database.users.rows.lookup 1 = some row ∧
          verifyPasswordHash Symbolic.platform body.password row.password = true ∧
          900 < loginEnv.now + refreshValidity body.rememberMe + 15 * 60 := by
  rcases exists_renewed (F := Real) with ⟨state, renewed⟩
  rcases renewed.passes with ⟨⟨claims, passed, own⟩, known, personal⟩
  refine ⟨state, renewed.executed, ?_⟩
  have past := bearer_stems_from_login Symbolic.platform_faithfulTokens
    Symbolic.platform_faithfulRegistered rfl renewed.unforged renewed.executed known passed personal
  rw [own] at past
  exact past

/-- A change of rating takes effect within fifteen minutes.  If the table has
held one rating since some moment, then fifteen minutes after that moment no
request is let through with another one, whatever tokens the user has kept. -/
theorem rating_takes_effect (faithful : P.FaithfulTokens) (timed : P.FaithfulRegistered)
    {start middle state : Deployment F} {first second : List Move} (noTokens : start.issued = [])
    (unforged : Along (Deployment.step driver P) (Unforged P) start (first ++ second))
    (executed : run (Deployment.step driver P) start first = some middle)
    (later : run (Deployment.step driver P) middle second = some state) {env : Env}
    {authorization : Bytes} {claims : CustomClaims} (known : KnownBearer P state authorization)
    (passed : jwtBearerMiddleware P env state.database authorization = .ok claims)
    (personal : ¬ BearsApiToken driver P start (first ++ second) authorization)
    {networkRating : NetworkRating} {time : Time}
    (past : forall earlier request, Move.api earlier request ∈ first -> earlier.now ≤ time)
    (held : forall visited, Visits (Deployment.step driver P) middle second visited ->
      forall row, visited.database.users.rows.lookup claims.cid = some row ->
        row.networkRating = networkRating)
    (elapsed : time + 15 * 60 ≤ env.now) : claims.networkRating = networkRating := by
  have whole : run (Deployment.step driver P) start (first ++ second) = some state := by
    rw [run_append, executed]
    exact later
  rcases past_of_middleware faithful timed noTokens unforged whole known passed with
    made | ⟨expiry, alive, _, rated⟩
  · exact absurd made personal
  · cases rated with
    | read before earlier request row served found rating made =>
        rcases performed_append.mp served with early | ⟨other, sameRun, late⟩
        · rw [made] at alive
          have after : time < earlier.now :=
            Int.lt_of_add_lt_add_right (Int.lt_of_le_of_lt elapsed alive)
          exact absurd (past earlier request early.mem) (Int.not_le.mpr after)
        · cases executed.symm.trans sameRun
          rw [← rating]
          exact held before late.visits row found

/-- A hundred seconds after the login. -/
def demoteEnv : Env := { sampleEnv with now := 100 }

/-- Fifteen minutes after that. -/
def demotedEnv : Env := { sampleEnv with now := 1000 }

/-- The supervisor logs in, and gives itself the rating 4. -/
def demotionMoves : List Move :=
  [.api sampleEnv supervisorLogin, .api demoteEnv (supervisorUpdate 4)]

/-- The refresh token is exchanged. -/
def demotedMoves : List Move :=
  [.api renewEnv (.refresh (some supervisorRefresh))]

/-- The access token for which it is exchanged. -/
def demotedAccess : Bytes :=
  Symbolic.signedString {
    issuer := jwtIssuer
    expiresAt := some 1800
    notBefore := some 870
    issuedAt := some 900
    jti := []
    tokenType := bytes "access"
    cid := 1
    firstName := []
    lastName := []
    networkRating := 4 } (bytes "key")

/-- What the update leaves of the database. -/
def demotedDatabase : Database :=
  (serve .sqlite Symbolic.platform demoteEnv
    { Symbolic.database with users := Symbolic.userTable (Symbolic.userRow (bytes "secret") 11) }
    (supervisorUpdate 4)).2

theorem lookup_demotedDatabase {row : UserRow}
    (found : demotedDatabase.users.rows.lookup 1 = some row) : row.networkRating = 4 := by
  have stored : demotedDatabase.users.rows.lookup 1 =
      some ⟨pack [[], bytes "secret"], none, none, 4⟩ := by
    decide +kernel
  rw [← Option.some.inj (stored.symm.trans found)]

/-- The deployment after a request to the API. -/
theorem exists_served {F : Type} [GoFloat F] (state : Deployment F) (env : Env)
    (request : Request) : Exists fun next : Deployment F =>
      Deployment.step .sqlite Symbolic.platform state (.api env request) = some next ∧
        next.database = (serve .sqlite Symbolic.platform env state.database request).2 ∧
        next.issued = state.issued ++
          (serve .sqlite Symbolic.platform env state.database request).1.issued :=
  ⟨_, Deployment.step_api .sqlite Symbolic.platform state env request, rfl, rfl⟩

/-- The token endpoints leave the database as it is. -/
theorem serve_login (env : Env) (database : Database) (body : Option LoginBody) :
    (serve driver P env database (.login body)).2 = database :=
  rfl

theorem serve_refresh (env : Env) (database : Database) (body : Option Bytes) :
    (serve driver P env database (.refresh body)).2 = database :=
  rfl

/-- The two parts of the run, and the tokens that it hands out. -/
structure Demoted (middle state : Deployment Real) : Prop where
  executed : run (Deployment.step .sqlite Symbolic.platform) supervisorStart demotionMoves =
    some middle
  later : run (Deployment.step .sqlite Symbolic.platform) middle demotedMoves = some state
  unforged : Along (Deployment.step .sqlite Symbolic.platform) (Unforged Symbolic.platform)
    (supervisorStart : Deployment Real) (demotionMoves ++ demotedMoves)
  database : middle.database = demotedDatabase
  kept : state.database = demotedDatabase
  access : supervisorAccess ∈ middle.issued
  renewed : demotedAccess ∈ state.issued

theorem exists_demoted : Exists fun middle => Exists fun state => Demoted middle state := by
  have first : supervisorAccess ∈ (serve .sqlite Symbolic.platform sampleEnv
      (supervisorStart : Deployment Real).database supervisorLogin).1.issued := by
    decide +kernel
  have second : supervisorRefresh ∈ (serve .sqlite Symbolic.platform sampleEnv
      (supervisorStart : Deployment Real).database supervisorLogin).1.issued := by
    decide +kernel
  have third : demotedAccess ∈ (serve .sqlite Symbolic.platform renewEnv demotedDatabase
      (.refresh (some supervisorRefresh))).1.issued := by
    decide +kernel
  rcases exists_served (supervisorStart : Deployment Real) sampleEnv supervisorLogin with
    ⟨loggedIn, taken, database, issued⟩
  rcases exists_served loggedIn demoteEnv (supervisorUpdate 4) with
    ⟨middle, takenNext, databaseNext, issuedNext⟩
  rcases exists_served middle renewEnv (.refresh (some supervisorRefresh)) with
    ⟨state, takenLast, databaseLast, issuedLast⟩
  have access : supervisorAccess ∈ loggedIn.issued := by
    rw [issued]
    exact List.mem_append_right _ first
  have refresh : supervisorRefresh ∈ middle.issued := by
    rw [issuedNext, issued]
    exact List.mem_append_left _ (List.mem_append_right _ second)
  have changed : middle.database = demotedDatabase := by
    rw [databaseNext, database, supervisorLogin, serve_login]
    rfl
  refine ⟨middle, state, ?_, ?_, ?_, changed, ?_, ?_, ?_⟩
  · exact (run_cons_of_step taken _).trans (run_cons_of_step takenNext [])
  · exact run_cons_of_step takenLast []
  · constructor
    · intro raw member
      cases member
    · intro next same
      cases taken.symm.trans same
      constructor
      · intro raw member _
        rw [List.mem_singleton.mp member]
        exact access
      · intro next same
        cases takenNext.symm.trans same
        refine ⟨?_, fun _ _ => True.intro⟩
        intro raw member _
        rw [List.mem_singleton.mp member]
        exact refresh
  · rw [databaseLast, serve_refresh, changed]
  · rw [issuedNext]
    exact List.mem_append_left _ access
  · rw [issuedLast, changed]
    exact List.mem_append_right _ third

/-- The rating falls from 11 to 4, and fifteen minutes later the token of the
session that began with the rating 11 bears the rating 4. -/
theorem rating_takes_effect_demoted : Exists fun middle : Deployment Real =>
    Exists fun state : Deployment Real => Exists fun claims =>
      run (Deployment.step .sqlite Symbolic.platform) supervisorStart demotionMoves = some middle ∧
        run (Deployment.step .sqlite Symbolic.platform) middle demotedMoves = some state ∧
        supervisorAccess ∈ middle.issued ∧
        jwtBearerMiddleware Symbolic.platform demotedEnv state.database
          (bytes "Bearer " ++ demotedAccess) = .ok claims ∧ claims.networkRating = 4 := by
  rcases exists_demoted with ⟨middle, state, demoted⟩
  have owner : (jwtBearerMiddleware Symbolic.platform demotedEnv demotedDatabase
      (bytes "Bearer " ++ demotedAccess)).toOption.map (fun claims => claims.cid) = some 1 := by
    decide +kernel
  rcases exists_passed owner with ⟨claims, admitted, own⟩
  have passed : jwtBearerMiddleware Symbolic.platform demotedEnv state.database
      (bytes "Bearer " ++ demotedAccess) = .ok claims := by
    rw [demoted.kept]
    exact admitted
  have cut : cutPrefix (bytes "Bearer " ++ demotedAccess) (bytes "Bearer ") =
      (demotedAccess, true) := cutPrefix_eq_true_iff.mpr rfl
  have known : KnownBearer Symbolic.platform state (bytes "Bearer " ++ demotedAccess) := by
    intro _
    rw [cut]
    exact demoted.renewed
  have personal : ¬ BearsApiToken .sqlite Symbolic.platform (supervisorStart : Deployment Real)
      (demotionMoves ++ demotedMoves) (bytes "Bearer " ++ demotedAccess) := by
    rintro ⟨before, env, authorization, body, served, _⟩
    have listed := served.mem
    simp [demotionMoves, demotedMoves, supervisorLogin, supervisorUpdate] at listed
  have past : forall earlier request, Move.api earlier request ∈ demotionMoves ->
      earlier.now ≤ 100 := by
    intro earlier request member
    simp only [demotionMoves, List.mem_cons, List.not_mem_nil, or_false] at member
    rcases member with same | same
    · cases same
      decide
    · cases same
      decide
  have held : forall visited, Visits (Deployment.step .sqlite Symbolic.platform) middle
      demotedMoves visited ->
        forall row, visited.database.users.rows.lookup claims.cid = some row ->
          row.networkRating = 4 := by
    intro visited visits row found
    have same : visited.database = demotedDatabase := by
      rcases visits_cons.mp visits with rfl | ⟨next, taken, visits⟩
      · exact demoted.database
      · rw [visits_nil.mp visits]
        have last := run_cons_of_step taken []
        cases demoted.later.symm.trans last
        exact demoted.kept
    rw [same, own] at found
    exact lookup_demotedDatabase found
  exact ⟨middle, state, claims, demoted.executed, demoted.later, demoted.access, passed,
    rating_takes_effect Symbolic.platform_faithfulTokens Symbolic.platform_faithfulRegistered rfl
      demoted.unforged demoted.executed demoted.later known passed personal past held (by decide)⟩

/-- The internal service refuses every token that the API has handed out, so
nobody who holds only such tokens can kick or list sessions through it. -/
theorem service_refuses_issued (faithful : P.FaithfulTokens) (timed : P.FaithfulRegistered)
    {start state : Deployment F} {moves : List Move} (noTokens : start.issued = [])
    (unforged : Along (Deployment.step driver P) (Unforged P) start moves)
    (executed : run (Deployment.step driver P) start moves = some state) (now : Time)
    (getConfigFails : Bool) {authorization : Bytes} (known : KnownBearer P state authorization)
    (bound : Bool) (callsign : Bytes) :
    let env : ServiceEnv := ⟨now, state.database, getConfigFails⟩
    (Exists fun status => authMiddleware P env authorization = some status ∧ 400 ≤ status) ∧
      (kickUser P env state.fsd.server authorization bound callsign).2 = state.fsd.server := by
  intro env
  rcases authMiddleware_cases P env authorization with ⟨_, claims, bearer, typed, _⟩ | refused
  · cases bearer with
    | verified token secret header readable configured parsed =>
        rcases parseJwtToken_eq_some parsed with ⟨payload, verified, _⟩
        have cut : cutPrefix authorization (bytes "Bearer ") = (token, true) :=
          cutPrefix_eq_true_iff.mpr header
        unfold KnownBearer at known
        rw [cut] at known
        have member := known ⟨secret, configured, verified⟩
        have traceable := allTraceable_of_run faithful timed noTokens unforged executed token claims
          member payload
        exact absurd typed traceable.foreign
  · rcases refused with ⟨status, aborted, high⟩
    refine ⟨⟨status, aborted, high⟩, ?_⟩
    unfold kickUser
    rw [aborted]

theorem service_refuses_issued_renewed : Exists fun state : Deployment Real =>
    renewedAccess ∈ state.issued ∧ Exists fun status =>
      authMiddleware Symbolic.platform ⟨900, state.database, false⟩ (bytes "Bearer " ++ renewedAccess) =
        some status ∧ 400 ≤ status := by
  rcases exists_renewed (F := Real) with ⟨state, renewed⟩
  have refused := service_refuses_issued Symbolic.platform_faithfulTokens
    Symbolic.platform_faithfulRegistered rfl renewed.unforged renewed.executed 900 false
    renewed.passes.2.1 true []
  exact ⟨state, renewed.issued, refused.1⟩

end Web
end OpenFsd
