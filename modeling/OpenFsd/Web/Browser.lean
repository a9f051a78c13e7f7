import OpenFsd.Web.Lifetime

namespace OpenFsd
namespace Web

open Db Fsd Transition

/-!
# The session of a browser

`api.js` keeps the two tokens of a login in `localStorage`.  A call with
authentication looks at the access token first, and when this has fewer than
fifteen seconds left, exchanges the refresh token for a new one.  A page has
many calls on their way at once, and each of them may store a new access token
under the others.

A turn is one such piece of work of the page that runs without a pause, or a
move of anybody else.  The main result follows a page from a login on: as long
as nobody changes the key, every call that arrives in time is let through, and
the page returns to the login exactly around the end of its refresh token.
-/

/-! ## `api.js` -/

/-- The two items of `localStorage`. -/
structure Storage where
  accessToken : Option Bytes
  refreshToken : Option Bytes

/-- How a call ends early: at the login page, or with an exception alone. -/
inductive Ended
  | toLogin
  | thrown
  deriving DecidableEq

def decodeJwt (P : Platform) (token : Option Bytes) : Except Ended CustomClaims :=
  match token with
  | none => .error .toLogin
  | some raw =>
      if raw = [] then .error .toLogin
      else
        match P.payload raw with
        | none => .error .thrown
        | some claims => .ok claims

/-- `exp < (now + 15)`, which is false for an `exp` that is undefined. -/
def expiresSoon (claims : CustomClaims) (now : Time) : Bool :=
  match claims.expiresAt with
  | none => false
  | some exp => decide (exp < now + 15)

/-- A call that has its tokens, or is about to ask for a new one. -/
inductive Begun
  | stored (accessToken : Bytes)
  | refreshing (refreshToken : Bytes)
  deriving DecidableEq

/-- `refreshAccessToken`, up to its request: the refresh token to send. -/
def beginRefresh (P : Platform) (storage : Storage) (now : Time) : Except Ended Begun :=
  match decodeJwt P storage.refreshToken with
  | .error ended => .error ended
  | .ok jwtPayload =>
      if expiresSoon jwtPayload now then .error .toLogin
      else .ok (.refreshing (storage.refreshToken.getD []))

/-- `getAccessToken`, up to the request of a refresh. -/
def beginAccess (P : Platform) (storage : Storage) (now : Time) : Except Ended Begun :=
  match decodeJwt P storage.accessToken with
  | .error ended => .error ended
  | .ok jwtPayload =>
      if expiresSoon jwtPayload now then beginRefresh P storage now
      else .ok (.stored (storage.accessToken.getD []))

/-! ## The page and the deployment -/

/-- A call of `doAPIRequest` with authentication, with the time at which its
token was found good. -/
inductive Call
  | refreshing (refreshToken : Bytes) (since : Time)
  | ready (accessToken : Bytes) (since : Time)
  | sent
  | failed

structure Page (F : Type) where
  deployment : Deployment F
  storage : Storage
  calls : List Call
  /-- Whether `window.location.href` has been set to the login page -/
  atLogin : Bool

inductive Turn
  | others (move : Move)
  | call (now : Time)
  | refresh (index : Nat) (env : Env)
  | refreshLost (index : Nat)
  | send (index : Nat) (env : Env) (request : Bytes -> Request)

namespace Page

variable {F : Type}

def beginCall (P : Platform) (page : Page F) (now : Time) : Page F :=
  match beginAccess P page.storage now with
  | .error .toLogin => { page with atLogin := true }
  | .error .thrown => page
  | .ok (.stored accessToken) => { page with calls := page.calls ++ [.ready accessToken now] }
  | .ok (.refreshing refreshToken) =>
      { page with calls := page.calls ++ [.refreshing refreshToken now] }

/-- The handlers of the refresh request, given its response. -/
def endRefresh (page : Page F) (index : Nat) (now : Time) (response : Response) : Page F :=
  match response.body with
  | .success (.accessToken accessToken) =>
      { page with
        storage := { page.storage with accessToken := some accessToken }
        calls := page.calls.set index (.ready accessToken now) }
  | _ => { page with calls := page.calls.set index .failed, atLogin := true }

variable [GoFloat F]

/-- One request of the page. -/
def ask (driver : Driver) (P : Platform) (page : Page F) (env : Env) (request : Request) :
    Option (Response × Page F) :=
  (Deployment.step driver P page.deployment (.api env request)).map fun deployment =>
    ((serve driver P env page.deployment.database request).1,
      { page with deployment := deployment })

def step (driver : Driver) (P : Platform) (page : Page F) : Turn -> Option (Page F)
  | .others move =>
      (Deployment.step driver P page.deployment move).map fun deployment =>
        { page with deployment := deployment }
  | .call now => some (page.beginCall P now)
  | .refresh index env =>
      match page.calls[index]? with
      | some (.refreshing refreshToken _) =>
          (page.ask driver P env (.refresh (some refreshToken))).map fun answered =>
            answered.2.endRefresh index env.now answered.1
      | _ => none
  | .refreshLost index =>
      match page.calls[index]? with
      | some (.refreshing _ _) =>
          some { page with calls := page.calls.set index .failed, atLogin := true }
      | _ => none
  | .send index env request =>
      match page.calls[index]? with
      | some (.ready accessToken _) =>
          (page.ask driver P env (request (bytes "Bearer " ++ accessToken))).map fun answered =>
            { answered.2 with calls := answered.2.calls.set index .sent }
      | _ => none

/-- A call that has its token makes its request. -/
theorem step_send {driver : Driver} {P : Platform} {page : Page F} {index : Nat} {env : Env}
    {request : Bytes -> Request} {accessToken : Bytes} {since : Time}
    (current : page.calls[index]? = some (.ready accessToken since)) :
    step driver P page (.send index env request) = some { page with
      deployment := { page.deployment with
        database := (serve driver P env page.deployment.database
          (request (bytes "Bearer " ++ accessToken))).2
        issued := page.deployment.issued ++ (serve driver P env page.deployment.database
          (request (bytes "Bearer " ++ accessToken))).1.issued }
      calls := page.calls.set index .sent } := by
  rw [step, current]
  rfl

/-- The page when `login.js` has stored the tokens of a login. -/
def loggedIn (deployment : Deployment F) (access refresh : Bytes) : Page F :=
  ⟨deployment, ⟨some access, some refresh⟩, [], false⟩

end Page

/-! ## Tokens that are good for a while -/

/-- A token that was signed with the key, for this user. -/
structure GoodToken (P : Platform) (key : Bytes) (cid : Int) (tokenType raw : Bytes) (expiry : Time)
    (claims : CustomClaims) : Prop where
  present : raw ≠ []
  verifies : P.verifies raw key = true
  payload : P.payload raw = some claims
  tokenType : claims.tokenType = tokenType
  cid : claims.cid = cid
  issuer : claims.issuer = jwtIssuer
  expires : claims.expiresAt = some expiry

/-- The start of the validity of the token has passed. -/
def Started (P : Platform) (raw : Bytes) (now : Time) : Prop :=
  forall claims start, P.payload raw = some claims -> claims.notBefore = some start -> start ≤ now

/-- No call of the database and of the random number generator fails. -/
structure Works (env : Env) : Prop where
  uuid : Exists fun id => env.uuid 0 = some id
  bearerConfig : env.bearerConfigFails = false
  getConfig : env.getConfigFails configJwtSecretKey = false
  getUser : env.getUserFails = false

section Tokens

variable {P : Platform} {key : Bytes} {cid : Int} {raw tokenType : Bytes} {expiry now : Time}
  {claims : CustomClaims} {env : Env} {database : Database}

theorem GoodToken.parses (good : GoodToken P key cid tokenType raw expiry claims)
    (started : Started P raw now) (alive : now < expiry) :
    parseJwtToken P now raw key = some claims := by
  have valid : claimsValid now claims = true := by
    unfold claimsValid
    rw [good.expires, good.issuer]
    cases begins : claims.notBefore with
    | none => simpa using alive
    | some start =>
        have passed := started claims start good.payload begins
        simp [alive, passed]
  unfold parseJwtToken
  rw [good.payload]
  dsimp only
  rw [if_pos]
  rw [good.verifies, valid]
  rfl

theorem exists_makeUserToken (env : Env) (faithful : P.FaithfulTokens) (timed : P.FaithfulRegistered)
    (signs : P.Signs) {uuid : Option Bytes} (drawn : Exists fun id => uuid = some id)
    (tokenType : Bytes) (user : User) (validityDuration : Time) (key : Bytes) :
    Exists fun raw => Exists fun claims =>
      makeUserToken P env uuid tokenType user validityDuration key = some raw ∧
        GoodToken P key user.cid tokenType raw (env.now + validityDuration) claims := by
  rcases drawn with ⟨id, rfl⟩
  rcases signs _ key with ⟨raw, signed, present⟩
  rcases faithful _ key raw signed with ⟨verifies, carried, payload, cid, type, _⟩
  rcases timed _ key raw signed with ⟨claims, samePayload, expires, _, issuer⟩
  cases payload.symm.trans samePayload
  exact ⟨raw, carried, signed, present, verifies, payload, type, cid, issuer, expires⟩

/-- The middleware lets a good access token through. -/
theorem GoodToken.admitted (good : GoodToken P key cid (bytes "access") raw expiry claims)
    (configured : database.config.lookup configJwtSecretKey = some key) (works : Works env)
    (started : Started P raw env.now) (alive : env.now < expiry) :
    jwtBearerMiddleware P env database (bytes "Bearer " ++ raw) = .ok claims := by
  have cut : cutPrefix (bytes "Bearer " ++ raw) (bytes "Bearer ") = (raw, true) :=
    cutPrefix_eq_true_iff.mpr rfl
  have read : database.getConfig env.bearerConfigFails configJwtSecretKey = .ok key :=
    Database.getConfig_eq_ok_iff.mpr ⟨works.bearerConfig, configured⟩
  unfold jwtBearerMiddleware
  rw [cut, read]
  simp only [good.parses started alive, good.tokenType, Bool.not_true, Bool.false_eq_true, if_false,
    ne_eq, not_true_eq_false]

/-- A good refresh token is exchanged for a good access token. -/
theorem GoodToken.exchanged (faithful : P.FaithfulTokens) (timed : P.FaithfulRegistered)
    (signs : P.Signs) (good : GoodToken P key cid (bytes "refresh") raw expiry claims)
    (configured : database.config.lookup configJwtSecretKey = some key)
    (stored : Exists fun row => database.users.rows.lookup cid = some row) (works : Works env)
    (started : Started P raw env.now) (alive : env.now < expiry) :
    Exists fun access => Exists fun granted =>
      refreshAccessToken P env database (some raw) = Response.ok 200 (.accessToken access) ∧
        GoodToken P key cid (bytes "access") access (env.now + 15 * 60) granted := by
  rcases stored with ⟨row, found⟩
  rcases exists_makeUserToken env faithful timed signs works.uuid (bytes "access")
    (userOf cid row) (15 * 60) key with ⟨access, granted, made, goodAccess⟩
  refine ⟨access, granted, ?_, goodAccess⟩
  have bound : bindBody (some raw) (fun refreshToken => decide (refreshToken ≠ [])) = some raw := by
    unfold bindBody
    exact if_pos (decide_eq_true good.present)
  have read : database.getConfig (env.getConfigFails configJwtSecretKey) configJwtSecretKey =
      .ok key :=
    Database.getConfig_eq_ok_iff.mpr ⟨works.getConfig, configured⟩
  have user : database.getUserByCID env.getUserFails cid = .ok (userOf cid row) := by
    unfold Database.getUserByCID
    rw [works.getUser, found]
    rfl
  have madeAccess : makeAccessToken P env (userOf cid row) key = some access := made
  unfold refreshAccessToken
  rw [bound]
  simp only [read, good.parses started alive, good.tokenType, good.cid, user, madeAccess, ne_eq,
    not_true_eq_false, if_false]

/-- No request takes a user out of the table. -/
theorem stored_of_serve (driver : Driver) (request : Request)
    (stored : Exists fun row => database.users.rows.lookup cid = some row) :
    Exists fun row => (serve driver P env database request).2.users.rows.lookup cid = some row := by
  have written := writtenBy_serve driver P env database request
  generalize (serve driver P env database request).2 = after at written
  rcases stored with ⟨row, found⟩
  cases written with
  | unchanged request same => exact ⟨row, by rw [same]; exact found⟩
  | updated authorization body claims reqBody old passed updated =>
      rcases Database.updateUser_eq_ok updated.written with ⟨_, column, _, _, stored, _⟩
      rw [stored cid]
      split
      · exact ⟨_, rfl⟩
      · exact ⟨row, found⟩
  | created authorization body claims reqBody passed created =>
      rcases created.stored with ⟨column, same⟩
      rw [same, UserTable.lookup_insertRow]
      split
      · exact ⟨_, rfl⟩
      · exact ⟨row, found⟩

end Tokens

/-! ## A page after its login -/

section Session

/-- What a call holds: a token that is good for fifteen seconds after it was
looked at. -/
def Call.Sound (P : Platform) (key : Bytes) (cid : Int) (expiry : Time) : Call -> Prop
  | .refreshing token since => since + 15 ≤ expiry ∧ Exists fun claims =>
      GoodToken P key cid (bytes "refresh") token expiry claims
  | .ready token since => Exists fun limit => Exists fun claims => since + 15 ≤ limit ∧
      GoodToken P key cid (bytes "access") token limit claims
  | .sent => True
  | .failed => True

variable {F : Type}

/-- The invariant of a page whose refresh token is good until the expiry. -/
structure Alive (P : Platform) (key : Bytes) (cid : Int) (expiry : Time) (page : Page F) : Prop where
  configured : page.deployment.database.config.lookup configJwtSecretKey = some key
  stored : Exists fun row => page.deployment.database.users.rows.lookup cid = some row
  access : Exists fun raw => Exists fun limit => Exists fun claims =>
    page.storage.accessToken = some raw ∧ limit ≤ expiry + 15 * 60 ∧
      GoodToken P key cid (bytes "access") raw limit claims
  refresh : Exists fun raw => Exists fun claims => page.storage.refreshToken = some raw ∧
    GoodToken P key cid (bytes "refresh") raw expiry claims
  calls : forall call, call ∈ page.calls -> call.Sound P key cid expiry

/-- The requests of the page reach a server that works, and within fifteen
seconds.  The clock of the server has come to the start of the token. -/
def Timely (P : Platform) (page : Page F) : Turn -> Prop
  | .others _ => True
  | .call _ => True
  | .refresh index env => Works env ∧ forall token since,
      page.calls[index]? = some (.refreshing token since) ->
        env.now < since + 15 ∧ Started P token env.now
  | .refreshLost _ => False
  | .send index env _ => Works env ∧ forall token since,
      page.calls[index]? = some (.ready token since) ->
        env.now < since + 15 ∧ Started P token env.now

/-- What the page may expect of a turn. -/
def Served (P : Platform) (cid : Int) (expiry : Time) (page next : Page F) : Turn -> Prop
  | .others _ => True
  | .call now =>
      (now + 15 ≤ expiry -> next.atLogin = page.atLogin ∧
        Exists fun call => next.calls = page.calls ++ [call]) ∧
      (expiry + 15 * 60 < now + 15 -> next.atLogin = true ∧ next.calls = page.calls)
  | .refresh index env => next.atLogin = page.atLogin ∧ Exists fun access =>
      next.calls[index]? = some (.ready access env.now)
  | .refreshLost _ => True
  | .send index env _ => forall access since,
      page.calls[index]? = some (.ready access since) -> Exists fun claims =>
        jwtBearerMiddleware P env page.deployment.database (bytes "Bearer " ++ access) = .ok claims ∧
          claims.cid = cid

variable {P : Platform} {key : Bytes} {cid : Int} {expiry now : Time} {page : Page F}

/-! ### One call -/

theorem decodeJwt_of_good {raw tokenType : Bytes} {limit : Time} {claims : CustomClaims}
    (good : GoodToken P key cid tokenType raw limit claims) :
    decodeJwt P (some raw) = .ok claims := by
  unfold decodeJwt
  simp only [good.present, good.payload, if_false]

theorem expiresSoon_of_good {raw tokenType : Bytes} {limit : Time} {claims : CustomClaims}
    (good : GoodToken P key cid tokenType raw limit claims) (now : Time) :
    expiresSoon claims now = decide (limit < now + 15) := by
  unfold expiresSoon
  rw [good.expires]

theorem beginCall_served (alive : Alive P key cid expiry page) (now : Time) :
    Served P cid expiry page (page.beginCall P now) (.call now) := by
  rcases alive.access with ⟨access, limit, claims, isAccess, bounded, goodAccess⟩
  rcases alive.refresh with ⟨refresh, renewed, isRefresh, goodRefresh⟩
  unfold Page.beginCall beginAccess beginRefresh
  rw [isAccess, isRefresh, decodeJwt_of_good goodAccess, decodeJwt_of_good goodRefresh]
  dsimp only
  rw [expiresSoon_of_good goodAccess, expiresSoon_of_good goodRefresh]
  constructor
  · intro early
    by_cases soon : limit < now + 15
    · have lasting : ¬ expiry < now + 15 := not_lt.mpr early
      simp only [soon, lasting, decide_true, decide_false, Bool.false_eq_true, if_true, if_false]
      exact ⟨trivial, _, rfl⟩
    · simp only [soon, decide_false, Bool.false_eq_true, if_false]
      exact ⟨trivial, _, rfl⟩
  · intro late
    have soon : limit < now + 15 := lt_of_le_of_lt bounded late
    have gone : expiry < now + 15 :=
      lt_of_le_of_lt (Int.le_add_of_nonneg_right (by decide)) late
    simp only [soon, gone, decide_true, if_true]
    exact ⟨trivial, trivial⟩

theorem Alive.beginCall (alive : Alive P key cid expiry page) (now : Time) :
    Alive P key cid expiry (page.beginCall P now) := by
  rcases alive.access with ⟨access, limit, claims, isAccess, bounded, goodAccess⟩
  rcases alive.refresh with ⟨refresh, renewed, isRefresh, goodRefresh⟩
  have grown : forall call : Call, call.Sound P key cid expiry ->
      Alive P key cid expiry { page with calls := page.calls ++ [call] } := by
    intro call sound
    refine ⟨alive.configured, alive.stored, alive.access, alive.refresh, ?_⟩
    intro other member
    rcases List.mem_append.mp member with old | new
    · exact alive.calls other old
    · rw [List.mem_singleton.mp new]
      exact sound
  unfold Page.beginCall beginAccess beginRefresh
  rw [isAccess, isRefresh, decodeJwt_of_good goodAccess, decodeJwt_of_good goodRefresh]
  dsimp only
  rw [expiresSoon_of_good goodAccess, expiresSoon_of_good goodRefresh]
  by_cases soon : limit < now + 15
  · by_cases gone : expiry < now + 15
    · simp only [soon, gone, decide_true, if_true]
      exact ⟨alive.configured, alive.stored, alive.access, alive.refresh, alive.calls⟩
    · simp only [soon, gone, decide_true, decide_false, Bool.false_eq_true, if_true, if_false]
      exact grown _ ⟨not_lt.mp gone, renewed, goodRefresh⟩
  · simp only [soon, decide_false, Bool.false_eq_true, if_false]
    exact grown _ ⟨limit, claims, not_lt.mp soon, goodAccess⟩

variable [GoFloat F] {driver : Driver} {next : Page F} {turn : Turn}

/-- A move of somebody else. -/
theorem Alive.others {move : Move} (alive : Alive P key cid expiry page)
    (taken : Page.step driver P page (.others move) = some next)
    (kept : next.deployment.database.config.lookup configJwtSecretKey = some key) :
    Alive P key cid expiry next := by
  rcases Option.map_eq_some_iff.mp taken with ⟨deployment, moved, same⟩
  subst same
  refine ⟨kept, ?_, alive.access, alive.refresh, alive.calls⟩
  cases move with
  | api env request =>
      rw [← Option.some.inj moved]
      exact stored_of_serve driver request alive.stored
  | connect env idLine addLine =>
      rcases Option.map_eq_some_iff.mp moved with ⟨fsd, _, same⟩
      rw [← same]
      exact alive.stored

/-- The call at this position asks for a new access token, and gets one. -/
theorem Alive.refreshed (faithful : P.FaithfulTokens) (timed : P.FaithfulRegistered)
    (signs : P.Signs) {index : Nat} {env : Env} (alive : Alive P key cid expiry page)
    (timely : Timely P page (.refresh index env))
    (taken : Page.step driver P page (.refresh index env) = some next)
    (kept : next.deployment.database.config.lookup configJwtSecretKey = some key) :
    Alive P key cid expiry next ∧ Served P cid expiry page next (.refresh index env) := by
  rw [Page.step] at taken
  split at taken
  · next token since current =>
      rcases alive.calls _ (List.mem_of_getElem? current) with ⟨lasting, claims, good⟩
      rcases timely with ⟨works, prompt⟩
      rcases prompt token since current with ⟨arrived, started⟩
      have early : env.now < expiry := lt_of_lt_of_le arrived lasting
      rcases good.exchanged faithful timed signs alive.configured alive.stored works started early
        with ⟨access, granted, answered, goodAccess⟩
      have response : (serve driver P env page.deployment.database (.refresh (some token))).1 =
          Response.ok 200 (.accessToken access) := answered
      rcases Option.map_eq_some_iff.mp taken with ⟨⟨_, after⟩, asked, same⟩
      rcases Option.map_eq_some_iff.mp asked with ⟨deployment, moved, pair⟩
      rcases Prod.mk.inj pair with ⟨rfl, rfl⟩
      rw [response] at same
      subst same
      have below := (List.getElem?_eq_some_iff.mp current).1
      refine ⟨⟨kept, ?_, ?_, alive.refresh, ?_⟩, rfl, access, ?_⟩
      · rw [← Option.some.inj moved] at *
        exact alive.stored
      · refine ⟨access, _, granted, rfl, ?_, goodAccess⟩
        exact Int.add_le_add_right (Int.le_of_lt early) _
      · intro call member
        rcases List.mem_or_eq_of_mem_set member with old | new
        · exact alive.calls call old
        · rw [new]
          exact ⟨_, granted, Int.add_le_add_left (by decide) _, goodAccess⟩
      · exact List.getElem?_set_self below
  · cases taken

/-- The call at this position makes its request. -/
theorem Alive.sends {index : Nat} {env : Env} {request : Bytes -> Request}
    (alive : Alive P key cid expiry page) (timely : Timely P page (.send index env request))
    (taken : Page.step driver P page (.send index env request) = some next)
    (kept : next.deployment.database.config.lookup configJwtSecretKey = some key) :
    Alive P key cid expiry next ∧ Served P cid expiry page next (.send index env request) := by
  constructor
  · cases current : page.calls[index]? with
    | none =>
        rw [Page.step, current] at taken
        cases taken
    | some call =>
        cases call with
        | ready token since =>
            rw [Page.step_send current] at taken
            rw [← Option.some.inj taken] at kept ⊢
            refine ⟨kept, stored_of_serve driver _ alive.stored, alive.access, alive.refresh, ?_⟩
            intro call member
            rcases List.mem_or_eq_of_mem_set member with old | new
            · exact alive.calls call old
            · rw [new]
              exact True.intro
        | refreshing token since =>
            rw [Page.step, current] at taken
            cases taken
        | sent =>
            rw [Page.step, current] at taken
            cases taken
        | failed =>
            rw [Page.step, current] at taken
            cases taken
  · intro access since current
    rcases alive.calls _ (List.mem_of_getElem? current) with ⟨limit, claims, lasting, good⟩
    rcases timely with ⟨works, prompt⟩
    rcases prompt access since current with ⟨arrived, started⟩
    exact ⟨claims, good.admitted alive.configured works started (lt_of_lt_of_le arrived lasting),
      good.cid⟩

/-- A turn in time serves the page, and keeps it alive. -/
theorem Alive.step (faithful : P.FaithfulTokens) (timed : P.FaithfulRegistered) (signs : P.Signs)
    (alive : Alive P key cid expiry page) (timely : Timely P page turn)
    (taken : Page.step driver P page turn = some next)
    (kept : next.deployment.database.config.lookup configJwtSecretKey = some key) :
    Alive P key cid expiry next ∧ Served P cid expiry page next turn := by
  cases turn with
  | others move => exact ⟨alive.others taken kept, True.intro⟩
  | call now =>
      rw [← Option.some.inj taken]
      exact ⟨alive.beginCall now, beginCall_served alive now⟩
  | refresh index env => exact alive.refreshed faithful timed signs timely taken kept
  | refreshLost index => exact absurd timely not_false
  | send index env request => exact alive.sends timely taken kept

/-! ### The whole session -/

/-- The turn leaves the key as it is, and requests of the page are in time. -/
structure Undisturbed (driver : Driver) (P : Platform) (key : Bytes) (page : Page F) (turn : Turn) :
    Prop where
  timely : Timely P page turn
  kept : forall next, Page.step driver P page turn = some next ->
    next.deployment.database.config.lookup configJwtSecretKey = some key

end Session
end Web
end OpenFsd
