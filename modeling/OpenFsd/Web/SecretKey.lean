import OpenFsd.Web.Steps

namespace OpenFsd
namespace Web
namespace Steps

open Db Fsd Interleaving Transition

/-!
# Who reads the secret key

The requests around tokens, to the API and to the FSD server, interleaved at
their database steps.  Who issues a token signs it with the key that it has
read last, and who checks one does so with the key that it has read last.
-/

/-- A request, with what it meets outside the program.  The middleware stands
for all requests behind it that do not go on to issue a token or to write the
configuration. -/
inductive TokenRequest
  | login (env : Env) (body : Option LoginBody)
  | refresh (env : Env) (body : Option Bytes)
  | fsdJwt (env : Env) (body : Option FsdJwtBody)
  | createToken (env : Env) (authorization : Bytes) (body : Option Time)
  /-- A call of the internal service, by the datafeed. -/
  | internalCall (env : Env) (newRequestFails : Bool)
  /-- A call of the internal service, by the handler of a kick. -/
  | kickUser (env : Env) (call : CallEnv) (authorization : Bytes) (body : Option Bytes)
  | bearer (env : Env) (authorization : Bytes)
  | updateConfig (env : Env) (authorization : Bytes)
      (body : Option (Option (List (Bytes × Bytes))))
  | resetSecretKey (env : Env) (authorization : Bytes)
  /-- A request to the internal service. -/
  | service (now : Time) (getConfigFails : Bool) (authorization : Bytes)
  | connect (env : LoginEnv) (idLine addLine : Option Bytes)
  /-- A start of the FSD server. -/
  | initDefaultConfig (env : InitEnv)

/-- The result of a request, of which only that of `InitDefaultConfig` is
looked at. -/
inductive Outcome
  | served
  | initialized (result : Except DbError Unit)

/-- Ignore the response. -/
def serving {X : Type} (flow : Flow X) : Flow Outcome :=
  flow.bind fun _ => .done .served

/-- `handleKickActiveConnection`, up to the request that it sends. -/
def handleKickActiveConnection (env : Env) (call : CallEnv) (claims : CustomClaims)
    (body : Option Bytes) : Flow Outcome :=
  if claims.networkRating < NetworkRatingSupervisor then .done .served
  else
    match bindBody body (fun callsign => decide (callsign ≠ [])) with
    | none => .done .served
    | some _ =>
        if call.encodeFails then .done .served
        else serving (makeFsdHttpServiceHttpRequest env call.newRequestFails)

variable (F : Type) [GoFloat F] (P : Platform)

/-- The program of a request. -/
def program : TokenRequest -> Flow Outcome
  | .login env body => serving (getAccessRefreshTokens P env body)
  | .refresh env body => serving (refreshAccessToken env body)
  | .fsdJwt env body => serving (getFsdJwt env body)
  | .createToken env authorization body =>
      serving (withBearer env authorization fun claims =>
        handleCreateNewAPIToken env claims body)
  | .internalCall env newRequestFails =>
      serving (makeFsdHttpServiceHttpRequest env newRequestFails)
  | .kickUser env call authorization body =>
      (jwtBearerMiddleware env authorization).bind fun
        | .error _ => .done .served
        | .ok claims => handleKickActiveConnection env call claims body
  | .bearer env authorization => serving (jwtBearerMiddleware env authorization)
  | .updateConfig env authorization body =>
      serving (withBearer env authorization fun claims => handleUpdateConfig env claims body)
  | .resetSecretKey env authorization =>
      serving (withBearer env authorization fun claims => handleResetSecretKey env claims)
  | .service now getConfigFails authorization =>
      serving (authMiddleware now getConfigFails authorization)
  | .connect env idLine addLine =>
      serving (login P env idLine addLine : Flow (LoginResult (Client F)))
  | .initDefaultConfig env => (initDefaultConfig env).bind fun result => .done (.initialized result)

abbrev TokenPool := Pool Database TokenRequest Answer Outcome

/-- A step of the two servers on their common database. -/
def step : TokenPool -> Label TokenRequest -> Option TokenPool :=
  Pool.step (exec P) (program F P)

variable {F P}

/-! ## Every signature is made and checked with the key read last -/

/-- The requests that overwrite configuration values. -/
def TokenRequest.overwrites : TokenRequest -> Bool
  | .updateConfig _ _ _ => true
  | .resetSecretKey _ _ => true
  | _ => false

/-- The record of a task is the key that it has read last. -/
def secretMonitor (overwrites : Bool) : Monitor Answer (Option Bytes) where
  legal
    | held, .signedString _ secretKey => held = some secretKey
    | held, .parseJwtToken _ _ secretKey => held = some secretKey
    | _, .setConfig _ _ _ => overwrites = true
    | _, _ => True
  update
    | held, .getConfig _ key, answer => if key = configJwtSecretKey then answer.toOption else held
    | held, _, _ => held

/-- Whatever the record at its beginning, the program uses the key that it has
read last, and overwrites values only if it may. -/
def Careful {X : Type} (overwrites : Bool) (flow : Flow X) : Prop :=
  forall held, (secretMonitor overwrites).Follows (fun _ _ => True) held flow

section Careful

variable {overwrites : Bool}

theorem careful_done {X : Type} (result : X) : Careful overwrites (.done result : Flow X) :=
  fun _ => True.intro

theorem Careful.bind {X Y : Type} {flow : Flow X} {next : X -> Flow Y}
    (first : Careful overwrites flow) (second : forall result, Careful overwrites (next result)) :
    Careful overwrites (flow.bind next) :=
  fun held => (first held).bind fun record result _ => second result record

theorem careful_getUserByCID {X : Type} {fails : Bool} {cid : Int}
    {next : Except DbError User -> Flow X}
    (later : forall answer, Careful overwrites (next answer)) :
    Careful overwrites (.call (.getUserByCID fails cid) next) :=
  fun held => ⟨True.intro, fun answer => later answer held⟩

theorem careful_setConfig {X : Type} {fails : Bool} {key value : Bytes}
    {next : Except DbError Unit -> Flow X} (later : forall answer, Careful true (next answer)) :
    Careful true (.call (.setConfig fails key value) next) :=
  fun held => ⟨rfl, fun answer => later answer held⟩

theorem careful_setConfigIfNotExists {X : Type} {fails : Bool} {key value : Bytes}
    {next : Except DbError Unit -> Flow X}
    (later : forall answer, Careful overwrites (next answer)) :
    Careful overwrites (.call (.setConfigIfNotExists fails key value) next) :=
  fun held => ⟨True.intro, fun answer => later answer held⟩

/-- With the key in hand, the program uses no other before it reads it again. -/
def CarefulWith {X : Type} (overwrites : Bool) (secretKey : Bytes) (flow : Flow X) : Prop :=
  (secretMonitor overwrites).Follows (fun held _ => held = some secretKey) (some secretKey) flow

/-- A program that reads the key, and goes on with it if there is one. -/
theorem careful_readSecret {X : Type} {fails : Bool} {next : Except DbError Bytes -> Flow X}
    (failed : forall reason, Careful overwrites (next (.error reason)))
    (read : forall secretKey, CarefulWith overwrites secretKey (next (.ok secretKey))) :
    Careful overwrites (.call (.getConfig fails configJwtSecretKey) next) := by
  intro held
  refine ⟨True.intro, ?_⟩
  intro answer
  cases answer with
  | error reason => exact failed reason _
  | ok secretKey => exact (read secretKey).mono fun _ _ _ => True.intro

section WithKey

variable {X Y : Type} {secretKey : Bytes}

theorem carefulWith_done (result : X) : CarefulWith overwrites secretKey (.done result : Flow X) :=
  rfl

theorem CarefulWith.bind {flow : Flow X} {next : X -> Flow Y}
    (first : CarefulWith overwrites secretKey flow)
    (second : forall result, CarefulWith overwrites secretKey (next result)) :
    CarefulWith overwrites secretKey (flow.bind next) := by
  refine Monitor.Follows.bind first ?_
  intro record result same
  rw [same]
  exact second result

theorem carefulWith_signedString {claims : CustomClaims} {next : Option Bytes -> Flow X}
    (later : forall answer, CarefulWith overwrites secretKey (next answer)) :
    CarefulWith overwrites secretKey (.call (.signedString claims secretKey) next) :=
  ⟨rfl, later⟩

theorem carefulWith_parseJwtToken {now : Time} {rawToken : Bytes}
    {next : Option CustomClaims -> Flow X}
    (later : forall answer, CarefulWith overwrites secretKey (next answer)) :
    CarefulWith overwrites secretKey (.call (.parseJwtToken now rawToken secretKey) next) :=
  ⟨rfl, later⟩

theorem carefulWith_getUserByCID {fails : Bool} {cid : Int} {next : Except DbError User -> Flow X}
    (later : forall answer, CarefulWith overwrites secretKey (next answer)) :
    CarefulWith overwrites secretKey (.call (.getUserByCID fails cid) next) :=
  ⟨True.intro, later⟩

theorem carefulWith_makeUserToken (env : Env) (uuid : Option Bytes) (tokenType : Bytes)
    (user : User) (validityDuration : Time) :
    CarefulWith overwrites secretKey
      (makeUserToken env uuid tokenType user validityDuration secretKey) := by
  unfold makeUserToken
  split
  · exact carefulWith_done _
  · exact carefulWith_signedString carefulWith_done

end WithKey

theorem careful_makeAccessRefreshTokens (env : Env) (user : User) (rememberMe : Bool) :
    Careful overwrites (makeAccessRefreshTokens env user rememberMe) := by
  apply careful_readSecret
  · exact fun _ => careful_done _
  · intro secretKey
    apply (carefulWith_makeUserToken env _ _ user _).bind
    intro access
    split
    · exact carefulWith_done _
    · apply (carefulWith_makeUserToken env _ _ user _).bind
      intro refresh
      split <;> exact carefulWith_done _

theorem careful_getAccessRefreshTokens (P : Platform) (env : Env) (body : Option LoginBody) :
    Careful overwrites (getAccessRefreshTokens P env body) := by
  unfold getAccessRefreshTokens
  split
  · exact careful_done _
  · apply careful_getUserByCID
    intro answer
    split
    · exact careful_done _
    · split
      · exact careful_done _
      · apply (careful_makeAccessRefreshTokens env _ _).bind
        intro tokens
        split <;> exact careful_done _

theorem careful_refreshAccessToken (env : Env) (body : Option Bytes) :
    Careful overwrites (refreshAccessToken env body) := by
  unfold refreshAccessToken
  split
  · exact careful_done _
  · apply careful_readSecret
    · exact fun _ => careful_done _
    · intro secretKey
      apply carefulWith_parseJwtToken
      intro parsed
      split
      · exact carefulWith_done _
      · split
        · exact carefulWith_done _
        · apply carefulWith_getUserByCID
          intro found
          split
          · exact carefulWith_done _
          · apply (carefulWith_makeUserToken env _ _ _ _).bind
            intro access
            split <;> exact carefulWith_done _

theorem careful_getFsdJwt (env : Env) (body : Option FsdJwtBody) :
    Careful overwrites (getFsdJwt env body) := by
  have made : forall user, Careful overwrites (makeFsdToken env user) := by
    intro user
    unfold makeFsdToken
    split
    · exact careful_done _
    · apply careful_readSecret
      · exact fun _ => careful_done _
      · intro secretKey
        apply carefulWith_signedString
        intro signed
        split <;> exact carefulWith_done _
  unfold getFsdJwt
  split
  · exact careful_done _
  · dsimp only
    split
    · exact careful_done _
    · apply careful_getUserByCID
      intro answer
      split
      · exact careful_done _
      · exact careful_done _
      · split
        · exact careful_done _
        · exact made _

theorem careful_jwtBearerMiddleware (env : Env) (authorization : Bytes) :
    Careful overwrites (jwtBearerMiddleware env authorization) := by
  unfold jwtBearerMiddleware
  dsimp only
  split
  · exact careful_done _
  · apply careful_readSecret
    · exact fun _ => careful_done _
    · intro secretKey
      apply carefulWith_parseJwtToken
      intro parsed
      split
      · exact carefulWith_done _
      · split <;> exact carefulWith_done _

theorem careful_withBearer {env : Env} {authorization : Bytes}
    {handler : CustomClaims -> Flow Response}
    (careful : forall claims, Careful overwrites (handler claims)) :
    Careful overwrites (withBearer env authorization handler) := by
  apply (careful_jwtBearerMiddleware env authorization).bind
  intro outcome
  cases outcome with
  | error response => exact careful_done _
  | ok claims => exact careful claims

theorem careful_handleCreateNewAPIToken (env : Env) (claims : CustomClaims) (body : Option Time) :
    Careful overwrites (handleCreateNewAPIToken env claims body) := by
  unfold handleCreateNewAPIToken
  split
  · exact careful_done _
  · split
    · exact careful_done _
    · split
      · exact careful_done _
      · split
        · exact careful_done _
        · apply careful_readSecret
          · exact fun _ => careful_done _
          · intro secretKey
            apply carefulWith_signedString
            intro signed
            split <;> exact carefulWith_done _

theorem careful_writeConfig (env : Env) (call : Nat) (pairs : List (Bytes × Bytes)) :
    Careful true (writeConfig env call pairs) := by
  induction pairs generalizing call with
  | nil => exact careful_done _
  | cons pair rest inductionHypothesis =>
      apply careful_setConfig
      intro answer
      cases answer with
      | error reason => exact careful_done _
      | ok _ => exact inductionHypothesis (call + 1)

theorem careful_handleUpdateConfig (env : Env) (claims : CustomClaims)
    (body : Option (Option (List (Bytes × Bytes)))) :
    Careful true (handleUpdateConfig env claims body) := by
  unfold handleUpdateConfig
  split
  · exact careful_done _
  · split
    · exact careful_done _
    · exact (careful_writeConfig env 0 _).bind fun _ => careful_done _

theorem careful_handleResetSecretKey (env : Env) (claims : CustomClaims) :
    Careful true (handleResetSecretKey env claims) := by
  unfold handleResetSecretKey
  split
  · exact careful_done _
  · split
    · exact careful_done _
    · apply careful_setConfig
      intro answer
      split <;> exact careful_done _

theorem careful_makeFsdHttpServiceHttpRequest (env : Env) (newRequestFails : Bool) :
    Careful overwrites (makeFsdHttpServiceHttpRequest env newRequestFails) := by
  unfold makeFsdHttpServiceHttpRequest
  split
  · exact careful_done _
  · apply careful_readSecret
    · exact fun _ => careful_done _
    · intro secretKey
      apply carefulWith_signedString
      intro signed
      split <;> exact carefulWith_done _

theorem careful_authMiddleware (now : Time) (getConfigFails : Bool) (authorization : Bytes) :
    Careful overwrites (authMiddleware now getConfigFails authorization) := by
  unfold authMiddleware
  dsimp only
  split
  · exact careful_done _
  · apply careful_readSecret
    · exact fun _ => careful_done _
    · intro secretKey
      apply carefulWith_parseJwtToken
      intro parsed
      split <;> exact carefulWith_done _

omit [GoFloat F] in
theorem careful_authenticate (P : Platform) (env : LoginEnv) (client : Client F) (token : Bytes) :
    Careful overwrites (authenticate P env client token) := by
  unfold authenticate
  split
  · apply careful_readSecret
    · exact fun _ => careful_done _
    · intro secretKey
      apply carefulWith_parseJwtToken
      intro parsed
      split <;> exact carefulWith_done _
  · apply careful_getUserByCID
    intro answer
    split <;> exact careful_done _

theorem careful_login (P : Platform) (env : LoginEnv) (idLine addLine : Option Bytes) :
    Careful overwrites (login P env idLine addLine : Flow (LoginResult (Client F))) := by
  unfold login
  split
  · exact careful_done _
  · split
    · exact careful_done _
    · unfold attemptAuthentication
      split
      · exact careful_done _
      · apply (careful_authenticate P env _ _).bind
        intro outcome
        split <;> exact careful_done _

theorem careful_writeDefaults (env : InitEnv) (call : Nat) (pairs : List (Bytes × Bytes)) :
    Careful overwrites (writeDefaults env call pairs) := by
  induction pairs generalizing call with
  | nil => exact careful_done _
  | cons pair rest inductionHypothesis =>
      apply careful_setConfigIfNotExists
      intro answer
      cases answer with
      | error reason => exact careful_done _
      | ok _ => exact inductionHypothesis (call + 1)

theorem careful_serving {X : Type} {flow : Flow X} (careful : Careful overwrites flow) :
    Careful overwrites (serving flow) :=
  careful.bind fun _ => careful_done _

end Careful

theorem careful_program (request : TokenRequest) :
    Careful request.overwrites (program F P request) := by
  cases request with
  | login env body => exact careful_serving (careful_getAccessRefreshTokens P env body)
  | refresh env body => exact careful_serving (careful_refreshAccessToken env body)
  | fsdJwt env body => exact careful_serving (careful_getFsdJwt env body)
  | createToken env authorization body =>
      apply careful_serving
      apply careful_withBearer
      exact fun claims => careful_handleCreateNewAPIToken env claims body
  | internalCall env newRequestFails =>
      exact careful_serving (careful_makeFsdHttpServiceHttpRequest env newRequestFails)
  | kickUser env call authorization body =>
      apply (careful_jwtBearerMiddleware env authorization).bind
      intro outcome
      cases outcome with
      | error response => exact careful_done _
      | ok claims =>
          show Careful false (handleKickActiveConnection env call claims body)
          unfold handleKickActiveConnection
          split
          · exact careful_done _
          · split
            · exact careful_done _
            · split
              · exact careful_done _
              · exact careful_serving (careful_makeFsdHttpServiceHttpRequest env _)
  | bearer env authorization =>
      exact careful_serving (careful_jwtBearerMiddleware env authorization)
  | updateConfig env authorization body =>
      apply careful_serving
      apply careful_withBearer
      exact fun claims => careful_handleUpdateConfig env claims body
  | resetSecretKey env authorization =>
      apply careful_serving
      apply careful_withBearer
      exact fun claims => careful_handleResetSecretKey env claims
  | service now getConfigFails authorization =>
      exact careful_serving (careful_authMiddleware now getConfigFails authorization)
  | connect env idLine addLine => exact careful_serving (careful_login P env idLine addLine)
  | initDefaultConfig env =>
      refine Careful.bind ?_ fun _ => careful_done _
      unfold initDefaultConfig
      split
      · exact careful_done _
      · exact careful_writeDefaults env 0 _

end Steps
end Web
end OpenFsd
