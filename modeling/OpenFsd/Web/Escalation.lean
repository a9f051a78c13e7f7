import OpenFsd.Web.Deployment

namespace OpenFsd
namespace Web

open Db Fsd Transition

/-!
# Ratings that nobody may exceed

Fix a rating.  Parties that only know the passwords of users up to this rating
start without a token.  The invariant is that every access or refresh token
they are issued carries at most this rating, and is for a user whose stored
rating is at most this rating; then every claim that passes the middleware is
bounded as well.

`createUser` compares the new rating with the rating of the bearer, but
`updateUser` compares only the old one.  The runs are therefore those without
an `Escalation`, an update that raises a user beyond the bound.
-/

/-- The stored rating of a user, if there is one, is at most this rating. -/
def BoundedUser (limit : NetworkRating) (users : UserTable) (cid : Int) : Prop :=
  forall row, users.rows.lookup cid = some row -> row.networkRating ≤ limit

/-- A token that gives access to the API, now or after a refresh. -/
def ApiToken (P : Platform) (raw : Bytes) (claims : CustomClaims) : Prop :=
  P.payload raw = some claims ∧
    (claims.tokenType = bytes "access" ∨ claims.tokenType = bytes "refresh")

/-- The parties behind a request: they know the passwords of bounded users
only, and every token of theirs that verifies was issued to them. -/
structure BoundedParty (P : Platform) (limit : NetworkRating) (database : Database)
    (issued : List Bytes) (request : Request) : Prop where
  unforged : forall raw, raw ∈ request.tokens -> Verifies P database raw -> raw ∈ issued
  password : forall body row, request = .login (some body) ->
    database.users.rows.lookup body.cid = some row ->
    verifyPasswordHash P body.password row.password = true -> row.networkRating ≤ limit

/-- An update that will raise a user from at most the bound to beyond it. -/
structure Escalation (P : Platform) (limit : NetworkRating) (env : Env) (database : Database)
    (authorization : Bytes) (reqBody : UpdateUserBody) (claims : CustomClaims) (row : UserRow)
    (networkRating : NetworkRating) : Prop where
  passed : jwtBearerMiddleware P env database authorization = .ok claims
  supervisor : NetworkRatingSupervisor ≤ claims.networkRating
  accepted : reqBody.accepted P = true
  readable : env.getUserFails = false
  found : database.users.rows.lookup reqBody.cid = some row
  notHigher : row.networkRating ≤ claims.networkRating
  bounded : row.networkRating ≤ limit
  named : reqBody.networkRating = some networkRating
  raises : limit < networkRating
  writable : env.updateUserFails = false
  hashable : Database.Hashable P env.salt (reqBody.password.getD row.password)

/-- The request is no escalation. -/
def NoEscalation (P : Platform) (limit : NetworkRating) (env : Env) (database : Database)
    (request : Request) : Prop :=
  forall authorization reqBody claims row networkRating,
    request = .updateUser authorization (some reqBody) ->
      ¬ Escalation P limit env database authorization reqBody claims row networkRating

/-- The parties behind a move are bounded. -/
def BoundedMove {F : Type} (P : Platform) (limit : NetworkRating) (state : Deployment F) :
    Move -> Prop
  | .api _ request => BoundedParty P limit state.database state.issued request
  | .connect _ _ _ => True

/-- The move is no escalation. -/
def PeacefulMove {F : Type} (P : Platform) (limit : NetworkRating) (state : Deployment F) :
    Move -> Prop
  | .api env request => NoEscalation P limit env state.database request
  | .connect _ _ _ => True

/-- What a move must not do: raise a user beyond the bound, or issue a token
beyond it. -/
structure StaysBounded {F : Type} (P : Platform) (limit : NetworkRating)
    (before after : Deployment F) : Prop where
  users : forall cid, BoundedUser limit before.database.users cid ->
    BoundedUser limit after.database.users cid
  issued : Exists fun fresh => after.issued = before.issued ++ fresh ∧
    forall raw claims, raw ∈ fresh -> ApiToken P raw claims -> claims.networkRating ≤ limit

/-- The invariant: every token issued so far is bounded, and so is its user. -/
def BoundedTokens {F : Type} (P : Platform) (limit : NetworkRating) (state : Deployment F) : Prop :=
  forall raw claims, raw ∈ state.issued -> ApiToken P raw claims ->
    claims.networkRating ≤ limit ∧ BoundedUser limit state.database.users claims.cid

variable {P : Platform} {limit : NetworkRating} {env : Env} {request : Request}

/-! ## One request -/

section Request

variable {database : Database} {issued : List Bytes}

/-- Under the invariant, whoever presents a token is bounded. -/
theorem presented_bounded (party : BoundedParty P limit database issued request)
    (tokens : forall raw claims, raw ∈ issued -> ApiToken P raw claims ->
      claims.networkRating ≤ limit ∧ BoundedUser limit database.users claims.cid)
    {raw tokenType : Bytes} {claims : CustomClaims} (member : raw ∈ request.tokens)
    (presented : Presented P database raw tokenType claims)
    (api : tokenType = bytes "access" ∨ tokenType = bytes "refresh") :
    claims.networkRating ≤ limit ∧ BoundedUser limit database.users claims.cid := by
  have known := party.unforged raw member presented.verified
  have token : ApiToken P raw claims := by
    refine ⟨presented.payload, ?_⟩
    rw [presented.tokenType]
    exact api
  exact tokens raw claims known token

/-- A request that is no escalation keeps every bounded user bounded. -/
theorem users_bounded (party : BoundedParty P limit database issued request)
    (noEscalation : NoEscalation P limit env database request)
    (tokens : forall raw claims, raw ∈ issued -> ApiToken P raw claims ->
      claims.networkRating ≤ limit ∧ BoundedUser limit database.users claims.cid)
    (driver : Driver) (cid : Int) (bounded : BoundedUser limit database.users cid) :
    BoundedUser limit (serve driver P env database request).2.users cid := by
  have written := writtenBy_serve driver P env database request
  generalize (serve driver P env database request).2 = after at written
  cases written with
  | unchanged _ same =>
      rw [same]
      exact bounded
  | updated authorization body claims reqBody row passed updated =>
      rcases updated.stored with ⟨column, stored, _⟩
      intro changed found
      rw [stored] at found
      by_cases own : cid = reqBody.cid
      · rw [if_pos own] at found
        subst own
        have oldRating := bounded row updated.found
        rw [← Option.some.inj found]
        show reqBody.networkRating.getD row.networkRating ≤ limit
        cases named : reqBody.networkRating with
        | none => exact oldRating
        | some networkRating =>
            apply Int.not_lt.mp
            intro raises
            exact noEscalation authorization reqBody claims row networkRating
              (by rw [updated.body]) {
                passed := passed
                supervisor := updated.supervisor
                accepted := updated.accepted
                readable := updated.readable
                found := updated.found
                notHigher := updated.notHigher
                bounded := oldRating
                named := named
                raises := raises
                writable := Database.updateUser_writable updated.written
                hashable := Database.updateUser_hashable updated.written }
      · rw [if_neg own] at found
        exact bounded changed found
  | created authorization body claims reqBody passed created =>
      rcases created.stored with ⟨column, stored⟩
      have bearer := presented_bounded party tokens List.mem_cons_self
        (presented_of_middleware passed) (Or.inl rfl)
      intro row found
      rw [stored, UserTable.lookup_insertRow] at found
      by_cases own : cid = database.users.nextCid
      · rw [if_pos own] at found
        rw [← Option.some.inj found]
        exact Int.le_trans created.notHigher bearer.1
      · rw [if_neg own] at found
        exact bounded row found

/-- The tokens of a response are bounded, and so are their users. -/
theorem issued_bounded (faithful : P.FaithfulTokens)
    (party : BoundedParty P limit database issued request)
    (tokens : forall raw claims, raw ∈ issued -> ApiToken P raw claims ->
      claims.networkRating ≤ limit ∧ BoundedUser limit database.users claims.cid)
    {driver : Driver} {raw : Bytes} {claims : CustomClaims}
    (member : raw ∈ (serve driver P env database request).1.issued)
    (token : ApiToken P raw claims) :
    claims.networkRating ≤ limit ∧ BoundedUser limit database.users claims.cid := by
  have same : forall {tokenType cid networkRating}, Carries P raw tokenType cid networkRating ->
      claims.tokenType = tokenType ∧ claims.cid = cid ∧ claims.networkRating = networkRating := by
    intro tokenType cid networkRating carries
    rcases carries with ⟨carried, payload, typed, sameCid, sameRating⟩
    rw [Option.some.inj (token.1.symm.trans payload)]
    exact ⟨typed, sameCid, sameRating⟩
  have boundedRow : forall {cid row}, database.users.rows.lookup cid = some row ->
      row.networkRating ≤ limit -> BoundedUser limit database.users cid := by
    intro cid row found rating other otherFound
    rw [← Option.some.inj (found.symm.trans otherFound)]
    exact rating
  cases issuedBy_of_mem faithful member with
  | login body row tokenType found verified carries =>
      rcases same carries with ⟨_, sameCid, sameRating⟩
      have rating := party.password body row rfl found verified
      rw [sameCid, sameRating]
      exact ⟨rating, boundedRow found rating⟩
  | refresh presentedToken presentedClaims row presented found carries =>
      rcases same carries with ⟨_, sameCid, sameRating⟩
      have bearer := presented_bounded party tokens List.mem_cons_self presented (Or.inr rfl)
      rw [sameCid, sameRating]
      exact ⟨bearer.2 row found, bearer.2⟩
  | fsdJwt body row accepted numeric positive readable found active signed =>
      rcases same (signed.carries faithful) with ⟨typed, _, _⟩
      rcases token.2 with access | refresh
      · rw [access] at typed
        exact absurd typed (by decide)
      · rw [refresh] at typed
        exact absurd typed (by decide)
  | createToken authorization body bearerClaims passed administrator carries =>
      rcases same carries with ⟨_, sameCid, sameRating⟩
      have bearer := presented_bounded party tokens List.mem_cons_self
        (presented_of_middleware passed) (Or.inl rfl)
      rw [sameCid, sameRating]
      exact ⟨Int.le_trans administrator bearer.1, bearer.2⟩

end Request

/-! ## Whole runs -/

section Runs

variable {F : Type} [GoFloat F] {driver : Driver}

/-- One move keeps the bound and the invariant. -/
theorem move_bounded (faithful : P.FaithfulTokens) {state next : Deployment F} {move : Move}
    (taken : Deployment.step driver P state move = some next)
    (allowed : BoundedMove P limit state move ∧ PeacefulMove P limit state move)
    (tokens : BoundedTokens P limit state) :
    StaysBounded P limit state next ∧ BoundedTokens P limit next := by
  cases move with
  | connect env idLine addLine =>
      rcases Option.map_eq_some_iff.mp taken with ⟨fsd, _, same⟩
      rw [← same]
      refine ⟨?_, tokens⟩
      constructor
      · exact fun _ bounded => bounded
      · exact ⟨[], (List.append_nil _).symm, fun _ _ member => absurd member List.not_mem_nil⟩
  | api env request =>
      rcases allowed with ⟨party, noEscalation⟩
      rw [← Option.some.inj taken]
      have users : forall cid, BoundedUser limit state.database.users cid ->
          BoundedUser limit (serve driver P env state.database request).2.users cid :=
        users_bounded party noEscalation tokens driver
      have fresh : forall raw claims, raw ∈ (serve driver P env state.database request).1.issued ->
          ApiToken P raw claims ->
          claims.networkRating ≤ limit ∧ BoundedUser limit state.database.users claims.cid :=
        fun _ _ member token => issued_bounded faithful party tokens member token
      constructor
      · constructor
        · exact users
        · exact ⟨_, rfl, fun raw claims member token => (fresh raw claims member token).1⟩
      · intro raw claims member token
        rcases List.mem_append.mp member with old | new
        · have before := tokens raw claims old token
          exact ⟨before.1, users claims.cid before.2⟩
        · have before := fresh raw claims new token
          exact ⟨before.1, users claims.cid before.2⟩

/-- An escalation does what it says. -/
theorem escalation_raises {database : Database} {authorization : Bytes} {reqBody : UpdateUserBody}
    {claims : CustomClaims} {row : UserRow} {networkRating : NetworkRating} (driver : Driver)
    (escalation : Escalation P limit env database authorization reqBody claims row networkRating) :
    Exists fun changed =>
      (serve driver P env database (.updateUser authorization (some reqBody))).2.users.rows.lookup
        reqBody.cid = some changed ∧ limit < changed.networkRating := by
  have read : database.getUserByCID env.getUserFails reqBody.cid =
      .ok (userOf reqBody.cid row) := by
    unfold Database.getUserByCID
    rw [escalation.readable, escalation.found]
    rfl
  have bound : bindBody (some reqBody) (UpdateUserBody.accepted P) = some reqBody := by
    unfold bindBody
    exact if_pos escalation.accepted
  have notHigher : ¬ claims.networkRating < (userOf reqBody.cid row).networkRating :=
    Int.not_lt.mpr escalation.notHigher
  have writes : Exists fun written => database.updateUser P false env.salt
      (applyUpdate reqBody (userOf reqBody.cid row)) = .ok written :=
    Database.updateUser_of_hashable escalation.found escalation.hashable
  rcases writes with ⟨written, done⟩
  have served : (serve driver P env database (.updateUser authorization (some reqBody))).2 =
      written := by
    unfold serve withBearer
    simp only [escalation.passed]
    unfold updateUser
    rw [if_neg (Int.not_lt.mpr escalation.supervisor), bound]
    simp only [read]
    rw [if_neg notHigher, escalation.writable, done]
  rcases Database.updateUser_eq_ok done with ⟨_, column, _, _, stored, _⟩
  refine ⟨_, (congrArg (fun after => after.users.rows.lookup reqBody.cid) served).trans
    ((stored reqBody.cid).trans (if_pos rfl)), ?_⟩
  show limit < reqBody.networkRating.getD row.networkRating
  rw [escalation.named]
  exact escalation.raises

/-- A move that stays bounded is no escalation. -/
theorem peaceful_of_staysBounded {state : Deployment F} {move : Move}
    (stays : forall next, Deployment.step driver P state move = some next ->
      StaysBounded P limit state next) : PeacefulMove P limit state move := by
  cases move with
  | connect env idLine addLine => exact True.intro
  | api env request =>
      intro authorization reqBody claims row networkRating isUpdate escalation
      subst isUpdate
      rcases escalation_raises driver escalation with ⟨changed, found, raised⟩
      have before : BoundedUser limit state.database.users reqBody.cid := by
        intro other otherFound
        rw [← Option.some.inj (escalation.found.symm.trans otherFound)]
        exact escalation.bounded
      have after := (stays _ rfl).users reqBody.cid before changed found
      exact absurd raised (Int.not_lt.mpr after)

/-- In every run of bounded parties: no request raises a user beyond the bound
or issues a token beyond it, if and only if no request is an escalation. -/
theorem run_stays_bounded_iff (faithful : P.FaithfulTokens) {start : Deployment F}
    {moves : List Move} (noTokens : start.issued = [])
    (parties : Along (Deployment.step driver P) (BoundedMove P limit) start moves) :
    Along (Deployment.step driver P)
        (fun state move => forall next, Deployment.step driver P state move = some next ->
          StaysBounded P limit state next) start moves ↔
      Along (Deployment.step driver P) (PeacefulMove P limit) start moves := by
  constructor
  · intro stays
    exact stays.mono fun _ _ bounded => peaceful_of_staysBounded bounded
  · intro peaceful
    have initially : BoundedTokens P limit start := by
      intro raw claims member
      rw [noTokens] at member
      cases member
    exact along_of_invariant
      (fun _ _ _ taken bounded tokens => (move_bounded faithful taken bounded tokens).2)
      (fun _ _ _ taken bounded tokens => (move_bounded faithful taken bounded tokens).1)
      initially (parties.and peaceful)

end Runs

/-! ## A supervisor who becomes an administrator -/

/-- One user, a supervisor, and nobody connected. -/
def supervisorStart {F : Type} [GoFloat F] : Deployment F where
  database := { Symbolic.database with
    users := Symbolic.userTable (Symbolic.userRow (bytes "secret") 11) }
  issued := []
  fsd := System.start fun _ => newClient [] sampleData

def supervisorLogin : Request := .login (some ⟨1, bytes "secret", false⟩)

/-- The access token of that login. -/
def supervisorAccess : Bytes :=
  Symbolic.signedString {
    issuer := jwtIssuer
    expiresAt := some 900
    notBefore := some (-30)
    issuedAt := some 0
    jti := []
    tokenType := bytes "access"
    cid := 1
    firstName := []
    lastName := []
    networkRating := 11 } (bytes "key")

/-- The supervisor gives itself a rating, and keeps the password. -/
def supervisorUpdate (networkRating : NetworkRating) : Request :=
  .updateUser (bytes "Bearer " ++ supervisorAccess)
    (some ⟨1, some [], none, none, some networkRating⟩)

def supervisorMoves (networkRating : NetworkRating) : List Move :=
  [.api sampleEnv supervisorLogin, .api sampleEnv (supervisorUpdate networkRating)]

theorem supervisor_bounded {F : Type} [GoFloat F] (networkRating : NetworkRating) :
    Along (Deployment.step .sqlite Symbolic.platform) (BoundedMove Symbolic.platform 11)
      (supervisorStart : Deployment F) (supervisorMoves networkRating) := by
  have known : supervisorAccess ∈ (serve .sqlite Symbolic.platform sampleEnv
      (supervisorStart : Deployment F).database supervisorLogin).1.issued := by
    show supervisorAccess ∈ (serve .sqlite Symbolic.platform sampleEnv
      (supervisorStart : Deployment Real).database supervisorLogin).1.issued
    decide +kernel
  constructor
  · constructor
    · intro raw member
      cases member
    · intro body row _ found _
      rw [(Symbolic.lookup_userTable found).2]
      exact Int.le_refl 11
  · intro next taken
    rw [← Option.some.inj taken]
    constructor
    · constructor
      · intro raw member _
        rw [List.mem_singleton.mp member]
        exact List.mem_append_right _ known
      · intro body row isLogin
        cases isLogin
    · intro last _
      exact True.intro

theorem run_stays_bounded_supervisor :
    Along (Deployment.step .sqlite Symbolic.platform)
        (fun (state : Deployment Real) move => forall next,
          Deployment.step .sqlite Symbolic.platform state move = some next ->
            StaysBounded Symbolic.platform 11 state next) supervisorStart (supervisorMoves 11) ↔
      Along (Deployment.step .sqlite Symbolic.platform) (PeacefulMove Symbolic.platform 11)
        (supervisorStart : Deployment Real) (supervisorMoves 11) :=
  run_stays_bounded_iff Symbolic.platform_faithfulTokens rfl (supervisor_bounded 11)

/-- A login leaves the users alone, so what follows it starts from them. -/
theorem users_bounded_after_login {F : Type} [GoFloat F] {driver : Driver} {P : Platform}
    {limit : NetworkRating} {start : Deployment F} {first second : Env} {body : Option LoginBody}
    {request : Request}
    (stays : Along (Deployment.step driver P)
      (fun state move => forall next, Deployment.step driver P state move = some next ->
        StaysBounded P limit state next) start
      [.api first (.login body), .api second request]) (cid : Int)
    (bounded : BoundedUser limit start.database.users cid) :
    BoundedUser limit (serve driver P second start.database request).2.users cid := by
  have later := stays.2 _ (Deployment.step_login driver P start first body)
  exact (later.1 _ (Deployment.step_api driver P _ second request)).users cid bounded

/-- Knowing one supervisor's password is enough to become an administrator. -/
theorem supervisor_escalates :
    Along (Deployment.step .sqlite Symbolic.platform) (BoundedMove Symbolic.platform 11)
        (supervisorStart : Deployment Real) (supervisorMoves 12) ∧
      ¬ Along (Deployment.step .sqlite Symbolic.platform)
        (fun (state : Deployment Real) move => forall next,
          Deployment.step .sqlite Symbolic.platform state move = some next ->
            StaysBounded Symbolic.platform 11 state next) supervisorStart (supervisorMoves 12) := by
  refine ⟨supervisor_bounded 12, ?_⟩
  intro stays
  have users := users_bounded_after_login stays
  have before : BoundedUser 11 (supervisorStart : Deployment Real).database.users 1 := by
    intro row found
    rw [(Symbolic.lookup_userTable found).2]
    exact Int.le_refl 11
  have raised : (serve .sqlite Symbolic.platform sampleEnv
      (supervisorStart : Deployment Real).database (supervisorUpdate 12)).2.users.rows.lookup 1 =
        some ⟨pack [[], bytes "secret"], none, none, 12⟩ := by
    decide +kernel
  have after := users 1 before _ raised
  exact absurd after (by decide)

end Web
end OpenFsd
