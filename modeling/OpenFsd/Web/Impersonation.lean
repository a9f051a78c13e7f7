import OpenFsd.Web.Deployment

namespace OpenFsd
namespace Web

open Db Fsd Transition

/-!
# Tokens and sessions in another user's name

Fix a CID.  Outsiders never present a password that verifies for it, nor a
token that carries it.  Three of the four ways into the deployment then give
them nothing in its name: the login, the refresh, and both branches of the FSD
login.  The fourth, `getFsdJwt`, binds a password and never looks at it.

The main result is an equivalence: a run of outsiders stays without tokens and
sessions for the CID exactly if none of its moves is an `UncheckedToken`.
-/

/-- The party behind a move knows no password of the user, and every token
that it presents was issued before, to somebody else. -/
def OutsiderMove {F : Type} (P : Platform) (cid : Int) (state : Deployment F) : Move -> Prop
  | .api _ request =>
      ((Exists fun body => request = .login body) ∨ (Exists fun body => request = .refresh body) ∨
        (Exists fun body => request = .fsdJwt body)) ∧
      (forall raw, raw ∈ request.tokens -> Verifies P state.database raw ->
        raw ∈ state.issued ∧ ¬ P.CarriesCid raw cid) ∧
      (forall body row, request = .login (some body) -> body.cid = cid ->
        state.database.users.rows.lookup cid = some row ->
        verifyPasswordHash P body.password row.password = false)
  | .connect env idLine addLine =>
      forall data token, readLoginPackets env.now idLine addLine = .ok (data, token) ->
        (Verifies P state.database token -> token ∈ state.issued ∧ ¬ P.CarriesCid token cid) ∧
        (data.cid = cid -> forall row, state.database.users.rows.lookup cid = some row ->
          verifyPasswordHash P token row.password = false)

/-- A request to `/fsd-jwt` that names the CID, and that is answered with a
token although no password has been verified. -/
structure UncheckedToken (P : Platform) (cid : Int) (env : Env) (database : Database)
    (body : FsdJwtBody) (row : UserRow) (raw : Bytes) : Prop where
  accepted : body.accepted = true
  numeric : atoi body.cid = ⟨cid, none⟩
  positive : 1 ≤ cid
  readable : env.getUserFails = false
  found : database.users.rows.lookup cid = some row
  active : NetworkRatingSuspended < row.networkRating
  signed : FsdSigned P env database (userOf cid row) raw

/-- The move is no such request. -/
def CheckedMove {F : Type} (P : Platform) (cid : Int) (state : Deployment F) : Move -> Prop
  | .api env request => forall body row raw, request = .fsdJwt (some body) ->
      ¬ UncheckedToken P cid env state.database body row raw
  | .connect _ _ _ => True

/-- A move brings no token and no session for the CID into the world. -/
structure NoImpersonation {F : Type} (P : Platform) (cid : Int) (before after : Deployment F) :
    Prop where
  issued : Exists fun fresh => after.issued = before.issued ++ fresh ∧
    forall raw, raw ∈ fresh -> ¬ P.CarriesCid raw cid
  sessions : forall id, after.fsd.server.Registered id -> (after.fsd.server.clients id).cid = cid ->
    before.fsd.server.Registered id ∧ (before.fsd.server.clients id).cid = cid

variable {P : Platform} {cid : Int}

theorem Carries.cid_eq {raw tokenType : Bytes} {owner : Int} {networkRating : NetworkRating}
    (carries : Carries P raw tokenType owner networkRating) (named : P.CarriesCid raw cid) :
    owner = cid := by
  rcases carries with ⟨carried, payload, _, sameCid, _⟩
  rcases named with ⟨claims, samePayload, isCid⟩
  rw [Option.some.inj (payload.symm.trans samePayload)] at sameCid
  exact sameCid.symm.trans isCid

/-! ## One move -/

section Moves

variable {F : Type} {driver : Driver} {state : Deployment F}

/-- An outsider is issued no token for the CID by a checked request. -/
theorem not_carriesCid_of_mem (faithful : P.FaithfulTokens) {env : Env} {request : Request}
    (outsider : OutsiderMove P cid state (.api env request))
    (checked : CheckedMove P cid state (.api env request)) {raw : Bytes}
    (member : raw ∈ (serve driver P env state.database request).1.issued) :
    ¬ P.CarriesCid raw cid := by
  rcases outsider with ⟨endpoint, tokens, password⟩
  intro named
  cases issuedBy_of_mem faithful member with
  | login body row tokenType found verified carries =>
      have own := carries.cid_eq named
      rw [own] at found
      have refused := password body row rfl own found
      rw [verified] at refused
      cases refused
  | refresh token claims row presented found carries =>
      have own := carries.cid_eq named
      have foreign := (tokens token List.mem_cons_self presented.verified).2
      exact foreign ⟨claims, presented.payload, own⟩
  | fsdJwt body row accepted numeric positive readable found active signed =>
      have own : (atoi body.cid).value = cid := (signed.carries faithful).cid_eq named
      subst own
      have parsed : atoi body.cid = ⟨(atoi body.cid).value, none⟩ := by
        rw [← numeric]
      exact checked body row raw rfl {
        accepted := accepted
        numeric := parsed
        positive := positive
        readable := readable
        found := found
        active := active
        signed := signed }
  | createToken authorization body claims passed administrator carries =>
      rcases endpoint with ⟨_, impossible⟩ | ⟨_, impossible⟩ | ⟨_, impossible⟩
      · cases impossible
      · cases impossible
      · cases impossible

/-- A registration of somebody else brings no session for the CID. -/
theorem sessions_of_registeredAs {s next : Server F} {id : SessionId} {client : Client F}
    (registeredAs : Server.RegisteredAs s next id client) (foreign : client.cid ≠ cid)
    {other : SessionId} (registered : next.Registered other)
    (own : (next.clients other).cid = cid) :
    s.Registered other ∧ (s.clients other).cid = cid := by
  have different : other ≠ id := by
    intro same
    rw [same, registeredAs.clients, Function.update_self] at own
    exact foreign own
  rw [registeredAs.clients, Function.update_of_ne different] at own
  refine ⟨?_, own⟩
  unfold Server.Registered at registered ⊢
  rw [registeredAs.clients, Function.update_of_ne different, registeredAs.clientMap] at registered
  by_cases same : (s.clients other).callsign = client.callsign
  · rw [same, AList.lookup_insert] at registered
    exact absurd (Option.some.inj registered).symm different
  · rw [AList.lookup_insert_ne same] at registered
    exact registered

variable [GoFloat F]

/-- An outsider logs in to no session for the CID. -/
theorem cid_ne_of_login {env : LoginEnv} {idLine addLine : Option Bytes} {client : Client F}
    (outsider : OutsiderMove P cid state (.connect env idLine addLine))
    (loggedIn : login P env state.database idLine addLine = .ok client) : client.cid ≠ cid := by
  intro own
  rcases login_reads loggedIn with ⟨data, token, read, sameCid, authority⟩
  rcases outsider data token read with ⟨foreign, password⟩
  rw [own] at authority
  cases authority with
  | signed secret claims configured carried verified valid forFsd isCid sameRating =>
      exact (foreign ⟨secret, configured, verified⟩).2 ⟨claims, carried, isCid⟩
  | stored row found verified sameRating =>
      have refused := password (sameCid.trans own) row found
      rw [verified] at refused
      cases refused

/-- A checked move of an outsider gives nothing in the name of the CID. -/
theorem noImpersonation_of_step (faithful : P.FaithfulTokens) {move : Move}
    {next : Deployment F} (taken : Deployment.step driver P state move = some next)
    (outsider : OutsiderMove P cid state move) (checked : CheckedMove P cid state move) :
    NoImpersonation P cid state next := by
  cases move with
  | api env request =>
      rw [← Option.some.inj taken]
      constructor
      · exact ⟨_, rfl, fun raw member => not_carriesCid_of_mem faithful outsider checked member⟩
      · exact fun id registered own => ⟨registered, own⟩
  | connect env idLine addLine =>
      rcases Option.map_eq_some_iff.mp taken with ⟨fsd, stepped, same⟩
      rw [← same]
      constructor
      · exact ⟨[], (List.append_nil _).symm, fun _ member => absurd member List.not_mem_nil⟩
      · intro id registered own
        dsimp only [System.step] at stepped
        cases connected : state.fsd.server.connect P env state.database state.fsd.allocated idLine
            addLine with
        | error sent =>
            simp only [connected] at stepped
            rw [← Option.some.inj stepped] at registered own
            exact ⟨registered, own⟩
        | ok server =>
            simp only [connected] at stepped
            rw [← Option.some.inj stepped] at registered own
            rcases Server.connect_eq_ok connected with ⟨client, loggedIn, registeredAs⟩
            exact sessions_of_registeredAs registeredAs (cid_ne_of_login outsider loggedIn)
              registered own

/-- An unchecked request is answered with a token for the CID. -/
theorem UncheckedToken.mem_issued {env : Env} {database : Database} {body : FsdJwtBody}
    {row : UserRow} {raw : Bytes} (driver : Driver)
    (unchecked : UncheckedToken P cid env database body row raw) :
    raw ∈ (serve driver P env database (.fsdJwt (some body))).1.issued := by
  have bound : bindBody (some body) FsdJwtBody.accepted = some body := by
    unfold bindBody
    exact if_pos unchecked.accepted
  have read : database.getUserByCID env.getUserFails cid = .ok (userOf cid row) := by
    unfold Database.getUserByCID
    rw [unchecked.readable, unchecked.found]
    rfl
  have valid : ¬ ((none : Option NumError).isSome || decide (cid < 1)) = true := by
    have positive := unchecked.positive
    simp only [Option.isSome_none, Bool.false_or, decide_eq_true_eq]
    omega
  have active : ¬ (userOf cid row).networkRating ≤ NetworkRatingSuspended :=
    Int.not_le.mpr unchecked.active
  show raw ∈ (getFsdJwt P env database (some body)).issued
  unfold getFsdJwt
  rw [bound]
  simp only [unchecked.numeric]
  rw [if_neg valid, read]
  dsimp only
  rw [if_neg active]
  exact mem_issued_makeFsdToken.mpr unchecked.signed

theorem UncheckedToken.carriesCid (faithful : P.FaithfulTokens) {env : Env} {database : Database}
    {body : FsdJwtBody} {row : UserRow} {raw : Bytes}
    (unchecked : UncheckedToken P cid env database body row raw) : P.CarriesCid raw cid := by
  rcases unchecked.signed.carries faithful with ⟨carried, payload, _, sameCid, _⟩
  exact ⟨carried, payload, sameCid⟩

/-- A move that impersonates nobody is checked. -/
theorem checked_of_noImpersonation (faithful : P.FaithfulTokens) {move : Move}
    (none : forall next, Deployment.step driver P state move = some next ->
      NoImpersonation P cid state next) : CheckedMove P cid state move := by
  cases move with
  | connect env idLine addLine => exact True.intro
  | api env request =>
      intro body row raw isFsdJwt unchecked
      subst isFsdJwt
      rcases (none _ (Deployment.step_api driver P state env _)).issued with ⟨fresh, same, foreign⟩
      have issued := unchecked.mem_issued driver
      rw [List.append_cancel_left same] at issued
      exact foreign raw issued (unchecked.carriesCid faithful)

/-! ## Whole runs -/

/-- In every run of outsiders: no token that carries the CID is issued and no
session for it is registered, if and only if no request is answered with an
FSD token whose password has not been verified. -/
theorem run_noImpersonation_iff (faithful : P.FaithfulTokens) {start : Deployment F}
    {moves : List Move}
    (outsiders : Along (Deployment.step driver P) (OutsiderMove P cid) start moves) :
    Along (Deployment.step driver P)
        (fun current move => forall next, Deployment.step driver P current move = some next ->
          NoImpersonation P cid current next) start moves ↔
      Along (Deployment.step driver P) (CheckedMove P cid) start moves := by
  constructor
  · intro none
    exact none.mono fun _ _ without => checked_of_noImpersonation faithful without
  · intro checked
    exact (outsiders.and checked).mono fun _ _ both _ taken =>
      noImpersonation_of_step faithful taken both.1 both.2

end Moves

/-! ## A token for the asking -/

def strangerStart {F : Type} [GoFloat F] : Deployment F where
  database := Symbolic.database
  issued := []
  fsd := System.start fun _ => newClient [] sampleData

/-- A request for an FSD token with a password that does not verify. -/
def strangerBody : FsdJwtBody :=
  ⟨bytes "1", bytes "wrong"⟩

def strangerMoves : List Move :=
  [.api sampleEnv (.fsdJwt (some strangerBody))]

theorem stranger_outsider {F : Type} [GoFloat F] :
    Along (Deployment.step .sqlite Symbolic.platform) (OutsiderMove Symbolic.platform 1)
      (strangerStart : Deployment F) strangerMoves := by
  constructor
  · refine ⟨Or.inr (Or.inr ⟨_, rfl⟩), ?_, ?_⟩
    · intro raw member
      cases member
    · intro body row isLogin
      cases isLogin
  · intro next _
    exact True.intro

theorem run_noImpersonation_stranger :
    Along (Deployment.step .sqlite Symbolic.platform)
        (fun (current : Deployment Real) move => forall next,
          Deployment.step .sqlite Symbolic.platform current move = some next ->
            NoImpersonation Symbolic.platform 1 current next) strangerStart strangerMoves ↔
      Along (Deployment.step .sqlite Symbolic.platform) (CheckedMove Symbolic.platform 1)
        (strangerStart : Deployment Real) strangerMoves :=
  run_noImpersonation_iff Symbolic.platform_faithfulTokens stranger_outsider

theorem strangerBody_unchecked : Exists fun raw =>
    UncheckedToken Symbolic.platform 1 sampleEnv Symbolic.database strangerBody
      (Symbolic.userRow (bytes "secret") 12) raw := by
  refine ⟨_, {
    accepted := by decide
    numeric := by decide
    positive := by decide
    readable := rfl
    found := rfl
    active := by decide
    signed := ⟨_, _, rfl, rfl, rfl⟩ }⟩

/-- A wrong password is enough for an FSD token in the administrator's name. -/
theorem stranger_impersonates :
    Along (Deployment.step .sqlite Symbolic.platform) (OutsiderMove Symbolic.platform 1)
        (strangerStart : Deployment Real) strangerMoves ∧
      verifyPasswordHash Symbolic.platform strangerBody.password
        (Symbolic.userRow (bytes "secret") 12).password = false ∧
      ¬ Along (Deployment.step .sqlite Symbolic.platform)
        (fun (current : Deployment Real) move => forall next,
          Deployment.step .sqlite Symbolic.platform current move = some next ->
            NoImpersonation Symbolic.platform 1 current next) strangerStart strangerMoves := by
  refine ⟨stranger_outsider, by decide +kernel, ?_⟩
  intro none
  rcases strangerBody_unchecked with ⟨raw, unchecked⟩
  have checked := checked_of_noImpersonation Symbolic.platform_faithfulTokens none.1
  exact checked strangerBody _ raw rfl unchecked

end Web
end OpenFsd
