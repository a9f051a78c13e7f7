import OpenFsd.Db.Backends
import OpenFsd.Web.Browser
import OpenFsd.Web.Documents
import OpenFsd.Web.Steps
import OpenFsd.Web.Success

namespace OpenFsd
namespace Web

open Db Fsd Transition

/-!
# Starts of the FSD server

`NewDefaultServer` brings the database up: it creates an administrator if nobody
has CID 1, prints the password, and writes the default configuration.  A start
may fail half way, the server is started again and again, and the API serves
requests in between.

On SQLite the administrator is created once, and a start that has succeeded makes
all later ones leave the database alone.  On Postgres no start ever succeeds on an
empty database.  Opening the database and the migrations are left out.
-/

/-- What a start meets outside the program. -/
structure StartEnv where
  getUserFails : Bool
  /-- The eight random bytes of the password. -/
  passwordBuf : Option (List.Vector UInt8 8)
  salt : Bytes
  createUserFails : Bool
  init : InitEnv

def generateDefaultAdminUser (driver : Driver) (P : Platform) (env : StartEnv)
    (database : Database) : Except DbError (User × Database) :=
  match env.passwordBuf with
  | none => .error .failed
  | some passwordBuf =>
      driver.createUser P database env.createUserFails env.salt
        ⟨0, hexEncode passwordBuf.toList, some (bytes "Default Administrator"), none,
          NetworkRatingAdministator⟩

/-- The loop of `InitDefaultConfig`, with the database after the writes that
succeeded. -/
def writeDefaults (env : InitEnv) : Nat -> Database -> List (Bytes × Bytes) ->
    Except DbError Unit × Database
  | _, database, [] => (.ok (), database)
  | call, database, (key, value) :: rest =>
      match database.setConfigIfNotExists (env.setConfigFails call) key value with
      | .error reason => (.error reason, database)
      | .ok written => writeDefaults env (call + 1) written rest

def initDefaultConfig (env : InitEnv) (database : Database) : Except DbError Unit × Database :=
  match env.secretKey with
  | none => (.error .failed, database)
  | some secretKey => writeDefaults env 0 database (env.order secretKey)

/-- How a start ends, with the credentials that it has printed. -/
structure Launch where
  printed : Option User
  result : Except DbError Unit
  database : Database

/-- `NewDefaultServer`, from the open database on. -/
def newDefaultServer (driver : Driver) (P : Platform) (env : StartEnv) (database : Database) :
    Launch :=
  match database.getUserByCID env.getUserFails 1 with
  | .error .noRows =>
      match generateDefaultAdminUser driver P env database with
      | .error reason => ⟨none, .error reason, database⟩
      | .ok (user, written) =>
          let (result, after) := initDefaultConfig env.init written
          ⟨some user, result, after⟩
  | .error reason => ⟨none, .error reason, database⟩
  | .ok _ =>
      let (result, after) := initDefaultConfig env.init database
      ⟨none, result, after⟩

/-- A start of the FSD server, or a request to the API. -/
inductive Operation
  | start (env : StartEnv)
  | request (env : Env) (request : Request)

/-- The transition function. -/
def operate (driver : Driver) (P : Platform) (database : Database) : Operation -> Option Database
  | .start env => some (newDefaultServer driver P env database).database
  | .request env request => some (serve driver P env database request).2

/-! ## The loop over the defaults -/

/-- Without interruption, the steps of the initialization are this function. -/
theorem atomically_initDefaultConfig (P : Platform) (env : InitEnv) (database : Database) :
    (Steps.initDefaultConfig env).atomically (Steps.exec P) database =
      initDefaultConfig env database := by
  have loop : forall call pairs (database : Database),
      (Steps.writeDefaults env call pairs).atomically (Steps.exec P) database =
        writeDefaults env call database pairs := by
    intro call pairs
    induction pairs generalizing call with
    | nil => exact fun _ => rfl
    | cons pair rest inductionHypothesis =>
        intro database
        rcases pair with ⟨key, value⟩
        rw [Steps.writeDefaults, writeDefaults, Interleaving.Prog.atomically]
        cases written : database.setConfigIfNotExists (env.setConfigFails call) key value with
        | error reason =>
            simp only [Steps.exec, written]
            rfl
        | ok next =>
            simp only [Steps.exec, written]
            exact inductionHypothesis (call + 1) next
  unfold Steps.initDefaultConfig initDefaultConfig
  cases env.secretKey with
  | none => rfl
  | some secretKey => exact loop 0 (env.order secretKey) database

/-- The users are the same, and no value is lost or overwritten. -/
structure Extends (before after : Database) : Prop where
  users : after.users = before.users
  values : forall key value, before.config.lookup key = some value ->
    after.config.lookup key = some value

theorem Extends.refl (database : Database) : Extends database database :=
  ⟨rfl, fun _ _ found => found⟩

theorem Extends.trans {first second third : Database} (left : Extends first second)
    (right : Extends second third) : Extends first third :=
  ⟨right.users.trans left.users, fun key value found => right.values key value
    (left.values key value found)⟩

theorem extends_setConfigIfNotExists {database written : Database} {fails : Bool}
    {key value : Bytes} (done : database.setConfigIfNotExists fails key value = .ok written) :
    Extends database written := by
  constructor
  · unfold Database.setConfigIfNotExists at done
    split at done
    · cases done
    · split at done
      · rw [← Except.ok.inj done]
      · rw [← Except.ok.inj done]
  · intro other old found
    rw [Database.lookup_setConfigIfNotExists done, found]
    rfl

/-- What the loop leaves behind. -/
structure Defaulted (pairs : List (Bytes × Bytes)) (before after : Database)
    (result : Except DbError Unit) : Prop where
  extends_before : Extends before after
  complete : result = .ok () -> forall pair, pair ∈ pairs ->
    (after.config.lookup pair.1).isSome = true
  unchanged : (forall pair, pair ∈ pairs -> (before.config.lookup pair.1).isSome = true) ->
    after = before

theorem defaulted_writeDefaults (env : InitEnv) (call : Nat) (database : Database)
    (pairs : List (Bytes × Bytes)) :
    Defaulted pairs database (writeDefaults env call database pairs).2
      (writeDefaults env call database pairs).1 := by
  induction pairs generalizing call database with
  | nil =>
      refine ⟨.refl database, ?_, fun _ => rfl⟩
      exact fun _ pair member => absurd member List.not_mem_nil
  | cons pair rest inductionHypothesis =>
      rcases pair with ⟨key, value⟩
      rw [writeDefaults]
      cases written : database.setConfigIfNotExists (env.setConfigFails call) key value with
      | error reason =>
          refine ⟨.refl database, ?_, fun _ => rfl⟩
          intro impossible
          cases impossible
      | ok next =>
          have first := extends_setConfigIfNotExists written
          have later := inductionHypothesis (call + 1) next
          refine ⟨first.trans later.extends_before, ?_, ?_⟩
          · intro done pair member
            rcases List.mem_cons.mp member with rfl | inside
            · have own := Database.lookup_setConfigIfNotExists written key
              rw [if_pos rfl] at own
              have present : (next.config.lookup key).isSome = true := by
                rw [own]
                cases database.config.lookup key <;> rfl
              rcases Option.isSome_iff_exists.mp present with ⟨kept, found⟩
              dsimp only
              rw [later.extends_before.values key kept found]
              rfl
            · exact later.complete done pair inside
          · intro present
            have member : key ∈ database.config :=
              AList.lookup_isSome.mp (present (key, value) List.mem_cons_self)
            have same : next = database := by
              unfold Database.setConfigIfNotExists at written
              rw [if_pos member] at written
              split at written
              · cases written
              · exact (Except.ok.inj written).symm
            dsimp only
            rw [same] at later ⊢
            exact later.unchanged fun pair inside => present pair (List.mem_cons_of_mem _ inside)

/-- The keys of the default configuration. -/
def defaultKeys : List Bytes :=
  (defaultConfig []).map Prod.fst

theorem mem_defaultKeys_iff {env : InitEnv} {secretKey key : Bytes} :
    key ∈ defaultKeys ↔ Exists fun pair => pair ∈ env.order secretKey ∧ pair.1 = key := by
  have same : defaultKeys = (defaultConfig secretKey).map Prod.fst := rfl
  rw [same, ← ((env.complete secretKey).map Prod.fst).mem_iff, List.mem_map]

/-- What `InitDefaultConfig` leaves behind. -/
structure ConfigInitialized (before after : Database) (result : Except DbError Unit) : Prop where
  extends_before : Extends before after
  complete : result = .ok () -> forall key, key ∈ defaultKeys ->
    (after.config.lookup key).isSome = true
  unchanged : (forall key, key ∈ defaultKeys -> (before.config.lookup key).isSome = true) ->
    after = before

theorem configInitialized_initDefaultConfig (env : InitEnv) (database : Database) :
    ConfigInitialized database (initDefaultConfig env database).2
      (initDefaultConfig env database).1 := by
  unfold initDefaultConfig
  cases env.secretKey with
  | none =>
      refine ⟨.refl database, ?_, fun _ => rfl⟩
      intro impossible
      cases impossible
  | some secretKey =>
      have defaulted := defaulted_writeDefaults env 0 database (env.order secretKey)
      refine ⟨defaulted.extends_before, ?_, ?_⟩
      · intro done key member
        rcases mem_defaultKeys_iff.mp member with ⟨pair, listed, same⟩
        rw [← same]
        exact defaulted.complete done pair listed
      · intro present
        apply defaulted.unchanged
        intro pair listed
        exact present pair.1 (mem_defaultKeys_iff.mpr ⟨pair, listed, rfl⟩)

/-! ## One start -/

section OneStart

variable {driver : Driver} {P : Platform} {env : StartEnv} {database : Database}

/-- Somebody has CID 1, and every key of the default configuration has a value. -/
structure Ready (database : Database) : Prop where
  manned : Exists fun row => database.users.rows.lookup 1 = some row
  configured : forall key, key ∈ defaultKeys -> (database.config.lookup key).isSome = true

/-- What a start does: nothing, or the configuration, or an administrator and the
configuration. -/
inductive Launches (driver : Driver) (P : Platform) (env : StartEnv) (database : Database) :
    Launch -> Prop
  | refused (reason : DbError) : Launches driver P env database ⟨none, .error reason, database⟩
  | again (row : UserRow) (found : database.users.rows.lookup 1 = some row) :
      Launches driver P env database
        ⟨none, (initDefaultConfig env.init database).1, (initDefaultConfig env.init database).2⟩
  | first (user : User) (written : Database) (vacant : database.users.rows.lookup 1 = none)
      (created : generateDefaultAdminUser driver P env database = .ok (user, written)) :
      Launches driver P env database ⟨some user, (initDefaultConfig env.init written).1,
        (initDefaultConfig env.init written).2⟩

theorem launches_newDefaultServer (driver : Driver) (P : Platform) (env : StartEnv)
    (database : Database) : Launches driver P env database (newDefaultServer driver P env database) := by
  unfold newDefaultServer
  cases fails : env.getUserFails with
  | true => exact .refused .failed
  | false =>
      cases found : database.users.rows.lookup 1 with
      | none =>
          have read : database.getUserByCID false 1 = .error .noRows := by
            unfold Database.getUserByCID
            rw [found]
            rfl
          rw [read]
          dsimp only
          cases created : generateDefaultAdminUser driver P env database with
          | error reason => exact .refused reason
          | ok outcome =>
              rcases outcome with ⟨user, written⟩
              exact .first user written found created
      | some row =>
          have read : database.getUserByCID false 1 = .ok (userOf 1 row) := by
            unfold Database.getUserByCID
            rw [found]
            rfl
          rw [read]
          exact .again row found

/-- A start leaves a database that is ready as it is. -/
theorem newDefaultServer_of_ready (ready : Ready database) :
    (newDefaultServer driver P env database).database = database ∧
      (newDefaultServer driver P env database).printed = none := by
  have launches := launches_newDefaultServer driver P env database
  generalize newDefaultServer driver P env database = launch at launches
  cases launches with
  | refused reason => exact ⟨rfl, rfl⟩
  | again row found =>
      exact ⟨(configInitialized_initDefaultConfig env.init database).unchanged ready.configured, rfl⟩
  | first user written vacant created =>
      rcases ready.manned with ⟨row, found⟩
      cases vacant.symm.trans found

end OneStart

/-! ## One request -/

section OneRequest

variable {P : Platform} {env : Env} {database : Database}

/-- Every key keeps a value. -/
def KeepsKeys (before after : Database) : Prop :=
  forall key, (before.config.lookup key).isSome = true -> (after.config.lookup key).isSome = true

theorem keepsKeys_setConfig {written : Database} {fails : Bool} {key value : Bytes}
    (done : database.setConfig fails key value = .ok written) : KeepsKeys database written := by
  intro other present
  rw [Database.lookup_setConfig done]
  split
  · rfl
  · exact present

theorem keepsKeys_writeConfig (call : Nat) (pairs : List (Bytes × Bytes)) :
    KeepsKeys database (writeConfig env call database pairs).2 := by
  induction pairs generalizing call database with
  | nil => exact fun _ present => present
  | cons pair rest inductionHypothesis =>
      rcases pair with ⟨key, value⟩
      unfold writeConfig
      cases written : database.setConfig (env.setConfigFails call) key value with
      | error reason => exact fun _ present => present
      | ok next =>
          intro other present
          exact inductionHypothesis (call + 1) other (keepsKeys_setConfig written other present)

/-- No request takes the value of a key away. -/
theorem keepsKeys_serve (driver : Driver) (P : Platform) (env : Env) (database : Database)
    (request : Request) : KeepsKeys database (serve driver P env database request).2 := by
  have behind : forall authorization (handler : CustomClaims -> Response × Database),
      (forall claims, KeepsKeys database (handler claims).2) ->
        KeepsKeys database (withBearer P env database authorization handler).2 := by
    intro authorization handler keeps
    rcases withBearer_cases P env database authorization handler with aborted | ⟨claims, _, same⟩
    · rw [aborted.2]
      exact fun _ present => present
    · rw [same]
      exact keeps claims
  cases request with
  | login body => exact fun _ present => present
  | refresh body => exact fun _ present => present
  | fsdJwt body => exact fun _ present => present
  | loadUser authorization body => exact behind _ _ fun _ _ present => present
  | loadConfig authorization => exact behind _ _ fun _ _ present => present
  | createToken authorization body => exact behind _ _ fun _ _ present => present
  | updateUser authorization body =>
      apply behind
      intro claims
      rcases updateUser_cases P env database claims body with
        ⟨_, kept⟩ | ⟨reqBody, row, _, updated⟩
      · rw [kept]
        exact fun _ present => present
      · rcases Database.updateUser_eq_ok updated.written with ⟨_, _, _, config, _⟩
        unfold KeepsKeys
        rw [config]
        exact fun _ present => present
  | createUser authorization body =>
      apply behind
      intro claims
      unfold createUser
      split
      · exact fun _ present => present
      · dsimp only
        split
        · exact fun _ present => present
        · split
          · exact fun _ present => present
          · next done =>
              rcases Driver.createUser_eq_ok done with ⟨_, _, _, _, stored⟩
              unfold KeepsKeys
              dsimp only
              rw [stored]
              exact fun _ present => present
  | updateConfig authorization body =>
      apply behind
      intro claims
      unfold handleUpdateConfig
      dsimp only
      split
      · exact fun _ present => present
      · split
        · exact fun _ present => present
        · split
          · exact keepsKeys_writeConfig 0 _
          · exact keepsKeys_writeConfig 0 _
  | resetSecretKey authorization =>
      apply behind
      intro claims
      unfold handleResetSecretKey
      split
      · exact fun _ present => present
      · split
        · exact fun _ present => present
        · split
          · exact fun _ present => present
          · next written => exact keepsKeys_setConfig written

theorem Ready.serve (ready : Ready database) (driver : Driver) (P : Platform) (env : Env)
    (request : Request) : Ready (Web.serve driver P env database request).2 where
  manned := stored_of_serve driver request ready.manned
  configured := fun key member =>
    keepsKeys_serve driver P env database request key (ready.configured key member)

/-- Without a secret key the middleware lets nobody through. -/
theorem jwtBearerMiddleware_of_no_key (P : Platform) (env : Env)
    (missing : database.config.lookup configJwtSecretKey = none) (authorization : Bytes) :
    Exists fun response =>
      jwtBearerMiddleware P env database authorization = .error response ∧ response.IsFailure := by
  rcases jwtBearerMiddleware_cases P env database authorization with
    ⟨response, aborted, failed⟩ | ⟨claims, passed, bearer, _⟩
  · exact ⟨response, aborted, failed⟩
  · cases bearer with
    | verified token secret header readable configured parsed =>
        cases missing.symm.trans configured

/-- Without a secret key, no request changes the database. -/
theorem serve_of_no_key (missing : database.config.lookup configJwtSecretKey = none)
    (driver : Driver) (P : Platform) (env : Env) (request : Request) :
    (serve driver P env database request).2 = database := by
  have behind : forall authorization (handler : CustomClaims -> Response × Database),
      (withBearer P env database authorization handler).2 = database := by
    intro authorization handler
    rcases jwtBearerMiddleware_of_no_key P env missing authorization with
      ⟨response, aborted, _⟩
    unfold withBearer
    rw [aborted]
  cases request with
  | login body => rfl
  | refresh body => rfl
  | fsdJwt body => rfl
  | loadUser authorization body => exact behind _ _
  | updateUser authorization body => exact behind _ _
  | createUser authorization body => exact behind _ _
  | loadConfig authorization => exact behind _ _
  | updateConfig authorization body => exact behind _ _
  | resetSecretKey authorization => exact behind _ _
  | createToken authorization body => exact behind _ _

end OneRequest

/-! ## Whole runs -/

section Runs

variable {driver : Driver} {P : Platform}

/-- The database after the migrations: no users and no values. -/
def migrated : Database :=
  ⟨UserTable.fresh 1, ∅⟩

/-- Nothing has happened to the database yet, or somebody has CID 1. -/
def Numbered (database : Database) : Prop :=
  database = migrated ∨ Exists fun row => database.users.rows.lookup 1 = some row

/-- The password is sixteen digits, and CID 1 is assigned to the record. -/
structure DefaultAdministrator (P : Platform) (user : User) (written : Database) : Prop where
  cid : user.cid = 1
  networkRating : user.networkRating = NetworkRatingAdministator
  password : user.password.length = 16
  stored : Exists fun salt => Exists fun hash =>
    P.generateFromPassword salt user.password = some hash ∧
      written.users.rows.lookup 1 = some (UserTable.rowOf user hash)

theorem defaultAdministrator_of_migrated {env : StartEnv} {user : User} {written : Database}
    (created : generateDefaultAdminUser driver P env migrated = .ok (user, written)) :
    DefaultAdministrator P user written := by
  unfold generateDefaultAdminUser at created
  cases drawn : env.passwordBuf with
  | none =>
      rw [drawn] at created
      cases created
  | some passwordBuf =>
      rw [drawn] at created
      rcases Driver.createUser_eq_ok created with ⟨_, rfl, hash, generated, rfl⟩
      refine ⟨rfl, rfl, ?_, env.salt, hash, generated, ?_⟩
      · dsimp only
        rw [hexEncode_length, passwordBuf.toList_length]
      · have own : (1 : Int) = migrated.users.nextCid := rfl
        rw [UserTable.lookup_insertRow, if_pos own]
        rfl

theorem users_initDefaultConfig (env : InitEnv) (database : Database) :
    (initDefaultConfig env database).2.users = database.users :=
  (configInitialized_initDefaultConfig env database).extends_before.users

/-- Only a start on the migrated database creates an administrator. -/
theorem Numbered.printed {database : Database} (numbered : Numbered database) {env : StartEnv}
    {user : User} (printed : (newDefaultServer driver P env database).printed = some user) :
    database = migrated ∧ DefaultAdministrator P user
      (newDefaultServer driver P env database).database := by
  have launches := launches_newDefaultServer driver P env database
  generalize newDefaultServer driver P env database = launch at launches printed
  cases launches with
  | refused reason => cases printed
  | again row found => cases printed
  | first other written vacant created =>
      cases printed
      rcases numbered with rfl | ⟨row, found⟩
      · have administrator := defaultAdministrator_of_migrated created
        refine ⟨rfl, administrator.cid, administrator.networkRating, administrator.password, ?_⟩
        dsimp only
        rw [users_initDefaultConfig]
        exact administrator.stored
      · cases vacant.symm.trans found

/-- A start changes no row that is there, and on the migrated database it leaves an
administrator behind, or nothing. -/
theorem Numbered.start {database : Database} (numbered : Numbered database) (driver : Driver)
    (P : Platform) (env : StartEnv) :
    Numbered (newDefaultServer driver P env database).database ∧
      forall row, database.users.rows.lookup 1 = some row ->
        (newDefaultServer driver P env database).database.users.rows.lookup 1 = some row := by
  have launches := launches_newDefaultServer driver P env database
  generalize newDefaultServer driver P env database = launch at launches
  cases launches with
  | refused reason => exact ⟨numbered, fun _ found => found⟩
  | again row found =>
      dsimp only
      rw [Numbered, users_initDefaultConfig]
      exact ⟨Or.inr ⟨row, found⟩, fun _ found => found⟩
  | first user written vacant created =>
      rcases numbered with rfl | ⟨row, found⟩
      · rcases (defaultAdministrator_of_migrated created).stored with ⟨_, hash, _, stored⟩
        dsimp only
        rw [Numbered, users_initDefaultConfig]
        refine ⟨Or.inr ⟨_, stored⟩, ?_⟩
        intro row found
        cases vacant.symm.trans found
      · cases vacant.symm.trans found

theorem Numbered.serve {database : Database} (numbered : Numbered database) (driver : Driver)
    (P : Platform) (env : Env) (request : Request) :
    Numbered (Web.serve driver P env database request).2 := by
  rcases numbered with rfl | stored
  · exact Or.inl (serve_of_no_key rfl driver P env request)
  · exact Or.inr (stored_of_serve driver request stored)

theorem Numbered.operate {database next : Database} {operation : Operation}
    (taken : Web.operate driver P database operation = some next) (numbered : Numbered database) :
    Numbered next := by
  cases operation with
  | start env =>
      rw [← Option.some.inj taken]
      exact (numbered.start driver P env).1
  | request env request =>
      rw [← Option.some.inj taken]
      exact numbered.serve driver P env request

/-- A start that succeeds leaves the database ready. -/
theorem Numbered.ready {database : Database} (numbered : Numbered database) {env : StartEnv}
    (succeeded : (newDefaultServer driver P env database).result = .ok ()) :
    Ready (newDefaultServer driver P env database).database := by
  have launches := launches_newDefaultServer driver P env database
  generalize newDefaultServer driver P env database = launch at launches succeeded
  cases launches with
  | refused reason => cases succeeded
  | again row found =>
      have initialized := configInitialized_initDefaultConfig env.init database
      refine ⟨⟨row, ?_⟩, initialized.complete succeeded⟩
      dsimp only
      rw [initialized.extends_before.users]
      exact found
  | first user written vacant created =>
      have initialized := configInitialized_initDefaultConfig env.init written
      refine ⟨?_, initialized.complete succeeded⟩
      rcases numbered with rfl | ⟨row, found⟩
      · rcases (defaultAdministrator_of_migrated created).stored with ⟨_, hash, _, stored⟩
        dsimp only
        rw [initialized.extends_before.users]
        exact ⟨_, stored⟩
      · cases vacant.symm.trans found

theorem numbered_of_run {operations : List Operation} {database : Database}
    (executed : run (operate driver P) migrated operations = some database) : Numbered database := by
  have initially : Numbered migrated := Or.inl rfl
  exact invariant_of_reaches (fun _ _ _ taken numbered => Numbered.operate taken numbered)
    initially ⟨operations, executed⟩

/-- Once a start has succeeded, no later one changes the database, whatever it draws,
whichever statements fail, and whatever the API does in between. -/
theorem restarts_change_nothing {first second : List Operation} {database : Database}
    {env : StartEnv} (executed : run (operate driver P) migrated first = some database)
    (succeeded : (newDefaultServer driver P env database).result = .ok ()) :
    Along (operate driver P)
      (fun state operation => forall other, operation = .start other ->
        operate driver P state operation = some state)
      (newDefaultServer driver P env database).database second := by
  have ready := (numbered_of_run executed).ready succeeded
  generalize (newDefaultServer driver P env database).database = state at ready
  induction second generalizing state with
  | nil => exact True.intro
  | cons operation rest inductionHypothesis =>
      constructor
      · rintro other rfl
        exact congrArg some (newDefaultServer_of_ready ready).1
      · intro next taken
        apply inductionHypothesis
        cases operation with
        | start other =>
            rw [← Option.some.inj taken, (newDefaultServer_of_ready ready).1]
            exact ready
        | request env request =>
            rw [← Option.some.inj taken]
            exact ready.serve driver P env request

theorem perm_defaultConfig (secretKey : Bytes) :
    (defaultConfig secretKey).Perm (defaultConfig secretKey) :=
  List.Perm.refl (defaultConfig secretKey)

/-- A start with fixed draws. -/
def startSample (setConfigFails : Nat -> Bool) : StartEnv where
  getUserFails := false
  passwordBuf := some (1 ::ᵥ 35 ::ᵥ 69 ::ᵥ 103 ::ᵥ 137 ::ᵥ 171 ::ᵥ 205 ::ᵥ 239 ::ᵥ .nil)
  salt := bytes "salt"
  createUserFails := false
  init :=
    { secretKey := some (bytes "secret")
      order := defaultConfig
      complete := perm_defaultConfig
      setConfigFails := setConfigFails }

/-- The first start breaks off in the loop, the second one finishes it, and the third
has nothing left to do. -/
theorem restarts_change_nothing_third :
    Along (operate .sqlite Symbolic.platform)
      (fun state operation => forall other, operation = .start other ->
        operate .sqlite Symbolic.platform state operation = some state)
      (newDefaultServer .sqlite Symbolic.platform (startSample fun _ => false)
        (newDefaultServer .sqlite Symbolic.platform (startSample fun call => call == 2)
          migrated).database).database
      [.start (startSample fun call => call == 0)] := by
  have executed : run (operate .sqlite Symbolic.platform) migrated
      [.start (startSample fun call => call == 2)] =
        some (newDefaultServer .sqlite Symbolic.platform (startSample fun call => call == 2)
          migrated).database := rfl
  exact restarts_change_nothing executed (by decide +kernel)

/-- The request is an update of the default administrator. -/
def UpdatesAdministrator : Operation -> Prop
  | .request _ (.updateUser _ (some body)) => body.cid = 1
  | _ => False

/-- The row of CID 1 is the one that has been printed. -/
def Printed (P : Platform) (user : User) (database : Database) : Prop :=
  Exists fun row => database.users.rows.lookup 1 = some row ∧
    row.networkRating = NetworkRatingAdministator ∧
      verifyPasswordHash P user.password row.password = true

theorem Printed.operate {user : User} {database next : Database} {operation : Operation}
    (numbered : Numbered database) (other : ¬ UpdatesAdministrator operation)
    (taken : Web.operate driver P database operation = some next)
    (printed : Printed P user database) : Printed P user next := by
  rcases printed with ⟨row, found, rated, verified⟩
  refine ⟨row, ?_, rated, verified⟩
  cases operation with
  | start env =>
      rw [← Option.some.inj taken]
      exact (numbered.start driver P env).2 row found
  | request env request =>
      rw [← Option.some.inj taken]
      have written := writtenBy_serve driver P env database request
      generalize (serve driver P env database request).2 = after at written
      cases written with
      | unchanged request same =>
          rw [same]
          exact found
      | updated authorization body claims reqBody old passed updated =>
          rcases Database.updateUser_eq_ok updated.written with ⟨_, column, _, _, stored, _⟩
          have different : (1 : Int) ≠ reqBody.cid := by
            intro same
            rw [updated.body] at other
            exact other same.symm
          rw [stored 1]
          exact (if_neg different).trans found
      | created authorization body claims reqBody passed created =>
          rcases created.stored with ⟨column, same⟩
          have below := database.users.below 1 (AList.lookup_isSome.mp (by rw [found]; rfl))
          rw [same, UserTable.lookup_insertRow, if_neg (Int.ne_of_lt below)]
          exact found

/-- Where CID 1 is taken, no start prints a password. -/
theorem printed_of_manned {database : Database} {row : UserRow}
    (found : database.users.rows.lookup 1 = some row) (driver : Driver) (P : Platform)
    (env : StartEnv) : (newDefaultServer driver P env database).printed = none := by
  have launches := launches_newDefaultServer driver P env database
  generalize newDefaultServer driver P env database = launch at launches
  cases launches with
  | refused reason => rfl
  | again other taken => rfl
  | first user written vacant created => cases vacant.symm.trans found

theorem manned_of_operate {database next : Database} {operation : Operation}
    (taken : Web.operate driver P database operation = some next)
    (manned : Exists fun row => database.users.rows.lookup 1 = some row) :
    Exists fun row => next.users.rows.lookup 1 = some row := by
  cases operation with
  | start env =>
      rcases manned with ⟨row, found⟩
      rw [← Option.some.inj taken]
      exact ⟨row, (Numbered.start (Or.inr ⟨row, found⟩) driver P env).2 row found⟩
  | request env request =>
      rw [← Option.some.inj taken]
      exact stored_of_serve driver request manned

/-- Over a whole run the password of a default administrator is printed at most once.
It has CID 1, and it opens the account until the API updates it. -/
theorem default_administrator (hashing : P.IdealHashing) {first second : List Operation}
    {database : Database} {env : StartEnv}
    (executed : run (operate driver P) migrated first = some database) {user : User}
    (printed : (newDefaultServer driver P env database).printed = some user) :
    user.cid = 1 ∧ user.password.length = 16 ∧
      Along (operate driver P)
        (fun state operation => forall other, operation = .start other ->
          (newDefaultServer driver P other state).printed = none)
        (newDefaultServer driver P env database).database second ∧
      ((forall operation, operation ∈ second -> ¬ UpdatesAdministrator operation) ->
        forall state, Visits (operate driver P) (newDefaultServer driver P env database).database
          second state -> Printed P user state) := by
  rcases (numbered_of_run executed).printed printed with ⟨_, administrator⟩
  generalize (newDefaultServer driver P env database).database = launched at administrator
  rcases administrator.stored with ⟨salt, hash, generated, stored⟩
  refine ⟨administrator.cid, administrator.password, ?_, ?_⟩
  · have manned : Exists fun row => launched.users.rows.lookup 1 = some row := ⟨_, stored⟩
    clear administrator stored
    induction second generalizing launched with
    | nil => exact True.intro
    | cons operation rest inductionHypothesis =>
        constructor
        · rintro other rfl
          rcases manned with ⟨row, found⟩
          exact printed_of_manned found driver P other
        · intro next taken
          exact inductionHypothesis next (manned_of_operate taken manned)
  · rintro others state ⟨before, initial, reached⟩
    have opens : Printed P user launched :=
      ⟨_, stored, administrator.networkRating, (hashing _ _ _ generated _).mpr rfl⟩
    have along : Along (operate driver P) (fun _ operation => ¬ UpdatesAdministrator operation)
        launched before :=
      along_of_forall (fun operation member => others operation (initial.subset member)) launched
    have preserved : forall state operation next, operate driver P state operation = some next ->
        ¬ UpdatesAdministrator operation -> Printed P user state -> Printed P user next := by
      intro state operation next taken other held
      rcases held with ⟨row, found, rest⟩
      exact Printed.operate (Or.inr ⟨row, found⟩) other taken ⟨row, found, rest⟩
    exact invariant_along preserved opens along reached

/-- The password of a start that breaks off in the loop opens the account after the
next start. -/
theorem default_administrator_interrupted :
    (newDefaultServer .sqlite Symbolic.platform (startSample fun call => call == 2)
        migrated).result = .error .failed ∧
      Exists fun user => user.password = bytes "0123456789abcdef" ∧
        forall state, Visits (operate .sqlite Symbolic.platform)
          (newDefaultServer .sqlite Symbolic.platform (startSample fun call => call == 2)
            migrated).database [.start (startSample fun _ => false)] state ->
          Printed Symbolic.platform user state := by
  refine ⟨by decide +kernel, ⟨1, bytes "0123456789abcdef", some (bytes "Default Administrator"),
    none, NetworkRatingAdministator⟩, rfl, ?_⟩
  have printed : (newDefaultServer .sqlite Symbolic.platform (startSample fun call => call == 2)
      migrated).printed = some ⟨1, bytes "0123456789abcdef",
        some (bytes "Default Administrator"), none, NetworkRatingAdministator⟩ := by decide +kernel
  have executed : run (operate .sqlite Symbolic.platform) migrated [] = some migrated := rfl
  apply (default_administrator Symbolic.platform_idealHashing executed printed).2.2.2
  intro operation member
  rw [List.mem_singleton.mp member]
  exact id

/-! ## Postgres -/

/-- Without users and without a secret key, no request is carried out. -/
theorem not_performed_of_bare {env : Env} {database after : Database} {request : Request}
    {response : Response} (unmanned : forall cid, database.users.rows.lookup cid = none)
    (missing : database.config.lookup configJwtSecretKey = none) :
    ¬ Performed P env database request response after := by
  have noBearer : forall authorization claims, ¬ Authorized P env database authorization claims := by
    rintro authorization claims ⟨⟨token, secret, header, readable, configured, parsed⟩, access⟩
    cases missing.symm.trans configured
  intro performed
  cases performed with
  | login reqBody row secret access refresh accepted read =>
      cases (unmanned reqBody.cid).symm.trans read.found
  | refresh token claims row secret access present key parsed typed read =>
      cases (unmanned claims.cid).symm.trans read.found
  | fsdJwt reqBody row secret token accepted numeric positive read =>
      cases (unmanned _).symm.trans read.found
  | loadUser authorization cid claims row authorized => exact noBearer _ _ authorized
  | updateUser authorization reqBody claims row column after authorized =>
      exact noBearer _ _ authorized
  | createUser authorization reqBody claims hash after authorized => exact noBearer _ _ authorized
  | loadConfig authorization claims authorized => exact noBearer _ _ authorized
  | updateConfig authorization pairs claims after authorized => exact noBearer _ _ authorized
  | resetSecretKey authorization secretKey claims after authorized =>
      exact noBearer _ _ authorized
  | createToken authorization expiryDateTime claims secret token authorized =>
      exact noBearer _ _ authorized

/-- On the migrated database a request is answered with an error, or with nothing. -/
theorem serve_migrated (driver : Driver) (P : Platform) (env : Env) (request : Request) :
    (serve driver P env migrated request).1.IsFailure ∨
      (serve driver P env migrated request).1.body = .empty := by
  by_cases bound : forall body, request = .fsdJwt body ->
      Exists fun reqBody => body = some reqBody ∧ reqBody.accepted = true
  · rcases accounted_serve driver request bound with failed | performed
    · exact Or.inl failed
    · exact absurd performed (not_performed_of_bare (fun _ => rfl) rfl)
  · rw [Classical.not_forall] at bound
    rcases bound with ⟨body, unbound⟩
    rcases Classical.not_imp.mp unbound with ⟨same, unbound⟩
    rw [same]
    refine Or.inr ?_
    have rejected : bindBody body FsdJwtBody.accepted = none := by
      cases decoded : bindBody body FsdJwtBody.accepted with
      | none => rfl
      | some reqBody => exact absurd ⟨reqBody, bindBody_eq_some decoded⟩ unbound
    simp only [serve, getFsdJwt, rejected]

/-- Neither is a request to `/api/v1`, the kick among them, and nothing is changed. -/
theorem serveV1_migrated {F : Type} (driver : Driver) (P : Platform) (env : Env) (call : CallEnv)
    (fsd : Fsd.Server F) (request : V1Request) :
    ((serveV1 driver P env call ⟨migrated, fsd⟩ request).1.IsFailure ∨
        (serveV1 driver P env call ⟨migrated, fsd⟩ request).1.body = .empty) ∧
      (serveV1 driver P env call ⟨migrated, fsd⟩ request).2 = ⟨migrated, fsd⟩ := by
  have missing : migrated.config.lookup configJwtSecretKey = none := rfl
  cases request with
  | stored request =>
      have same := serve_of_no_key missing driver P env request
      exact ⟨serve_migrated driver P env request, congrArg (Backend.mk · fsd) same⟩
  | kickUser authorization body =>
      rcases jwtBearerMiddleware_of_no_key P env missing authorization with
        ⟨response, aborted, failed⟩
      unfold serveV1
      dsimp only
      rw [aborted]
      exact ⟨Or.inl failed, rfl⟩

/-- Without a configuration the public documents are not there. -/
theorem dataRoutes_migrated (fails : Bytes -> Bool) {path : Bytes}
    {handler : (Bytes -> Bool) -> Database -> DataPage} (routed : (path, handler) ∈ dataRoutes) :
    (handler fails migrated).status = 500 := by
  have missing : forall key, Exists fun reason =>
      migrated.getConfig (fails key) key = .error reason := by
    intro key
    unfold Database.getConfig
    split
    · exact ⟨_, rfl⟩
    · exact ⟨_, rfl⟩
  have base : Exists fun page => getBaseURLOrErr fails migrated = .error page ∧
      page.status = 500 := by
    rcases missing configApiServerBaseURL with ⟨reason, read⟩
    unfold getBaseURLOrErr
    rw [read]
    cases reason <;> exact ⟨_, rfl, rfl⟩
  have server : Exists fun reason => getFsdServerInfo fails migrated = .error reason := by
    rcases missing configFsdServerIdent with ⟨reason, read⟩
    unfold getFsdServerInfo
    rw [read]
    exact ⟨reason, rfl⟩
  rcases base with ⟨page, noBase, failed⟩
  rcases server with ⟨reason, noServer⟩
  simp only [dataRoutes, List.mem_cons, Prod.mk.injEq, List.not_mem_nil, or_false] at routed
  rcases routed with ⟨_, rfl⟩ | ⟨_, rfl⟩ | ⟨_, rfl⟩ | ⟨_, rfl⟩ | ⟨_, rfl⟩ | ⟨_, rfl⟩
  · unfold handleGetStatusTxt
    rw [noBase]
    exact failed
  · unfold handleGetStatusJSON
    rw [noBase]
    exact failed
  · unfold handleGetServersTxt
    rw [noServer]
  · unfold handleGetServersJSON
    rw [noServer]
  · unfold handleGetServersJSON
    rw [noServer]
  · unfold handleGetServersJSON
    rw [noServer]

/-- The statement of Postgres has a placeholder too many. -/
theorem createUser_postgres (P : Platform) (database : Database) (fails : Bool) (salt : Bytes)
    (user : User) : Driver.postgres.createUser P database fails salt user = .error .failed := by
  simp only [Driver.createUser, Database.createUserWith]
  split
  · rfl
  · cases P.generateFromPassword salt user.password with
    | none => rfl
    | some hash => simp

theorem newDefaultServer_postgres (P : Platform) (env : StartEnv) :
    Exists fun reason => newDefaultServer .postgres P env migrated =
      ⟨none, .error reason, migrated⟩ := by
  have launches := launches_newDefaultServer .postgres P env migrated
  generalize newDefaultServer .postgres P env migrated = launch at launches
  cases launches with
  | refused reason => exact ⟨reason, rfl⟩
  | again row found => cases found
  | first user written vacant created =>
      unfold generateDefaultAdminUser at created
      cases drawn : env.passwordBuf with
      | none =>
          rw [drawn] at created
          cases created
      | some passwordBuf =>
          rw [drawn] at created
          dsimp only at created
          rw [createUser_postgres] at created
          cases created

/-- On an empty database no start on Postgres succeeds, and none prints a password.
However often it is tried, the database stays empty, no request to the API is
carried out, and the public documents stay away. -/
theorem postgres_never_starts {F : Type} (P : Platform) (operations : List Operation) :
    Along (operate .postgres P)
      (fun state _ => state = migrated ∧
        (forall env, Exists fun reason =>
          newDefaultServer .postgres P env state = ⟨none, .error reason, migrated⟩) ∧
        (forall env call (fsd : Fsd.Server F) request,
          ((serveV1 .postgres P env call ⟨state, fsd⟩ request).1.IsFailure ∨
              (serveV1 .postgres P env call ⟨state, fsd⟩ request).1.body = .empty) ∧
            (serveV1 .postgres P env call ⟨state, fsd⟩ request).2 = ⟨migrated, fsd⟩) ∧
        forall fails path handler, (path, handler) ∈ dataRoutes ->
          (handler fails state).status = 500)
      migrated operations := by
  have preserved : forall operation next, operate .postgres P migrated operation = some next ->
      next = migrated := by
    intro operation next taken
    cases operation with
    | start env =>
        rcases newDefaultServer_postgres P env with ⟨reason, launched⟩
        rw [← Option.some.inj taken, launched]
    | request env request =>
        rw [← Option.some.inj taken]
        exact serve_of_no_key rfl .postgres P env request
  induction operations with
  | nil => exact True.intro
  | cons operation rest inductionHypothesis =>
      refine ⟨⟨rfl, newDefaultServer_postgres P, ?_, ?_⟩, ?_⟩
      · exact fun env call fsd request => serveV1_migrated .postgres P env call fsd request
      · exact fun fails _ _ routed => dataRoutes_migrated fails routed
      · intro next taken
        rw [preserved operation next taken]
        exact inductionHypothesis

end Runs

end Web
end OpenFsd
