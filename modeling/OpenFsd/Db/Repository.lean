import OpenFsd.Platform

namespace OpenFsd
namespace Db

/-!
# The database and its repositories

The table of users keeps its primary key as an invariant of the data: a CID
has at most one record, and the sequence that assigns CIDs is ahead of all of
them.  A statement that the database refuses to execute changes nothing; the
caller says so with a flag, so that a result about a repository function is a
result for every failure of the database.

`GetUserByCID` answers the stored hash in the field `password`, in which
`CreateUser` and `UpdateUser` expect a plaintext.
-/

/-- `db.User` -/
structure User where
  cid : Int
  password : Bytes
  firstName : Option Bytes
  lastName : Option Bytes
  networkRating : Int
  deriving DecidableEq

/-- The columns of `users` beside the primary key. -/
structure UserRow where
  password : Bytes
  firstName : Option Bytes
  lastName : Option Bytes
  networkRating : Int
  deriving DecidableEq

structure UserTable where
  rows : AList (fun _ : Int => UserRow)
  nextCid : Int
  below : forall cid, cid ∈ rows -> cid < nextCid

structure Database where
  users : UserTable
  config : AList (fun _ : Bytes => Bytes)

/-- Why a repository function failed. -/
inductive DbError
  | noRows
  | keyNotFound
  | failed
  deriving DecidableEq

/-- `ConfigJwtSecretKey` -/
def configJwtSecretKey : Bytes := bytes "JWT_SECRET_KEY"
def configFsdServerHostname : Bytes := bytes "FSD_SERVER_HOSTNAME"
def configFsdServerIdent : Bytes := bytes "FSD_SERVER_IDENT"
def configFsdServerLocation : Bytes := bytes "FSD_SERVER_LOCATION"
def configApiServerBaseURL : Bytes := bytes "API_SERVER_BASE_URL"
def configWelcomeMessage : Bytes := bytes "WELCOME_MESSAGE"

namespace UserTable

/-- The row that a record stores, with the given password column. -/
def rowOf (user : User) (password : Bytes) : UserRow :=
  ⟨password, user.firstName, user.lastName, user.networkRating⟩

/-- `INSERT ... RETURNING cid` -/
def insertRow (table : UserTable) (row : UserRow) : UserTable where
  rows := table.rows.insert table.nextCid row
  nextCid := table.nextCid + 1
  below := by
    intro cid member
    rcases (AList.mem_insert table.rows).mp member with same | old
    · omega
    · have := table.below cid old
      omega

/-- `UPDATE ... WHERE cid = ?`, without a result when no row is affected. -/
def updateRow (table : UserTable) (cid : Int) (change : UserRow -> UserRow) : Option UserTable :=
  match found : table.rows.lookup cid with
  | none => none
  | some row => some {
      rows := table.rows.insert cid (change row)
      nextCid := table.nextCid
      below := by
        intro other member
        rcases (AList.mem_insert table.rows).mp member with same | old
        · rw [same]
          exact table.below cid (AList.lookup_isSome.mp (by rw [found]; rfl))
        · exact table.below other old }

theorem lookup_updateRow {table updated : UserTable} {cid : Int} {change : UserRow -> UserRow}
    (done : table.updateRow cid change = some updated) (other : Int) :
    updated.rows.lookup other =
      if other = cid then (table.rows.lookup cid).map change else table.rows.lookup other := by
  unfold updateRow at done
  split at done
  · cases done
  · next row found =>
      cases done
      by_cases same : other = cid
      · subst other
        rw [if_pos rfl, AList.lookup_insert, found]
        rfl
      · rw [if_neg same]
        exact AList.lookup_insert_ne same

theorem lookup_insertRow (table : UserTable) (row : UserRow) (other : Int) :
    (table.insertRow row).rows.lookup other =
      if other = table.nextCid then some row else table.rows.lookup other := by
  by_cases same : other = table.nextCid
  · rw [if_pos same, same]
    exact AList.lookup_insert table.rows
  · rw [if_neg same]
    exact AList.lookup_insert_ne same

end UserTable

/-! ## Users -/

/-- A row with its primary key, as `Scan` fills a `User`. -/
def userOf (cid : Int) (row : UserRow) : User :=
  ⟨cid, row.password, row.firstName, row.lastName, row.networkRating⟩

namespace Database

def getUserByCID (database : Database) (fails : Bool) (cid : Int) : Except DbError User :=
  if fails then .error .failed
  else
    match database.users.rows.lookup cid with
    | none => .error .noRows
    | some row => .ok (userOf cid row)

/-- `CreateUser` of both drivers, up to the number of placeholders in the
`VALUES` list of its statement, which has four columns and four arguments. -/
def createUserWith (placeholders : Nat) (P : Platform) (database : Database) (fails : Bool)
    (salt : Bytes) (user : User) : Except DbError (User × Database) :=
  if user.password.contains colon then .error .failed
  else
    match P.generateFromPassword salt user.password with
    | none => .error .failed
    | some hash =>
        if fails || decide (placeholders ≠ 4) then .error .failed
        else .ok ({ user with cid := database.users.nextCid },
          { database with users := database.users.insertRow (UserTable.rowOf user hash) })

/-- `UpdateUser` of both drivers. -/
def updateUser (P : Platform) (database : Database) (fails : Bool) (salt : Bytes) (user : User) :
    Except DbError Database :=
  let execute (change : UserRow -> UserRow) : Except DbError Database :=
    if fails then .error .failed
    else
      match database.users.updateRow user.cid change with
      | none => .error .noRows
      | some users => .ok { database with users := users }
  if user.password ≠ [] then
    if user.password.contains colon then .error .failed
    else
      match P.generateFromPassword salt user.password with
      | none => .error .failed
      | some hash => execute fun _ => UserTable.rowOf user hash
  else execute fun row => UserTable.rowOf user row.password

theorem getUserByCID_eq_ok {database : Database} {fails : Bool} {cid : Int} {user : User}
    (read : database.getUserByCID fails cid = .ok user) :
    Exists fun row => database.users.rows.lookup cid = some row ∧ user = userOf cid row := by
  unfold getUserByCID at read
  cases fails with
  | true => cases read
  | false =>
      cases found : database.users.rows.lookup cid with
      | none =>
          rw [found] at read
          cases read
      | some row =>
          rw [found] at read
          cases read
          exact ⟨row, rfl, rfl⟩

theorem getUserByCID_readable {database : Database} {fails : Bool} {cid : Int} {user : User}
    (read : database.getUserByCID fails cid = .ok user) : fails = false := by
  cases fails with
  | false => rfl
  | true => cases read

/-- A password field that `UpdateUser` can store: none, or one it can hash. -/
def Hashable (P : Platform) (salt password : Bytes) : Prop :=
  password = [] ∨
    (password.contains colon = false ∧ (P.generateFromPassword salt password).isSome = true)

theorem updateUser_hashable {P : Platform} {database written : Database} {fails : Bool}
    {salt : Bytes} {user : User} (done : database.updateUser P fails salt user = .ok written) :
    Hashable P salt user.password := by
  unfold updateUser at done
  dsimp only at done
  by_cases empty : user.password = []
  · exact Or.inl empty
  · rw [if_pos empty] at done
    split at done
    · cases done
    · next noColon =>
        cases hashed : P.generateFromPassword salt user.password with
        | none =>
            simp only [hashed] at done
            cases done
        | some hash =>
            apply Or.inr
            constructor
            · exact Bool.eq_false_iff.mpr noColon
            · rw [hashed]
              rfl

/-- `UpdateUser` succeeds on a stored user with such a password field, unless
the database refuses the statement. -/
theorem updateUser_of_hashable {P : Platform} {database : Database} {salt : Bytes} {user : User}
    {row : UserRow} (found : database.users.rows.lookup user.cid = some row)
    (hashable : Hashable P salt user.password) :
    Exists fun written => database.updateUser P false salt user = .ok written := by
  have executed : forall change, Exists fun users =>
      database.users.updateRow user.cid change = some users := by
    intro change
    unfold UserTable.updateRow
    split
    · next absent =>
        rw [found] at absent
        cases absent
    · exact ⟨_, rfl⟩
  unfold updateUser
  dsimp only
  by_cases empty : user.password = []
  · rcases executed fun old => UserTable.rowOf user old.password with ⟨users, updated⟩
    rw [if_neg (not_not_intro empty), if_neg Bool.false_ne_true, updated]
    exact ⟨_, rfl⟩
  · rcases hashable with impossible | ⟨noColon, hashed⟩
    · exact absurd impossible empty
    · rcases Option.isSome_iff_exists.mp hashed with ⟨hash, generated⟩
      rcases executed fun _ => UserTable.rowOf user hash with ⟨users, updated⟩
      rw [if_pos empty, if_neg (Bool.eq_false_iff.mp noColon), generated]
      dsimp only
      rw [if_neg Bool.false_ne_true, updated]
      exact ⟨_, rfl⟩

theorem updateUser_writable {P : Platform} {database written : Database} {fails : Bool}
    {salt : Bytes} {user : User} (done : database.updateUser P fails salt user = .ok written) :
    fails = false := by
  cases fails with
  | false => rfl
  | true =>
      unfold updateUser at done
      dsimp only at done
      repeat' split at done
      all_goals contradiction

/-- What a successful `CreateUser` has stored: a row with a hash, under the
next CID of the sequence. -/
theorem createUserWith_eq_ok {placeholders : Nat} {P : Platform} {database written : Database}
    {fails : Bool} {salt : Bytes} {user created : User}
    (done : database.createUserWith placeholders P fails salt user = .ok (created, written)) :
    fails = false ∧ created = { user with cid := database.users.nextCid } ∧
      Exists fun hash => P.generateFromPassword salt user.password = some hash ∧
        written = { database with users := database.users.insertRow (UserTable.rowOf user hash) } := by
  unfold createUserWith at done
  split at done
  · cases done
  · split at done
    · cases done
    · next hash hashed =>
        cases fails with
        | true => cases done
        | false =>
            split at done
            · cases done
            · cases done
              exact ⟨rfl, rfl, hash, hashed, rfl⟩

/-- What a successful `UpdateUser` has stored: the fields of the record, with
the old password column if the record has no password, and otherwise with a
hash of it. -/
theorem updateUser_eq_ok {P : Platform} {database written : Database} {fails : Bool} {salt : Bytes}
    {user : User} (done : database.updateUser P fails salt user = .ok written) :
    Exists fun row => Exists fun column =>
      database.users.rows.lookup user.cid = some row ∧ written.config = database.config ∧
        (forall other, written.users.rows.lookup other =
          if other = user.cid then some (UserTable.rowOf user column)
          else database.users.rows.lookup other) ∧
        ((user.password = [] ∧ column = row.password) ∨
          (user.password ≠ [] ∧ P.generateFromPassword salt user.password = some column)) := by
  have executed : forall change : UserRow -> UserRow,
      (if fails then .error .failed
        else match database.users.updateRow user.cid change with
          | none => .error .noRows
          | some users => .ok { database with users := users } : Except DbError Database) =
        .ok written ->
      Exists fun row => database.users.rows.lookup user.cid = some row ∧
        written.config = database.config ∧
        forall other, written.users.rows.lookup other =
          if other = user.cid then some (change row) else database.users.rows.lookup other := by
    intro change executed
    cases fails with
    | true => cases executed
    | false =>
        cases updated : database.users.updateRow user.cid change with
        | none =>
            simp only [updated] at executed
            cases executed
        | some users =>
            simp only [updated] at executed
            cases found : database.users.rows.lookup user.cid with
            | none =>
                unfold UserTable.updateRow at updated
                split at updated
                · cases updated
                · next row stored =>
                    rw [found] at stored
                    cases stored
            | some row =>
                rw [← Except.ok.inj executed]
                refine ⟨row, rfl, rfl, ?_⟩
                intro other
                rw [UserTable.lookup_updateRow updated other, found]
                rfl
  unfold updateUser at done
  dsimp only at done
  by_cases empty : user.password = []
  · rw [if_neg (not_not_intro empty)] at done
    rcases executed _ done with ⟨row, found, config, stored⟩
    exact ⟨row, row.password, found, config, stored, Or.inl ⟨empty, rfl⟩⟩
  · rw [if_pos empty] at done
    split at done
    · cases done
    · cases hashed : P.generateFromPassword salt user.password with
      | none =>
          simp only [hashed] at done
          cases done
      | some hash =>
          simp only [hashed] at done
          rcases executed _ done with ⟨row, found, config, stored⟩
          exact ⟨row, hash, found, config, stored, Or.inr ⟨empty, rfl⟩⟩

/-! ## Configuration -/

/-- `ConfigRepo.Get` -/
def getConfig (database : Database) (fails : Bool) (key : Bytes) : Except DbError Bytes :=
  if fails then .error .failed
  else
    match database.config.lookup key with
    | none => .error .keyNotFound
    | some value => .ok value

/-- `GetWelcomeMessage`, which takes every failure for an absent message. -/
def getWelcomeMessage (database : Database) (fails : Bool) : Bytes :=
  match database.getConfig fails configWelcomeMessage with
  | .error _ => []
  | .ok message => message

/-- `ConfigRepo.Set` -/
def setConfig (database : Database) (fails : Bool) (key value : Bytes) : Except DbError Database :=
  if fails then .error .failed
  else .ok { database with config := database.config.insert key value }

theorem getConfig_eq_ok_iff {database : Database} {fails : Bool} {key value : Bytes} :
    database.getConfig fails key = .ok value ↔
      fails = false ∧ database.config.lookup key = some value := by
  unfold getConfig
  cases fails with
  | true => simp
  | false => cases found : database.config.lookup key <;> simp

theorem setConfig_eq_ok {database written : Database} {fails : Bool} {key value : Bytes}
    (done : database.setConfig fails key value = .ok written) :
    fails = false ∧ written = { database with config := database.config.insert key value } := by
  unfold setConfig at done
  cases fails with
  | true => cases done
  | false =>
      cases done
      exact ⟨rfl, rfl⟩

theorem getConfig_eq_ok {database : Database} {fails : Bool} {key value : Bytes}
    (read : database.getConfig fails key = .ok value) : database.config.lookup key = some value :=
  (getConfig_eq_ok_iff.mp read).2

end Database

/-- `VerifyPasswordHash` -/
def verifyPasswordHash (P : Platform) (plaintext hash : Bytes) : Bool :=
  P.compareHashAndPassword hash plaintext

/-- The two implementations of `UserRepository`. -/
inductive Driver
  | sqlite
  | postgres
  deriving DecidableEq

/-- `SQLiteUserRepository.CreateUser` lists four placeholders, and
`PostgresUserRepository.CreateUser` lists five. -/
def Driver.createUser (driver : Driver) : Platform -> Database -> Bool -> Bytes -> User ->
    Except DbError (User × Database) :=
  match driver with
  | .sqlite => Database.createUserWith 4
  | .postgres => Database.createUserWith 5

theorem Driver.createUser_eq_ok {driver : Driver} {P : Platform} {database written : Database}
    {fails : Bool} {salt : Bytes} {user created : User}
    (done : driver.createUser P database fails salt user = .ok (created, written)) :
    fails = false ∧ created = { user with cid := database.users.nextCid } ∧
      Exists fun hash => P.generateFromPassword salt user.password = some hash ∧
        written = { database with users := database.users.insertRow (UserTable.rowOf user hash) } := by
  cases driver with
  | sqlite => exact Database.createUserWith_eq_ok done
  | postgres => exact Database.createUserWith_eq_ok done

end Db
end OpenFsd
