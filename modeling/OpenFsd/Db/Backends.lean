import OpenFsd.Library.Machine
import OpenFsd.Symbolic
import OpenFsd.Web.Response
import Mathlib.Logic.Equiv.Basic

namespace OpenFsd
namespace Db

open Machine

/-!
# The two user repositories beside each other

A user repository is a machine: it answers a call with the state of the table
after it.  The statements of the two drivers are those of one repository, up
to the syntax of their placeholders, except for the `INSERT` of Postgres,
whose value list is longer than its column list and binds a fifth placeholder
to nothing.  The schema of Postgres also has limits that the one of SQLite
only names, on the length of a name and on the size of a rating.

Tables are compared up to the salts of their hashes and up to a renaming of
CIDs that takes the CIDs which one sequence assigns to those of the other.
Comparing a column with a CID is comparing two numbers, of any size.
-/

/-- A call of the repository.  The salt is the one that bcrypt draws. -/
inductive Call
  | createUser (salt : Bytes) (user : User)
  | getUserByCID (cid : Int)
  | updateUser (salt : Bytes) (user : User)
  | verifyPasswordHash (plaintext hash : Bytes)

/-- What the caller sees of it: `CreateUser` and `GetUserByCID` fill a record. -/
inductive Reply
  | failed (reason : DbError)
  | user (user : User)
  | done
  | verified (ok : Bool)

/-- A value that fits into a column of type `varchar(255)`. -/
def fitsVarchar (name : Option Bytes) : Bool :=
  decide (Web.runeCount (Web.safeStr name) ≤ 255)

/-- A value that fits into a column of type `smallint`. -/
def fitsSmallint (number : Int) : Bool :=
  decide (-32768 ≤ number ∧ number ≤ 32767)

/-- Whether the schema of the driver has room for the record. -/
def Driver.admits (driver : Driver) (user : User) : Bool :=
  match driver with
  | .sqlite => true
  | .postgres =>
      fitsVarchar user.firstName && fitsVarchar user.lastName && fitsSmallint user.networkRating

/-- One call of the repository, on a database that executes every statement
which its schema admits.  Standard SQL is assumed of the statements themselves:
a server of Postgres also refuses a CID beyond its `integer` and a text that it
cannot encode. -/
def Driver.serve (driver : Driver) (P : Platform) (database : Database) :
    Call -> Database × Reply
  | .createUser salt user =>
      match driver.createUser P database (!driver.admits user) salt user with
      | .error reason => (database, .failed reason)
      | .ok (created, written) => (written, .user created)
  | .getUserByCID cid =>
      match database.getUserByCID false cid with
      | .error reason => (database, .failed reason)
      | .ok user => (database, .user user)
  | .updateUser salt user =>
      match database.updateUser P (!driver.admits user) salt user with
      | .error reason => (database, .failed reason)
      | .ok written => (written, .done)
  | .verifyPasswordHash plaintext hash =>
      (database, .verified (verifyPasswordHash P plaintext hash))

/-- The names have at most 255 characters, and the rating is one of those in use. -/
def User.WithinLimits (user : User) : Prop :=
  Web.runeCount (Web.safeStr user.firstName) ≤ 255 ∧
    Web.runeCount (Web.safeStr user.lastName) ≤ 255 ∧
      -1 ≤ user.networkRating ∧ user.networkRating ≤ 12

def Call.WithinLimits : Call -> Prop
  | .createUser _ user => user.WithinLimits
  | .updateUser _ user => user.WithinLimits
  | _ => True

/-- A password that `CreateUser` takes to the database. -/
def Storable (P : Platform) (password : Bytes) : Prop :=
  password.contains colon = false ∧
    Exists fun salt => (P.generateFromPassword salt password).isSome = true

/-- The call does not create a user with such a password. -/
def Call.StoresNothingNew (P : Platform) : Call -> Prop
  | .createUser _ user => ¬ Storable P user.password
  | _ => True

/-- Whether bcrypt hashes a password depends on the password alone. -/
def SaltBlind (P : Platform) : Prop :=
  forall salt other password,
    (P.generateFromPassword salt password).isSome = (P.generateFromPassword other password).isSome

/-! ## Equal up to salts and CIDs -/

/-- Two hashes of one password, or one hash. -/
def SameHash (P : Platform) (hash other : Bytes) : Prop :=
  hash = other ∨ Exists fun password =>
    (Exists fun salt => P.generateFromPassword salt password = some hash) ∧
      Exists fun salt => P.generateFromPassword salt password = some other

structure User.Matches (P : Platform) (rename : Equiv.Perm Int) (user other : User) : Prop where
  cid : other.cid = rename user.cid
  password : SameHash P user.password other.password
  firstName : other.firstName = user.firstName
  lastName : other.lastName = user.lastName
  networkRating : other.networkRating = user.networkRating

inductive Reply.Matches (P : Platform) (rename : Equiv.Perm Int) : Reply -> Reply -> Prop
  | failed (reason : DbError) : Matches P rename (.failed reason) (.failed reason)
  | user {user other : User} (same : user.Matches P rename other) :
      Matches P rename (.user user) (.user other)
  | done : Matches P rename .done .done
  | verified (ok : Bool) : Matches P rename (.verified ok) (.verified ok)

/-- One call, made to two repositories: the salts are drawn independently, and
a CID or a hash is the one that the repository itself has returned. -/
inductive Call.Matches (P : Platform) (rename : Equiv.Perm Int) : Call -> Call -> Prop
  | createUser (salt other : Bytes) (user : User) :
      Matches P rename (.createUser salt user) (.createUser other user)
  | getUserByCID (cid : Int) : Matches P rename (.getUserByCID cid) (.getUserByCID (rename cid))
  | updateUser (salt other : Bytes) (user : User) :
      Matches P rename (.updateUser salt user)
        (.updateUser other { user with cid := rename user.cid })
  | verifyPasswordHash (plaintext : Bytes) {hash other : Bytes} (same : SameHash P hash other) :
      Matches P rename (.verifyPasswordHash plaintext hash) (.verifyPasswordHash plaintext other)

namespace UserTable

/-- The tables have the same rows, up to salts and CIDs. -/
def SameRows (P : Platform) (rename : Equiv.Perm Int) (table other : UserTable) : Prop :=
  forall cid, Option.Rel
    (fun row twin => (userOf cid row).Matches P rename (userOf (rename cid) twin))
    (table.rows.lookup cid) (other.rows.lookup (rename cid))

/-- The renaming takes the CIDs that one sequence assigns to those of the other. -/
def SameSequence (rename : Equiv.Perm Int) (table other : UserTable) : Prop :=
  forall ahead : Nat, rename (table.nextCid + ahead) = other.nextCid + ahead

/-- A freshly migrated table, with the first CID of its sequence. -/
def fresh (first : Int) : UserTable where
  rows := ∅
  nextCid := first
  below := by
    intro cid member
    exact absurd member (AList.notMem_empty cid)

theorem sameRows_fresh (P : Platform) (rename : Equiv.Perm Int) (first other : Int) :
    SameRows P rename (fresh first) (fresh other) := by
  intro cid
  exact Option.Rel.none

end UserTable

/-- The repositories answer matching sequences of calls alike, and end with
the same rows. -/
def Agree (P : Platform) (rename : Equiv.Perm Int) (driver other : Driver)
    (database mirror : Database) (calls twins : List Call) : Prop :=
  List.Forall₂ (Reply.Matches P rename) (answers (driver.serve P) database calls)
      (answers (other.serve P) mirror twins) ∧
    UserTable.SameRows P rename (final (driver.serve P) database calls).users
      (final (other.serve P) mirror twins).users

/-! ## Hashes -/

theorem SameHash.of_generated {P : Platform} {salt other password hash twin : Bytes}
    (generated : P.generateFromPassword salt password = some hash)
    (regenerated : P.generateFromPassword other password = some twin) : SameHash P hash twin :=
  Or.inr ⟨password, ⟨salt, generated⟩, other, regenerated⟩

theorem SameHash.verifyPasswordHash_eq {P : Platform} (hashing : P.IdealHashing)
    {hash other : Bytes} (same : SameHash P hash other) (plaintext : Bytes) :
    verifyPasswordHash P plaintext hash = verifyPasswordHash P plaintext other := by
  rcases same with equal | ⟨password, ⟨salt, generated⟩, twin, regenerated⟩
  · rw [equal]
  · apply Bool.eq_iff_iff.mpr
    have left := hashing _ _ _ generated plaintext
    have right := hashing _ _ _ regenerated plaintext
    exact left.trans right.symm

theorem SaltBlind.generate {P : Platform} (blind : SaltBlind P) {salt password hash : Bytes}
    (generated : P.generateFromPassword salt password = some hash) (other : Bytes) :
    Exists fun twin => P.generateFromPassword other password = some twin := by
  apply Option.isSome_iff_exists.mp
  rw [blind other salt, generated]
  rfl

theorem SaltBlind.refuse {P : Platform} (blind : SaltBlind P) {salt password : Bytes}
    (refused : P.generateFromPassword salt password = none) (other : Bytes) :
    P.generateFromPassword other password = none := by
  apply Option.isNone_iff_eq_none.mp
  have same := blind other salt password
  rw [refused] at same
  simpa using same

/-! ## What one call does -/

theorem User.WithinLimits.admits {user : User} (limits : user.WithinLimits) (driver : Driver) :
    driver.admits user = true := by
  rcases limits with ⟨first, last, low, high⟩
  cases driver with
  | sqlite => rfl
  | postgres =>
      simp only [Driver.admits, fitsVarchar, fitsSmallint, first, last, decide_true, Bool.true_and,
        decide_eq_true_eq]
      omega

/-- A user whose password is not storable is refused by both repositories. -/
theorem serve_createUser_refused (driver : Driver) {P : Platform} (database : Database)
    (salt : Bytes) {user : User} (refused : ¬ Storable P user.password) :
    driver.serve P database (.createUser salt user) = (database, .failed .failed) := by
  have fails : forall placeholders failure,
      Database.createUserWith placeholders P database failure salt user = .error .failed := by
    intro placeholders failure
    unfold Database.createUserWith
    split
    · rfl
    · next plain =>
        cases generated : P.generateFromPassword salt user.password with
        | none => rfl
        | some hash =>
            have storable : Storable P user.password :=
              ⟨Bool.eq_false_iff.mpr plain, salt, by rw [generated]; rfl⟩
            exact absurd storable refused
  cases driver with
  | sqlite => simp only [Driver.serve, Driver.createUser, fails]
  | postgres => simp only [Driver.serve, Driver.createUser, fails]

/-- The Postgres repository refuses the others as well, in the statement. -/
theorem serve_postgres_createUser (P : Platform) (database : Database) (salt : Bytes)
    (user : User) :
    Driver.postgres.serve P database (.createUser salt user) = (database, .failed .failed) := by
  have fails : forall failure,
      Database.createUserWith 5 P database failure salt user = .error .failed := by
    intro failure
    unfold Database.createUserWith
    split
    · rfl
    · cases P.generateFromPassword salt user.password with
      | none => rfl
      | some hash => simp
  simp only [Driver.serve, Driver.createUser, fails]

/-- The SQLite repository stores them. -/
theorem serve_sqlite_createUser {P : Platform} (database : Database) {salt hash : Bytes}
    {user : User} (plain : user.password.contains colon = false)
    (generated : P.generateFromPassword salt user.password = some hash) :
    Driver.sqlite.serve P database (.createUser salt user) =
      ({ database with users := database.users.insertRow (UserTable.rowOf user hash) },
        .user { user with cid := database.users.nextCid }) := by
  simp only [Driver.serve, Driver.createUser, Database.createUserWith, plain, generated,
    Driver.admits, Bool.false_eq_true, if_false, Bool.not_true, Bool.false_or, ne_eq,
    not_true_eq_false, decide_false]

/-- Every other call has one statement in both repositories. -/
theorem serve_postgres_eq_sqlite {P : Platform} (database : Database) {call : Call}
    (limits : call.WithinLimits) (nothingNew : call.StoresNothingNew P) :
    Driver.postgres.serve P database call = Driver.sqlite.serve P database call := by
  cases call with
  | createUser salt user =>
      rw [serve_createUser_refused .postgres database salt nothingNew,
        serve_createUser_refused .sqlite database salt nothingNew]
  | getUserByCID cid => rfl
  | updateUser salt user =>
      have admitted : user.WithinLimits := limits
      simp only [Driver.serve, admitted.admits]
  | verifyPasswordHash plaintext hash => rfl

/-! ## Matching tables -/

section Tables

variable {P : Platform} {rename : Equiv.Perm Int} {table other : UserTable}

theorem User.Matches.rowOf {user twin : User} {column shown : Bytes}
    (firstName : twin.firstName = user.firstName) (lastName : twin.lastName = user.lastName)
    (networkRating : twin.networkRating = user.networkRating) (same : SameHash P column shown)
    (cid : Int) :
    (userOf cid (UserTable.rowOf user column)).Matches P rename
      (userOf (rename cid) (UserTable.rowOf twin shown)) :=
  ⟨rfl, same, firstName, lastName, networkRating⟩

theorem UserTable.sameRows_insertRow (same : SameRows P rename table other)
    (sequence : SameSequence rename table other) {row twin : UserRow}
    (stored : forall cid, (userOf cid row).Matches P rename (userOf (rename cid) twin)) :
    SameRows P rename (table.insertRow row) (other.insertRow twin) := by
  have next : rename table.nextCid = other.nextCid := by
    have first := sequence 0
    simpa using first
  intro cid
  rw [lookup_insertRow, lookup_insertRow]
  by_cases assigned : cid = table.nextCid
  · rw [if_pos assigned, assigned, if_pos next]
    exact Option.Rel.some (next ▸ stored table.nextCid)
  · have elsewhere : rename cid ≠ other.nextCid := by
      rw [← next]
      exact rename.injective.ne assigned
    rw [if_neg assigned, if_neg elsewhere]
    exact same cid

theorem UserTable.sameSequence_insertRow (sequence : SameSequence rename table other)
    (row twin : UserRow) : SameSequence rename (table.insertRow row) (other.insertRow twin) := by
  intro ahead
  have later := sequence (ahead + 1)
  simp only [insertRow]
  rw [add_assoc, add_assoc, add_comm (1 : Int), ← Nat.cast_succ]
  exact later

theorem UserTable.nextCid_updateRow {updated : UserTable} {cid : Int}
    {change : UserRow -> UserRow} (done : table.updateRow cid change = some updated) :
    updated.nextCid = table.nextCid := by
  unfold updateRow at done
  split at done
  · cases done
  · cases done
    rfl

theorem UserTable.updateRow_eq_none_iff {cid : Int} {change : UserRow -> UserRow} :
    table.updateRow cid change = none ↔ table.rows.lookup cid = none := by
  unfold updateRow
  split
  · next absent => simp [absent]
  · next row found => simp [found]

/-- Updates of one CID on matching tables both find no row, or lead to
matching tables. -/
theorem UserTable.updateRow_matches (same : SameRows P rename table other)
    (sequence : SameSequence rename table other) {change shown : UserRow -> UserRow} {cid : Int}
    (changed : forall row twin,
      (userOf cid row).Matches P rename (userOf (rename cid) twin) ->
        (userOf cid (change row)).Matches P rename (userOf (rename cid) (shown twin))) :
    Option.Rel (fun updated result =>
        SameRows P rename updated result ∧ SameSequence rename updated result)
      (table.updateRow cid change) (other.updateRow (rename cid) shown) := by
  have here := same cid
  cases updated : table.updateRow cid change with
  | none =>
      rw [updateRow_eq_none_iff.mp updated] at here
      cases found : other.rows.lookup (rename cid) with
      | some row =>
          rw [found] at here
          cases here
      | none =>
          rw [updateRow_eq_none_iff.mpr found]
          exact Option.Rel.none
  | some after =>
      cases result : other.updateRow (rename cid) shown with
      | none =>
          rw [updateRow_eq_none_iff.mp result] at here
          cases found : table.rows.lookup cid with
          | none =>
              rw [updateRow_eq_none_iff.mpr found] at updated
              cases updated
          | some row =>
              rw [found] at here
              cases here
      | some behind =>
          apply Option.Rel.some
          constructor
          · intro key
            rw [lookup_updateRow updated, lookup_updateRow result]
            by_cases own : key = cid
            · subst own
              rw [if_pos rfl, if_pos rfl]
              generalize table.rows.lookup key = row at here ⊢
              generalize other.rows.lookup (rename key) = twin at here ⊢
              cases here with
              | none => exact Option.Rel.none
              | some matching => exact Option.Rel.some (changed _ _ matching)
            · rw [if_neg own, if_neg (rename.injective.ne own)]
              exact same key
          · intro ahead
            rw [nextCid_updateRow updated, nextCid_updateRow result]
            exact sequence ahead

end Tables

/-! ## The repositories are coupled -/

/-- The databases of two repositories that have served matching calls. -/
def Database.Matches (P : Platform) (rename : Equiv.Perm Int) (database mirror : Database) :
    Prop :=
  UserTable.SameRows P rename database.users mirror.users ∧
    UserTable.SameSequence rename database.users mirror.users

section Coupling

variable {P : Platform} {rename : Equiv.Perm Int} {database mirror : Database}

/-- Two outcomes of a call: alike, with matching databases. -/
def Outcomes (P : Platform) (rename : Equiv.Perm Int) (outcome other : Database × Reply) : Prop :=
  Database.Matches P rename outcome.1 other.1 ∧ Reply.Matches P rename outcome.2 other.2

theorem serve_createUser_matches (blind : SaltBlind P)
    (matching : Database.Matches P rename database mirror) (salt other : Bytes) (user : User) :
    Outcomes P rename (Driver.sqlite.serve P database (.createUser salt user))
      (Driver.sqlite.serve P mirror (.createUser other user)) := by
  by_cases storable : Storable P user.password
  · rcases storable with ⟨plain, first, generated⟩
    rcases Option.isSome_iff_exists.mp generated with ⟨_, generated⟩
    rcases blind.generate generated salt with ⟨hash, hashed⟩
    rcases blind.generate generated other with ⟨twin, rehashed⟩
    rw [serve_sqlite_createUser database plain hashed,
      serve_sqlite_createUser mirror plain rehashed]
    have next : rename database.users.nextCid = mirror.users.nextCid := by
      have start := matching.2 0
      simpa using start
    have sameHash : SameHash P hash twin := SameHash.of_generated hashed rehashed
    refine ⟨⟨?_, ?_⟩, ?_⟩
    · apply UserTable.sameRows_insertRow matching.1 matching.2
      exact User.Matches.rowOf rfl rfl rfl sameHash
    · exact UserTable.sameSequence_insertRow matching.2 _ _
    · exact Reply.Matches.user ⟨next.symm, Or.inl rfl, rfl, rfl, rfl⟩
  · rw [serve_createUser_refused .sqlite database salt storable,
      serve_createUser_refused .sqlite mirror other storable]
    exact ⟨matching, Reply.Matches.failed _⟩

theorem serve_getUserByCID_matches (matching : Database.Matches P rename database mirror)
    (cid : Int) :
    Outcomes P rename (Driver.sqlite.serve P database (.getUserByCID cid))
      (Driver.sqlite.serve P mirror (.getUserByCID (rename cid))) := by
  have here := matching.1 cid
  simp only [Driver.serve, Database.getUserByCID, Bool.false_eq_true, if_false]
  generalize database.users.rows.lookup cid = row at here ⊢
  generalize mirror.users.rows.lookup (rename cid) = twin at here ⊢
  cases here with
  | none => exact ⟨matching, Reply.Matches.failed _⟩
  | some same => exact ⟨matching, Reply.Matches.user same⟩

/-- Executing matching updates, as `UpdateUser` does at its end. -/
theorem execute_matches (matching : Database.Matches P rename database mirror) {cid : Int}
    {change shown : UserRow -> UserRow}
    (changed : forall row twin,
      (userOf cid row).Matches P rename (userOf (rename cid) twin) ->
        (userOf cid (change row)).Matches P rename (userOf (rename cid) (shown twin))) :
    Outcomes P rename
      (match (match database.users.updateRow cid change with
          | none => .error .noRows
          | some users => .ok { database with users := users } : Except DbError Database) with
        | .error reason => (database, .failed reason)
        | .ok written => (written, .done))
      (match (match mirror.users.updateRow (rename cid) shown with
          | none => .error .noRows
          | some users => .ok { mirror with users := users } : Except DbError Database) with
        | .error reason => (mirror, .failed reason)
        | .ok written => (written, .done)) := by
  have both := UserTable.updateRow_matches matching.1 matching.2 changed
  generalize database.users.updateRow cid change = updated at both ⊢
  generalize mirror.users.updateRow (rename cid) shown = result at both ⊢
  cases both with
  | none => exact ⟨matching, Reply.Matches.failed _⟩
  | some after => exact ⟨after, Reply.Matches.done⟩

theorem serve_updateUser_matches (blind : SaltBlind P)
    (matching : Database.Matches P rename database mirror) (salt other : Bytes) (user : User) :
    Outcomes P rename (Driver.sqlite.serve P database (.updateUser salt user))
      (Driver.sqlite.serve P mirror (.updateUser other { user with cid := rename user.cid })) := by
  have refused : Outcomes P rename (database, .failed .failed) (mirror, .failed .failed) :=
    ⟨matching, Reply.Matches.failed _⟩
  simp only [Driver.serve, Driver.admits, Bool.not_true, Database.updateUser, Bool.false_eq_true,
    if_false]
  by_cases empty : user.password = []
  · rw [if_neg (not_not_intro empty), if_neg (not_not_intro empty)]
    apply execute_matches matching
    intro row twin same
    exact User.Matches.rowOf rfl rfl rfl same.password user.cid
  · rw [if_pos empty, if_pos empty]
    by_cases marked : user.password.contains colon = true
    · rw [if_pos marked, if_pos marked]
      exact refused
    · rw [if_neg marked, if_neg marked]
      cases generated : P.generateFromPassword salt user.password with
      | none =>
          rw [blind.refuse generated other]
          exact refused
      | some hash =>
          rcases blind.generate generated other with ⟨twin, regenerated⟩
          rw [regenerated]
          apply execute_matches matching
          intro _ _ _
          have sameHash : SameHash P hash twin := SameHash.of_generated generated regenerated
          exact User.Matches.rowOf rfl rfl rfl sameHash user.cid

theorem serve_verifyPasswordHash_matches (hashing : P.IdealHashing)
    (matching : Database.Matches P rename database mirror) (plaintext : Bytes) {hash other : Bytes}
    (same : SameHash P hash other) :
    Outcomes P rename (Driver.sqlite.serve P database (.verifyPasswordHash plaintext hash))
      (Driver.sqlite.serve P mirror (.verifyPasswordHash plaintext other)) := by
  refine ⟨matching, ?_⟩
  simp only [Driver.serve, same.verifyPasswordHash_eq hashing]
  exact Reply.Matches.verified _

theorem serve_sqlite_matches (hashing : P.IdealHashing) (blind : SaltBlind P)
    (matching : Database.Matches P rename database mirror) {call twin : Call}
    (same : Call.Matches P rename call twin) :
    Outcomes P rename (Driver.sqlite.serve P database call)
      (Driver.sqlite.serve P mirror twin) := by
  cases same with
  | createUser salt other user => exact serve_createUser_matches blind matching salt other user
  | getUserByCID cid => exact serve_getUserByCID_matches matching cid
  | updateUser salt other user => exact serve_updateUser_matches blind matching salt other user
  | verifyPasswordHash plaintext sameHash =>
      exact serve_verifyPasswordHash_matches hashing matching plaintext sameHash

end Coupling

theorem Call.Matches.limits {P : Platform} {rename : Equiv.Perm Int} {call twin : Call}
    (same : Call.Matches P rename call twin) (limits : call.WithinLimits) : twin.WithinLimits := by
  cases same <;> exact limits

theorem Call.Matches.nothingNew {P : Platform} {rename : Equiv.Perm Int} {call twin : Call}
    (same : Call.Matches P rename call twin) (nothingNew : call.StoresNothingNew P) :
    twin.StoresNothingNew P := by
  cases same <;> exact nothingNew

/-- Two SQLite repositories are coupled on all matching calls. -/
theorem serve_sqlite_coupled {P : Platform} (hashing : P.IdealHashing) (blind : SaltBlind P)
    (rename : Equiv.Perm Int) :
    Coupled (Database.Matches P rename) (Call.Matches P rename) (Reply.Matches P rename)
      (Driver.sqlite.serve P) (Driver.sqlite.serve P) where
  answer := fun _ _ _ _ matching same => (serve_sqlite_matches hashing blind matching same).2
  next := fun _ _ _ _ matching same => (serve_sqlite_matches hashing blind matching same).1

/-- An SQLite repository and a Postgres one are coupled on the calls that
store no new user. -/
theorem serve_coupled {P : Platform} (hashing : P.IdealHashing) (blind : SaltBlind P)
    (rename : Equiv.Perm Int) :
    Coupled (Database.Matches P rename)
      (fun call twin => (call.WithinLimits ∧ call.StoresNothingNew P) ∧
        Call.Matches P rename call twin)
      (Reply.Matches P rename) (Driver.sqlite.serve P) (Driver.postgres.serve P) where
  answer := by
    intro database mirror call twin matching pair
    rcases pair with ⟨⟨limits, nothingNew⟩, same⟩
    rw [serve_postgres_eq_sqlite mirror (same.limits limits) (same.nothingNew nothingNew)]
    exact (serve_sqlite_matches hashing blind matching same).2
  next := by
    intro database mirror call twin matching pair
    rcases pair with ⟨⟨limits, nothingNew⟩, same⟩
    rw [serve_postgres_eq_sqlite mirror (same.limits limits) (same.nothingNew nothingNew)]
    exact (serve_sqlite_matches hashing blind matching same).1

/-! ## When the two agree -/

theorem matches_fresh (P : Platform) {rename : Equiv.Perm Int} {first other : Int}
    (sequence : forall ahead : Nat, rename (first + ahead) = other + ahead)
    (config shown : AList fun _ : Bytes => Bytes) :
    Database.Matches P rename ⟨UserTable.fresh first, config⟩ ⟨UserTable.fresh other, shown⟩ :=
  ⟨UserTable.sameRows_fresh P rename first other, sequence⟩

/-- Two SQLite repositories agree on every sequence of calls: neither the
salts nor the CIDs that they draw can be told from the answers. -/
theorem agree_sqlite {P : Platform} (hashing : P.IdealHashing) (blind : SaltBlind P)
    {rename : Equiv.Perm Int} {database mirror : Database}
    (matching : Database.Matches P rename database mirror) {calls twins : List Call}
    (same : List.Forall₂ (Call.Matches P rename) calls twins) :
    Agree P rename .sqlite .sqlite database mirror calls twins :=
  ⟨(serve_sqlite_coupled hashing blind rename).forall₂_answers matching same,
    ((serve_sqlite_coupled hashing blind rename).related_final matching same).1⟩

/-- The two repositories disagree on every sequence of calls with a
`CreateUser` that has anything to store, from any two states. -/
theorem not_agree_of_storable {P : Platform} (blind : SaltBlind P) {rename : Equiv.Perm Int}
    {database mirror : Database} {calls twins : List Call}
    (same : List.Forall₂ (Call.Matches P rename) calls twins) {salt : Bytes} {user : User}
    (member : Call.createUser salt user ∈ calls) (storable : Storable P user.password) :
    ¬ Agree P rename .sqlite .postgres database mirror calls twins := by
  intro agree
  rcases exists_alike_of_mem same agree.1 member with ⟨before, behind, twin, pair, alike⟩
  rcases storable with ⟨plain, first, generated⟩
  rcases Option.isSome_iff_exists.mp generated with ⟨_, generated⟩
  rcases blind.generate generated salt with ⟨hash, hashed⟩
  cases pair with
  | createUser _ other _ =>
      rw [serve_sqlite_createUser before plain hashed, serve_postgres_createUser] at alike
      cases alike

/-- Started on fresh tables, the two repositories agree on a sequence of calls
exactly if no `CreateUser` among them has a password that can be stored. -/
theorem agree_iff {P : Platform} (hashing : P.IdealHashing) (blind : SaltBlind P)
    {rename : Equiv.Perm Int} {first other : Int}
    (sequence : forall ahead : Nat, rename (first + ahead) = other + ahead)
    (config shown : AList fun _ : Bytes => Bytes) {calls twins : List Call}
    (same : List.Forall₂ (Call.Matches P rename) calls twins)
    (limits : forall call, call ∈ calls -> call.WithinLimits) :
    Agree P rename .sqlite .postgres ⟨UserTable.fresh first, config⟩
        ⟨UserTable.fresh other, shown⟩ calls twins ↔
      forall call, call ∈ calls -> call.StoresNothingNew P := by
  constructor
  · intro agree call member
    cases call with
    | createUser salt user =>
        intro storable
        exact not_agree_of_storable blind same member storable agree
    | getUserByCID cid => exact trivial
    | updateUser salt user => exact trivial
    | verifyPasswordHash plaintext hash => exact trivial
  · intro nothingNew
    have matching := matches_fresh P sequence config shown
    have paired : List.Forall₂ (fun call twin => (call.WithinLimits ∧ call.StoresNothingNew P) ∧
        Call.Matches P rename call twin) calls twins := by
      apply (List.forall₂_and_left calls twins).mpr
      exact ⟨fun call member => ⟨limits call member, nothingNew call member⟩, same⟩
    have coupled := serve_coupled hashing blind rename
    exact ⟨coupled.forall₂_answers matching paired, (coupled.related_final matching paired).1⟩

/-! ## One new user -/

theorem platform_saltBlind : SaltBlind Symbolic.platform := by
  intro salt other password
  show (Symbolic.generateFromPassword salt password).isSome =
    (Symbolic.generateFromPassword other password).isSome
  unfold Symbolic.generateFromPassword
  split <;> rfl

def firstUser : User := ⟨0, bytes "password123", some (bytes "Ann"), none, 1⟩

/-- A lookup and a refused `CreateUser`, after which the two still agree. -/
theorem agree_iff_refused :
    Agree Symbolic.platform (Equiv.refl Int) .sqlite .postgres ⟨UserTable.fresh 1, ∅⟩
      ⟨UserTable.fresh 1, ∅⟩
      [.getUserByCID 7, .createUser (bytes "a") { firstUser with password := bytes "pass:word" }]
      [.getUserByCID 7,
        .createUser (bytes "b") { firstUser with password := bytes "pass:word" }] := by
  apply (agree_iff Symbolic.platform_idealHashing platform_saltBlind (fun _ => rfl) ∅ ∅ ?_ ?_).mpr
  · intro call member
    rcases List.mem_pair.mp member with here | here
    · subst here
      exact trivial
    · subst here
      intro storable
      exact absurd storable.1 (by decide)
  · apply List.Forall₂.cons (Call.Matches.getUserByCID 7)
    exact List.Forall₂.cons (Call.Matches.createUser _ _ _) List.Forall₂.nil
  · intro call member
    rcases List.mem_pair.mp member with here | here
    · subst here
      exact trivial
    · subst here
      refine ⟨?_, ?_, ?_, ?_⟩ <;> decide

/-- SQLite creates this user and Postgres does not, under any renaming. -/
theorem first_user_divides_backends :
    firstUser.WithinLimits ∧
      forall (rename : Equiv.Perm Int) (salt other : Bytes),
        ¬ Agree Symbolic.platform rename .sqlite .postgres ⟨UserTable.fresh 1, ∅⟩
          ⟨UserTable.fresh 1, ∅⟩ [.createUser salt firstUser] [.createUser other firstUser] := by
  constructor
  · refine ⟨?_, ?_, ?_, ?_⟩ <;> decide
  · intro rename salt other
    apply not_agree_of_storable platform_saltBlind
      (List.Forall₂.cons (Call.Matches.createUser _ _ _) List.Forall₂.nil)
      (List.mem_singleton.mpr rfl)
    exact ⟨by decide, [], rfl⟩

end Db
end OpenFsd
