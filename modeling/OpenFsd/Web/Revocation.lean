import OpenFsd.Go.Exact
import OpenFsd.Web.SecretKey

namespace OpenFsd
namespace Web
namespace Steps

open Db Fsd Interleaving Transition

/-!
# What a reset of the secret key revokes

A token is accepted by a check exactly if its issuer and the checker have read
the same key.  The key is written by resets and by updates of the configuration,
so this is the case exactly if none of these has come between the two reads.  A
start of the FSD server writes the key only where there is none, and then
nothing has been signed before it.

All of this is said about the journal, in which the position of a call is the
time at which it was executed.
-/

/-- A signature verifies under the key that made it, and under no other. -/
def ExactSignatures (P : Platform) : Prop :=
  forall claims key raw, P.signedString claims key = some raw ->
    forall other, P.verifies raw other = true ↔ other = key

def Call.readsSecret : Call -> Bool
  | .getConfig _ key => decide (key = configJwtSecretKey)
  | _ => false

section Journal

variable (P : Platform) (database : Database) (journal : List (Entry Answer))

/-- The database before the call at a time. -/
def databaseAt (time : Nat) : Database :=
  replay (exec P) database (journal.take time)

def secretAt (time : Nat) : Option Bytes :=
  (databaseAt P database journal time).config.lookup configJwtSecretKey

/-- A reset or an update of the configuration has written the value of a key,
at this time. -/
def Writes (journal : List (Entry Answer)) (time : Nat) (key value : Bytes) : Prop :=
  Exists fun task => Exists fun fails =>
    journal[time]? = some ⟨task, .setConfig fails key value, .ok ()⟩

/-- Whatever is written as the key differs from all keys before it. -/
def FreshSecrets : Prop :=
  forall time value, Writes journal time configJwtSecretKey value ->
    forall earlier, earlier ≤ time -> secretAt P database journal earlier ≠ some value

/-- The last time before a call at which its task has read the key. -/
structure LastRead (task read time : Nat) : Prop where
  earlier : read < time
  made : Exists fun fails => Exists fun answer =>
    journal[read]? = some ⟨task, .getConfig fails configJwtSecretKey, answer⟩
  last : forall between entry, read < between -> between < time ->
    journal[between]? = some entry -> entry.task = task -> entry.request.readsSecret = false

/-- Nobody has written the key between two reads. -/
def Unrevoked (journal : List (Entry Answer)) (issued checked : Nat) : Prop :=
  forall time, (issued < time ∧ time < checked) ∨ (checked < time ∧ time < issued) ->
    forall value, ¬ Writes journal time configJwtSecretKey value

end Journal

/-- The task is a start of the FSD server, which has this left to do. -/
def Initializing (pool : TokenPool) (index : Nat) (env : InitEnv) (rest : Flow Outcome) : Prop :=
  pool.tasks[index]? = some ⟨.initDefaultConfig env, rest⟩

/-- What holds in a run.  Values are written by resets and updates.  The
signature check of a token succeeds exactly if no write of the key lies between
the last reads of who has signed it and of who checks it.  A start of the FSD
server leaves every key alone that has a value, and when it has succeeded, every
default key has one. -/
structure Revokes (P : Platform) (database : Database) (pool : TokenPool) : Prop where
  written : forall time key value, Writes pool.journal time key value ->
    Exists fun entry => Exists fun task => pool.journal[time]? = some entry ∧
      pool.tasks[entry.task]? = some task ∧ task.origin.overwrites = true
  accepted : forall signing issuer claims secretKey rawToken checking consumer now presented answer,
    pool.journal[signing]? = some ⟨issuer, .signedString claims secretKey, some rawToken⟩ ->
      pool.journal[checking]? = some ⟨consumer, .parseJwtToken now rawToken presented, answer⟩ ->
        Exists fun issued => Exists fun checked =>
          LastRead pool.journal issuer issued signing ∧
            LastRead pool.journal consumer checked checking ∧
              (P.verifies rawToken presented = true ↔ Unrevoked pool.journal issued checked)
  kept : forall time entry env (rest : Flow Outcome), pool.journal[time]? = some entry ->
    Initializing pool entry.task env rest ->
      forall key value,
        (databaseAt P database pool.journal time).config.lookup key = some value ->
          (databaseAt P database pool.journal (time + 1)).config.lookup key = some value
  present : forall index env,
    Initializing pool index env (.done (.initialized (.ok ()))) ->
      forall secretKey, forall pair, pair ∈ defaultConfig secretKey -> pair.1 ∈ pool.store.config

/-! ## The last read of a task -/

theorem callsOf_append (index : Nat) (first second : List (Entry Answer)) :
    callsOf index (first ++ second) = callsOf index first ++ callsOf index second :=
  List.filter_append ..

theorem LastRead.next {journal : List (Entry Answer)} {task read time : Nat}
    (lastRead : LastRead journal task read time)
    (other : forall entry, journal[time]? = some entry -> entry.task = task ->
      entry.request.readsSecret = false) : LastRead journal task read (time + 1) where
  earlier := Nat.lt_succ_of_lt lastRead.earlier
  made := lastRead.made
  last := by
    intro between entry above below found own
    rcases Nat.lt_succ_iff_lt_or_eq.mp below with before | here
    · exact lastRead.last between entry above before found own
    · rw [here] at found
      exact other entry found own

/-- Another call than a read of the key leaves the record alone. -/
theorem update_of_not_readsSecret (overwrites : Bool) {held : Option Bytes} {entry : Entry Answer}
    (other : entry.request.readsSecret = false) :
    (secretMonitor overwrites).update held entry.request entry.answer = held := by
  rcases entry with ⟨task, request, answer⟩
  cases request with
  | getConfig fails key =>
      have different : key ≠ configJwtSecretKey := of_decide_eq_false other
      exact if_neg different
  | _ => rfl

/-- The key in the record of a task is the answer to its last read. -/
theorem exists_lastRead {overwrites : Bool} {journal : List (Entry Answer)} {task time : Nat}
    {secretKey : Bytes}
    (held : (secretMonitor overwrites).after none (callsOf task (journal.take time)) =
      some secretKey) :
    Exists fun read => LastRead journal task read time ∧ Exists fun fails =>
      journal[read]? = some ⟨task, .getConfig fails configJwtSecretKey, .ok secretKey⟩ := by
  induction time with
  | zero => cases held
  | succ time inductionHypothesis =>
      rw [List.take_add_one, callsOf_append, Monitor.after_append] at held
      cases found : journal[time]? with
      | none =>
          rw [found] at held
          rcases inductionHypothesis held with ⟨read, lastRead, made⟩
          refine ⟨read, lastRead.next ?_, made⟩
          intro entry impossible
          rw [found] at impossible
          cases impossible
      | some entry =>
          rw [found, Option.toList_some] at held
          by_cases own : entry.task = task
          · have single : callsOf task [entry] = [entry] := by
              simp [callsOf, own]
            rw [single] at held
            by_cases reads : entry.request.readsSecret = true
            · rcases entry with ⟨reader, request, answer⟩
              cases request with
              | getConfig fails key =>
                  have same : key = configJwtSecretKey := of_decide_eq_true reads
                  subst same
                  have own : reader = task := own
                  subst own
                  have updated : (if configJwtSecretKey = configJwtSecretKey then answer.toOption
                      else (secretMonitor overwrites).after none
                        (callsOf reader (journal.take time))) = some secretKey := held
                  rw [if_pos rfl] at updated
                  cases answer with
                  | error reason => cases updated
                  | ok read =>
                      rw [Option.some.inj updated] at found
                      refine ⟨time, ⟨Nat.lt_succ_self time, ⟨fails, _, found⟩, ?_⟩, fails, found⟩
                      intro between entry above below
                      omega
              | _ => cases reads
            · have silent := Bool.eq_false_iff.mpr reads
              have kept : (secretMonitor overwrites).after none
                  (callsOf task (journal.take time)) = some secretKey := by
                rw [← held]
                exact (update_of_not_readsSecret overwrites silent).symm
              rcases inductionHypothesis kept with ⟨read, lastRead, made⟩
              refine ⟨read, lastRead.next ?_, made⟩
              intro other same _
              rw [found] at same
              rw [← Option.some.inj same]
              exact silent
          · have none : callsOf task [entry] = [] := by
              simp [callsOf, own]
            rw [none] at held
            rcases inductionHypothesis held with ⟨read, lastRead, made⟩
            refine ⟨read, lastRead.next ?_, made⟩
            intro other same mine
            rw [found] at same
            rw [← Option.some.inj same] at mine
            exact absurd mine own

/-! ## The key between two reads -/

section History

variable {P : Platform} {database : Database} {pool : TokenPool}

theorem databaseAt_succ {time : Nat} {entry : Entry Answer}
    (found : pool.journal[time]? = some entry) :
    databaseAt P database pool.journal (time + 1) =
      (exec P (databaseAt P database pool.journal time) entry.request).2 := by
  unfold databaseAt
  rw [List.take_add_one, found, Option.toList_some, replay_append]
  rfl

theorem databaseAt_succ_of_none {time : Nat} (found : pool.journal[time]? = none) :
    databaseAt P database pool.journal (time + 1) = databaseAt P database pool.journal time := by
  unfold databaseAt
  rw [List.take_add_one, found, Option.toList_none, List.append_nil]

theorem answer_eq (explained : Explained (exec P) database pool) {time : Nat}
    {entry : Entry Answer} (found : pool.journal[time]? = some entry) :
    entry.answer = (exec P (databaseAt P database pool.journal time) entry.request).1 :=
  explained.answers time entry found

/-- A call that changes a key is a write, or has found no value. -/
theorem lookup_succ (explained : Explained (exec P) database pool) {time : Nat} {key value : Bytes}
    (stored : (databaseAt P database pool.journal time).config.lookup key = some value)
    (unwritten : forall written, ¬ Writes pool.journal time key written) :
    (databaseAt P database pool.journal (time + 1)).config.lookup key = some value := by
  cases found : pool.journal[time]? with
  | none =>
      rw [databaseAt_succ_of_none found]
      exact stored
  | some entry =>
      rw [databaseAt_succ found]
      have answered := answer_eq explained found
      generalize databaseAt P database pool.journal time = before at stored answered ⊢
      rcases entry with ⟨task, request, answer⟩
      cases request with
      | setConfig fails other written =>
          simp only [exec] at answered ⊢
          cases done : before.setConfig fails other written with
          | error reason => exact stored
          | ok after =>
              rw [done] at answered
              show after.config.lookup key = some value
              rw [Database.lookup_setConfig done]
              by_cases own : key = other
              · rw [answered, ← own] at found
                exact absurd ⟨task, fails, found⟩ (unwritten written)
              · rw [if_neg own]
                exact stored
      | setConfigIfNotExists fails other written =>
          simp only [exec]
          cases done : before.setConfigIfNotExists fails other written with
          | error reason => exact stored
          | ok after =>
              show after.config.lookup key = some value
              rw [Database.lookup_setConfigIfNotExists done, stored]
              rfl
      | _ => exact stored

theorem lookup_of_writes (explained : Explained (exec P) database pool) {time : Nat}
    {key value : Bytes} (writes : Writes pool.journal time key value) :
    (databaseAt P database pool.journal (time + 1)).config.lookup key = some value := by
  rcases writes with ⟨task, fails, found⟩
  rw [databaseAt_succ found]
  have answered := answer_eq explained found
  simp only [exec] at answered ⊢
  cases done : (databaseAt P database pool.journal time).setConfig fails key value with
  | error reason =>
      rw [done] at answered
      cases answered
  | ok after =>
      show after.config.lookup key = some value
      rw [Database.lookup_setConfig done, if_pos rfl]

/-- Without a write in between, the key stays. -/
theorem secretAt_of_unwritten (explained : Explained (exec P) database pool) {first last : Nat}
    {secretKey : Bytes} (ordered : first ≤ last)
    (stored : secretAt P database pool.journal first = some secretKey)
    (unwritten : forall time, first ≤ time -> time < last ->
      forall value, ¬ Writes pool.journal time configJwtSecretKey value) :
    secretAt P database pool.journal last = some secretKey := by
  induction last, ordered using Nat.le_induction with
  | base => exact stored
  | succ last ordered inductionHypothesis =>
      have before := inductionHypothesis fun time above below =>
        unwritten time above (Nat.lt_succ_of_lt below)
      exact lookup_succ explained before (unwritten last ordered (Nat.lt_succ_self last))

/-- After a write, the key is another one than it has ever been before. -/
theorem secretAt_of_writes (explained : Explained (exec P) database pool)
    (fresh : FreshSecrets P database pool.journal) {first written last : Nat}
    {secretKey value : Bytes} (stored : secretAt P database pool.journal first = some secretKey)
    (ordered : first ≤ written) (writes : Writes pool.journal written configJwtSecretKey value)
    (later : written + 1 ≤ last) :
    Exists fun other => secretAt P database pool.journal last = some other ∧ other ≠ secretKey := by
  have renewed : forall time value, Writes pool.journal time configJwtSecretKey value ->
      first ≤ time -> Exists fun other =>
        secretAt P database pool.journal (time + 1) = some other ∧ other ≠ secretKey := by
    intro time value writes ordered
    refine ⟨value, lookup_of_writes explained writes, ?_⟩
    intro same
    exact fresh time value writes first ordered (same ▸ stored)
  induction last, later using Nat.le_induction with
  | base => exact renewed written value writes ordered
  | succ last later inductionHypothesis =>
      by_cases again : Exists fun value => Writes pool.journal last configJwtSecretKey value
      · rcases again with ⟨value, writes⟩
        exact renewed last value writes (by omega)
      · rcases inductionHypothesis with ⟨other, held, different⟩
        refine ⟨other, lookup_succ explained held ?_, different⟩
        exact fun value writes => again ⟨value, writes⟩

theorem not_writes_of_reads {time task : Nat} {fails : Bool} {answer : Except DbError Bytes}
    (reads : pool.journal[time]? = some ⟨task, .getConfig fails configJwtSecretKey, answer⟩)
    (key value : Bytes) : ¬ Writes pool.journal time key value := by
  rintro ⟨writer, failed, found⟩
  rw [reads] at found
  cases found

theorem secretAt_of_reads (explained : Explained (exec P) database pool) {time task : Nat}
    {fails : Bool} {secretKey : Bytes}
    (reads : pool.journal[time]? =
      some ⟨task, .getConfig fails configJwtSecretKey, .ok secretKey⟩) :
    secretAt P database pool.journal time = some secretKey := by
  have answered := answer_eq explained reads
  exact Database.getConfig_eq_ok answered.symm

/-- Two reads, in the order of time, return the same key exactly if there is no
write between them. -/
theorem same_secret_iff (explained : Explained (exec P) database pool)
    (fresh : FreshSecrets P database pool.journal) {first last reader other : Nat}
    {fails failed : Bool} {secretKey presented : Bytes} (ordered : first ≤ last)
    (reads : pool.journal[first]? =
      some ⟨reader, .getConfig fails configJwtSecretKey, .ok secretKey⟩)
    (checks : pool.journal[last]? =
      some ⟨other, .getConfig failed configJwtSecretKey, .ok presented⟩) :
    presented = secretKey ↔ forall time, first < time ∧ time < last ->
      forall value, ¬ Writes pool.journal time configJwtSecretKey value := by
  have stored := secretAt_of_reads explained reads
  have found := secretAt_of_reads explained checks
  constructor
  · intro same time between value writes
    rcases secretAt_of_writes explained fresh stored (Nat.le_of_lt between.1) writes between.2 with
      ⟨renewed, held, different⟩
    rw [found, same] at held
    exact different (Option.some.inj held).symm
  · intro unwritten
    have kept := secretAt_of_unwritten explained ordered stored fun time above below => by
      rcases Nat.lt_or_eq_of_le above with after | here
      · exact unwritten time ⟨after, below⟩
      · exact here ▸ not_writes_of_reads reads configJwtSecretKey
    exact Option.some.inj (found.symm.trans kept)

theorem same_secret_iff_unrevoked (explained : Explained (exec P) database pool)
    (fresh : FreshSecrets P database pool.journal) {issued checked issuer consumer : Nat}
    {fails failed : Bool} {secretKey presented : Bytes}
    (reads : pool.journal[issued]? =
      some ⟨issuer, .getConfig fails configJwtSecretKey, .ok secretKey⟩)
    (checks : pool.journal[checked]? =
      some ⟨consumer, .getConfig failed configJwtSecretKey, .ok presented⟩) :
    presented = secretKey ↔ Unrevoked pool.journal issued checked := by
  rcases Nat.le_total issued checked with ordered | ordered
  · rw [same_secret_iff explained fresh ordered reads checks]
    constructor
    · intro unwritten time between
      exact unwritten time (by omega)
    · intro unrevoked time between
      exact unrevoked time (Or.inl between)
  · rw [eq_comm, same_secret_iff explained fresh ordered checks reads]
    constructor
    · intro unwritten time between
      exact unwritten time (by omega)
    · intro unrevoked time between
      exact unrevoked time (Or.inr between)

/-! ## The default configuration -/

/-- A key with a value keeps one. -/
theorem present_succ (explained : Explained (exec P) database pool) {time : Nat} {key : Bytes}
    (present : key ∈ (databaseAt P database pool.journal time).config) :
    key ∈ (databaseAt P database pool.journal (time + 1)).config := by
  rcases Option.isSome_iff_exists.mp (AList.lookup_isSome.mpr present) with ⟨value, stored⟩
  apply AList.lookup_isSome.mp
  by_cases written : Exists fun value => Writes pool.journal time key value
  · rcases written with ⟨value, writes⟩
    rw [lookup_of_writes explained writes]
    rfl
  · rw [lookup_succ explained stored fun value writes => written ⟨value, writes⟩]
    rfl

theorem present_of_le (explained : Explained (exec P) database pool) {first last : Nat}
    {key : Bytes} (ordered : first ≤ last)
    (present : key ∈ (databaseAt P database pool.journal first).config) :
    key ∈ (databaseAt P database pool.journal last).config := by
  induction last, ordered using Nat.le_induction with
  | base => exact present
  | succ last ordered inductionHypothesis => exact present_succ explained inductionHypothesis

/-- A default that was written is there, whoever has written it first. -/
theorem present_of_setConfigIfNotExists (explained : Explained (exec P) database pool)
    {time task : Nat} {fails : Bool} {key value : Bytes}
    (found : pool.journal[time]? = some ⟨task, .setConfigIfNotExists fails key value, .ok ()⟩) :
    key ∈ (databaseAt P database pool.journal (time + 1)).config := by
  rw [databaseAt_succ found]
  have answered := answer_eq explained found
  simp only [exec] at answered ⊢
  cases done : (databaseAt P database pool.journal time).setConfigIfNotExists fails key value with
  | error reason =>
      rw [done] at answered
      cases answered
  | ok after =>
      apply AList.lookup_isSome.mp
      show (after.config.lookup key).isSome = true
      rw [Database.lookup_setConfigIfNotExists done, if_pos rfl, Option.isSome_or,
        Option.isSome_some, Bool.or_true]

end History

/-- The record of a start is the list of the keys that it has found or
written. -/
def defaultsMonitor : Monitor Answer (List Bytes) where
  legal
    | _, .setConfigIfNotExists _ _ _ => True
    | _, _ => False
  update
    | ensured, .setConfigIfNotExists _ key _, .ok _ => key :: ensured
    | ensured, _, _ => ensured

theorem mem_defaultsMonitor_after {ensured : List Bytes} {entries : List (Entry Answer)}
    {key : Bytes} (member : key ∈ defaultsMonitor.after ensured entries) :
    key ∈ ensured ∨ Exists fun task => Exists fun fails => Exists fun value =>
      (⟨task, .setConfigIfNotExists fails key value, .ok ()⟩ : Entry Answer) ∈ entries := by
  induction entries generalizing ensured with
  | nil => exact Or.inl member
  | cons entry rest inductionHypothesis =>
      rcases inductionHypothesis member with before | ⟨task, fails, value, later⟩
      · rcases entry with ⟨task, request, answer⟩
        cases request with
        | setConfigIfNotExists fails other value =>
            cases answer with
            | error reason => exact Or.inl before
            | ok _ =>
                rcases List.mem_cons.mp before with same | old
                · rw [same]
                  exact Or.inr ⟨task, fails, value, List.mem_cons_self⟩
                · exact Or.inl old
        | _ => exact Or.inl before
      · exact Or.inr ⟨task, fails, value, List.mem_cons_of_mem entry later⟩

theorem follows_writeDefaults (env : InitEnv) (call : Nat) (pairs : List (Bytes × Bytes))
    (ensured : List Bytes) :
    defaultsMonitor.Follows
      (fun record result => result = .ok () ->
        forall key, key ∈ ensured ∨ key ∈ pairs.map Prod.fst -> key ∈ record)
      ensured (writeDefaults env call pairs) := by
  induction pairs generalizing call ensured with
  | nil =>
      intro _ key member
      exact member.resolve_right (List.not_mem_nil)
  | cons pair rest inductionHypothesis =>
      refine ⟨True.intro, ?_⟩
      intro answer
      cases answer with
      | error reason => exact nofun
      | ok _ =>
          apply (inductionHypothesis (call + 1) (pair.1 :: ensured)).mono
          intro record result all success key member
          apply all success key
          rcases member with old | listed
          · exact Or.inl (List.mem_cons_of_mem _ old)
          · rcases List.mem_cons.mp listed with here | later
            · exact Or.inl (here ▸ List.mem_cons_self)
            · exact Or.inr later

/-- The default keys do not depend on the generated secret. -/
theorem map_fst_defaultConfig (secretKey other : Bytes) :
    (defaultConfig secretKey).map Prod.fst = (defaultConfig other).map Prod.fst :=
  rfl

variable {F : Type} [GoFloat F] {P : Platform} {database : Database} {pool : TokenPool}

theorem follows_initDefaultConfig (env : InitEnv) :
    defaultsMonitor.Follows
      (fun record outcome => outcome = .initialized (.ok ()) ->
        forall secretKey, forall pair, pair ∈ defaultConfig secretKey -> pair.1 ∈ record)
      [] (program F P (.initDefaultConfig env)) := by
  simp only [program, initDefaultConfig]
  cases env.secretKey with
  | none => exact nofun
  | some generated =>
      apply (follows_writeDefaults env 0 (env.order generated) []).bind
      intro record result all success secretKey pair member
      apply all (Outcome.initialized.inj success) pair.1
      have listed : pair.1 ∈ (defaultConfig secretKey).map Prod.fst := List.mem_map_of_mem member
      rw [map_fst_defaultConfig secretKey generated] at listed
      exact Or.inr (((env.complete generated).map Prod.fst).mem_iff.mpr listed)

section Runs

variable (reached : Reaches (step F P) (Pool.start database) pool)

include reached

/-- A call of a start is a write of a default. -/
theorem kept_of_reaches {time : Nat} {entry : Entry Answer} {env : InitEnv} {rest : Flow Outcome}
    (found : pool.journal[time]? = some entry)
    (current : Initializing pool entry.task env rest) {key value : Bytes}
    (stored : (databaseAt P database pool.journal time).config.lookup key = some value) :
    (databaseAt P database pool.journal (time + 1)).config.lookup key = some value := by
  have legal := Monitor.legal_of_reaches reached found current (follows_initDefaultConfig env)
  apply lookup_succ (explained_of_reaches reached) stored
  rintro written ⟨task, fails, writes⟩
  rw [found] at writes
  cases writes
  exact legal

theorem present_of_reaches {index : Nat} {env : InitEnv}
    (finished : Initializing pool index env (.done (.initialized (.ok ()))))
    {secretKey : Bytes} {pair : Bytes × Bytes} (member : pair ∈ defaultConfig secretKey) :
    pair.1 ∈ pool.store.config := by
  have explained := explained_of_reaches reached
  have ensured := Monitor.ends_of_reaches reached (follows_initDefaultConfig env) finished rfl
    secretKey pair member
  rcases mem_defaultsMonitor_after ensured with impossible | ⟨task, fails, value, made⟩
  · cases impossible
  · rcases List.mem_iff_getElem?.mp (List.mem_of_mem_filter made) with ⟨time, found⟩
    have written := present_of_setConfigIfNotExists explained found
    have below : time + 1 ≤ pool.journal.length := (List.getElem?_eq_some_iff.mp found).1
    have last := present_of_le explained below written
    unfold databaseAt at last
    rw [List.take_length, ← explained.stored] at last
    exact last

/-- Who signs or checks with a key has read it. -/
theorem exists_lastRead_of_reaches {time : Nat} {entry : Entry Answer} {secretKey : Bytes}
    (found : pool.journal[time]? = some entry)
    (uses : forall overwrites held,
      (secretMonitor overwrites).legal held entry.request -> held = some secretKey) :
    Exists fun read => LastRead pool.journal entry.task read time ∧ Exists fun fails =>
      pool.journal[read]? =
        some ⟨entry.task, .getConfig fails configJwtSecretKey, .ok secretKey⟩ := by
  rcases Monitor.exists_task_of_entry reached (List.mem_of_getElem? found) with ⟨task, current⟩
  have legal := Monitor.legal_of_reaches reached found current (careful_program task.origin none)
  exact exists_lastRead (uses _ _ legal)

/-- Only a reset and an update overwrite a value. -/
theorem overwrites_of_writes {time : Nat} {key value : Bytes}
    (writes : Writes pool.journal time key value) :
    Exists fun entry => Exists fun task => pool.journal[time]? = some entry ∧
      pool.tasks[entry.task]? = some task ∧ task.origin.overwrites = true := by
  rcases writes with ⟨writer, fails, found⟩
  rcases Monitor.exists_task_of_entry reached (List.mem_of_getElem? found) with ⟨task, current⟩
  have legal := Monitor.legal_of_reaches reached found current (careful_program task.origin none)
  exact ⟨_, task, found, current, legal⟩

/-- In every run in which the keys are fresh, a token is revoked by the writes
of the key and by nothing else, and a start of the FSD server revokes none. -/
theorem revokes_of_reaches (exactSignatures : ExactSignatures P)
    (fresh : FreshSecrets P database pool.journal) : Revokes P database pool where
  written := fun _ _ _ writes => overwrites_of_writes reached writes
  accepted := by
    intro signing issuer claims secretKey rawToken checking consumer now presented answer signed
      checked
    have explained := explained_of_reaches reached
    rcases exists_lastRead_of_reaches reached signed (fun _ _ => id) with
      ⟨issuedAt, issuerRead, fails, reads⟩
    rcases exists_lastRead_of_reaches reached checked (fun _ _ => id) with
      ⟨checkedAt, consumerRead, failed, checks⟩
    refine ⟨issuedAt, checkedAt, issuerRead, consumerRead, ?_⟩
    have signature := answer_eq explained signed
    calc
      P.verifies rawToken presented = true ↔ presented = secretKey :=
        exactSignatures claims secretKey rawToken signature.symm presented
      _ ↔ Unrevoked pool.journal issuedAt checkedAt :=
        same_secret_iff_unrevoked explained fresh reads checks
  kept := fun _ _ _ _ found current _ _ stored => kept_of_reaches reached found current stored
  present := fun _ _ finished _ _ member => present_of_reaches reached finished member

end Runs

/-! ## A token that a reset revokes -/

theorem platform_exactSignatures : ExactSignatures Symbolic.platform := by
  intro claims key raw signed other
  rw [← Option.some.inj signed]
  show decide ((unpack (Symbolic.signedString claims key)).head? = some other) = true ↔ other = key
  unfold Symbolic.signedString
  rw [unpack_pack, decide_eq_true_eq, List.head?_cons, Option.some.injEq]
  exact eq_comm

/-- The value that a call offers as the key. -/
def offered (entry : Entry Answer) : Option Bytes :=
  match entry.request with
  | .setConfig _ key value => if key = configJwtSecretKey then some value else none
  | _ => none

/-- Fresh secrets can be checked by going through the journal. -/
theorem freshSecrets_of_forall {P : Platform} {database : Database}
    {journal : List (Entry Answer)}
    (all : forall time, time < journal.length -> forall earlier, earlier < time + 1 ->
      (journal[time]?.bind offered).isSome = true ->
        secretAt P database journal earlier ≠ journal[time]?.bind offered) :
    FreshSecrets P database journal := by
  rintro time value ⟨task, fails, found⟩ earlier ordered
  have below := (List.getElem?_eq_some_iff.mp found).1
  have written : journal[time]?.bind offered = some value := by
    simp [found, offered]
  have different := all time below earlier (Nat.lt_succ_of_le ordered) (by rw [written]; rfl)
  rw [written] at different
  exact different

/-- The datafeed signs a token, an administrator resets the key, the service
checks the token, and the FSD server is started again. -/
def resetLabels : List (Label TokenRequest) :=
  [.begin (.internalCall sampleEnv false), .advance 0, .advance 0,
    .begin (.resetSecretKey { sampleEnv with secretKey := some (bytes "new") } (bearerOf 1 12)),
    .advance 1, .advance 1, .advance 1,
    .begin (.service 0 false (bytes "Bearer " ++ Symbolic.signedString {
      issuer := jwtIssuer
      expiresAt := some 900
      notBefore := some (-30)
      issuedAt := some 0
      jti := []
      toCustomFields := serviceFields } (bytes "key"))),
    .advance 2, .advance 2,
    .begin (.initDefaultConfig ⟨some (bytes "newer"), defaultConfig, fun _ => List.Perm.refl _,
      fun _ => false⟩),
    .advance 3, .advance 3, .advance 3, .advance 3, .advance 3, .advance 3]

theorem revokes_after_reset : Exists fun pool =>
    run (step Real Symbolic.platform) (Pool.start Symbolic.database) resetLabels = some pool ∧
      secretAt Symbolic.platform Symbolic.database pool.journal 13 = some (bytes "new") ∧
        Revokes Symbolic.platform Symbolic.database pool := by
  have decided : (run (step Real Symbolic.platform) (Pool.start Symbolic.database) resetLabels).any
      (fun pool => decide (secretAt Symbolic.platform Symbolic.database pool.journal 13 =
          some (bytes "new") ∧
        forall time, time < pool.journal.length -> forall earlier, earlier < time + 1 ->
          (pool.journal[time]?.bind offered).isSome = true ->
            secretAt Symbolic.platform Symbolic.database pool.journal earlier ≠
              pool.journal[time]?.bind offered)) = true := by
    decide +kernel
  rcases (Option.any_eq_true _ _).mp decided with ⟨pool, executed, holds⟩
  rcases of_decide_eq_true holds with ⟨secret, all⟩
  refine ⟨pool, executed, secret, ?_⟩
  exact revokes_of_reaches ⟨resetLabels, executed⟩ platform_exactSignatures
    (freshSecrets_of_forall all)

end Steps
end Web
end OpenFsd
