import OpenFsd.Web.Success

namespace OpenFsd
namespace Web

open Db Fsd

/-!
# What an update of the configuration leaves behind

`handleUpdateConfig` writes its pairs one by one, and stops at the first call
of `Set` that fails.  What it has written by then it does not take back.
-/

/-- Every key of the list reads as the last of its values, and every other key
as before. -/
structure LastWins (pairs : List (Bytes × Bytes)) (before after : Database) : Prop where
  listed : forall earlier key value later, pairs = earlier ++ (key, value) :: later ->
    (forall pair, pair ∈ later -> pair.1 ≠ key) -> after.getConfig false key = .ok value
  others : forall key, (forall pair, pair ∈ pairs -> pair.1 ≠ key) ->
    after.getConfig false key = before.getConfig false key

theorem lookup_eq_none_of_absent {pairs : List (Bytes × Bytes)} {key : Bytes}
    (absent : forall pair, pair ∈ pairs -> pair.1 ≠ key) : pairs.lookup key = none := by
  apply List.lookup_eq_none_iff.mpr
  intro pair member
  simp [(absent pair member).symm]

/-- The loop writes the last value last. -/
theorem ConfigWritten.lastWins {pairs : List (Bytes × Bytes)} {before after : Database}
    (written : ConfigWritten pairs before after) : LastWins pairs before after where
  listed := by
    intro earlier key value later same last
    have absent : later.reverse.lookup key = none := by
      apply lookup_eq_none_of_absent
      intro pair member
      exact last pair (List.mem_reverse.mp member)
    apply Database.getConfig_eq_ok_iff.mpr
    refine ⟨rfl, ?_⟩
    rw [written.values, same]
    simp [List.lookup_append, absent]
  others := by
    intro key unlisted
    have absent : pairs.reverse.lookup key = none := by
      apply lookup_eq_none_of_absent
      intro pair member
      exact unlisted pair (List.mem_reverse.mp member)
    unfold Database.getConfig
    rw [written.values, absent, Option.none_or]

/-- The call of `Set` at this position is the first that fails. -/
structure FirstFailure (env : Env) (pairs : List (Bytes × Bytes)) (position : Nat) : Prop where
  inside : position < pairs.length
  fails : env.setConfigFails position = true
  first : forall earlier, earlier < position -> env.setConfigFails earlier = false

/-- The loop from one call on: it writes all pairs, or those before the first
call that fails. -/
theorem writeConfig_cases {env : Env} (call : Nat) (database : Database)
    (pairs : List (Bytes × Bytes)) :
    ((writeConfig env call database pairs).1 = true ∧
        (forall later, later < pairs.length -> env.setConfigFails (call + later) = false) ∧
        ConfigWritten pairs database (writeConfig env call database pairs).2) ∨
      ((writeConfig env call database pairs).1 = false ∧
        Exists fun position => position < pairs.length ∧
          env.setConfigFails (call + position) = true ∧
          (forall earlier, earlier < position -> env.setConfigFails (call + earlier) = false) ∧
          ConfigWritten (pairs.take position) database
            (writeConfig env call database pairs).2) := by
  cases finished : (writeConfig env call database pairs).1 with
  | true => exact Or.inl ⟨rfl, writeConfig_eq_true (Prod.ext finished rfl)⟩
  | false =>
      refine Or.inr ⟨rfl, ?_⟩
      induction pairs generalizing call database with
      | nil => cases finished
      | cons pair rest inductionHypothesis =>
          rcases pair with ⟨key, value⟩
          unfold writeConfig at finished ⊢
          cases fails : env.setConfigFails call with
          | true =>
              refine ⟨0, Nat.zero_lt_succ _, fails, ?_, rfl, fun key => rfl⟩
              intro earlier before
              exact absurd before (Nat.not_lt_zero earlier)
          | false =>
              rw [fails] at finished
              rcases inductionHypothesis _ _ finished with
                ⟨position, inside, failsThere, first, written⟩
              refine ⟨position + 1, Nat.succ_lt_succ inside, ?_, ?_, ?_⟩
              · rw [← failsThere]
                congr 1
                omega
              · intro earlier before
                cases earlier with
                | zero => exact fails
                | succ earlier =>
                    have next := first earlier (Nat.lt_of_succ_lt_succ before)
                    rwa [Nat.add_assoc, Nat.add_comm 1 earlier] at next
              · exact (configWritten_insert database key value).cons written

/-- The response to a write that failed. -/
def writeFailure : Response :=
  Response.fail 500 "Error writing key/value into persistent storage"

theorem isFailure_writeFailure : writeFailure.IsFailure :=
  Response.isFailure_fail _ (by decide)

/-- What the response tells about the database: all pairs are written, or those
before the first call that fails, or none because no call was made. -/
inductive Outcome (env : Env) (before : Database) (body : Option (Option (List (Bytes × Bytes)))) :
    Response -> Database -> Prop
  | written (pairs : List (Bytes × Bytes)) (after : Database)
      (bound : body = some (some pairs))
      (writable : forall call, call < pairs.length -> env.setConfigFails call = false)
      (lastWins : LastWins pairs before after) :
      Outcome env before body (Response.ok 200 .none) after
  | stopped (pairs : List (Bytes × Bytes)) (position : Nat) (after : Database)
      (bound : body = some (some pairs))
      (failure : FirstFailure env pairs position)
      (lastWins : LastWins (pairs.take position) before after) :
      Outcome env before body writeFailure after
  | refused (response : Response)
      (failed : response.IsFailure) (early : response ≠ writeFailure) :
      Outcome env before body response before

theorem outcome_handleUpdateConfig (env : Env) (database : Database) (claims : CustomClaims)
    (body : Option (Option (List (Bytes × Bytes)))) :
    Outcome env database body (handleUpdateConfig env database claims body).1
      (handleUpdateConfig env database claims body).2 := by
  unfold handleUpdateConfig
  by_cases low : claims.networkRating < NetworkRatingAdministator
  · rw [if_pos low]
    have other : Response.forbidden ≠ writeFailure := by decide
    exact .refused _ Response.isFailure_forbidden other
  rw [if_neg low]
  cases bound : bindBody body Option.isSome with
  | none =>
      have other : Response.invalidJSON ≠ writeFailure := by decide
      exact .refused _ Response.isFailure_invalidJSON other
  | some reqBody =>
      rcases bindBody_eq_some bound with ⟨same, present⟩
      rcases Option.isSome_iff_exists.mp present with ⟨pairs, listed⟩
      rw [listed] at same
      rw [listed]
      dsimp only [Option.getD_some]
      rcases writeConfig_cases 0 database pairs with
        ⟨finished, writable, written⟩ | ⟨stopped, position, inside, fails, first, written⟩
      · rw [if_pos finished]
        simp only [Nat.zero_add] at writable
        exact .written pairs _ same writable written.lastWins
      · rw [if_neg (by rw [stopped]; exact Bool.false_ne_true)]
        simp only [Nat.zero_add] at fails first
        exact .stopped pairs position _ same ⟨inside, fails, first⟩ written.lastWins

/-- The middleware does not answer for the handler. -/
theorem ne_writeFailure_of_aborted {P : Platform} {env : Env} {database : Database}
    {authorization : Bytes} {response : Response}
    (aborted : jwtBearerMiddleware P env database authorization = .error response) :
    response ≠ writeFailure := by
  unfold jwtBearerMiddleware at aborted
  dsimp only at aborted
  split at aborted
  · cases aborted
    decide
  · split at aborted
    · cases aborted
      decide
    · split at aborted
      · cases aborted
        decide
      · split at aborted
        · cases aborted
          decide
        · cases aborted

theorem outcome_updateConfig (driver : Driver) (P : Platform) (env : Env) (database : Database)
    (authorization : Bytes) (body : Option (Option (List (Bytes × Bytes)))) :
    Outcome env database body
      (serve driver P env database (.updateConfig authorization body)).1
      (serve driver P env database (.updateConfig authorization body)).2 := by
  dsimp only [serve]
  unfold withBearer
  rcases jwtBearerMiddleware_cases P env database authorization with
    ⟨response, aborted, failed⟩ | ⟨claims, passed, _⟩
  · rw [aborted]
    exact .refused response failed (ne_writeFailure_of_aborted aborted)
  · rw [passed]
    exact outcome_handleUpdateConfig env database claims body

/-- A success leaves every listed key with its last value.  A failed write
leaves the pairs before it written, and any other error comes before the first
write.  Every other key reads as before. -/
theorem config_update_prefix (driver : Driver) (P : Platform) (env : Env) (database : Database)
    (authorization : Bytes) (body : Option (Option (List (Bytes × Bytes)))) :
    let answer := serve driver P env database (.updateConfig authorization body)
    (answer.1.IsSuccess -> Exists fun pairs => body = some (some pairs) ∧
      LastWins pairs database answer.2) ∧
    (answer.1 = writeFailure -> Exists fun pairs => Exists fun position =>
      body = some (some pairs) ∧ FirstFailure env pairs position ∧
        LastWins (pairs.take position) database answer.2) ∧
    (¬ answer.1.IsSuccess -> answer.1 ≠ writeFailure -> answer.2 = database) := by
  have outcome := outcome_updateConfig driver P env database authorization body
  dsimp only
  generalize serve driver P env database (.updateConfig authorization body) = answer at outcome ⊢
  rcases answer with ⟨response, after⟩
  cases outcome with
  | written pairs after bound writable lastWins =>
      refine ⟨fun _ => ⟨pairs, bound, lastWins⟩, nofun, ?_⟩
      intro unsuccessful
      exact absurd (Response.isSuccess_ok .none) unsuccessful
  | stopped pairs position after bound failure lastWins =>
      refine ⟨?_, fun _ => ⟨pairs, position, bound, failure, lastWins⟩, ?_⟩
      · intro success
        exact absurd success isFailure_writeFailure.not_isSuccess
      · intro _ other
        exact absurd rfl other
  | refused response failed early =>
      refine ⟨?_, fun same => absurd same early, fun _ _ => rfl⟩
      intro success
      exact absurd success failed.not_isSuccess

/-- The second of two writes fails, and the first one stays. -/
theorem failed_update_keeps_first_write : ¬ forall (driver : Driver) (P : Platform) (env : Env)
    (database : Database) (authorization : Bytes) (body : Option (Option (List (Bytes × Bytes)))),
      ¬ (serve driver P env database (.updateConfig authorization body)).1.IsSuccess ->
      forall key,
        (serve driver P env database (.updateConfig authorization body)).2.getConfig false key =
          database.getConfig false key := by
  intro unchanged
  let env : Env := { sampleEnv with setConfigFails := fun call => call == 1 }
  let pairs := [(configWelcomeMessage, bytes "Welcome"), (configFsdServerHostname, bytes "fsd")]
  have failed : ¬ (serve .sqlite Symbolic.platform env Symbolic.database
      (.updateConfig (bearerOf 1 12) (some (some pairs)))).1.IsSuccess := by
    decide +kernel
  have kept := unchanged .sqlite Symbolic.platform env Symbolic.database (bearerOf 1 12)
    (some (some pairs)) failed configWelcomeMessage
  have before : (Symbolic.database.getConfig false configWelcomeMessage).toOption = none := by
    decide +kernel
  have after : ((serve .sqlite Symbolic.platform env Symbolic.database
      (.updateConfig (bearerOf 1 12) (some (some pairs)))).2.getConfig false
        configWelcomeMessage).toOption = some (bytes "Welcome") := by
    decide +kernel
  rw [kept, before] at after
  cases after

end Web
end OpenFsd
