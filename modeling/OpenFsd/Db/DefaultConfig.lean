import OpenFsd.Db.Repository

namespace OpenFsd
namespace Db

/-!
# The default configuration

`SetIfNotExists` of both drivers, and the key/value pairs that
`InitDefaultConfig` writes with it.  They are collected in a Go map, so they
are written in any order.
-/

/-- `ConfigRepo.SetIfNotExists` -/
def Database.setConfigIfNotExists (database : Database) (fails : Bool) (key value : Bytes) :
    Except DbError Database :=
  if fails then .error .failed
  else if key ∈ database.config then .ok database
  else .ok { database with config := database.config.insert key value }

/-- `defaultConfig`, with the generated secret key. -/
def defaultConfig (secretKey : Bytes) : List (Bytes × Bytes) :=
  [(configJwtSecretKey, secretKey), (configWelcomeMessage, bytes "Connected to openfsd"),
    (configFsdServerHostname, bytes "localhost"), (configFsdServerIdent, bytes "OPENFSD"),
    (configFsdServerLocation, bytes "Earth"), (configApiServerBaseURL, bytes "http://localhost")]

/-- What one call of `InitDefaultConfig` meets outside the program: the random
numbers, the order of the map, and which writes fail. -/
structure InitEnv where
  /-- `GenerateJwtSecretKey` -/
  secretKey : Option Bytes
  order : Bytes -> List (Bytes × Bytes)
  complete : forall key, (order key).Perm (defaultConfig key)
  setConfigFails : Nat -> Bool

namespace Database

theorem lookup_setConfig {database written : Database} {fails : Bool} {key value : Bytes}
    (done : database.setConfig fails key value = .ok written) (other : Bytes) :
    written.config.lookup other =
      if other = key then some value else database.config.lookup other := by
  rcases setConfig_eq_ok done with ⟨_, same⟩
  rw [same]
  by_cases own : other = key
  · rw [if_pos own, own]
    exact AList.lookup_insert database.config
  · rw [if_neg own]
    exact AList.lookup_insert_ne own

/-- `SetIfNotExists` leaves a key with a value alone. -/
theorem lookup_setConfigIfNotExists {database written : Database} {fails : Bool} {key value : Bytes}
    (done : database.setConfigIfNotExists fails key value = .ok written) (other : Bytes) :
    written.config.lookup other =
      (database.config.lookup other).or (if other = key then some value else none) := by
  unfold setConfigIfNotExists at done
  split at done
  · cases done
  · split at done
    · next present =>
        rw [← Except.ok.inj done]
        by_cases own : other = key
        · rcases Option.isSome_iff_exists.mp (AList.lookup_isSome.mpr present) with ⟨old, found⟩
          rw [own, found]
          rfl
        · rw [if_neg own, Option.or_none]
    · next absent =>
        rw [← Except.ok.inj done]
        by_cases own : other = key
        · rw [if_pos own, own, AList.lookup_eq_none.mpr absent]
          exact AList.lookup_insert database.config
        · rw [if_neg own, Option.or_none]
          exact AList.lookup_insert_ne own

end Database
end Db
end OpenFsd
