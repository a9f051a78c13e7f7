import OpenFsd.Fsd.System

namespace OpenFsd
namespace Fsd

open Db

/-!
# The internal HTTP service

The middleware in front of the service, and the kick.  The handlers only set a
status, and the status that is written first is the one that is sent:
`handleKickUser` answers an unreadable body with 400 although it goes on to
look up the callsign that the decoder has left.
-/

/-- What a request to the service meets outside the program.  The database is
the one of the web server, at the time of the request. -/
structure ServiceEnv where
  now : Time
  database : Database
  getConfigFails : Bool

/-- `authMiddleware`: the status that aborts the request, if one does. -/
def authMiddleware (P : Platform) (env : ServiceEnv) (authorization : Bytes) : Option Nat :=
  let (authHeader, found) := cutPrefix authorization (bytes "Bearer ")
  if !found then some 400
  else
    match env.database.getConfig env.getConfigFails configJwtSecretKey with
    | .error _ => some 500
    | .ok jwtSecret =>
        match parseJwtToken P env.now authHeader jwtSecret with
        | none => some 400
        | some claims =>
            if claims.tokenType ≠ bytes "fsd_service" ∨
                claims.networkRating < NetworkRatingAdministator then some 403
            else none

variable {F : Type}

/-- `handleKickUser`, given whether the body was bound and the callsign that
binding it has left. -/
def handleKickUser (s : Server F) (bound : Bool) (callsign : Bytes) : Nat × Server F :=
  let (status, after) :=
    match s.find callsign with
    | none => (404, s)
    | some client => (204, s.cancelCtx client)
  (if bound then status else 400, after)

/-- `POST /kick_user` -/
def kickUser (P : Platform) (env : ServiceEnv) (s : Server F) (authorization : Bytes) (bound : Bool)
    (callsign : Bytes) : Nat × Server F :=
  match authMiddleware P env authorization with
  | some status => (status, s)
  | none => handleKickUser s bound callsign

/-! ## Bearer tokens -/

/-- A header with a token that verifies under the configured key.  Both
servers ask for this before they look at the claims. -/
inductive BearerToken (P : Platform) (now : Time) (getConfigFails : Bool) (database : Database)
    (authorization : Bytes) (claims : CustomClaims) : Prop
  | verified (token secret : Bytes)
      (header : authorization = bytes "Bearer " ++ token)
      (readable : getConfigFails = false)
      (configured : database.config.lookup configJwtSecretKey = some secret)
      (parsed : parseJwtToken P now token secret = some claims) :
      BearerToken P now getConfigFails database authorization claims

theorem cutPrefix_eq_true_iff {text start rest : Bytes} :
    cutPrefix text start = (rest, true) ↔ text = start ++ rest := by
  unfold cutPrefix hasPrefix
  constructor
  · intro cut
    split at cut
    · next starts =>
        rcases List.isPrefixOf_iff_prefix.mp starts with ⟨tail, same⟩
        have kept : text.drop start.length = rest := congrArg Prod.fst cut
        rw [← same, List.drop_left] at kept
        rw [← same, kept]
    · cases congrArg Prod.snd cut
  · intro same
    have starts : start.isPrefixOf text = true :=
      List.isPrefixOf_iff_prefix.mpr ⟨rest, same.symm⟩
    rw [if_pos starts, same, List.drop_left]

/-- The steps that the two middlewares share. -/
theorem bearerToken_iff {P : Platform} {now : Time} {getConfigFails : Bool} {database : Database}
    {authorization : Bytes} {claims : CustomClaims} :
    BearerToken P now getConfigFails database authorization claims ↔
      Exists fun token => Exists fun secret =>
        cutPrefix authorization (bytes "Bearer ") = (token, true) ∧
          database.getConfig getConfigFails configJwtSecretKey = .ok secret ∧
          parseJwtToken P now token secret = some claims := by
  constructor
  · rintro ⟨token, secret, header, readable, configured, parsed⟩
    refine ⟨token, secret, cutPrefix_eq_true_iff.mpr header, ?_, parsed⟩
    exact Database.getConfig_eq_ok_iff.mpr ⟨readable, configured⟩
  · rintro ⟨token, secret, cut, read, parsed⟩
    rcases Database.getConfig_eq_ok_iff.mp read with ⟨readable, configured⟩
    exact ⟨token, secret, cutPrefix_eq_true_iff.mp cut, readable, configured, parsed⟩

/-- A header that the middleware of the service lets through. -/
def ServiceAuthorized (P : Platform) (env : ServiceEnv) (authorization : Bytes) : Prop :=
  Exists fun claims =>
    BearerToken P env.now env.getConfigFails env.database authorization claims ∧
      claims.tokenType = bytes "fsd_service" ∧ NetworkRatingAdministator ≤ claims.networkRating

theorem authMiddleware_cases (P : Platform) (env : ServiceEnv) (authorization : Bytes) :
    (authMiddleware P env authorization = none ∧ ServiceAuthorized P env authorization) ∨
      Exists fun status => authMiddleware P env authorization = some status ∧ 400 ≤ status := by
  unfold authMiddleware
  cases cut : cutPrefix authorization (bytes "Bearer ") with
  | mk authHeader found =>
      cases found with
      | false => exact Or.inr ⟨400, rfl, by decide⟩
      | true =>
          cases read : env.database.getConfig env.getConfigFails configJwtSecretKey with
          | error reason => exact Or.inr ⟨500, rfl, by decide⟩
          | ok jwtSecret =>
              cases parsed : parseJwtToken P env.now authHeader jwtSecret with
              | none => exact Or.inr ⟨400, by simp [parsed], by decide⟩
              | some claims =>
                  by_cases refused : claims.tokenType ≠ bytes "fsd_service" ∨
                      claims.networkRating < NetworkRatingAdministator
                  · exact Or.inr ⟨403, by simp [parsed, refused], by decide⟩
                  · refine Or.inl ⟨by simp [parsed, refused], claims, ?_, ?_, ?_⟩
                    · exact bearerToken_iff.mpr ⟨authHeader, jwtSecret, cut, read, parsed⟩
                    · by_contra other
                      exact refused (Or.inl other)
                    · by_contra low
                      exact refused (Or.inr (Int.not_le.mp low))

/-! ## The kick -/

/-- A kick that was carried out. -/
structure Kicked (P : Platform) (env : ServiceEnv) (authorization callsign : Bytes)
    (before after : Server F) : Prop where
  authorized : ServiceAuthorized P env authorization
  cancelled : Exists fun victim => before.postOffice.clientMap.lookup callsign = some victim ∧
    after = before.cancelCtx victim

/-- The service answers 204 only if it has cancelled the context of the
client, and then every other answer is an error. -/
theorem kickUser_cases (P : Platform) (env : ServiceEnv) (s : Server F)
    (authorization callsign : Bytes) :
    ((kickUser P env s authorization true callsign).1 = 204 ∧
        Kicked P env authorization callsign s (kickUser P env s authorization true callsign).2) ∨
      400 ≤ (kickUser P env s authorization true callsign).1 := by
  unfold kickUser
  rcases authMiddleware_cases P env authorization with ⟨passed, authorized⟩ | ⟨status, aborted, high⟩
  · rw [passed]
    unfold handleKickUser
    cases found : s.find callsign with
    | none => exact Or.inr (show 400 ≤ 404 by decide)
    | some victim => exact Or.inl ⟨rfl, authorized, victim, found, rfl⟩
  · rw [aborted]
    exact Or.inr high

/-- A kick over HTTP leaves the server alone or is a step of the system. -/
theorem kickUser_step [GoFloat F] (P : Platform) (env : ServiceEnv) (system : System F)
    (authorization : Bytes) (bound : Bool) (callsign : Bytes) :
    (kickUser P env system.server authorization bound callsign).2 = system.server ∨
      System.step P system (.kick callsign) = some { system with
        server := (kickUser P env system.server authorization bound callsign).2 } := by
  unfold kickUser
  cases authMiddleware P env authorization with
  | some status => exact Or.inl rfl
  | none =>
      unfold handleKickUser
      cases found : system.server.find callsign with
      | none => exact Or.inl rfl
      | some victim =>
          apply Or.inr
          simp only [System.step, System.kick, found, Option.map_some]

end Fsd
end OpenFsd
