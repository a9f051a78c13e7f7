import OpenFsd.Fsd.LoginLines

namespace OpenFsd
namespace Fsd

open Db

/-!
# What a successful login has checked

Each stage of the login gets one inversion lemma, which lists everything that
a run through all its exits leaves behind.  `login_eq_ok` puts them together:
the client that reaches the registration is `Admitted`.
-/

/-- What the two lines determine about the login data. -/
structure ReadFrom (idPacket addPacket : Bytes) (data : LoginData) (token : Bytes) : Prop where
  challenge : data.clientChallenge = if countFields idPacket = 9 then getField idPacket 8 else []
  protoRevision : data.protoRevision = 100 ∨ data.protoRevision = 101
  token : token = tokenField addPacket data.isAtc

/-- The stored or signed rating that bounds the rating of a login. -/
inductive RatingAuthority (P : Platform) (now : Time) (database : Database) (cid : Int)
    (token : Bytes) (limit : NetworkRating) : Prop
  | signed (secret : Bytes) (claims : CustomClaims)
      (configured : database.config.lookup configJwtSecretKey = some secret)
      (carried : P.payload token = some claims)
      (verified : P.verifies token secret = true)
      (valid : claimsValid now claims = true)
      (forFsd : claims.tokenType = bytes "fsd")
      (sameCid : claims.cid = cid)
      (sameRating : claims.networkRating = limit)
  | stored (row : UserRow)
      (found : database.users.rows.lookup cid = some row)
      (verified : verifyPasswordHash P token row.password = true)
      (sameRating : row.networkRating = limit)

/-- Everything that the login has established about a client. -/
structure Admitted {F : Type} (P : Platform) (now : Time) (database : Database)
    (idPacket addPacket : Bytes) (client : Client F) : Prop where
  callsign : isValidClientCallsign client.callsign = true
  protoRevision : client.protoRevision = 100 ∨ client.protoRevision = 101
  lower : NetworkRatingObserver ≤ client.networkRating
  upper : client.networkRating ≤ client.maxNetworkRating
  authority : RatingAuthority P now database client.cid (tokenField addPacket client.isAtc)
    client.maxNetworkRating
  challenge : client.clientChallenge =
    if countFields idPacket = 9 then getField idPacket 8 else []
  authState : client.clientChallenge ≠ [] ->
    client.authState.InitializedFrom P.md5 client.clientId client.clientChallenge
  facilityType : client.facilityType = 0

/-! ## Reading the two lines -/

theorem readLoginPackets_eq_ok {now : Time} {idLine addLine : Option Bytes} {data : LoginData}
    {token : Bytes} (read : readLoginPackets now idLine addLine = .ok (data, token)) :
    Exists fun idPacket => Exists fun addPacket =>
      idLine = some idPacket ∧ addLine = some addPacket ∧ ReadFrom idPacket addPacket data token := by
  rcases lines_of_readLoginPackets read with ⟨idPacket, addPacket, rfl, rfl⟩
  rcases readLoginPackets_eq_ok_iff.mp read with ⟨challenge, challengeRead, addRead, challenged, _⟩
  have supported := addRead.supported
  refine ⟨idPacket, addPacket, rfl, rfl, ?_⟩
  exact {
    challenge := challenged.trans (readChallenge_eq_ok challengeRead)
    protoRevision := by omega
    token := addRead.token }

/-! ## Authentication -/

theorem checkRating_eq_ok {networkRating limit : NetworkRating}
    (checked : checkRating networkRating limit = .ok ()) :
    NetworkRatingObserver ≤ networkRating ∧ networkRating ≤ limit := by
  unfold checkRating at checked
  rcases bind_eq_ok.mp checked with ⟨_, upper, lower⟩
  have notAbove := require_eq_ok.mp upper
  have notBelow := require_eq_ok.mp lower
  simp only [Bool.not_eq_true', decide_eq_false_iff_not, Int.not_lt] at notAbove notBelow
  exact ⟨notBelow, notAbove⟩

variable {F : Type} {P : Platform} {env : LoginEnv} {database : Database} {client : Client F}
  {token : Bytes} {limit : NetworkRating}

theorem authenticateToken_eq_ok
    (done : authenticateToken P env database client token = .ok limit) :
    NetworkRatingObserver ≤ client.networkRating ∧ client.networkRating ≤ limit ∧
      RatingAuthority P env.now database client.cid token limit := by
  unfold authenticateToken at done
  cases configured : database.getConfig env.getConfigFails configJwtSecretKey with
  | error reason =>
      rw [configured] at done
      cases done
  | ok secret =>
      rw [configured] at done
      dsimp only at done
      cases parsed : parseJwtToken P env.now token secret with
      | none =>
          rw [parsed] at done
          cases done
      | some claims =>
          rw [parsed] at done
          rcases bind_eq_ok.mp done with ⟨_, forFsd, done⟩
          rcases bind_eq_ok.mp done with ⟨_, sameCid, done⟩
          rcases bind_eq_ok.mp done with ⟨_, rating, done⟩
          cases done
          rcases parseJwtToken_eq_some parsed with ⟨carried, verified, valid⟩
          have bounds := checkRating_eq_ok rating
          exact ⟨bounds.1, bounds.2, .signed secret claims (Database.getConfig_eq_ok configured) carried
            verified valid (of_decide_eq_true (require_eq_ok.mp forFsd))
            (of_decide_eq_true (require_eq_ok.mp sameCid)).symm rfl⟩

theorem authenticatePassword_eq_ok
    (done : authenticatePassword P env database client token = .ok limit) :
    NetworkRatingObserver ≤ client.networkRating ∧ client.networkRating ≤ limit ∧
      RatingAuthority P env.now database client.cid token limit := by
  unfold authenticatePassword at done
  cases read : database.getUserByCID env.getUserFails client.cid with
  | error reason =>
      rw [read] at done
      cases done
  | ok user =>
      rw [read] at done
      rcases bind_eq_ok.mp done with ⟨_, verified, done⟩
      rcases bind_eq_ok.mp done with ⟨_, rating, done⟩
      cases done
      rcases Database.getUserByCID_eq_ok read with ⟨row, found, same⟩
      have bounds := checkRating_eq_ok rating
      subst same
      exact ⟨bounds.1, bounds.2, .stored row found (require_eq_ok.mp verified) rfl⟩

theorem initializeChallenge_eq_ok {challenged : Client F}
    (unset : client.authState = VatsimAuthState.zero)
    (done : initializeChallenge P client = .ok challenged) :
    (Exists fun authState => challenged = { client with authState := authState }) ∧
      (client.clientChallenge ≠ [] ->
        challenged.authState.InitializedFrom P.md5 client.clientId client.clientChallenge) := by
  unfold initializeChallenge at done
  split at done
  · next noChallenge =>
      cases done
      exact ⟨⟨client.authState, rfl⟩, fun present => absurd noChallenge present⟩
  · split at done
    · cases done
    · next authState initialized =>
        cases done
        rw [unset] at initialized
        exact ⟨⟨authState, rfl⟩,
          fun _ => VatsimAuthState.initializedFrom_of_initializeAuth initialized⟩

theorem authenticate_eq_ok (done : authenticate P env database client token = .ok limit) :
    NetworkRatingObserver ≤ client.networkRating ∧ client.networkRating ≤ limit ∧
      RatingAuthority P env.now database client.cid token limit := by
  unfold authenticate at done
  split at done
  · exact authenticateToken_eq_ok done
  · exact authenticatePassword_eq_ok done

variable [GoFloat F]

/-- Every client that `handleConn` brings to the registration is admitted. -/
theorem login_eq_ok {idLine addLine : Option Bytes}
    (done : login P env database idLine addLine = .ok client) :
    Exists fun idPacket => Exists fun addPacket =>
      idLine = some idPacket ∧ addLine = some addPacket ∧
        Admitted P env.now database idPacket addPacket client := by
  unfold login at done
  rcases bind_eq_ok.mp done with ⟨⟨data, token⟩, read, done⟩
  rcases bind_eq_ok.mp done with ⟨_, callsign, done⟩
  rcases readLoginPackets_eq_ok read with ⟨idPacket, addPacket, idSame, addSame, readFrom⟩
  unfold attemptAuthentication at done
  rcases bind_eq_ok.mp done with ⟨challenged, initialized, done⟩
  rcases bind_eq_ok.mp done with ⟨limit, authenticated, done⟩
  rcases initializeChallenge_eq_ok rfl initialized with ⟨⟨authState, same⟩, fromChallenge⟩
  subst same
  have outcome := authenticate_eq_ok authenticated
  rw [← Except.ok.inj done]
  refine ⟨idPacket, addPacket, idSame, addSame, ?_⟩
  exact {
    callsign := require_eq_ok.mp callsign
    protoRevision := readFrom.protoRevision
    lower := outcome.1
    upper := outcome.2.1
    authority := readFrom.token ▸ outcome.2.2
    challenge := readFrom.challenge
    authState := fromChallenge
    facilityType := rfl }

/-- Beyond what its lines say, a client is new but for its authentication
state and the rating that it may have. -/
theorem login_fresh {idLine addLine : Option Bytes}
    (done : login P env database idLine addLine = .ok client) :
    Exists fun data => Exists fun token => Exists fun authState => Exists fun limit =>
      readLoginPackets env.now idLine addLine = .ok (data, token) ∧
        client = { newClient env.remoteAddr data env.takesDone with
          authState := authState
          maxNetworkRating := limit } := by
  unfold login at done
  rcases bind_eq_ok.mp done with ⟨⟨data, token⟩, read, done⟩
  rcases bind_eq_ok.mp done with ⟨_, _, done⟩
  unfold attemptAuthentication at done
  rcases bind_eq_ok.mp done with ⟨challenged, initialized, done⟩
  rcases bind_eq_ok.mp done with ⟨limit, _, done⟩
  rcases initializeChallenge_eq_ok rfl initialized with ⟨⟨authState, same⟩, _⟩
  rw [same] at done
  exact ⟨data, token, authState, limit, read, (Except.ok.inj done).symm⟩

/-- The token field of an admitted client is what its authority was decided on. -/
theorem login_reads {idLine addLine : Option Bytes}
    (done : login P env database idLine addLine = .ok client) :
    Exists fun data => Exists fun token =>
      readLoginPackets env.now idLine addLine = .ok (data, token) ∧ data.cid = client.cid ∧
        RatingAuthority P env.now database client.cid token client.maxNetworkRating := by
  unfold login at done
  rcases bind_eq_ok.mp done with ⟨⟨data, token⟩, read, done⟩
  rcases bind_eq_ok.mp done with ⟨_, _, done⟩
  unfold attemptAuthentication at done
  rcases bind_eq_ok.mp done with ⟨challenged, initialized, done⟩
  rcases bind_eq_ok.mp done with ⟨limit, authenticated, done⟩
  rcases initializeChallenge_eq_ok rfl initialized with ⟨⟨authState, same⟩, _⟩
  subst same
  rw [← Except.ok.inj done]
  exact ⟨data, token, read, rfl, (authenticate_eq_ok authenticated).2.2⟩

end Fsd
end OpenFsd
