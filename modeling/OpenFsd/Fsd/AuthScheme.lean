import OpenFsd.Fsd.Deliveries
import OpenFsd.Go.Exact
import OpenFsd.Library.Machine

namespace OpenFsd
namespace Fsd

/-!
# The documented authentication scheme

The documents describe an `AuthState` that keeps its initial and its current
state as text: the private key at first, and hexadecimal digests from then
on.  The code keeps raw digests and encodes them where they are used.  The
definitions of this section are made from the documents, and the rest of the
module compares the code with them.
-/

/-- The documented table of known clients, with their private keys. -/
def knownClients : List (UInt16 × Bytes) :=
  [(8464, bytes "945507c4c50222c34687e742729252e6"),
   (10452, bytes "0ad74157c7f449c216bfed04f3af9fb9"),
   (24515, bytes "3424cbcebcca6fe95f973b350ff85cef"),
   (27095, bytes "3518a62c421937ffa46ac3316957da43"),
   (33456, bytes "52d9343020e9c7d0c6b04b0cca20ad3b"),
   (35044, bytes "fe28334fb753cf0e3d19942197b9ce3e"),
   (55538, bytes "ImuL1WbbhVuD8d3MuKpWn2rrLZRa9iVP"),
   (56862, bytes "3518a62c421937ffa46ac3316957da43")]

/-- `AuthState` of the documents. -/
structure AuthState where
  clientID : UInt16
  initState : Bytes
  currState : Bytes

namespace AuthState

variable (md5 : Bytes -> List.Vector UInt8 16)

/-- The documented `ObfuscationScheme`. -/
def obfuscationScheme (state : AuthState) (challenge : Bytes) : Bytes :=
  let half := challenge.length / 2
  let halves := (challenge.take half, challenge.drop half)
  let c := if state.clientID &&& 1 = 1 then halves.swap else halves
  let s1 := state.currState.take 12
  let s2 := (state.currState.drop 12).take 10
  let s3 := (state.currState.drop 22).take 10
  let h := if state.clientID % 3 = 0 then s1 ++ c.1 ++ s2 ++ c.2 ++ s3
    else if state.clientID % 3 = 1 then s2 ++ c.1 ++ s3 ++ c.2 ++ s1
    else s3 ++ c.1 ++ s1 ++ c.2 ++ s2
  hexEncode (md5 h).toList

/-- The documented construction, from the private key of the client and the
random data received from the other side. -/
def construct (clientID : UInt16) (privateKey received : Bytes) : AuthState :=
  let keyed : AuthState := ⟨clientID, [], privateKey⟩
  let result := keyed.obfuscationScheme md5 received
  ⟨clientID, result, result⟩

/-- The documented answer to a challenge, with the state that it leaves. -/
def interrogate (state : AuthState) (challenge : Bytes) : AuthState × Bytes :=
  let returnValue := state.obfuscationScheme md5 challenge
  ({ state with currState := hexEncode (md5 (state.initState ++ returnValue)).toList }, returnValue)

end AuthState

namespace VatsimAuthState

variable (md5 : Bytes -> List.Vector UInt8 16)

/-- `GetResponseForChallenge`, then `UpdateState`. -/
def interrogate (state : VatsimAuthState) (challenge : Bytes) :
    VatsimAuthState × List.Vector UInt8 32 :=
  let resp := state.getResponseForChallenge md5 challenge
  (state.updateState md5 resp, resp)

/-- The documented state is the code's, with its digests in hexadecimal. -/
structure Mirrors (state : VatsimAuthState) (documented : AuthState) : Prop where
  clientID : documented.clientID = state.clientId
  initState : documented.initState = state.initAsHex.toList
  currState : documented.currState = state.currAsHex.toList

variable {md5 : Bytes -> List.Vector UInt8 16}

/-! ## One round -/

/-- One round of either scheme, from the same text of 32 bytes. -/
theorem obfuscationScheme_eq {state : VatsimAuthState} {documented : AuthState}
    (identified : documented.clientID = state.clientId) {curr : List.Vector UInt8 32}
    (current : documented.currState = curr.toList) (challenge : Bytes) :
    documented.obfuscationScheme md5 challenge =
      (asHex (state.runObfuscationRound md5 curr challenge)).toList := by
  have third : (curr.toList.drop 22).take 10 = curr.toList.drop 22 := by
    apply List.take_of_length_le
    simp
  unfold AuthState.obfuscationScheme runObfuscationRound
  simp only [identified, current, third]
  by_cases odd : state.clientId &&& 1 = 1
  · simp only [if_pos odd, Prod.swap]
    split
    · rfl
    · split
      · rfl
      · rfl
  · simp only [if_neg odd]
    split
    · rfl
    · split
      · rfl
      · rfl

theorem key_of_knownClient {clientId : UInt16} {key : Bytes}
    (listed : vatsimAuthKeys.lookup clientId = some key) {privateKey : Bytes}
    (known : knownClients.lookup clientId = some privateKey) : privateKey = key := by
  have agree : forall entry, entry ∈ knownClients ->
      vatsimAuthKeys.lookup entry.1 = some entry.2 := by decide +kernel
  have member : (clientId, privateKey) ∈ knownClients := by
    rcases List.lookup_eq_some_iff.mp known with ⟨before, after, split, _⟩
    rw [split]
    exact List.mem_append_right before List.mem_cons_self
  exact Option.some.inj ((agree _ member).symm.trans listed)

/-- Every listed key fills the array that it is copied into. -/
theorem toList_keyArray {clientId : UInt16} {key : Bytes}
    (listed : vatsimAuthKeys.lookup clientId = some key) : (keyArray key).toList = key := by
  have complete : forall entry, entry ∈ vatsimAuthKeys -> entry.2.length = 32 := by decide +kernel
  have member : (clientId, key) ∈ vatsimAuthKeys := by
    rcases List.lookup_eq_some_iff.mp listed with ⟨before, after, split, _⟩
    rw [split]
    exact List.mem_append_right before List.mem_cons_self
  have length : key.length = 32 := complete _ member
  show (key ++ List.replicate 32 0).take 32 = key
  exact List.take_left' length

/-! ## The simulation -/

/-- The construction of the documents gives the mirror of the code's. -/
theorem mirrors_construct (before : VatsimAuthState) {clientId : UInt16} {key : Bytes}
    (listed : vatsimAuthKeys.lookup clientId = some key) (initial : Bytes) :
    Exists fun state => before.initializeAuth md5 clientId initial = some state ∧
      Mirrors state (AuthState.construct md5 clientId key initial) := by
  have round : forall identified : VatsimAuthState, identified.clientId = clientId ->
      (AuthState.mk clientId [] key).obfuscationScheme md5 initial =
        (asHex (identified.runObfuscationRound md5 (keyArray key) initial)).toList :=
    fun identified same => obfuscationScheme_eq same.symm (toList_keyArray listed).symm initial
  unfold initializeAuth
  rw [listed]
  exact ⟨_, rfl, rfl, round _ rfl, round _ rfl⟩

/-- What the documents do to a mirrored state, the code does to the state. -/
theorem simulated_interrogate (md5 : Bytes -> List.Vector UInt8 16) :
    Machine.Simulated (fun documented state => Mirrors state documented)
      (AuthState.interrogate md5) (interrogate md5) (fun challenge => challenge)
      (fun resp => resp.toList) where
  answer := by
    intro documented state challenge mirrors
    exact obfuscationScheme_eq mirrors.clientID mirrors.currState challenge
  next := by
    intro documented state challenge mirrors
    have returned : documented.obfuscationScheme md5 challenge =
        (state.getResponseForChallenge md5 challenge).toList :=
      obfuscationScheme_eq mirrors.clientID mirrors.currState challenge
    refine ⟨mirrors.clientID, mirrors.initState, ?_⟩
    show hexEncode (md5 (documented.initState ++ documented.obfuscationScheme md5 challenge)).toList = _
    rw [mirrors.initState, returned]
    rfl

end VatsimAuthState

/-! ## The handler -/

namespace Server

variable {F : Type}

/-- The packet that carries a response. -/
def authResponsePacket (callsign resp : Bytes) : Bytes :=
  bytes "$ZRSERVER:" ++ callsign ++ [colon] ++ resp ++ crlf

/-- `handleAuthChallenge`, with the packets that the client is sent for it. -/
def answerChallenge (md5 : Bytes -> List.Vector UInt8 16) (id : SessionId) (s : Server F)
    (packet : Bytes) : Server F × List Bytes :=
  let next := s.handleAuthChallenge md5 id packet
  (next, sentTo id (next.events.drop s.events.length))

/-- The client is challenged under this callsign, in a state with this mirror. -/
structure Interrogated (callsign : Bytes) (id : SessionId) (s : Server F) (documented : AuthState) :
    Prop where
  callsign : (s.clients id).callsign = callsign
  challenged : (s.clients id).clientChallenge ≠ []
  mirrors : (s.clients id).authState.Mirrors documented

theorem handleAuthChallenge_of_challenged {s : Server F} {id : SessionId}
    (challenged : (s.clients id).clientChallenge ≠ []) (md5 : Bytes -> List.Vector UInt8 16)
    (packet : Bytes) :
    s.handleAuthChallenge md5 id packet =
      (s.modifyClient id fun client => { client with
        authState := ((s.clients id).authState.interrogate md5 (getField packet 2)).1 }).sendTo id
          (authResponsePacket (s.clients id).callsign
            ((s.clients id).authState.interrogate md5 (getField packet 2)).2.toList) := by
  unfold handleAuthChallenge challengedState
  rw [if_neg challenged]
  rfl

/-- A challenge is answered with one packet, the documented response. -/
theorem simulated_answerChallenge (md5 : Bytes -> List.Vector UInt8 16) (callsign : Bytes)
    (id : SessionId) :
    Machine.Simulated (Interrogated (F := F) callsign id) (answerChallenge md5 id)
      (AuthState.interrogate md5) (fun packet => getField packet 2)
      (fun returnValue => [authResponsePacket callsign returnValue]) where
  answer := by
    intro s documented packet interrogated
    have response := (VatsimAuthState.simulated_interrogate md5).answer documented
      (s.clients id).authState (getField packet 2) interrogated.mirrors
    unfold answerChallenge
    dsimp only
    rw [handleAuthChallenge_of_challenged interrogated.challenged, response, interrogated.callsign]
    simp [sendTo]
  next := by
    intro s documented packet interrogated
    have mirrors := (VatsimAuthState.simulated_interrogate md5).next documented
      (s.clients id).authState (getField packet 2) interrogated.mirrors
    unfold answerChallenge
    dsimp only
    rw [handleAuthChallenge_of_challenged interrogated.challenged]
    constructor
    · simpa using interrogated.callsign
    · simpa using interrogated.challenged
    · simpa using mirrors

/-- The responses of the code are those of the documented scheme, for every
listed client and whatever challenges follow: those of the state that
`Initialize` makes, and those that the handler sends to a client in that state. -/
theorem responses_documented (md5 : Bytes -> List.Vector UInt8 16) (before : VatsimAuthState)
    {clientId : UInt16} {key : Bytes} (listed : vatsimAuthKeys.lookup clientId = some key)
    (initial : Bytes) :
    (forall privateKey, knownClients.lookup clientId = some privateKey -> privateKey = key) ∧
    Exists fun state => before.initializeAuth md5 clientId initial = some state ∧
      (forall challenges,
        (Machine.answers (VatsimAuthState.interrogate md5) state challenges).map
            (fun resp => resp.toList) =
          Machine.answers (AuthState.interrogate md5)
            (AuthState.construct md5 clientId key initial) challenges) ∧
      forall (s : Server F) (id : SessionId) (packets : List Bytes),
        (s.clients id).clientChallenge ≠ [] -> (s.clients id).authState = state ->
          Machine.answers (answerChallenge md5 id) s packets =
            (Machine.answers (AuthState.interrogate md5)
              (AuthState.construct md5 clientId key initial)
              (packets.map fun packet => getField packet 2)).map fun returnValue =>
                [authResponsePacket (s.clients id).callsign returnValue] := by
  rcases VatsimAuthState.mirrors_construct before listed initial with ⟨state, created, mirrors⟩
  refine ⟨fun _ known => VatsimAuthState.key_of_knownClient listed known, state, created, ?_, ?_⟩
  · intro challenges
    have same := (VatsimAuthState.simulated_interrogate md5).answers_eq mirrors challenges
    rw [List.map_id'] at same
    exact same.symm
  · intro s id packets challenged current
    apply (simulated_answerChallenge md5 (s.clients id).callsign id).answers_eq
    refine ⟨rfl, challenged, ?_⟩
    rw [current]
    exact mirrors

/-- A server whose clients are in this authentication state. -/
def interrogatedServer [GoFloat F] (state : VatsimAuthState) : Server F :=
  ⟨fun _ => { newClient [] ⟨bytes "30984979d8caed23", bytes "AAL325", 1, [], 1, 1, 101, 0, 35044,
    false⟩ with authState := state }, ⟨∅, []⟩, []⟩

/-- vPilot is challenged twice, the second time with no text at all. -/
theorem responses_documented_vPilot : Exists fun state : VatsimAuthState =>
    VatsimAuthState.zero.initializeAuth (fun _ => List.Vector.replicate 16 7) 35044
        (bytes "30984979d8caed23") = some state ∧
      Machine.answers (answerChallenge (fun _ => List.Vector.replicate 16 7) 0)
          (interrogatedServer state : Server Real)
          [bytes "$ZCAAL325:SERVER:de6acb8e" ++ crlf, bytes "$ZCAAL325:SERVER:" ++ crlf] =
        (Machine.answers (AuthState.interrogate (fun _ => List.Vector.replicate 16 7))
          (AuthState.construct (fun _ => List.Vector.replicate 16 7) 35044
            (bytes "fe28334fb753cf0e3d19942197b9ce3e") (bytes "30984979d8caed23"))
          [bytes "de6acb8e", []]).map fun returnValue =>
            [authResponsePacket (bytes "AAL325") returnValue] := by
  have listed : vatsimAuthKeys.lookup 35044 = some (bytes "fe28334fb753cf0e3d19942197b9ce3e") := by
    decide
  rcases responses_documented (F := Real) (fun _ => List.Vector.replicate 16 7)
    VatsimAuthState.zero listed (bytes "30984979d8caed23") with ⟨_, state, created, _, handled⟩
  exact ⟨state, created, handled (interrogatedServer state) 0 _ (List.cons_ne_nil _ _) rfl⟩

end Server
end Fsd
end OpenFsd
