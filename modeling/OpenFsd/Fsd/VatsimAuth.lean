import OpenFsd.Go.Bytes
import Mathlib.Data.Vector.Basic

namespace OpenFsd
namespace Fsd

/-!
# Client challenge authentication

The interrogation state of one client (`vatsimauth.go`).  MD5 is a parameter:
an arbitrary function from byte strings to sixteen bytes.  Arrays of a fixed
length are vectors, so a digest of another length cannot be formed.
-/

/-- `vatsimAuthKeys`, the private key of each known client ID. -/
def vatsimAuthKeys : List (UInt16 × Bytes) :=
  [(8464, bytes "945507c4c50222c34687e742729252e6"),
   (10452, bytes "0ad74157c7f449c216bfed04f3af9fb9"),
   (24515, bytes "3424cbcebcca6fe95f973b350ff85cef"),
   (27095, bytes "3518a62c421937ffa46ac3316957da43"),
   (33456, bytes "52d9343020e9c7d0c6b04b0cca20ad3b"),
   (35044, bytes "fe28334fb753cf0e3d19942197b9ce3e"),
   (48312, bytes "bc2eb1ef4d96709c683084055dd5e83f"),
   (55538, bytes "ImuL1WbbhVuD8d3MuKpWn2rrLZRa9iVP"),
   (56862, bytes "3518a62c421937ffa46ac3316957da43")]

/-- A client ID that `vatsimAuthKeys` lists. -/
def ListedClientId (clientId : UInt16) : Prop :=
  (vatsimAuthKeys.lookup clientId).isSome = true

instance (clientId : UInt16) : Decidable (ListedClientId clientId) :=
  inferInstanceAs (Decidable (_ = _))

/-- `vatsimAuthState` -/
structure VatsimAuthState where
  init : List.Vector UInt8 16
  curr : List.Vector UInt8 16
  clientId : UInt16

/-- The state before `Initialize`: every byte is zero. -/
def VatsimAuthState.zero : VatsimAuthState :=
  ⟨List.Vector.replicate 16 0, List.Vector.replicate 16 0, 0⟩

/-- One lower-case hexadecimal digit. -/
def hexDigit (value : UInt8) : UInt8 :=
  if value < 10 then value + 48 else value + 87

/-- `hex.Encode` -/
def hexEncode : Bytes -> Bytes
  | [] => []
  | head :: rest => hexDigit (head / 16) :: hexDigit (head % 16) :: hexEncode rest

theorem hexEncode_length (text : Bytes) : (hexEncode text).length = 2 * text.length := by
  induction text with
  | nil => rfl
  | cons head rest inductionHypothesis =>
      simp only [hexEncode, List.length_cons, inductionHypothesis]
      omega

/-- The hexadecimal form of a digest. -/
def asHex (digest : List.Vector UInt8 16) : List.Vector UInt8 32 :=
  ⟨hexEncode digest.toList, by rw [hexEncode_length, digest.toList_length]⟩

/-- `copy(key[:], keyStr)` into a zeroed array of 32 bytes. -/
def keyArray (keyStr : Bytes) : List.Vector UInt8 32 :=
  ⟨(keyStr ++ List.replicate 32 0).take 32, by
    rw [List.length_take, List.length_append, List.length_replicate]
    omega⟩

namespace VatsimAuthState

variable (md5 : Bytes -> List.Vector UInt8 16)

def initAsHex (state : VatsimAuthState) : List.Vector UInt8 32 :=
  asHex state.init

def currAsHex (state : VatsimAuthState) : List.Vector UInt8 32 :=
  asHex state.curr

def runObfuscationRound (state : VatsimAuthState) (curr : List.Vector UInt8 32)
    (challenge : Bytes) : List.Vector UInt8 16 :=
  let firstHalf := challenge.take (challenge.length / 2)
  let secondHalf := challenge.drop (challenge.length / 2)
  let c1 := if state.clientId &&& 1 = 1 then secondHalf else firstHalf
  let c2 := if state.clientId &&& 1 = 1 then firstHalf else secondHalf
  let s1 := curr.toList.take 12
  let s2 := (curr.toList.drop 12).take 10
  let s3 := curr.toList.drop 22
  if state.clientId % 3 = 0 then md5 (s1 ++ c1 ++ s2 ++ c2 ++ s3)
  else if state.clientId % 3 = 1 then md5 (s2 ++ c1 ++ s3 ++ c2 ++ s1)
  else md5 (s3 ++ c1 ++ s1 ++ c2 ++ s2)

/-- `Initialize`, without a result for `ErrUnsupportedAuthClient`. -/
def initializeAuth (state : VatsimAuthState) (clientId : UInt16) (initialChallenge : Bytes) :
    Option VatsimAuthState :=
  match vatsimAuthKeys.lookup clientId with
  | none => none
  | some keyStr =>
      let identified := { state with clientId := clientId }
      let digest := identified.runObfuscationRound md5 (keyArray keyStr) initialChallenge
      some { identified with init := digest, curr := digest }

/-- `IsInitialized` -/
def isInitialized (state : VatsimAuthState) : Bool :=
  decide (state.clientId ≠ 0)

/-- `GetResponseForChallenge` -/
def getResponseForChallenge (state : VatsimAuthState) (challenge : Bytes) :
    List.Vector UInt8 32 :=
  asHex (state.runObfuscationRound md5 state.currAsHex challenge)

/-- `UpdateState` -/
def updateState (state : VatsimAuthState) (response : List.Vector UInt8 32) : VatsimAuthState :=
  { state with curr := md5 (state.initAsHex.toList ++ response.toList) }

/-- The state was initialized with this client ID from this challenge, and
has at most advanced its current half since. -/
def InitializedFrom (state : VatsimAuthState) (clientId : UInt16) (challenge : Bytes) : Prop :=
  ListedClientId clientId ∧
    Exists fun start => initializeAuth md5 zero clientId challenge = some start ∧
      state.init = start.init ∧ state.clientId = start.clientId

variable {md5 : Bytes -> List.Vector UInt8 16}

theorem initializedFrom_of_initializeAuth {state : VatsimAuthState} {clientId : UInt16}
    {challenge : Bytes} (initialized : initializeAuth md5 zero clientId challenge = some state) :
    InitializedFrom md5 state clientId challenge := by
  refine ⟨?_, state, initialized, rfl, rfl⟩
  unfold initializeAuth at initialized
  unfold ListedClientId
  cases found : vatsimAuthKeys.lookup clientId with
  | none => simp only [found] at initialized; cases initialized
  | some keyStr => rfl

/-- Answering a challenge moves only the current half of the state. -/
theorem InitializedFrom.updateState {state : VatsimAuthState} {clientId : UInt16}
    {challenge : Bytes} (initialized : InitializedFrom md5 state clientId challenge)
    (response : List.Vector UInt8 32) :
    InitializedFrom md5 (state.updateState md5 response) clientId challenge :=
  initialized

/-- Zero is not a listed client ID. -/
theorem ne_zero_of_listedClientId {clientId : UInt16} (listed : ListedClientId clientId) :
    clientId ≠ 0 := by
  intro isZero
  subst isZero
  revert listed
  decide

/-- An initialized state passes the source's own check. -/
theorem InitializedFrom.isInitialized {state : VatsimAuthState} {clientId : UInt16}
    {challenge : Bytes} (initialized : InitializedFrom md5 state clientId challenge) :
    state.isInitialized = true := by
  rcases initialized with ⟨listed, start, created, _, sameId⟩
  have startId : start.clientId = clientId := by
    unfold initializeAuth at created
    cases found : vatsimAuthKeys.lookup clientId with
    | none => simp only [found] at created; cases created
    | some keyStr =>
        simp only [found, Option.some.injEq] at created
        rw [← created]
  unfold VatsimAuthState.isInitialized
  rw [sameId, startId]
  exact decide_eq_true (ne_zero_of_listedClientId listed)

end VatsimAuthState
end Fsd
end OpenFsd
