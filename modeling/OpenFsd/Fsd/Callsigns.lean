import OpenFsd.Fsd.Fields
import OpenFsd.Fsd.System

namespace OpenFsd
namespace Fsd

open Transition

/-!
# The callsigns that can register

The login admits only callsigns of at least two bytes, of a small alphabet,
and none of the names by which packets address the server.  A session keeps
its callsign, so every name under which the post office finds a client is
such a callsign.
-/

/-- What `isValidClientCallsign` checks. -/
structure ValidCallsign (callsign : Bytes) : Prop where
  lower : 2 ≤ callsign.length
  upper : callsign.length ≤ 10
  alphabet : forall b, b ∈ callsign -> isCallsignByte b = true
  unreserved : callsign ∉ reservedCallsigns

theorem validCallsign_iff {callsign : Bytes} :
    isValidClientCallsign callsign = true ↔ ValidCallsign callsign := by
  have spelled : isValidClientCallsign callsign = true ↔ isValidCallsignLength callsign = true ∧
      callsign.all isCallsignByte = true ∧ reservedCallsigns.contains callsign = false := by
    unfold isValidClientCallsign
    cases isValidCallsignLength callsign <;> cases callsign.all isCallsignByte <;>
      cases reservedCallsigns.contains callsign <;> simp
  rw [spelled, isValidCallsignLength, Bool.and_eq_true, decide_eq_true_eq, decide_eq_true_eq,
    List.all_eq_true]
  constructor
  · rintro ⟨⟨upper, lower⟩, alphabet, unreserved⟩
    exact ⟨lower, upper, alphabet, by simpa using unreserved⟩
  · intro valid
    exact ⟨⟨valid.upper, valid.lower⟩, valid.alphabet, by simpa using valid.unreserved⟩

namespace ValidCallsign

variable {callsign : Bytes}

/-- A byte outside the alphabet is in no valid callsign. -/
theorem not_mem (valid : ValidCallsign callsign) {b : UInt8} (foreign : isCallsignByte b = false) :
    b ∉ callsign := by
  intro member
  rw [valid.alphabet b member] at foreign
  cases foreign

/-- A text that starts with a byte outside the alphabet is no prefix. -/
theorem not_hasPrefix (valid : ValidCallsign callsign) {b : UInt8}
    (foreign : isCallsignByte b = false) : hasPrefix callsign [b] = false := by
  cases callsign with
  | nil => rfl
  | cons head rest =>
      rw [hasPrefix, List.isPrefixOf_cons_cons, Bool.and_eq_false_iff]
      left
      apply beq_false_of_ne
      intro same
      rw [same] at foreign
      exact valid.not_mem foreign List.mem_cons_self

theorem ascii (valid : ValidCallsign callsign) {b : UInt8} (member : b ∈ callsign) : b < 0x80 := by
  have admitted := valid.alphabet b member
  simp [isCallsignByte, byte] at admitted
  grind

theorem colon_not_mem (valid : ValidCallsign callsign) : colon ∉ callsign :=
  valid.not_mem (by decide)

theorem lineFeed_not_mem (valid : ValidCallsign callsign) : lineFeed ∉ callsign :=
  valid.not_mem (by decide)

theorem plain (valid : ValidCallsign callsign) : PlainField callsign :=
  ⟨valid.colon_not_mem, valid.lineFeed_not_mem⟩

theorem ne_server (valid : ValidCallsign callsign) : callsign ≠ bytes "SERVER" := by
  intro same
  exact valid.unreserved (same ▸ List.mem_cons_self)

theorem ne_fp (valid : ValidCallsign callsign) : callsign ≠ bytes "FP" := by
  intro same
  exact valid.unreserved (same ▸ by decide)

/-- A text with a byte outside the alphabet is no valid callsign. -/
theorem ne_of_mem (valid : ValidCallsign callsign) {text : Bytes} {b : UInt8} (member : b ∈ text)
    (foreign : isCallsignByte b = false) : callsign ≠ text := by
  intro same
  exact valid.not_mem foreign (same ▸ member)

end ValidCallsign

namespace System

variable {F : Type} [GoFloat F] {P : Platform} {heap : SessionId -> Client F} {system : System F}

/-- Every session bears a valid callsign. -/
def Named (system : System F) : Prop :=
  forall id, id < system.allocated -> ValidCallsign (system.server.clients id).callsign

theorem Named.step {next : System F} {action : Action}
    (taken : System.step P system action = some next) (named : Named system) : Named next := by
  cases moved_of_step taken with
  | unchanged => exact named
  | connected env database idLine addLine client server loggedIn registered =>
      rcases login_eq_ok loggedIn with ⟨_, _, _, _, admitted⟩
      intro id below
      dsimp only
      rw [registered.clients]
      by_cases own : id = system.allocated
      · rw [own, Function.update_self]
        exact validCallsign_iff.mp admitted.callsign
      · rw [Function.update_of_ne own]
        exact named id (Nat.lt_of_le_of_ne (Nat.le_of_lt_succ below) own)
  | acted actor id server acts =>
      intro other below
      have same : (server.clients other).callsign = (system.server.clients other).callsign :=
        congrArg LoginData.callsign (acts.loginData other)
      dsimp only
      rw [same]
      exact named other below
  | released id => exact named

theorem named_of_reaches (reached : Reaches (System.step P) (start heap) system) : Named system :=
  invariant_of_reaches (fun _ _ _ taken named => named.step taken)
    (fun _ below => absurd below (Nat.not_lt_zero _)) reached

/-- The clients that the post office finds bear the callsign under which they
are found, and it is valid. -/
theorem callsign_of_find (reached : Reaches (System.step P) (start heap) system) {callsign : Bytes}
    {target : SessionId} (found : system.server.find callsign = some target) :
    (system.server.clients target).callsign = callsign ∧ ValidCallsign callsign := by
  rcases (wellFormed_of_reaches reached).mapped callsign target found with ⟨borne, below⟩
  exact ⟨borne, borne ▸ named_of_reaches reached target below⟩

end System
end Fsd
end OpenFsd
