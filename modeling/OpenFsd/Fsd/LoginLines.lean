import OpenFsd.Fsd.Login
import OpenFsd.Fsd.Fields

namespace OpenFsd
namespace Fsd

/-!
# The two lines of a login

A client sends two lines before it is a client: its identification and its add
packet.  The parser of the login accepts exactly the pairs of lines that the
login data can be read off; everything said elsewhere about the data of a login
comes from this one characterisation.
-/

/-- The token field of an add packet. -/
def tokenField (addPacket : Bytes) (isAtc : Bool) : Bytes :=
  getField addPacket (if isAtc then 4 else 3)

theorem scanned_eq_ok {line : Option Bytes} {message : String} {packet : Bytes}
    (read : scanned line message = .ok packet) : line = some packet := by
  cases line with
  | none => cases read
  | some found =>
      cases read
      rfl

theorem readChallenge_eq_ok {idPacket : Bytes} {challenge : Bytes × UInt16}
    (read : readChallenge idPacket = .ok challenge) :
    challenge.1 = if countFields idPacket = 9 then getField idPacket 8 else [] := by
  unfold readChallenge at read
  by_cases nine : countFields idPacket = 9
  · rw [if_pos nine] at read
    rw [if_pos nine]
    dsimp only at read
    split at read
    · exact absurd read refuse_ne_ok
    · rw [← Except.ok.inj read]
  · rw [if_neg nine] at read
    rw [if_neg nine, ← Except.ok.inj read]

/-- The prefix of an add packet. -/
def addPrefix (isAtc : Bool) : Bytes :=
  if isAtc then bytes "#AA" else bytes "#AP"

/-- The login data can be read off this add packet, with this token. -/
structure AddRead (line : Bytes) (data : LoginData) (token : Bytes) : Prop where
  long : 16 ≤ line.length
  starts : line.take 3 = addPrefix data.isAtc
  count : countFields line = if data.isAtc then 7 else 8
  callsign : getField line 0 = addPrefix data.isAtc ++ data.callsign
  realName : data.realName = getField line (if data.isAtc then 2 else 7)
  cid : atoi (getField line (if data.isAtc then 3 else 2)) = ⟨data.cid, none⟩
  networkRating : atoi (getField line (if data.isAtc then 5 else 4)) = ⟨data.networkRating, none⟩
  protoRevision : atoi (getField line (if data.isAtc then 6 else 5)) = ⟨data.protoRevision, none⟩
  token : token = tokenField line data.isAtc
  supported : 100 ≤ data.protoRevision ∧ data.protoRevision ≤ 101

theorem numericField_eq_ok {packet : Bytes} {index : Nat} {message : String} {value : Int} :
    numericField packet index message = .ok value ↔ atoi (getField packet index) = ⟨value, none⟩ := by
  unfold numericField
  cases read : atoi (getField packet index) with
  | mk number err =>
      cases err with
      | none => simp
      | some error => simp [refuse]

theorem readFields_eq_ok {line : Bytes} {isAtc : Bool} {fields : AddFields} :
    readFields line isAtc = .ok fields ↔
      atoi (getField line (if isAtc then 3 else 2)) = ⟨fields.cid, none⟩ ∧
      atoi (getField line (if isAtc then 5 else 4)) = ⟨fields.networkRating, none⟩ ∧
      atoi (getField line (if isAtc then 6 else 5)) = ⟨fields.protoRevision, none⟩ ∧
      fields.realName = getField line (if isAtc then 2 else 7) ∧
      fields.token = tokenField line isAtc := by
  rcases fields with ⟨realName, cid, token, networkRating, protoRevision⟩
  unfold readFields tokenField
  cases isAtc with
  | true =>
      simp only [if_true, readAtcFields, bind_eq_ok, numericField_eq_ok, Except.ok.injEq,
        AddFields.mk.injEq]
      constructor
      · rintro ⟨_, first, _, second, _, third, rfl, rfl, rfl, rfl, rfl⟩
        exact ⟨first, second, third, rfl, rfl⟩
      · rintro ⟨first, second, third, named, tokened⟩
        exact ⟨cid, first, networkRating, second, protoRevision, third, named.symm, rfl, tokened.symm,
          rfl, rfl⟩
  | false =>
      simp only [Bool.false_eq_true, if_false, readPilotFields, bind_eq_ok, numericField_eq_ok,
        Except.ok.injEq, AddFields.mk.injEq]
      constructor
      · rintro ⟨_, first, _, second, _, third, rfl, rfl, rfl, rfl, rfl⟩
        exact ⟨first, second, third, rfl, rfl⟩
      · rintro ⟨first, second, third, named, tokened⟩
        exact ⟨cid, first, networkRating, second, protoRevision, third, named.symm, rfl, tokened.symm,
          rfl, rfl⟩

theorem readClientType_eq_ok {line : Bytes} {isAtc : Bool} :
    readClientType line = .ok isAtc ↔ line.take 3 = addPrefix isAtc := by
  unfold readClientType addPrefix
  cases isAtc with
  | true =>
      split
      · next atc => simp [atc]
      · next other =>
          split
          · next pilot => simp [other]
          · simp [other, refuse]
  | false =>
      split
      · next atc =>
          rw [atc]
          simp
          decide
      · next other =>
          split
          · next pilot => simp [pilot]
          · next neither => simp [neither, refuse]

theorem readCallsign_eq_ok {line callsign : Bytes} {isAtc : Bool} :
    readCallsign line isAtc = .ok callsign ↔ getField line 0 = addPrefix isAtc ++ callsign := by
  have spelled : readCallsign line isAtc =
      if (cutPrefix (getField line 0) (addPrefix isAtc)).2 then
        .ok (cutPrefix (getField line 0) (addPrefix isAtc)).1
      else refuse SyntaxError "Invalid callsign in add packet" := rfl
  rw [spelled]
  cases starts : hasPrefix (getField line 0) (addPrefix isAtc) with
  | true =>
      rcases List.isPrefixOf_iff_prefix.mp starts with ⟨rest, same⟩
      have cut : cutPrefix (addPrefix isAtc ++ rest) (addPrefix isAtc) = (rest, true) := by
        unfold cutPrefix
        rw [if_pos (hasPrefix_append _ rest), List.drop_left]
      rw [← same, cut]
      simp only [if_true, Except.ok.injEq, List.append_cancel_left_eq]
  | false =>
      have uncut : cutPrefix (getField line 0) (addPrefix isAtc) = (getField line 0, false) := by
        unfold cutPrefix
        rw [starts]
        rfl
      rw [uncut]
      constructor
      · intro impossible
        cases impossible
      · intro same
        rw [same, hasPrefix_append] at starts
        cases starts

/-- The parser accepts exactly the lines that the data can be read off. -/
theorem readLoginPackets_eq_ok_iff {now : Time} {ident line : Bytes} {data : LoginData}
    {token : Bytes} :
    readLoginPackets now (some ident) (some line) = .ok (data, token) ↔
      Exists fun challenge => readChallenge ident = .ok challenge ∧ AddRead line data token ∧
        data.clientChallenge = challenge.1 ∧ data.clientId = challenge.2 ∧ data.loginTime = now ∧
          data.maxNetworkRating = 0 := by
  unfold readLoginPackets
  constructor
  · intro read
    rcases bind_eq_ok.mp read with ⟨_, identRead, read⟩
    rcases bind_eq_ok.mp read with ⟨_, lineRead, read⟩
    cases scanned_eq_ok identRead
    cases scanned_eq_ok lineRead
    rcases bind_eq_ok.mp read with ⟨challenge, challengeRead, read⟩
    rcases bind_eq_ok.mp read with ⟨_, long, read⟩
    rcases bind_eq_ok.mp read with ⟨isAtc, typed, read⟩
    rcases bind_eq_ok.mp read with ⟨_, count, read⟩
    rcases bind_eq_ok.mp read with ⟨callsign, callsignRead, read⟩
    rcases bind_eq_ok.mp read with ⟨fields, fieldsRead, read⟩
    rcases bind_eq_ok.mp read with ⟨_, revision, read⟩
    have revisionChecked := require_eq_ok.mp revision
    simp only [Bool.and_eq_true, decide_eq_true_eq] at revisionChecked
    cases read
    rcases readFields_eq_ok.mp fieldsRead with ⟨cid, networkRating, protoRevision, realName, token⟩
    refine ⟨challenge, challengeRead, ?_, rfl, rfl, rfl, rfl⟩
    exact {
      long := of_decide_eq_true (require_eq_ok.mp long)
      starts := readClientType_eq_ok.mp typed
      count := of_decide_eq_true (require_eq_ok.mp count)
      callsign := readCallsign_eq_ok.mp callsignRead
      realName := realName
      cid := cid
      networkRating := networkRating
      protoRevision := protoRevision
      token := token
      supported := revisionChecked }
  · rintro ⟨challenge, challengeRead, addRead, challenged, identified, timed, unlimited⟩
    refine bind_eq_ok.mpr ⟨ident, rfl, bind_eq_ok.mpr ⟨line, rfl, ?_⟩⟩
    refine bind_eq_ok.mpr ⟨challenge, challengeRead, ?_⟩
    refine bind_eq_ok.mpr ⟨(), require_eq_ok.mpr (decide_eq_true addRead.long), ?_⟩
    refine bind_eq_ok.mpr ⟨data.isAtc, readClientType_eq_ok.mpr addRead.starts, ?_⟩
    refine bind_eq_ok.mpr ⟨(), require_eq_ok.mpr (decide_eq_true addRead.count), ?_⟩
    refine bind_eq_ok.mpr ⟨data.callsign, readCallsign_eq_ok.mpr addRead.callsign, ?_⟩
    refine bind_eq_ok.mpr ⟨⟨data.realName, data.cid, token, data.networkRating, data.protoRevision⟩,
      readFields_eq_ok.mpr ⟨addRead.cid, addRead.networkRating, addRead.protoRevision,
        addRead.realName, addRead.token⟩, ?_⟩
    have revision : (decide (100 ≤ data.protoRevision) && decide (data.protoRevision ≤ 101)) = true := by
      simp only [Bool.and_eq_true, decide_eq_true_eq]
      exact addRead.supported
    refine bind_eq_ok.mpr ⟨(), require_eq_ok.mpr revision, ?_⟩
    rcases data with ⟨clientChallenge, callsign, cid, realName, networkRating, maxNetworkRating,
      protoRevision, loginTime, clientId, isAtc⟩
    dsimp only at challenged identified timed unlimited ⊢
    rw [challenged, identified, timed, unlimited]

/-- Both lines must have been read. -/
theorem lines_of_readLoginPackets {now : Time} {idLine addLine : Option Bytes} {data : LoginData}
    {token : Bytes} (read : readLoginPackets now idLine addLine = .ok (data, token)) :
    Exists fun ident => Exists fun line => idLine = some ident ∧ addLine = some line := by
  cases idLine with
  | none => cases read
  | some ident =>
      cases addLine with
      | none => cases read
      | some line => exact ⟨ident, line, rfl, rfl⟩

end Fsd
end OpenFsd
