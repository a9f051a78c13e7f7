import OpenFsd.Fsd.Speaker

namespace OpenFsd
namespace Fsd

/-!
# Which packets are accepted

A packet of a type is meant to be accepted if it is long enough, starts with
the prefix of the type, names its sender, and has the fields that its type
requires.  `verifyPacket` asks for three fields before it looks at the type.
Every type requires that many, except the two deletions, which are documented
with two fields.
-/

/-- A packet of this type that its sender may send. -/
structure Intended (packet callsign : Bytes) (packetType : PacketType) : Prop where
  known : packetType ≠ .unknown
  long : 8 ≤ packet.length
  starts : hasPrefix packet (getPacketPrefix packetType) = true
  source : getSourceCallsign packet packetType = callsign
  fields : minFields packetType ≤ countFields packet

/-- Exactly the intended packets are accepted, and any other one is answered
with one error, and with nothing else. -/
structure VerifiesAsIntended {F : Type} [GoFloat F] (s : Server F)
    (md5 : Bytes -> List.Vector UInt8 16) (now : Time) (id : SessionId) (packet : Bytes) : Prop where
  accepts : forall packetType,
    verifyPacket packet (s.clients id).callsign = .accepted packetType ↔
      Intended packet (s.clients id).callsign packetType
  refuses : (forall packetType, ¬ Intended packet (s.clients id).callsign packetType) ->
    Exists fun code => Exists fun message =>
      verifyPacket packet (s.clients id).callsign = .refused code message ∧
        s.processPacket md5 now id packet = s.sendError id code message

/-- A deletion that is intended, and has fewer than three fields. -/
def ShortDelete (packet callsign : Bytes) : Prop :=
  (Intended packet callsign .deletePilot ∨ Intended packet callsign .deleteATC) ∧
    countFields packet < 3

/-! ## Prefixes -/

/-- The prefixes tell the types apart, so the type of a packet can be read off
its prefix. -/
theorem getPacketType_of_hasPrefix {packet : Bytes} {packetType : PacketType}
    (known : packetType ≠ .unknown)
    (starts : hasPrefix packet (getPacketPrefix packetType) = true) :
    getPacketType packet = packetType := by
  rcases List.isPrefixOf_iff_prefix.mp starts with ⟨rest, same⟩
  subst same
  cases packetType <;> first
    | rfl
    | exact absurd rfl known

/-- A packet is intended for at most one type. -/
theorem Intended.type_eq {packet callsign : Bytes} {packetType : PacketType}
    (intended : Intended packet callsign packetType) : getPacketType packet = packetType :=
  getPacketType_of_hasPrefix intended.known intended.starts

/-- Every type but the deletions requires three fields of its own accord. -/
theorem three_le_minFields {packetType : PacketType} (known : packetType ≠ .unknown)
    (notPilot : packetType ≠ .deletePilot) (notATC : packetType ≠ .deleteATC) :
    3 ≤ minFields packetType := by
  cases packetType <;> first
    | decide
    | contradiction

/-! ## The two directions -/

theorem intended_of_accepted {packet callsign : Bytes} {packetType : PacketType}
    (accepted : verifyPacket packet callsign = .accepted packetType) :
    Intended packet callsign packetType := by
  rcases verifyPacket_accepted accepted with ⟨typed, long, source, fields⟩
  have known : packetType ≠ .unknown := by
    intro unknown
    subst unknown
    exact verifyPacket_ne_unknown accepted
  have starts := hasPrefix_getPacketPrefix packet
  rw [← typed] at starts
  exact ⟨known, long, starts, source, fields⟩

/-- An intended packet with three fields passes every check. -/
theorem accepted_of_intended {packet callsign : Bytes} {packetType : PacketType}
    (intended : Intended packet callsign packetType) (several : 3 ≤ countFields packet) :
    verifyPacket packet callsign = .accepted packetType := by
  have long := intended.long
  have fields := intended.fields
  unfold verifyPacket
  dsimp only
  rw [if_neg (by omega), intended.type_eq, if_neg intended.known, verifySourceCallsign,
    intended.source, if_neg (by simp), if_neg (by omega)]

/-- Three fields are missing only from a deletion. -/
theorem Intended.shortDelete {packet callsign : Bytes} {packetType : PacketType}
    (intended : Intended packet callsign packetType) (few : countFields packet < 3) :
    ShortDelete packet callsign := by
  have fields := intended.fields
  by_cases pilot : packetType = .deletePilot
  · subst pilot
    exact ⟨Or.inl intended, few⟩
  by_cases atc : packetType = .deleteATC
  · subst atc
    exact ⟨Or.inr intended, few⟩
  have three := three_le_minFields intended.known pilot atc
  omega

theorem refused_of_few {packet : Bytes} (callsign : Bytes) (few : countFields packet < 3) :
    verifyPacket packet callsign = .refused SyntaxError (bytes "Packet too short") := by
  unfold verifyPacket
  exact if_pos (Or.inr few)

/-- The deletion that is documented for pilots, which no pilot can send. -/
theorem documented_delete_refused {callsign : Bytes} (plain : PlainField callsign) (cid : Bytes)
    (plainCid : PlainField cid) :
    verifyPacket (packetOf [bytes "#DP" ++ callsign, cid]) callsign =
      .refused SyntaxError (bytes "Packet too short") := by
  apply refused_of_few
  have fieldsPlain : forall field, field ∈ [bytes "#DP" ++ callsign, cid] -> PlainField field := by
    intro field member
    rcases List.mem_pair.mp member with first | second
    · rw [first]
      exact PlainField.append (by decide) plain
    · rw [second]
      exact plainCid
  rw [countFields_packetOf fieldsPlain]
  show 2 < 3
  decide

variable {F : Type} [GoFloat F]

/-- `verifyPacket` accepts what is intended, except for a short deletion. -/
theorem verifiesAsIntended_iff (s : Server F) (md5 : Bytes -> List.Vector UInt8 16) (now : Time)
    (id : SessionId) (line : Bytes) :
    VerifiesAsIntended s md5 now id (line ++ crlf) ↔
      ¬ ShortDelete (line ++ crlf) (s.clients id).callsign := by
  constructor
  · rintro ⟨accepts, _⟩ ⟨intended, few⟩
    have refused := refused_of_few (s.clients id).callsign few
    rcases intended with pilot | atc
    · have accepted := (accepts .deletePilot).mpr pilot
      rw [refused] at accepted
      cases accepted
    · have accepted := (accepts .deleteATC).mpr atc
      rw [refused] at accepted
      cases accepted
  · intro notShort
    have accepts : forall packetType,
        verifyPacket (line ++ crlf) (s.clients id).callsign = .accepted packetType ↔
          Intended (line ++ crlf) (s.clients id).callsign packetType := by
      intro packetType
      constructor
      · exact intended_of_accepted
      · intro intended
        apply accepted_of_intended intended
        by_contra few
        exact notShort (intended.shortDelete (Nat.lt_of_not_le few))
    refine ⟨accepts, ?_⟩
    intro unintended
    cases verified : verifyPacket (line ++ crlf) (s.clients id).callsign with
    | accepted packetType => exact absurd ((accepts packetType).mp verified) (unintended packetType)
    | refused code message =>
        refine ⟨code, message, rfl, ?_⟩
        unfold Server.processPacket
        rw [verified]

/-- `AAL325` deletes itself in the documented form. -/
theorem documented_delete_unverified : ¬ forall (s : Server Real)
    (md5 : Bytes -> List.Vector UInt8 16) (now : Time) (id : SessionId) (line : Bytes),
      VerifiesAsIntended s md5 now id (line ++ crlf) := by
  intro always
  have verifies := always (serverOf (bytes "AAL325")) (fun _ => List.Vector.replicate 16 0) 0 0
    (bytes "#DPAAL325:1400000")
  have intended : Intended (bytes "#DPAAL325:1400000" ++ crlf) (bytes "AAL325") .deletePilot :=
    ⟨nofun, by decide, by decide, by decide, by decide⟩
  have refused : verifyPacket (bytes "#DPAAL325:1400000" ++ crlf) (bytes "AAL325") =
      .refused SyntaxError (bytes "Packet too short") := refused_of_few _ (by decide)
  have accepted := (verifies.accepts .deletePilot).mpr intended
  exact Verified.noConfusion (refused.symm.trans accepted)

end Fsd
end OpenFsd
