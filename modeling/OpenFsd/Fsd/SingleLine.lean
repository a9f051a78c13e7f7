import OpenFsd.Fsd.Records
import OpenFsd.Fsd.Deliveries
import OpenFsd.Fsd.Session
import OpenFsd.Go.Decimal
import OpenFsd.Go.Lines

namespace OpenFsd
namespace Fsd

open Db Transition

/-!
# Every packet that goes out is one line

A recipient splits its stream at line feeds.  A packet cannot smuggle a second
one if its only line feed is its last byte, and the received lines have none.
The texts that clients choose come back in many packets, some of them long
after they were received: a flight plan is stored and replayed to others, and
a real name is announced.  So the invariant speaks about the stored texts as
well as about the packets.
-/

/-- A line with its delimiter, and no line feed before that. -/
def SingleLine (packet : Bytes) : Prop :=
  Exists fun line => packet = line ++ crlf ∧ lineFeed ∉ line

/-- A packet has exactly one line feed, which is its last byte and follows a
carriage return. -/
theorem singleLine_iff {packet : Bytes} :
    SingleLine packet ↔ countByte packet lineFeed = 1 ∧ crlf <:+ packet := by
  unfold countByte
  constructor
  · rintro ⟨line, rfl, absent⟩
    refine ⟨?_, List.suffix_append line crlf⟩
    rw [List.count_append, List.count_eq_zero_of_not_mem absent]
    decide
  · rintro ⟨once, line, rfl⟩
    refine ⟨line, rfl, ?_⟩
    rw [List.count_append] at once
    have delimiter : List.count lineFeed crlf = 1 := by decide
    apply List.count_eq_zero.mp
    omega

/-- Who reads the packets that are sent to it reads as many lines. -/
theorem length_lines_flatten {packets : List Bytes}
    (single : forall packet, packet ∈ packets -> SingleLine packet) :
    (lines packets.flatten).length = packets.length := by
  induction packets with
  | nil => rfl
  | cons packet rest inductionHypothesis =>
      rcases single packet List.mem_cons_self with ⟨line, same, absent⟩
      have ended : lineFeed ∉ line ++ [carriageReturn] :=
        List.not_mem_append absent (by decide)
      have stream : (packet :: rest).flatten =
          (line ++ [carriageReturn]) ++ lineFeed :: rest.flatten := by
        rw [List.flatten_cons, same, crlf]
        simp
      rw [stream, lines_append ended, List.length_cons, List.length_cons]
      rw [inductionHypothesis fun other member => single other (List.mem_cons_of_mem packet member)]

theorem SingleLine.of_line {line : Bytes} (absent : lineFeed ∉ line) : SingleLine (line ++ crlf) :=
  ⟨line, rfl, absent⟩

/-! ## Fields -/

theorem rebaseToNextField_subset (packet : Bytes) : rebaseToNextField packet ⊆ packet :=
  List.drop_subset _ packet

theorem rebaseFields_subset (count : Nat) (packet : Bytes) :
    rebaseFields count packet ⊆ packet := by
  induction count generalizing packet with
  | zero => exact List.Subset.refl packet
  | succ count inductionHypothesis =>
      exact List.Subset.trans (inductionHypothesis _) (rebaseToNextField_subset packet)

theorem getField_subset (packet : Bytes) (index : Nat) : getField packet index ⊆ packet := by
  unfold getField
  apply List.Subset.trans (cutSuffix_subset _ crlf)
  apply List.Subset.trans _ (rebaseFields_subset index packet)
  split
  · exact List.take_subset _ _
  · exact List.Subset.refl _

theorem colon_not_mem_append_crlf {line : Bytes} (absent : colon ∉ line) :
    colon ∉ line ++ crlf := by
  intro member
  rcases List.mem_append.mp member with inLine | inEnd
  · exact absent inLine
  · exact absurd inEnd (by decide)

namespace SingleLine

variable {packet : Bytes}

theorem rebaseToNextField (single : SingleLine packet) :
    SingleLine (Fsd.rebaseToNextField packet) := by
  rcases single with ⟨line, rfl, absent⟩
  by_cases separated : colon ∈ line
  · rcases List.eq_append_cons_of_mem separated with ⟨first, rest, split, absentFirst⟩
    rw [split, List.append_assoc, List.cons_append, rebaseToNextField_append absentFirst]
    refine of_line fun member => absent ?_
    rw [split]
    exact List.mem_append_right first (List.mem_cons_of_mem colon member)
  · have none := colon_not_mem_append_crlf separated
    unfold Fsd.rebaseToNextField
    rw [indexByte_of_not_mem none]
    exact of_line absent

theorem rebaseFields (single : SingleLine packet) (count : Nat) :
    SingleLine (Fsd.rebaseFields count packet) := by
  induction count generalizing packet with
  | zero => exact single
  | succ count inductionHypothesis => exact inductionHypothesis single.rebaseToNextField

theorem cutSuffix (single : SingleLine packet) : lineFeed ∉ (OpenFsd.cutSuffix packet crlf).1 := by
  rcases single with ⟨line, rfl, absent⟩
  rwa [cutSuffix_append]

/-- No field of a packet has a line feed. -/
theorem getField (single : SingleLine packet) (index : Nat) :
    lineFeed ∉ Fsd.getField packet index := by
  rcases single.rebaseFields index with ⟨line, same, absent⟩
  unfold Fsd.getField
  rw [same]
  by_cases separated : colon ∈ line
  · rcases List.eq_append_cons_of_mem separated with ⟨first, rest, split, absentFirst⟩
    have position : indexByte (line ++ crlf) colon = first.length := by
      rw [split, List.append_assoc, List.cons_append, indexByte_append_cons absentFirst]
    have present : ¬ (first.length : Int) = -1 := by omega
    dsimp only
    rw [position, if_pos present, Int.toNat_natCast]
    intro member
    have taken := cutSuffix_subset _ _ member
    rw [split, List.append_assoc, List.take_left] at taken
    apply absent
    rw [split]
    exact List.mem_append_left _ taken
  · have none := colon_not_mem_append_crlf separated
    have absentPosition : ¬ ¬ (-1 : Int) = -1 := by omega
    dsimp only
    rw [indexByte_of_not_mem none, if_neg absentPosition, cutSuffix_append]
    exact absent

theorem extractFlightplanInfoSection (single : SingleLine packet) :
    lineFeed ∉ Fsd.extractFlightplanInfoSection packet := by
  unfold Fsd.extractFlightplanInfoSection
  dsimp only
  split
  · exact (single.rebaseFields 2).cutSuffix
  · exact (single.rebaseFields 3).cutSuffix

end SingleLine

/-! ## Numbers and digests -/

theorem lineFeed_not_mem_itoa (number : Int) : lineFeed ∉ itoa number := by
  have absent : lineFeed ∉ digits number.natAbs := by
    intro member
    have ten : lineFeed.toNat = 10 := rfl
    have range := isDigit_of_mem_digits member
    omega
  have sign : lineFeed ≠ byte '-' := by decide
  unfold itoa
  split
  · exact List.not_mem_cons_of_ne_of_not_mem sign absent
  · exact absent

theorem hexDigit_ne_lineFeed {value : UInt8} (small : value < 16) : hexDigit value ≠ lineFeed := by
  intro same
  have below : value.toNat < 16 := small
  have number := congrArg UInt8.toNat same
  have ten : lineFeed.toNat = 10 := rfl
  unfold hexDigit at number
  split at number
  · rw [UInt8.toNat_add, ten] at number
    have offset : (48 : UInt8).toNat = 48 := rfl
    omega
  · rw [UInt8.toNat_add, ten] at number
    have offset : (87 : UInt8).toNat = 87 := rfl
    omega

theorem lineFeed_not_mem_hexEncode (text : Bytes) : lineFeed ∉ hexEncode text := by
  induction text with
  | nil => exact List.not_mem_nil
  | cons head rest inductionHypothesis =>
      have high : head / 16 < 16 := by
        rw [UInt8.lt_iff_toNat_lt, UInt8.toNat_div]
        have bound := head.toNat_lt
        change head.toNat / 16 < 16
        omega
      have low : head % 16 < 16 := by
        rw [UInt8.lt_iff_toNat_lt, UInt8.toNat_mod]
        exact Nat.mod_lt _ (by decide)
      rw [hexEncode]
      exact List.not_mem_cons_of_ne_of_not_mem (hexDigit_ne_lineFeed high).symm
        (List.not_mem_cons_of_ne_of_not_mem (hexDigit_ne_lineFeed low).symm inductionHypothesis)

/-! ## The pieces of a text -/

theorem mem_splitByte_cons {separator head : UInt8} {tail piece : Bytes}
    (member : piece ∈ splitByte separator (head :: tail)) :
    piece = [] ∨ piece ∈ splitByte separator tail ∨
      head ≠ separator ∧ Exists fun first => piece = head :: first ∧
        (first = [] ∨ first ∈ splitByte separator tail) := by
  rw [splitByte] at member
  split at member
  · rcases List.mem_cons.mp member with empty | later
    · exact Or.inl empty
    · exact Or.inr (Or.inl later)
  · next different =>
      have other : head ≠ separator := fun same => different (beq_iff_eq.mpr same)
      split at member
      · exact Or.inr (Or.inr ⟨other, [], List.mem_singleton.mp member, Or.inl rfl⟩)
      · next first rest pieces =>
          rcases List.mem_cons.mp member with extended | later
          · exact Or.inr (Or.inr ⟨other, first, extended, Or.inr (pieces ▸ List.mem_cons_self)⟩)
          · exact Or.inr (Or.inl (pieces ▸ List.mem_cons_of_mem _ later))

theorem not_mem_of_mem_splitByte {separator : UInt8} {text piece : Bytes}
    (member : piece ∈ splitByte separator text) : separator ∉ piece := by
  induction text generalizing piece with
  | nil =>
      rw [List.mem_singleton.mp member]
      exact List.not_mem_nil
  | cons head tail inductionHypothesis =>
      rcases mem_splitByte_cons member with empty | later | ⟨other, first, extended, rest⟩
      · rw [empty]
        exact List.not_mem_nil
      · exact inductionHypothesis later
      · rw [extended]
        apply List.not_mem_cons_of_ne_of_not_mem (Ne.symm other)
        rcases rest with empty | later
        · rw [empty]
          exact List.not_mem_nil
        · exact inductionHypothesis later

theorem subset_of_mem_splitByte {separator : UInt8} {text piece : Bytes}
    (member : piece ∈ splitByte separator text) : piece ⊆ text := by
  induction text generalizing piece with
  | nil =>
      rw [List.mem_singleton.mp member]
      exact List.nil_subset _
  | cons head tail inductionHypothesis =>
      rcases mem_splitByte_cons member with empty | later | ⟨_, first, extended, rest⟩
      · rw [empty]
        exact List.nil_subset _
      · exact List.subset_cons_of_subset head (inductionHypothesis later)
      · rw [extended]
        apply List.cons_subset_cons
        rcases rest with empty | later
        · rw [empty]
          exact List.nil_subset _
        · exact inductionHypothesis later

/-! ## The packets of a packet -/

variable {F : Type}

/-- The texts of a client that packets may carry. -/
def Client.texts (client : Client F) : List Bytes :=
  [client.callsign, client.realName, client.remoteAddr, client.flightPlan, client.assignedBeaconCode]

/-- No text of the client has a line feed. -/
def Client.Unbroken (client : Client F) : Prop :=
  forall text, text ∈ client.texts -> lineFeed ∉ text

theorem unbroken_iff {client : Client F} : client.Unbroken ↔
    lineFeed ∉ client.callsign ∧ lineFeed ∉ client.realName ∧ lineFeed ∉ client.remoteAddr ∧
      lineFeed ∉ client.flightPlan ∧ lineFeed ∉ client.assignedBeaconCode := by
  simp only [Client.Unbroken, Client.texts, List.forall_mem_cons, List.not_mem_nil, false_implies,
    implies_true, and_true]

namespace Client.Unbroken

variable {client : Client F}

theorem callsign (unbroken : client.Unbroken) : lineFeed ∉ client.callsign :=
  (unbroken_iff.mp unbroken).1

theorem realName (unbroken : client.Unbroken) : lineFeed ∉ client.realName :=
  (unbroken_iff.mp unbroken).2.1

theorem remoteAddr (unbroken : client.Unbroken) : lineFeed ∉ client.remoteAddr :=
  (unbroken_iff.mp unbroken).2.2.1

theorem flightPlan (unbroken : client.Unbroken) : lineFeed ∉ client.flightPlan :=
  (unbroken_iff.mp unbroken).2.2.2.1

theorem assignedBeaconCode (unbroken : client.Unbroken) : lineFeed ∉ client.assignedBeaconCode :=
  (unbroken_iff.mp unbroken).2.2.2.2

end Client.Unbroken

theorem singleLine_errorPacket (code : Int) {message : Bytes} (absent : lineFeed ∉ message) :
    SingleLine (errorPacket code message) := by
  apply SingleLine.of_line
  simp only [List.mem_append, not_or]
  exact ⟨⟨⟨by decide, lineFeed_not_mem_itoa code⟩, by decide⟩, absent⟩

theorem lineFeed_not_mem_errorTexts {text : String} (worded : text ∈ errorTexts) :
    lineFeed ∉ bytes text := by
  have all : forall text, text ∈ errorTexts -> lineFeed ∉ bytes text := by decide +kernel
  exact all text worded

theorem singleLine_buildFileFlightplanPacket {source fplInfo : Bytes} (named : lineFeed ∉ source)
    (absent : lineFeed ∉ fplInfo) :
    SingleLine (buildFileFlightplanPacket source (bytes "*A") fplInfo) := by
  apply SingleLine.of_line
  simp only [List.mem_append, not_or]
  exact ⟨⟨⟨⟨⟨by decide, named⟩, by decide⟩, by decide⟩, by decide⟩, absent⟩

theorem singleLine_buildAmendFlightplanPacket {source target fplInfo : Bytes}
    (named : lineFeed ∉ source) (targeted : lineFeed ∉ target) (absent : lineFeed ∉ fplInfo) :
    SingleLine (buildAmendFlightplanPacket source (bytes "*A") target fplInfo) := by
  apply SingleLine.of_line
  simp only [List.mem_append, not_or]
  exact ⟨⟨⟨⟨⟨⟨⟨by decide, named⟩, by decide⟩, by decide⟩, by decide⟩, targeted⟩, by decide⟩, absent⟩

theorem singleLine_buildBeaconCodePacket {recipient target beaconCode : Bytes}
    (named : lineFeed ∉ recipient) (targeted : lineFeed ∉ target) (absent : lineFeed ∉ beaconCode) :
    SingleLine (buildBeaconCodePacket (bytes "server") recipient target beaconCode) := by
  apply SingleLine.of_line
  simp only [List.mem_append, not_or]
  exact ⟨⟨⟨⟨⟨⟨⟨by decide, by decide⟩, by decide⟩, named⟩, by decide⟩, targeted⟩, by decide⟩, absent⟩

/-- The sender's answers are single lines, for whatever was stored. -/
theorem Reply.singleLine {s : Server F} {id : SessionId} {packet reply : Bytes}
    (answers : Reply s id packet reply) (single : SingleLine packet)
    (own : (s.clients id).Unbroken)
    (others : forall callsign target, s.find callsign = some target ->
      (s.clients target).Unbroken) : SingleLine reply := by
  cases answers with
  | error code text worded => exact singleLine_errorPacket code (lineFeed_not_mem_errorTexts worded)
  | missing index =>
      apply singleLine_errorPacket
      exact List.not_mem_append (by decide) (single.getField index)
  | active answer short =>
      apply SingleLine.of_line
      have plain : lineFeed ∉ answer := by
        rcases short with yes | no
        · rw [yes]
          decide
        · rw [no]
          decide
      simp only [List.mem_append, not_or]
      exact ⟨⟨⟨⟨⟨by decide, own.callsign⟩, by decide⟩, plain⟩, by decide⟩, single.getField 3⟩
  | address =>
      apply SingleLine.of_line
      have plain : lineFeed ∉ (splitByte colon (s.clients id).remoteAddr).headD [] := by
        cases pieces : splitByte colon (s.clients id).remoteAddr with
        | nil => exact List.not_mem_nil
        | cons first rest =>
            intro member
            have piece : first ∈ splitByte colon (s.clients id).remoteAddr :=
              pieces ▸ List.mem_cons_self
            exact own.remoteAddr (subset_of_mem_splitByte piece member)
      simp only [List.mem_append, not_or]
      exact ⟨⟨⟨by decide, own.callsign⟩, by decide⟩, plain⟩
  | flightPlan target registered =>
      exact singleLine_buildFileFlightplanPacket (single.getField 3)
        (others _ target registered).flightPlan
  | beaconCode target registered code stored =>
      apply singleLine_buildBeaconCodePacket own.callsign (single.getField 3)
      rcases stored with zero | assigned
      · rw [zero]
        decide
      · rw [assigned]
        exact (others _ target registered).assignedBeaconCode
  | challenged digest =>
      apply SingleLine.of_line
      simp only [List.mem_append, not_or]
      exact ⟨⟨⟨by decide, own.callsign⟩, by decide⟩, lineFeed_not_mem_hexEncode _⟩
  | sendFast enabled =>
      apply SingleLine.of_line
      simp only [List.mem_append, not_or]
      refine ⟨⟨⟨by decide, own.callsign⟩, by decide⟩, ?_⟩
      cases enabled <;> decide

/-- A single line leads to single lines only. -/
theorem Outgoing.singleLine {s : Server F} {id recipient : SessionId} {packet sent : Bytes}
    (outgoing : Outgoing s id packet (.send recipient sent)) (single : SingleLine packet)
    (own : (s.clients id).Unbroken)
    (others : forall callsign target, s.find callsign = some target ->
      (s.clients target).Unbroken) : SingleLine sent := by
  cases outgoing with
  | relayed => exact single
  | filed =>
      exact singleLine_buildFileFlightplanPacket own.callsign single.extractFlightplanInfoSection
  | amended =>
      exact singleLine_buildAmendFlightplanPacket own.callsign (single.getField 2)
        single.extractFlightplanInfoSection
  | replied reply answers => exact answers.singleLine single own others

theorem singleLine_addPacket {client : Client F} (unbroken : client.Unbroken) :
    SingleLine (Server.addPacket client) := by
  unfold Server.addPacket
  split
  · apply SingleLine.of_line
    simp only [List.mem_append, not_or]
    exact ⟨⟨⟨⟨⟨⟨⟨⟨⟨by decide, unbroken.callsign⟩, by decide⟩, unbroken.realName⟩, by decide⟩,
      lineFeed_not_mem_itoa _⟩, by decide⟩, lineFeed_not_mem_itoa _⟩, by decide⟩,
      lineFeed_not_mem_itoa _⟩
  · apply SingleLine.of_line
    simp only [List.mem_append, not_or]
    exact ⟨⟨⟨⟨⟨⟨⟨⟨⟨by decide, unbroken.callsign⟩, by decide⟩, lineFeed_not_mem_itoa _⟩, by decide⟩,
      lineFeed_not_mem_itoa _⟩, by decide⟩, lineFeed_not_mem_itoa _⟩, by decide⟩, unbroken.realName⟩

theorem singleLine_disconnectPacket {client : Client F} (unbroken : client.Unbroken) :
    SingleLine (Server.disconnectPacket client) := by
  apply SingleLine.of_line
  simp only [List.mem_append, not_or]
  refine ⟨⟨⟨?_, unbroken.callsign⟩, by decide⟩, lineFeed_not_mem_itoa _⟩
  split <;> decide

theorem singleLine_serverTextMessage {client : Client F} (unbroken : client.Unbroken)
    {message : Bytes} (absent : lineFeed ∉ message) :
    SingleLine (Server.serverTextMessage client message) := by
  apply SingleLine.of_line
  simp only [List.mem_append, not_or]
  exact ⟨⟨⟨by decide, unbroken.callsign⟩, by decide⟩, absent⟩

/-- The welcome message is cut at its line feeds. -/
theorem singleLine_motdPackets {client : Client F} (unbroken : client.Unbroken)
    {database : Database} {getConfigFails : Bool} {packet : Bytes}
    (member : packet ∈ Server.motdPackets database getConfigFails client) : SingleLine packet := by
  unfold Server.motdPackets at member
  dsimp only at member
  split at member
  · rcases List.mem_map.mp member with ⟨message, piece, same⟩
    rw [← same]
    exact singleLine_serverTextMessage unbroken (not_mem_of_mem_splitByte piece)
  · rw [List.mem_singleton.mp member]
    exact singleLine_serverTextMessage unbroken (by decide)

/-! ## The login -/

theorem singleLine_serverIdent : SingleLine serverIdent :=
  SingleLine.of_line (by decide)

/-- Whatever this part of a login writes when it fails is one line. -/
def Refuses {X : Type} (result : LoginResult X) : Prop :=
  forall sent, result = .error (some sent) -> SingleLine sent

namespace Refuses

variable {X Y : Type}

theorem ok (value : X) : Refuses (.ok value : LoginResult X) :=
  nofun

theorem quiet : Refuses (.error none : LoginResult X) :=
  nofun

theorem bind {first : LoginResult X} {next : X -> LoginResult Y} (before : Refuses first)
    (after : forall value, Refuses (next value)) : Refuses (first >>= next) := by
  cases first with
  | error sent => exact fun packet same => before packet (congrArg Except.error (Except.error.inj same))
  | ok value => exact after value

theorem refuse {code : Int} {message : String} (absent : lineFeed ∉ bytes message) :
    Refuses (Fsd.refuse code message : LoginResult X) := by
  intro sent same
  rw [← Option.some.inj (Except.error.inj same)]
  exact singleLine_errorPacket code absent

theorem require {condition : Bool} {code : Int} {message : String}
    (absent : lineFeed ∉ bytes message) : Refuses (Fsd.require condition code message) := by
  cases condition
  · exact refuse absent
  · exact ok ()

theorem scanned {line : Option Bytes} {message : String} (absent : lineFeed ∉ bytes message) :
    Refuses (Fsd.scanned line message) := by
  cases line with
  | none => exact refuse absent
  | some packet => exact ok packet

theorem numericField {packet : Bytes} {index : Nat} {message : String}
    (absent : lineFeed ∉ bytes message) : Refuses (Fsd.numericField packet index message) := by
  unfold Fsd.numericField
  split
  · exact refuse absent
  · exact ok _

end Refuses

theorem refuses_readChallenge (idPacket : Bytes) : Refuses (readChallenge idPacket) := by
  unfold readChallenge
  split
  · dsimp only
    split
    · exact .refuse (by decide)
    · exact .ok _
  · exact .ok _

theorem refuses_readClientType (addPacket : Bytes) : Refuses (readClientType addPacket) := by
  unfold readClientType
  split
  · exact .ok _
  · split
    · exact .ok _
    · exact .refuse (by decide)

theorem refuses_readCallsign (addPacket : Bytes) (isAtc : Bool) :
    Refuses (readCallsign addPacket isAtc) := by
  unfold readCallsign
  generalize (if isAtc then bytes "#AA" else bytes "#AP") = start
  dsimp only
  split
  · exact .ok _
  · exact .refuse (by decide)

theorem refuses_readFields (addPacket : Bytes) (isAtc : Bool) :
    Refuses (readFields addPacket isAtc) := by
  cases isAtc
  · apply Refuses.bind (.numericField (by decide))
    intro cid
    apply Refuses.bind (.numericField (by decide))
    intro networkRating
    apply Refuses.bind (.numericField (by decide))
    exact fun protoRevision => .ok _
  · apply Refuses.bind (.numericField (by decide))
    intro cid
    apply Refuses.bind (.numericField (by decide))
    intro networkRating
    apply Refuses.bind (.numericField (by decide))
    exact fun protoRevision => .ok _

theorem refuses_readLoginPackets (now : Time) (idLine addLine : Option Bytes) :
    Refuses (readLoginPackets now idLine addLine) := by
  apply Refuses.bind (.scanned (by decide))
  intro idPacket
  apply Refuses.bind (.scanned (by decide))
  intro addPacket
  apply Refuses.bind (refuses_readChallenge idPacket)
  intro challenge
  apply Refuses.bind (.require (by decide))
  intro _
  apply Refuses.bind (refuses_readClientType addPacket)
  intro isAtc
  have counted : lineFeed ∉ bytes (if isAtc then "Invalid number of fields in ATC add packet"
      else "Invalid number of fields in pilot add packet") := by
    cases isAtc <;> decide
  apply Refuses.bind (.require counted)
  intro _
  apply Refuses.bind (refuses_readCallsign addPacket isAtc)
  intro callsign
  apply Refuses.bind (refuses_readFields addPacket isAtc)
  intro fields
  apply Refuses.bind (.require (by decide))
  exact fun _ => .ok _

theorem refuses_checkRating (networkRating limit : NetworkRating) :
    Refuses (checkRating networkRating limit) := by
  apply Refuses.bind (.require (by decide))
  exact fun _ => .require (by decide)

theorem refuses_authenticate (P : Platform) (env : LoginEnv) (database : Database)
    (client : Client F) (token : Bytes) : Refuses (authenticate P env database client token) := by
  unfold authenticate
  split
  · unfold authenticateToken
    split
    · exact .quiet
    · split
      · exact .refuse (by decide)
      · apply Refuses.bind (.require (by decide))
        intro _
        apply Refuses.bind (.require (by decide))
        intro _
        apply Refuses.bind (refuses_checkRating _ _)
        exact fun _ => .ok _
  · unfold authenticatePassword
    split
    · exact .refuse (by decide)
    · apply Refuses.bind (.require (by decide))
      intro _
      apply Refuses.bind (refuses_checkRating _ _)
      exact fun _ => .ok _

theorem refuses_initializeChallenge (P : Platform) (client : Client F) :
    Refuses (initializeChallenge P client) := by
  unfold initializeChallenge
  split
  · exact .ok _
  · split
    · exact .refuse (by decide)
    · exact .ok _

variable [GoFloat F]

/-- A refused connection is told so in one line. -/
theorem refuses_connect (s : Server F) (P : Platform) (env : LoginEnv) (database : Database)
    (id : SessionId) (idLine addLine : Option Bytes) :
    Refuses (s.connect P env database id idLine addLine) := by
  have loggedIn : Refuses (login P env database idLine addLine : LoginResult (Client F)) := by
    apply Refuses.bind (refuses_readLoginPackets env.now idLine addLine)
    intro data
    apply Refuses.bind (.require (by decide))
    intro _
    apply Refuses.bind (refuses_initializeChallenge P _)
    intro challenged
    apply Refuses.bind (refuses_authenticate P env database challenged _)
    exact fun _ => .ok _
  apply Refuses.bind loggedIn
  intro client
  split
  · exact .refuse (by decide)
  · exact .ok _

/-! ## The stored texts -/

/-- The texts of a new client come from its address and from its lines. -/
theorem unbroken_of_login {P : Platform} {env : LoginEnv} {database : Database}
    {idLine addLine : Option Bytes} {client : Client F}
    (loggedIn : login P env database idLine addLine = .ok client)
    (addressed : lineFeed ∉ env.remoteAddr)
    (received : forall line, addLine = some line -> lineFeed ∉ line) : client.Unbroken := by
  rcases login_eq_ok loggedIn with ⟨_, _, _, _, admitted⟩
  rcases login_fresh loggedIn with ⟨data, token, authState, limit, read, same⟩
  rcases lines_of_readLoginPackets read with ⟨_, addPacket, rfl, rfl⟩
  rcases readLoginPackets_eq_ok_iff.mp read with ⟨_, _, addRead, _⟩
  have callsign : lineFeed ∉ client.callsign :=
    (validCallsign_iff.mp admitted.callsign).lineFeed_not_mem
  have realName : lineFeed ∉ client.realName := by
    have sameName : client.realName = getField addPacket (if data.isAtc then 2 else 7) := by
      rw [same]
      exact addRead.realName
    rw [sameName]
    exact fun member => received addPacket rfl (getField_subset addPacket _ member)
  subst same
  exact unbroken_iff.mpr ⟨callsign, realName, addressed, List.not_mem_nil, List.not_mem_nil⟩

/-- The only text that a packet changes is a flight plan, and it takes it from
the packet. -/
theorem Altered.unbroken {s : Server F} {id other : SessionId} {packet : Bytes}
    {client next : Client F} (altered : Altered s id packet other client next)
    (single : SingleLine packet) (unbroken : client.Unbroken) : next.Unbroken := by
  have replanned : forall {before : Client F}, before.Unbroken ->
      ({ before with flightPlan := extractFlightplanInfoSection packet } : Client F).Unbroken := by
    intro before unbroken
    exact unbroken_iff.mpr ⟨unbroken.callsign, unbroken.realName, unbroken.remoteAddr,
      single.extractFlightplanInfoSection, unbroken.assignedBeaconCode⟩
  induction altered with
  | same => exact unbroken
  | andThen first second firstHypothesis secondHypothesis =>
      exact secondHypothesis (firstHypothesis unbroken)
  | cancelled => exact unbroken
  | searched => exact unbroken
  | moved => exact unbroken
  | placed => exact unbroken
  | updated => exact unbroken
  | reported => exact unbroken
  | switched => exact unbroken
  | challenged => exact unbroken
  | filed => exact replanned unbroken
  | amended => exact replanned unbroken

/-! ## The system -/

/-- What the server reads are lines, and the address of a connection is none
of its client's choosing. -/
def FromLines : Action -> Prop
  | .connect env _ idLine addLine => lineFeed ∉ env.remoteAddr ∧
      (forall line, idLine = some line -> lineFeed ∉ line) ∧
        forall line, addLine = some line -> lineFeed ∉ line
  | .packet _ _ packet => SingleLine packet
  | _ => True

/-- If the event sends a packet, the packet is one line. -/
def SendsLine (event : Event) : Prop :=
  forall recipient packet, event = .send recipient packet -> SingleLine packet

theorem SendsLine.send {recipient : SessionId} {packet : Bytes} (single : SingleLine packet) :
    SendsLine (.send recipient packet) := by
  intro other sent same
  cases same
  exact single

namespace System

variable {P : Platform}

/-- No stored text can break a line, and no packet so far was more than one. -/
structure Contained (system : System F) : Prop where
  stored : forall id, id < system.allocated -> (system.server.clients id).Unbroken
  sent : forall event, event ∈ system.server.events -> SendsLine event

omit [GoFloat F] in
theorem contained_start (heap : SessionId -> Client F) : Contained (start heap) where
  stored := fun _ below => absurd below (Nat.not_lt_zero _)
  sent := fun _ member => absurd member List.not_mem_nil

/-- The packets of one step are single lines. -/
theorem Contained.emits {system next : System F} {action : Action} (contained : Contained system)
    (wellFormed : WellFormed P system) (received : FromLines action)
    (taken : System.step P system action = some next) :
    Server.Emits SendsLine system.server next.server := by
  have registeredUnbroken : forall id, system.server.Registered id ->
      (system.server.clients id).Unbroken := fun id registered =>
    contained.stored id (wellFormed.allocated_of_registered registered)
  cases action with
  | connect env database idLine addLine =>
      rcases step_connect_cases taken with same | ⟨server, connected, same⟩
      · rw [same]
        exact .silent rfl
      · rw [same]
        exact .silent (Server.events_connect connected)
  | announce id =>
      rcases Option.ite_none_right_eq_some.mp taken with ⟨registered, same⟩
      rw [← Option.some.inj same]
      exact Server.emits_broadcastAllWhere _ id _ fun _ =>
        .send (singleLine_addPacket (registeredUnbroken id registered))
  | packet now id packet =>
      rcases Option.ite_none_right_eq_some.mp taken with ⟨registered, same⟩
      rw [← Option.some.inj same]
      rcases system.server.emits_processPacket P.md5 now id packet with ⟨caused, grown, permitted⟩
      refine ⟨caused, grown, ?_⟩
      intro event member recipient sent same
      have outgoing := permitted event member
      rw [same] at outgoing
      exact outgoing.singleLine received (registeredUnbroken id registered)
        fun callsign target found => contained.stored target (wellFormed.mapped callsign target found).2
  | depart id =>
      rcases Option.ite_none_right_eq_some.mp taken with ⟨registered, same⟩
      rw [← Option.some.inj same]
      have cancelled : Server.Emits SendsLine system.server (system.server.cancelCtx id) :=
        Server.emits_cancelCtx _ nofun
      refine cancelled.trans (Server.emits_broadcastAllWhere _ id _ fun _ => .send ?_)
      have unbroken : ((system.server.cancelCtx id).clients id).Unbroken := by
        rcases (Undisturbed.cancelCtx system.server id).clients id with ⟨_, record⟩
        rw [record]
        exact registeredUnbroken id registered
      exact singleLine_disconnectPacket unbroken
  | release id =>
      rcases Option.ite_none_right_eq_some.mp taken with ⟨_, same⟩
      rw [← Option.some.inj same]
      exact .silent rfl
  | kick callsign =>
      rcases Option.map_eq_some_iff.mp taken with ⟨server, kicked, same⟩
      rcases Option.map_eq_some_iff.mp kicked with ⟨victim, _, cancelled⟩
      rw [← same, ← cancelled]
      exact Server.emits_cancelCtx _ nofun

theorem Contained.step {system next : System F} {action : Action} (contained : Contained system)
    (wellFormed : WellFormed P system) (received : FromLines action)
    (taken : System.step P system action = some next) : Contained next where
  stored := by
    cases recorded_of_step taken with
    | refused => exact contained.stored
    | connected env database idLine addLine client server loggedIn registered =>
        intro id below
        dsimp only
        rw [registered.clients]
        by_cases own : id = system.allocated
        · rw [own, Function.update_self]
          exact unbroken_of_login loggedIn received.1 received.2.2
        · rw [Function.update_of_ne own]
          exact contained.stored id (Nat.lt_of_le_of_ne (Nat.le_of_lt_succ below) own)
    | processed now id packet =>
        intro other below
        have altered := system.server.alters_processPacket P.md5 now id packet other
        exact altered.unbroken received (contained.stored other below)
    | undisturbed action server _ undisturbed =>
        intro other below
        rcases undisturbed.clients other with ⟨_, record⟩
        dsimp only
        rw [record]
        exact contained.stored other below
    | released id => exact contained.stored
  sent := by
    rcases contained.emits wellFormed received taken with ⟨caused, grown, permitted⟩
    intro event member
    rw [grown] at member
    rcases List.mem_append.mp member with before | now
    · exact contained.sent event before
    · exact permitted event now

theorem contained_of_run {heap : SessionId -> Client F} {system : System F} {actions : List Action}
    (received : forall action, action ∈ actions -> FromLines action)
    (executed : run (System.step P) (start heap) actions = some system) :
    WellFormed P system ∧ Contained system := by
  have preserved : forall (state : System F) (action : Action) (next : System F),
      System.step P state action = some next -> FromLines action ->
        WellFormed P state ∧ Contained state -> WellFormed P next ∧ Contained next :=
    fun _ _ _ taken received both =>
      ⟨both.1.step taken, both.2.step both.1 received taken⟩
  exact invariant_along preserved ⟨wellFormed_start heap, contained_start heap⟩
    (along_of_forall received _) executed

/-- Whatever lines the clients have sent, every packet that goes out is one
line: the ident, the refusal of a login, the welcome of a session, and all
that is queued for anybody.  So nobody reads more lines than packets were
sent to it. -/
theorem outbound_singleLine {heap : SessionId -> Client F} {system : System F}
    {actions : List Action} (received : forall action, action ∈ actions -> FromLines action)
    (executed : run (System.step P) (start heap) actions = some system) :
    SingleLine serverIdent ∧
    (forall env database idLine addLine sent,
      system.server.connect P env database system.allocated idLine addLine = .error (some sent) ->
        SingleLine sent) ∧
    (forall id, system.server.Registered id -> forall database getConfigFails packet,
      packet ∈ Server.motdPackets database getConfigFails (system.server.clients id) ->
        SingleLine packet) ∧
    (forall recipient packet, Event.send recipient packet ∈ system.server.events ->
      SingleLine packet) ∧
    forall recipient, (lines (sentTo recipient system.server.events).flatten).length =
      (sentTo recipient system.server.events).length := by
  rcases contained_of_run received executed with ⟨wellFormed, contained⟩
  have queued : forall recipient packet, Event.send recipient packet ∈ system.server.events ->
      SingleLine packet := fun recipient packet member => contained.sent _ member recipient packet rfl
  refine ⟨singleLine_serverIdent, ?_, ?_, queued, ?_⟩
  · intro env database idLine addLine sent refused
    exact refuses_connect _ P env database _ idLine addLine sent refused
  · intro id registered database getConfigFails packet member
    have unbroken := contained.stored id (wellFormed.allocated_of_registered registered)
    exact singleLine_motdPackets unbroken member
  · intro recipient
    exact length_lines_flatten fun packet member => queued recipient packet (mem_sentTo.mp member)

/-- A controller logs in and asks for its address. -/
theorem outbound_singleLine_sample : Exists fun system : System Real =>
    system.server.Registered 0 ∧
      (forall database getConfigFails packet,
        packet ∈ Server.motdPackets database getConfigFails (system.server.clients 0) ->
          SingleLine packet) ∧
      forall recipient packet, Event.send recipient packet ∈ system.server.events ->
        SingleLine packet := by
  rcases exists_sampleSession fun _ => newClient [] sampleData with ⟨server, connected⟩
  rcases Server.connect_eq_ok connected with ⟨client, loggedIn, registeredAs⟩
  have query : SingleLine (bytes "$CQLON_CTR:SERVER:IP" ++ crlf) := SingleLine.of_line (by decide)
  have executed : run (System.step Symbolic.platform) (start fun _ => newClient [] sampleData)
      [.connect sampleLogin Symbolic.database sampleIdLine sampleAddLine,
        .packet 0 0 (bytes "$CQLON_CTR:SERVER:IP" ++ crlf)] =
      some ⟨server.processPacket Symbolic.platform.md5 0 0 (bytes "$CQLON_CTR:SERVER:IP" ++ crlf), 1⟩ := by
    rw [run_cons_of_step (step_connect connected)]
    exact run_cons_of_step (if_pos registeredAs.registered) []
  have received : forall action, action ∈ [Action.connect sampleLogin Symbolic.database sampleIdLine
      sampleAddLine, .packet 0 0 (bytes "$CQLON_CTR:SERVER:IP" ++ crlf)] -> FromLines action := by
    intro action member
    simp only [List.mem_cons, List.not_mem_nil, or_false] at member
    rcases member with rfl | rfl
    · refine ⟨by decide, ?_, ?_⟩
      · intro line same
        rw [← Option.some.inj same]
        decide
      · intro line same
        rw [← Option.some.inj same]
        decide
    · exact query
  rcases outbound_singleLine received executed with ⟨_, _, welcome, queued, _⟩
  have registered := (server.registered_processPacket Symbolic.platform.md5 0 0
    (bytes "$CQLON_CTR:SERVER:IP" ++ crlf)).mpr registeredAs.registered
  exact ⟨_, registered, welcome 0 registered, queued⟩

end System

end Fsd
end OpenFsd
