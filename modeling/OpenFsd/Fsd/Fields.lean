import OpenFsd.Fsd.Packet

namespace OpenFsd
namespace Fsd

/-!
# Fields of lines

`getField` walks over separators and cuts a delimiter off whatever it finds.
On a line of the scanner, which has no line feed, and a field that is followed
by a separator, it answers the bytes of the field as they stand.

A packet is taken apart at its first separator, and every function of the
source that reads fields has one equation for that.
-/

/-! ## Taking a packet apart -/

theorem indexByte_append_cons {wanted : UInt8} {first : Bytes} (absent : wanted ∉ first)
    (rest : Bytes) : indexByte (first ++ wanted :: rest) wanted = first.length := by
  have found : (first ++ wanted :: rest).findIdx? (fun other => other == wanted) =
      some first.length := by
    rw [List.findIdx?_append]
    have none : first.findIdx? (fun other => other == wanted) = none := by
      rw [List.findIdx?_eq_none_iff]
      intro other member
      exact beq_eq_false_iff_ne.mpr fun same => absent (same ▸ member)
    rw [none, List.findIdx?_cons]
    simp
  unfold indexByte
  rw [found]

theorem indexByte_of_not_mem {wanted : UInt8} {text : Bytes} (absent : wanted ∉ text) :
    indexByte text wanted = -1 := by
  have none : text.findIdx? (fun other => other == wanted) = none := by
    rw [List.findIdx?_eq_none_iff]
    intro other member
    exact beq_eq_false_iff_ne.mpr fun same => absent (same ▸ member)
  unfold indexByte
  rw [none]

theorem rebaseToNextField_append {first : Bytes} (absent : colon ∉ first) (rest : Bytes) :
    rebaseToNextField (first ++ colon :: rest) = rest := by
  unfold rebaseToNextField
  rw [indexByte_append_cons absent]
  have length : ((first.length : Int) + 1).toNat = first.length + 1 := by omega
  rw [length, List.drop_append, List.drop_of_length_le (Nat.le_succ _), Nat.add_sub_cancel_left]
  rfl

theorem getField_zero_append {first : Bytes} (absent : colon ∉ first) (rest : Bytes) :
    getField (first ++ colon :: rest) 0 = (cutSuffix first crlf).1 := by
  unfold getField
  dsimp only [rebaseFields]
  rw [indexByte_append_cons absent, if_pos (by omega), Int.toNat_natCast, List.take_left]

theorem getField_zero_of_not_mem {packet : Bytes} (absent : colon ∉ packet) :
    getField packet 0 = (cutSuffix packet crlf).1 := by
  unfold getField
  dsimp only [rebaseFields]
  rw [indexByte_of_not_mem absent, if_neg (by simp)]

theorem getField_succ_append {first : Bytes} (absent : colon ∉ first) (rest : Bytes) (index : Nat) :
    getField (first ++ colon :: rest) (index + 1) = getField rest index := by
  unfold getField
  dsimp only [rebaseFields]
  rw [rebaseToNextField_append absent]

theorem rebaseFields_succ_append {first : Bytes} (absent : colon ∉ first) (rest : Bytes)
    (count : Nat) : rebaseFields (count + 1) (first ++ colon :: rest) = rebaseFields count rest := by
  rw [rebaseFields, rebaseToNextField_append absent]

theorem countFields_append {first : Bytes} (absent : colon ∉ first) (rest : Bytes) :
    countFields (first ++ colon :: rest) = countFields rest + 1 := by
  unfold countFields countByte
  rw [List.count_append, List.count_eq_zero_of_not_mem absent, List.count_cons_self]
  omega

theorem colon_mem_of_countFields {packet : Bytes} (several : 2 ≤ countFields packet) :
    colon ∈ packet := by
  apply List.count_pos_iff.mp
  unfold countFields countByte at several
  omega

theorem splitByte_append {first : Bytes} (absent : colon ∉ first) (rest : Bytes) :
    splitByte colon (first ++ colon :: rest) = first :: splitByte colon rest := by
  induction first with
  | nil => simp [splitByte]
  | cons head tail inductionHypothesis =>
      rcases List.ne_and_not_mem_of_not_mem_cons absent with ⟨different, absentTail⟩
      have other : (head == colon) = false := beq_eq_false_iff_ne.mpr (Ne.symm different)
      rw [List.cons_append, splitByte, other, inductionHypothesis absentTail]
      rfl

/-! ## The delimiter -/

theorem cutSuffix_append (text : Bytes) : (cutSuffix (text ++ crlf) crlf).1 = text := by
  have ends : crlf.isSuffixOf (text ++ crlf) = true :=
    List.isSuffixOf_iff_suffix.mpr (List.suffix_append text crlf)
  unfold cutSuffix
  rw [if_pos ends, List.length_append, Nat.add_sub_cancel, List.take_left]

theorem cutSuffix_of_not_mem {text : Bytes} (absent : lineFeed ∉ text) :
    (cutSuffix text crlf).1 = text := by
  have open_ : ¬ crlf.isSuffixOf text = true := by
    intro ends
    have suffix : crlf <:+ text := List.isSuffixOf_iff_suffix.mp ends
    exact absent (suffix.subset (by decide))
  unfold cutSuffix
  rw [if_neg open_]

/-- What is cut off is the delimiter. -/
theorem cutSuffix_subset (text ending : Bytes) : (cutSuffix text ending).1 ⊆ text := by
  unfold cutSuffix
  split
  · exact List.take_subset _ _
  · exact List.Subset.refl text

/-- Take one field off a line that is followed by its delimiter. -/
theorem exists_first_field_of_line {line : Bytes} (several : 2 ≤ countFields (line ++ crlf)) :
    Exists fun first => Exists fun rest => line = first ++ colon :: rest ∧ colon ∉ first ∧
      countFields (line ++ crlf) = countFields (rest ++ crlf) + 1 := by
  have separated : colon ∈ line := by
    rcases List.mem_append.mp (colon_mem_of_countFields several) with inLine | inEnd
    · exact inLine
    · exact absurd inEnd (by decide)
  rcases List.eq_append_cons_of_mem separated with ⟨first, rest, split, absent⟩
  refine ⟨first, rest, split, absent, ?_⟩
  rw [split, List.append_assoc, List.cons_append, countFields_append absent]

/-! ## Putting a packet together -/

/-- The packet with these fields. -/
def packetOf : List Bytes -> Bytes
  | [] => crlf
  | [field] => field ++ crlf
  | field :: next :: rest => field ++ colon :: packetOf (next :: rest)

/-- A text that can be the field of a packet. -/
def PlainField (field : Bytes) : Prop :=
  colon ∉ field ∧ lineFeed ∉ field

instance (field : Bytes) : Decidable (PlainField field) :=
  inferInstanceAs (Decidable (_ ∧ _))

theorem PlainField.append {first second : Bytes} (left : PlainField first)
    (right : PlainField second) : PlainField (first ++ second) :=
  ⟨fun member => (List.mem_append.mp member).elim left.1 right.1,
    fun member => (List.mem_append.mp member).elim left.2 right.2⟩

/-- A packet is a line and its delimiter. -/
theorem exists_line_packetOf {fields : List Bytes}
    (plain : forall field, field ∈ fields -> PlainField field) :
    Exists fun line => packetOf fields = line ++ crlf ∧ lineFeed ∉ line := by
  induction fields with
  | nil => exact ⟨[], rfl, List.not_mem_nil⟩
  | cons first rest inductionHypothesis =>
      have plainFirst := plain first List.mem_cons_self
      cases rest with
      | nil => exact ⟨first, rfl, plainFirst.2⟩
      | cons second others =>
          rcases inductionHypothesis fun field member => plain field (List.mem_cons_of_mem _ member) with
            ⟨line, split, absent⟩
          refine ⟨first ++ colon :: line, ?_, ?_⟩
          · rw [packetOf, split, List.append_assoc, List.cons_append]
          · have separator : lineFeed ≠ colon := by decide
            simp [plainFirst.2, absent, separator]

theorem countFields_packetOf {first : Bytes} {rest : List Bytes}
    (plain : forall field, field ∈ first :: rest -> PlainField field) :
    countFields (packetOf (first :: rest)) = rest.length + 1 := by
  induction rest generalizing first with
  | nil =>
      have absent : colon ∉ first ++ crlf := by
        intro member
        rcases List.mem_append.mp member with inField | inEnd
        · exact (plain first List.mem_cons_self).1 inField
        · exact absurd inEnd (by decide)
      unfold packetOf countFields countByte
      rw [List.count_eq_zero_of_not_mem absent]
      rfl
  | cons next rest inductionHypothesis =>
      rw [packetOf, countFields_append (plain first List.mem_cons_self).1,
        inductionHypothesis fun field member => plain field (List.mem_cons_of_mem first member)]
      rfl

theorem getField_packetOf {fields : List Bytes}
    (plain : forall field, field ∈ fields -> PlainField field) {index : Nat} {field : Bytes}
    (found : fields[index]? = some field) : getField (packetOf fields) index = field := by
  induction fields generalizing index with
  | nil => cases found
  | cons first rest inductionHypothesis =>
      have plainFirst := plain first List.mem_cons_self
      have plainRest : forall field, field ∈ rest -> PlainField field :=
        fun field member => plain field (List.mem_cons_of_mem first member)
      cases rest with
      | nil =>
          cases index with
          | zero =>
              have absent : colon ∉ first ++ crlf := by
                intro member
                rcases List.mem_append.mp member with inField | inEnd
                · exact plainFirst.1 inField
                · exact absurd inEnd (by decide)
              cases found
              rw [packetOf, getField_zero_of_not_mem absent, cutSuffix_append]
          | succ index => cases found
      | cons next rest =>
          cases index with
          | zero =>
              cases found
              rw [packetOf, getField_zero_append plainFirst.1, cutSuffix_of_not_mem plainFirst.2]
          | succ index =>
              rw [packetOf, getField_succ_append plainFirst.1]
              exact inductionHypothesis plainRest found

theorem hasPrefix_append (start rest : Bytes) : hasPrefix (start ++ rest) start = true :=
  List.isPrefixOf_iff_prefix.mpr (List.prefix_append start rest)

theorem cutPrefix_append (start rest : Bytes) : (cutPrefix (start ++ rest) start).1 = rest := by
  unfold cutPrefix
  rw [if_pos (hasPrefix_append start rest)]
  exact List.drop_left

/-- A packet that starts with the prefix of its type and the callsign of its
sender, and has enough fields, is accepted. -/
theorem verifyPacket_packetOf {packetType : PacketType} {callsign : Bytes} {rest : List Bytes}
    (typed : getPacketType (packetOf ((getPacketPrefix packetType ++ callsign) :: rest)) = packetType)
    (known : packetType ≠ .unknown) (index : sourceCallsignFieldIndex packetType = 0)
    (plain : forall field, field ∈ (getPacketPrefix packetType ++ callsign) :: rest ->
      PlainField field)
    (long : 8 ≤ (packetOf ((getPacketPrefix packetType ++ callsign) :: rest)).length)
    (several : 2 ≤ rest.length) (enough : minFields packetType ≤ rest.length + 1) :
    verifyPacket (packetOf ((getPacketPrefix packetType ++ callsign) :: rest)) callsign =
      .accepted packetType := by
  have count := countFields_packetOf plain
  have source : getSourceCallsign (packetOf ((getPacketPrefix packetType ++ callsign) :: rest))
      packetType = callsign := by
    unfold getSourceCallsign
    rw [index, getField_packetOf plain rfl, cutPrefix_append]
  unfold verifyPacket
  dsimp only
  rw [if_neg (by omega), typed, if_neg known, verifySourceCallsign, source,
    if_neg (by simp), if_neg (by omega)]

end Fsd
end OpenFsd
