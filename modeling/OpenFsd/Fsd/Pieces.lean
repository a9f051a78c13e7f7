import OpenFsd.Fsd.Fields
import Mathlib.Logic.Function.Iterate

namespace OpenFsd
namespace Fsd

/-!
# Fields are the pieces between colons

`countFields`, `getField` and `rebaseToNextField` search for one separator at a
time.  Together they amount to splitting the packet at every colon: a field is
a piece without its delimiter, and what is left after some fields is their
successors, joined again.

Beyond the last piece `getField` finds no separator any more.  `IndexByte`
answers `-1` then, the rest starts at `-1 + 1`, and the last piece is read
again, whatever the index.
-/

/-- Every packet is its only piece, or its first piece, a separator, and a
packet. -/
theorem pieces_induction {motive : Bytes -> Prop} (last : forall piece, colon ∉ piece -> motive piece)
    (cons : forall piece rest, colon ∉ piece -> motive rest -> motive (piece ++ colon :: rest))
    (packet : Bytes) : motive packet := by
  induction counted : countFields packet generalizing packet with
  | zero => exact absurd counted (Nat.succ_ne_zero _)
  | succ count inductionHypothesis =>
      by_cases separated : colon ∈ packet
      · rcases List.eq_append_cons_of_mem separated with ⟨piece, rest, rfl, absent⟩
        rw [countFields_append absent] at counted
        exact cons piece rest absent (inductionHypothesis rest (Nat.succ.inj counted))
      · exact last packet separated

theorem splitOn_append {piece : Bytes} (absent : colon ∉ piece) (rest : Bytes) :
    (piece ++ colon :: rest).splitOn colon = piece :: rest.splitOn colon :=
  List.splitOn_append_cons_self_of_not_mem absent rest

/-- The fields are counted as the pieces are. -/
theorem countFields_eq_length (packet : Bytes) :
    countFields packet = (packet.splitOn colon).length := by
  induction packet using pieces_induction with
  | last piece absent =>
      rw [List.splitOn_eq_singleton absent]
      unfold countFields countByte
      rw [List.count_eq_zero_of_not_mem absent]
      rfl
  | cons piece rest absent inductionHypothesis =>
      rw [countFields_append absent, splitOn_append absent, List.length_cons, inductionHypothesis]

/-! ## Beyond the last piece -/

/-- Without a separator the search answers `-1`, and the rest is everything. -/
theorem rebaseToNextField_of_not_mem {packet : Bytes} (absent : colon ∉ packet) :
    rebaseToNextField packet = packet := by
  unfold rebaseToNextField
  rw [indexByte_of_not_mem absent]
  rfl

theorem rebaseFields_of_not_mem {packet : Bytes} (absent : colon ∉ packet) (count : Nat) :
    rebaseFields count packet = packet := by
  induction count with
  | zero => rfl
  | succ count inductionHypothesis =>
      rw [rebaseFields, rebaseToNextField_of_not_mem absent, inductionHypothesis]

theorem getField_of_not_mem {packet : Bytes} (absent : colon ∉ packet) (index : Nat) :
    getField packet index = (cutSuffix packet crlf).1 := by
  have unmoved : getField packet index = getField packet 0 := by
    unfold getField
    rw [rebaseFields_of_not_mem absent, rebaseFields_of_not_mem absent]
  rw [unmoved, getField_zero_of_not_mem absent]

/-! ## One field, and the fields after some -/

theorem getField_eq_piece {packet : Bytes} {index : Nat}
    (below : index < (packet.splitOn colon).length) :
    getField packet index = (cutSuffix (packet.splitOn colon)[index] crlf).1 := by
  induction packet using pieces_induction generalizing index with
  | last piece absent =>
      simp only [List.splitOn_eq_singleton absent, List.length_singleton, Nat.lt_one_iff] at below
      subst below
      simp only [List.splitOn_eq_singleton absent, List.getElem_cons_zero]
      exact getField_zero_of_not_mem absent
  | cons piece rest absent inductionHypothesis =>
      simp only [splitOn_append absent, List.length_cons] at below
      cases index with
      | zero =>
          simp only [splitOn_append absent, List.getElem_cons_zero]
          exact getField_zero_append absent rest
      | succ index =>
          simp only [splitOn_append absent, List.getElem_cons_succ]
          rw [getField_succ_append absent]
          exact inductionHypothesis (Nat.lt_of_succ_lt_succ below)

theorem getField_eq_last {packet : Bytes} {index : Nat}
    (beyond : (packet.splitOn colon).length ≤ index) :
    getField packet index =
      (cutSuffix ((packet.splitOn colon).getLast (List.splitOn_ne_nil colon packet)) crlf).1 := by
  induction packet using pieces_induction generalizing index with
  | last piece absent =>
      simp only [List.splitOn_eq_singleton absent, List.getLast_singleton]
      exact getField_of_not_mem absent index
  | cons piece rest absent inductionHypothesis =>
      simp only [splitOn_append absent, List.length_cons] at beyond
      cases index with
      | zero => exact absurd beyond (Nat.not_succ_le_zero _)
      | succ index =>
          simp only [splitOn_append absent, List.getLast_cons (List.splitOn_ne_nil colon rest)]
          rw [getField_succ_append absent]
          exact inductionHypothesis (Nat.le_of_succ_le_succ beyond)

/-- The loop over `rebaseToNextField` is its iteration. -/
theorem rebaseFields_eq_iterate (count : Nat) (packet : Bytes) :
    rebaseFields count packet = rebaseToNextField^[count] packet := by
  induction count generalizing packet with
  | zero => rfl
  | succ count inductionHypothesis =>
      rw [rebaseFields, inductionHypothesis, Function.iterate_succ_apply]

theorem rebaseFields_eq_intercalate {packet : Bytes} {count : Nat}
    (below : count < (packet.splitOn colon).length) :
    rebaseFields count packet = [colon].intercalate ((packet.splitOn colon).drop count) := by
  induction count generalizing packet with
  | zero => rw [rebaseFields, List.drop_zero, List.intercalate_splitOn]
  | succ count inductionHypothesis =>
      have separated : colon ∈ packet := by
        apply colon_mem_of_countFields
        rw [countFields_eq_length]
        omega
      rcases List.eq_append_cons_of_mem separated with ⟨piece, rest, rfl, absent⟩
      rw [splitOn_append absent, List.length_cons] at below
      rw [rebaseFields_succ_append absent, splitOn_append absent, List.drop_succ_cons]
      exact inductionHypothesis (Nat.lt_of_succ_lt_succ below)

/-- The functions that read fields, in terms of the pieces between colons. -/
theorem fields_are_pieces (packet : Bytes) (index : Nat) :
    countFields packet = (packet.splitOn colon).length ∧
      (forall below : index < (packet.splitOn colon).length,
        getField packet index = (cutSuffix (packet.splitOn colon)[index] crlf).1) ∧
      ((packet.splitOn colon).length ≤ index ->
        getField packet index =
          (cutSuffix ((packet.splitOn colon).getLast (List.splitOn_ne_nil colon packet)) crlf).1) ∧
      (index < (packet.splitOn colon).length ->
        rebaseToNextField^[index] packet =
          [colon].intercalate ((packet.splitOn colon).drop index)) := by
  refine ⟨countFields_eq_length packet, getField_eq_piece, getField_eq_last, ?_⟩
  intro below
  rw [← rebaseFields_eq_iterate]
  exact rebaseFields_eq_intercalate below

example : (bytes "#TMAAL1:BAW2:a:b\r\n").splitOn colon =
    [bytes "#TMAAL1", bytes "BAW2", bytes "a", bytes "b\r\n"] := by decide

end Fsd
end OpenFsd
