import OpenFsd.Go.Bytes
import Mathlib.Data.List.TakeWhile

namespace OpenFsd

/-!
# Lines of a byte stream

The split function `ScanLines` of Go's `bufio`, and the lines that it is meant
to produce: a stream is split at its line feeds, one trailing carriage return
is dropped from each line, and an empty rest at the end is not a line.
-/

def dropCR (data : Bytes) : Bytes :=
  if data.getLast? = some carriageReturn then data.dropLast else data

/-- `bufio.ScanLines`: how far to advance, and the token if there is one. -/
def scanLines (data : Bytes) (atEOF : Bool) : Nat × Option Bytes :=
  if atEOF && data.isEmpty then (0, none)
  else
    let i := indexByte data lineFeed
    if 0 ≤ i then (i.toNat + 1, some (dropCR (data.take i.toNat)))
    else if atEOF then (data.length, some (dropCR data))
    else (0, none)

/-- The bytes before the first line feed. -/
def firstLine (stream : Bytes) : Bytes :=
  stream.takeWhile fun other => other != lineFeed

theorem indexByte_of_mem {data : Bytes} (present : lineFeed ∈ data) :
    indexByte data lineFeed = (firstLine data).length := by
  unfold indexByte firstLine
  induction data with
  | nil => cases present
  | cons head rest inductionHypothesis =>
      rw [List.findIdx?_cons, List.takeWhile_cons]
      by_cases found : head = lineFeed
      · simp [found]
      · have later : lineFeed ∈ rest := List.mem_of_ne_of_mem (Ne.symm found) present
        have tail := inductionHypothesis later
        simp only [beq_eq_false_iff_ne.mpr found, bne, Bool.not_false, if_true, Bool.false_eq_true,
          if_false, List.length_cons]
        cases position : rest.findIdx? fun other => other == lineFeed with
        | none =>
            rw [position] at tail
            simp at tail
        | some index =>
            rw [position] at tail
            simp only [bne] at tail
            simp only [Option.map_some]
            omega

theorem indexByte_of_not_mem {data : Bytes} (absent : lineFeed ∉ data) :
    indexByte data lineFeed = -1 := by
  have none : data.findIdx? (fun other => other == lineFeed) = none := by
    rw [List.findIdx?_eq_none_iff]
    intro other member
    exact beq_eq_false_iff_ne.mpr fun same => absent (same ▸ member)
  unfold indexByte
  rw [none]

theorem firstLine_of_not_mem {data : Bytes} (absent : lineFeed ∉ data) : firstLine data = data := by
  unfold firstLine
  rw [List.takeWhile_eq_self_iff]
  intro other member
  exact bne_iff_ne.mpr fun same => absent (same ▸ member)

theorem firstLine_append_of_mem {data : Bytes} (present : lineFeed ∈ data) (more : Bytes) :
    firstLine (data ++ more) = firstLine data := by
  unfold firstLine
  induction data with
  | nil => cases present
  | cons head rest inductionHypothesis =>
      rw [List.cons_append, List.takeWhile_cons, List.takeWhile_cons]
      by_cases found : head = lineFeed
      · simp [found]
      · have later : lineFeed ∈ rest := List.mem_of_ne_of_mem (Ne.symm found) present
        rw [inductionHypothesis later]

theorem firstLine_append_of_not_mem {data : Bytes} (absent : lineFeed ∉ data) (more : Bytes) :
    firstLine (data ++ more) = data ++ firstLine more := by
  unfold firstLine
  apply List.takeWhile_append_of_pos
  intro other member
  exact bne_iff_ne.mpr fun same => absent (same ▸ member)

/-- A stream with a line feed is its first line, the line feed, and the rest. -/
theorem exists_rest_of_mem {stream : Bytes} (present : lineFeed ∈ stream) :
    Exists fun rest => stream = firstLine stream ++ lineFeed :: rest := by
  unfold firstLine
  induction stream with
  | nil => cases present
  | cons head rest inductionHypothesis =>
      by_cases found : head = lineFeed
      · exact ⟨rest, by simp [found]⟩
      · have later : lineFeed ∈ rest := List.mem_of_ne_of_mem (Ne.symm found) present
        rcases inductionHypothesis later with ⟨remaining, split⟩
        refine ⟨remaining, ?_⟩
        rw [List.takeWhile_cons, if_pos (bne_iff_ne.mpr found), List.cons_append, ← split]

theorem scanLines_of_mem {data : Bytes} (present : lineFeed ∈ data) (atEOF : Bool) :
    scanLines data atEOF = ((firstLine data).length + 1, some (dropCR (firstLine data))) := by
  have nonempty : data.isEmpty = false := by
    cases data with
    | nil => cases present
    | cons head rest => rfl
  have taken : data.take (firstLine data).length = firstLine data := by
    have initial : firstLine data <+: data := List.takeWhile_prefix _
    exact (List.prefix_iff_eq_take.mp initial).symm
  unfold scanLines
  rw [nonempty, Bool.and_false, indexByte_of_mem present]
  simp [taken]

theorem scanLines_of_not_mem {data : Bytes} (absent : lineFeed ∉ data) :
    scanLines data false = (0, none) := by
  unfold scanLines
  rw [indexByte_of_not_mem absent]
  rfl

theorem scanLines_nil (atEOF : Bool) : scanLines [] atEOF = (0, none) := by
  cases atEOF <;> rfl

theorem scanLines_final {data : Bytes} (nonempty : data ≠ []) (absent : lineFeed ∉ data) :
    scanLines data true = (data.length, some (dropCR data)) := by
  have notEmpty : data.isEmpty = false := List.isEmpty_eq_false_iff.mpr nonempty
  unfold scanLines
  rw [notEmpty, indexByte_of_not_mem absent]
  rfl

theorem scanLines_le (data : Bytes) (atEOF : Bool) : (scanLines data atEOF).1 ≤ data.length := by
  by_cases present : lineFeed ∈ data
  · rw [scanLines_of_mem present]
    rcases exists_rest_of_mem present with ⟨rest, split⟩
    have length := congrArg List.length split
    rw [List.length_append, List.length_cons] at length
    dsimp only
    omega
  · by_cases empty : data = []
    · rw [empty, scanLines_nil]
      exact Nat.le_refl 0
    · cases atEOF with
      | false => rw [scanLines_of_not_mem present]; exact Nat.zero_le _
      | true => rw [scanLines_final empty present]

theorem length_dropCR_le (line : Bytes) : (dropCR line).length ≤ line.length := by
  unfold dropCR
  split
  · rw [List.length_dropLast]
    exact Nat.sub_le _ 1
  · exact Nat.le_refl _

theorem dropCR_eq_take (line : Bytes) : dropCR line = line.take (dropCR line).length := by
  unfold dropCR
  split
  · rw [List.length_dropLast, List.dropLast_eq_take]
  · exact List.take_length.symm

/-- The lines of a stream, without their line ends.  What follows the last
line feed is a line if it is not empty. -/
def lines (stream : Bytes) : List Bytes :=
  let segments := splitByte lineFeed stream
  let terminated := segments.dropLast
  let final := segments.getLast?.getD []
  (if final.isEmpty then terminated else terminated ++ [final]).map dropCR

theorem splitByte_ne_nil (separator : UInt8) (text : Bytes) : splitByte separator text ≠ [] := by
  cases text with
  | nil => exact List.cons_ne_nil _ _
  | cons head tail =>
      rw [splitByte]
      split
      · exact List.cons_ne_nil _ _
      · split <;> exact List.cons_ne_nil _ _

theorem splitByte_of_not_mem {separator : UInt8} {text : Bytes} (absent : separator ∉ text) :
    splitByte separator text = [text] := by
  induction text with
  | nil => rfl
  | cons head tail inductionHypothesis =>
      rw [List.mem_cons, not_or] at absent
      have different : ¬ (head == separator) = true := by
        rw [beq_iff_eq]
        exact fun same => absent.1 same.symm
      rw [splitByte, if_neg different, inductionHypothesis absent.2]

theorem splitByte_append {separator : UInt8} {line : Bytes} (absent : separator ∉ line)
    (rest : Bytes) :
    splitByte separator (line ++ separator :: rest) = line :: splitByte separator rest := by
  induction line with
  | nil => rw [List.nil_append, splitByte, if_pos (beq_self_eq_true separator)]
  | cons head tail inductionHypothesis =>
      rw [List.mem_cons, not_or] at absent
      have different : ¬ (head == separator) = true := by
        rw [beq_iff_eq]
        exact fun same => absent.1 same.symm
      rw [List.cons_append, splitByte, if_neg different, inductionHypothesis absent.2]

theorem lines_nil : lines [] = [] :=
  rfl

theorem lines_final {stream : Bytes} (nonempty : stream ≠ []) (absent : lineFeed ∉ stream) :
    lines stream = [dropCR stream] := by
  have notEmpty : stream.isEmpty = false := List.isEmpty_eq_false_iff.mpr nonempty
  unfold lines
  rw [splitByte_of_not_mem absent]
  simp [notEmpty]

theorem lines_append {line : Bytes} (absent : lineFeed ∉ line) (rest : Bytes) :
    lines (line ++ lineFeed :: rest) = dropCR line :: lines rest := by
  have nonempty := splitByte_ne_nil lineFeed rest
  unfold lines
  rw [splitByte_append absent]
  dsimp only
  rw [List.dropLast_cons_of_ne_nil nonempty, List.getLast?_cons_of_ne_nil nonempty]
  split <;> rfl

theorem lineFeed_not_mem_firstLine (stream : Bytes) : lineFeed ∉ firstLine stream := by
  intro member
  have kept := List.mem_takeWhile_imp member
  exact absurd rfl (bne_iff_ne.mp kept)

theorem drop_line (line rest : Bytes) :
    (line ++ lineFeed :: rest).drop (line.length + 1) = rest := by
  rw [← List.drop_drop, List.drop_left]
  rfl

/-- A whole line that a carriage return and a line feed end. -/
theorem scanLines_crlf {line : Bytes} (absent : lineFeed ∉ line) (atEOF : Bool) :
    scanLines (line ++ crlf) atEOF = (line.length + 2, some line) := by
  have present : lineFeed ∈ line ++ crlf := by simp [crlf]
  have first : firstLine (line ++ crlf) = line ++ [carriageReturn] := by
    rw [firstLine_append_of_not_mem absent]
    rfl
  have kept : dropCR (line ++ [carriageReturn]) = line := by
    unfold dropCR
    rw [if_pos List.getLast?_concat, List.dropLast_concat]
  rw [scanLines_of_mem present, first, kept, List.length_append]
  rfl

/-- A text without a line feed that a bare line feed ends. -/
theorem scanLines_lineFeed {line : Bytes} (absent : lineFeed ∉ line) (atEOF : Bool) :
    (scanLines (line ++ [lineFeed]) atEOF).1 = line.length + 1 := by
  have present : lineFeed ∈ line ++ [lineFeed] := by simp
  have first : firstLine (line ++ [lineFeed]) = line := by
    rw [firstLine_append_of_not_mem absent]
    exact List.append_nil line
  rw [scanLines_of_mem present, first]

/-- `ScanLines` cuts off the first line. -/
theorem lines_eq_scanLines {stream : Bytes} (nonempty : stream ≠ []) :
    Exists fun token => (scanLines stream true).2 = some token ∧
      lines stream = token :: lines (stream.drop (scanLines stream true).1) := by
  by_cases present : lineFeed ∈ stream
  · refine ⟨dropCR (firstLine stream), ?_, ?_⟩
    · rw [scanLines_of_mem present]
    · rcases exists_rest_of_mem present with ⟨rest, split⟩
      have absent := lineFeed_not_mem_firstLine stream
      rw [scanLines_of_mem present]
      generalize firstLine stream = line at split absent
      rw [split, drop_line]
      exact lines_append absent rest
  · refine ⟨dropCR stream, ?_, ?_⟩
    · rw [scanLines_final nonempty present]
    · rw [scanLines_final nonempty present, lines_final nonempty present]
      dsimp only
      rw [List.drop_length, lines_nil]

/-- A token is the beginning of its raw line, and a line end of one or two
bytes follows it, unless it is all that is left. -/
theorem token_of_scanLines {stream token : Bytes} (found : (scanLines stream true).2 = some token) :
    token = (stream.take (scanLines stream true).1).take token.length ∧
      token.length ≤ (scanLines stream true).1 ∧ 0 < (scanLines stream true).1 ∧
      (stream.drop (scanLines stream true).1 ≠ [] ->
        (scanLines stream true).1 = token.length + 1 ∨
          (scanLines stream true).1 = token.length + 2) := by
  have prefixOf : forall line : Bytes, forall count, line.length ≤ count ->
      line = stream.take line.length -> dropCR line = (stream.take count).take (dropCR line).length := by
    intro line count shorter initial
    have dropped := length_dropCR_le line
    rw [List.take_take, Nat.min_eq_left (by omega)]
    calc
      dropCR line = line.take (dropCR line).length := dropCR_eq_take line
      _ = (stream.take line.length).take (dropCR line).length := by rw [← initial]
      _ = stream.take (dropCR line).length := by rw [List.take_take, Nat.min_eq_left dropped]
  by_cases present : lineFeed ∈ stream
  · rw [scanLines_of_mem present] at found ⊢
    have initial : firstLine stream <+: stream := List.takeWhile_prefix _
    have dropped := length_dropCR_le (firstLine stream)
    rw [← Option.some.inj found]
    refine ⟨?_, Nat.le_succ_of_le dropped, Nat.succ_pos _, ?_⟩
    · exact prefixOf _ _ (Nat.le_succ _) (List.prefix_iff_eq_take.mp initial)
    · intro _
      unfold dropCR
      split
      · next ended =>
          have nonempty : firstLine stream ≠ [] := by
            intro empty
            rw [empty] at ended
            cases ended
          have length := List.length_pos_of_ne_nil nonempty
          rw [List.length_dropLast]
          dsimp only
          omega
      · exact Or.inl rfl
  · by_cases empty : stream = []
    · rw [empty, scanLines_nil] at found
      cases found
    · rw [scanLines_final empty present] at found ⊢
      rw [← Option.some.inj found]
      refine ⟨?_, length_dropCR_le stream, List.length_pos_of_ne_nil empty, ?_⟩
      · exact prefixOf stream _ (Nat.le_refl _) List.take_length.symm
      · intro rest
        exact absurd List.drop_length rest

/-! ## Lines of bounded length -/

/-- Every line, with its carriage return, is shorter than the bound. -/
def LinesBelow (bound : Nat) (stream : Bytes) : Prop :=
  forall line, line ∈ splitByte lineFeed stream -> line.length < bound

theorem splitByte_eq_firstLine (stream : Bytes) :
    Exists fun others => splitByte lineFeed stream = firstLine stream :: others := by
  have absent := lineFeed_not_mem_firstLine stream
  by_cases present : lineFeed ∈ stream
  · rcases exists_rest_of_mem present with ⟨rest, split⟩
    refine ⟨splitByte lineFeed rest, ?_⟩
    conv_lhs => rw [split]
    exact splitByte_append absent rest
  · refine ⟨[], ?_⟩
    rw [splitByte_of_not_mem present, firstLine_of_not_mem present]

theorem LinesBelow.firstLine {bound : Nat} {stream : Bytes} (below : LinesBelow bound stream) :
    (firstLine stream).length < bound := by
  rcases splitByte_eq_firstLine stream with ⟨others, split⟩
  apply below
  rw [split]
  exact List.mem_cons_self

theorem LinesBelow.rest {bound : Nat} {stream : Bytes} (below : LinesBelow bound stream) :
    LinesBelow bound (stream.drop (scanLines stream true).1) := by
  have absent := lineFeed_not_mem_firstLine stream
  have positive : 0 < bound := Nat.lt_of_le_of_lt (Nat.zero_le _) below.firstLine
  have nothing : LinesBelow bound [] := by
    intro line member
    rw [List.mem_singleton.mp member]
    exact positive
  by_cases present : lineFeed ∈ stream
  · rw [scanLines_of_mem present]
    rcases exists_rest_of_mem present with ⟨rest, split⟩
    generalize OpenFsd.firstLine stream = line at split absent
    rw [split, drop_line]
    intro other member
    apply below
    rw [split, splitByte_append absent]
    exact List.mem_cons_of_mem _ member
  · by_cases empty : stream = []
    · rw [empty]
      exact nothing
    · rw [scanLines_final empty present, List.drop_length]
      exact nothing

/-- A byte that becomes a line feed makes no line longer. -/
theorem LinesBelow.overwritten {bound : Nat} {head : UInt8} {tail : Bytes}
    (below : LinesBelow bound (head :: tail)) : LinesBelow bound (lineFeed :: tail) := by
  have positive : 0 < bound := Nat.lt_of_le_of_lt (Nat.zero_le _) below.firstLine
  have tailBelow : LinesBelow bound tail := by
    intro line member
    by_cases same : head = lineFeed
    · apply below
      rw [same, splitByte, if_pos (beq_self_eq_true lineFeed)]
      exact List.mem_cons_of_mem _ member
    · have different : ¬ (head == lineFeed) = true := by
        rw [beq_iff_eq]
        exact same
      unfold LinesBelow at below
      rw [splitByte, if_neg different] at below
      cases split : splitByte lineFeed tail with
      | nil => exact absurd split (splitByte_ne_nil lineFeed tail)
      | cons first rest =>
          rw [split] at below member
          rcases List.mem_cons.mp member with first' | inRest
          · have longer := below (head :: first) List.mem_cons_self
            rw [List.length_cons] at longer
            rw [first']
            omega
          · exact below line (List.mem_cons_of_mem _ inRest)
  intro line member
  rw [splitByte, if_pos (beq_self_eq_true lineFeed)] at member
  rcases List.mem_cons.mp member with empty | inTail
  · rw [empty]
    exact positive
  · exact tailBelow line inTail

theorem lines_lineFeed (rest : Bytes) : lines (lineFeed :: rest) = [] :: lines rest :=
  lines_append (show lineFeed ∉ ([] : Bytes) from List.not_mem_nil) rest

/-- A byte that is no line feed belongs to the line behind it. -/
theorem length_lines_cons {head : UInt8} (different : head ≠ lineFeed) {tail : Bytes}
    (nonempty : tail ≠ []) : (lines (head :: tail)).length = (lines tail).length := by
  have absent := lineFeed_not_mem_firstLine tail
  by_cases present : lineFeed ∈ tail
  · rcases exists_rest_of_mem present with ⟨rest, split⟩
    have longer : lineFeed ∉ head :: firstLine tail := by
      rw [List.mem_cons, not_or]
      exact ⟨different.symm, absent⟩
    generalize firstLine tail = line at split absent longer
    rw [split, lines_append absent, ← List.cons_append, lines_append longer]
    rfl
  · have longer : lineFeed ∉ head :: tail := by
      rw [List.mem_cons, not_or]
      exact ⟨different.symm, present⟩
    rw [lines_final nonempty present, lines_final (List.cons_ne_nil _ _) longer]
    rfl

/-- A byte that becomes a line feed loses no line. -/
theorem length_lines_overwritten (head : UInt8) (tail : Bytes) :
    (lines (head :: tail)).length ≤ (lines (lineFeed :: tail)).length := by
  by_cases same : head = lineFeed
  · rw [same]
  · rw [lines_lineFeed, List.length_cons]
    by_cases last : tail = []
    · have absent : lineFeed ∉ [head] := by
        rw [List.mem_singleton]
        exact fun equal => same equal.symm
      rw [last, lines_final (List.cons_ne_nil _ _) absent]
      exact Nat.le_refl 1
    · rw [length_lines_cons same last]
      exact Nat.le_succ _

end OpenFsd
