import OpenFsd.Go.Lines
import OpenFsd.Library.Buffer

namespace OpenFsd

open Buffer

/-!
# `bufio.Scanner`

The scanner of Go's `bufio`, with the split function `ScanLines`, over a
buffer that `Scanner.Buffer` has given it and that it may not outgrow.  The
input comes in reads of any sizes.  A token is a window of the buffer, not a
copy, and the bytes behind it may be input that is not yet scanned.

`scan_eq` says what a call of `Scan` amounts to, whatever the reads: it
applies `ScanLines` to everything that is still to come, if the next line fits
the buffer.
-/

/-- What one read of the connection returns. -/
abbrev Chunk := { chunk : Bytes // chunk ≠ [] }

/-- A window of the buffer of a scanner. -/
structure Token where
  offset : Nat
  length : Nat
  deriving DecidableEq

structure Scanner where
  buf : Bytes
  start : Nat
  /-- `end` -/
  stop : Nat
  /-- An error has been met; the end of the input is one. -/
  err : Bool
  /-- What the connection still has to offer. -/
  reads : List Chunk
  start_le_stop : start ≤ stop
  stop_le_length : stop ≤ buf.length

namespace Scanner

/-- `bufio.NewScanner`, with a buffer of this length. -/
def new (size : Nat) (reads : List Chunk) : Scanner where
  buf := List.replicate size 0
  start := 0
  stop := 0
  err := false
  reads := reads
  start_le_stop := Nat.le_refl 0
  stop_le_length := Nat.zero_le _

/-- The bytes that are buffered and not yet scanned. -/
def data (s : Scanner) : Bytes :=
  slice s.buf s.start s.stop

theorem length_data (s : Scanner) : s.data.length = s.stop - s.start :=
  length_slice s.start s.stop_le_length

/-- Shift data to the beginning of the buffer if there is lots of empty space,
or space is needed. -/
def shift (s : Scanner) : Scanner :=
  if 0 < s.start ∧ (s.stop = s.buf.length ∨ s.buf.length / 2 < s.start) then
    { s with
      buf := overwrite s.buf 0 s.data
      start := 0
      stop := s.stop - s.start
      start_le_stop := Nat.zero_le _
      stop_le_length := Nat.le_trans (Nat.sub_le _ _)
        (Nat.le_trans s.stop_le_length (le_length_overwrite _ _ _)) }
  else s

/-- One `Read` into the free space behind the data.  The end of the input is
reported as an error. -/
def read (s : Scanner) : Scanner :=
  match s.reads with
  | [] => { s with err := true }
  | chunk :: rest =>
      let free := s.buf.length - s.stop
      { s with
        buf := overwrite s.buf s.stop (chunk.val.take free)
        stop := s.stop + (chunk.val.take free).length
        reads := if left : chunk.val.drop free = [] then rest else ⟨chunk.val.drop free, left⟩ :: rest
        start_le_stop := Nat.le_trans s.start_le_stop (Nat.le_add_right _ _)
        stop_le_length := by
          have fits := s.stop_le_length
          have grows := le_length_overwrite s.buf s.stop (chunk.val.take free)
          rw [List.length_take]
          omega }

/-- `advance`.  `ScanLines` never advances beyond its data. -/
def advance (s : Scanner) (n : Nat) (within : n ≤ s.data.length) : Scanner :=
  { s with
    start := s.start + n
    start_le_stop := by
      have inOrder := s.start_le_stop
      rw [length_data] at within
      omega }

/-- A token out of what is buffered, if there is one. -/
def next (s : Scanner) : Option (Token × Scanner) :=
  if s.start < s.stop ∨ s.err = true then
    match (scanLines s.data s.err).2 with
    | none => none
    | some token => some (⟨s.start, token.length⟩,
        s.advance (scanLines s.data s.err).1 (scanLines_le s.data s.err))
  else none

/-- The loop of `Scan`.  There is no token for the result `false`. -/
def scanLoop : Nat -> Scanner -> Option Token × Scanner
  | 0, s => (none, s)
  | fuel + 1, s =>
      match s.next with
      | some (token, scanned) => (some token, scanned)
      | none =>
          if s.err then
            (none, { s with
              start := 0, stop := 0, start_le_stop := Nat.le_refl 0, stop_le_length := Nat.zero_le _ })
          else if s.shift.stop = s.shift.buf.length then (none, { s.shift with err := true }) -- ErrTooLong
          else scanLoop fuel s.shift.read

/-- The bytes that the connection still has to offer. -/
def unread (s : Scanner) : Bytes :=
  s.reads.flatMap fun chunk => chunk.val

/-- `Scan`.  Every round of its loop reads at least one byte, or meets the end
of the input. -/
def scan (s : Scanner) : Option Token × Scanner :=
  scanLoop (s.unread.length + 2) s

/-- The input that is still to be scanned. -/
def remaining (s : Scanner) : Bytes :=
  s.data ++ s.unread

/-- The error of the scanner, if there is one, is the end of its input. -/
def Open (s : Scanner) : Prop :=
  s.err = true -> s.reads = []

/-! ## The parts of the loop -/

theorem shift_reads (s : Scanner) : s.shift.reads = s.reads := by
  unfold shift
  split <;> rfl

theorem shift_err (s : Scanner) : s.shift.err = s.err := by
  unfold shift
  split <;> rfl

theorem shift_length (s : Scanner) : s.shift.buf.length = s.buf.length := by
  have data := s.length_data
  have stop := s.stop_le_length
  unfold shift
  split
  · apply length_overwrite
    omega
  · rfl

theorem shift_data (s : Scanner) : s.shift.data = s.data := by
  unfold shift
  split
  · have moved := slice_overwrite s.data (Nat.zero_le s.buf.length)
    rw [length_data, Nat.zero_add] at moved
    exact moved
  · rfl

/-- A buffer that is full after the shift holds nothing but data. -/
theorem length_data_of_full {s : Scanner} (full : s.shift.stop = s.shift.buf.length) :
    s.data.length = s.buf.length := by
  have data := s.length_data
  have inOrder := s.start_le_stop
  rw [shift_length] at full
  unfold shift at full
  split at full
  · next needed =>
      dsimp only at full
      have within := s.stop_le_length
      omega
  · next unneeded => omega

/-- The reads that are left when part of a chunk has been taken. -/
theorem flatMap_left (chunk : Chunk) (free : Nat) (rest : List Chunk) :
    (if left : chunk.val.drop free = [] then rest
      else (⟨chunk.val.drop free, left⟩ : Chunk) :: rest).flatMap (fun other => other.val) =
        chunk.val.drop free ++ rest.flatMap fun other => other.val := by
  by_cases left : chunk.val.drop free = []
  · rw [dif_pos left, left, List.nil_append]
  · rw [dif_neg left, List.flatMap_cons]

/-- The rounds that the loop of `Scan` can still make. -/
def rounds (s : Scanner) : Nat :=
  s.unread.length + if s.err then 0 else 1

/-- A read moves bytes from the connection to the data. -/
structure Read (s after : Scanner) : Prop where
  length : after.buf.length = s.buf.length
  remaining : after.remaining = s.remaining
  isOpen : after.Open
  rounds : after.rounds < s.rounds

theorem read_nil {s : Scanner} (exhausted : s.reads = []) : s.read = { s with err := true } := by
  unfold read
  split
  · rfl
  · next chunk rest pending =>
      rw [exhausted] at pending
      cases pending

theorem data_read {s : Scanner} {chunk : Chunk} {rest : List Chunk}
    (pending : s.reads = chunk :: rest) :
    s.read.buf.length = s.buf.length ∧
      s.read.data = s.data ++ chunk.val.take (s.buf.length - s.stop) ∧
      s.read.unread = chunk.val.drop (s.buf.length - s.stop) ++ rest.flatMap (fun other => other.val) ∧
      s.read.err = s.err := by
  have within := s.stop_le_length
  have inOrder := s.start_le_stop
  have room : s.stop + (chunk.val.take (s.buf.length - s.stop)).length ≤ s.buf.length := by
    rw [List.length_take]
    omega
  unfold read
  split
  · next exhausted =>
      rw [pending] at exhausted
      cases exhausted
  · next first others same =>
      rw [pending] at same
      cases same
      refine ⟨length_overwrite room, ?_, ?_, rfl⟩
      · dsimp only
        unfold data
        dsimp only
        generalize chunk.val.take (s.buf.length - s.stop) = taken at room ⊢
        have grows := le_length_overwrite s.buf s.stop taken
        have joined := slice_append (overwrite s.buf s.stop taken) inOrder
          (Nat.le_add_right s.stop taken.length) (Nat.le_trans room grows)
        rw [slice_overwrite taken within,
          slice_overwrite_beside taken within (Or.inl (Nat.le_refl s.stop))] at joined
        exact joined.symm
      · exact flatMap_left chunk _ rest

theorem read_spec {s : Scanner} (room : s.stop < s.buf.length) (open_ : s.err = false) :
    Read s s.read := by
  cases pending : s.reads with
  | nil =>
      have nothing : s.unread = [] := by
        unfold unread
        rw [pending]
        rfl
      rw [read_nil pending]
      refine ⟨rfl, rfl, fun _ => pending, ?_⟩
      unfold rounds
      rw [open_]
      exact Nat.lt_succ_self _
  | cons chunk rest =>
      rcases data_read pending with ⟨length, data, unread, err⟩
      have total : s.unread = chunk.val ++ rest.flatMap fun other => other.val := by
        unfold Scanner.unread
        rw [pending, List.flatMap_cons]
      refine ⟨length, ?_, ?_, ?_⟩
      · unfold remaining
        rw [data, unread, total, List.append_assoc, ← List.append_assoc (chunk.val.take _),
          List.take_append_drop]
      · intro failed
        rw [err, open_] at failed
        cases failed
      · have nonempty := List.length_pos_of_ne_nil chunk.property
        unfold rounds
        rw [err, unread, total, List.length_append, List.length_append, List.length_drop]
        omega

/-- What a successful scan leaves of a scanner: the raw line is the window
from the token's offset to the new start, and the rest is still to come. -/
structure Scanned (s : Scanner) (offset count : Nat) (scanned : Scanner) : Prop where
  length : scanned.buf.length = s.buf.length
  isOpen : scanned.Open
  start : scanned.start = offset + count
  raw : slice scanned.buf offset scanned.start = s.remaining.take count
  rest : scanned.remaining = s.remaining.drop count

/-- The next line fits the buffer. -/
def Fits (s : Scanner) : Prop :=
  (firstLine s.remaining).length < s.buf.length

theorem unread_of_err {s : Scanner} (isOpen : s.Open) (failed : s.err = true) : s.unread = [] := by
  unfold unread
  rw [isOpen failed]
  rfl

/-- What `ScanLines` finds in the data, it finds in the whole input. -/
theorem scanLines_remaining {s : Scanner} (isOpen : s.Open) {bytes : Bytes}
    (found : (scanLines s.data s.err).2 = some bytes) :
    scanLines s.remaining true = scanLines s.data s.err := by
  cases err : s.err with
  | true =>
      unfold remaining
      rw [unread_of_err isOpen err, List.append_nil]
  | false =>
      rw [err] at found
      by_cases present : lineFeed ∈ s.data
      · unfold remaining
        rw [scanLines_of_mem present, scanLines_of_mem (List.mem_append_left _ present),
          firstLine_append_of_mem present]
      · rw [scanLines_of_not_mem present] at found
        cases found

theorem scanned_advance {s : Scanner} (isOpen : s.Open) {n : Nat} (within : n ≤ s.data.length) :
    Scanned s s.start n (s.advance n within) := by
  have inData := within
  rw [length_data] at inData
  have inOrder := s.start_le_stop
  constructor
  · rfl
  · exact isOpen
  · rfl
  · have shorter : s.start + n ≤ s.stop := by omega
    have window := slice_prefix s.buf s.start shorter
    unfold remaining
    rw [List.take_append_of_le_length within]
    rw [Nat.add_sub_cancel_left] at window
    exact window
  · have window := slice_suffix s.buf (Nat.le_add_right s.start n) s.stop
    unfold remaining
    rw [List.drop_append_of_le_length within]
    rw [Nat.add_sub_cancel_left] at window
    exact congrArg (fun data => data ++ s.unread) window

/-- A token that is found in the data is the token of the whole input. -/
theorem next_eq_some {s scanned : Scanner} {token : Token} (isOpen : s.Open)
    (found : s.next = some (token, scanned)) :
    Exists fun bytes => (scanLines s.remaining true).2 = some bytes ∧ token.length = bytes.length ∧
      Scanned s token.offset (scanLines s.remaining true).1 scanned := by
  unfold next at found
  split at found
  · split at found
    · cases found
    · next bytes inData =>
        cases found
        rw [scanLines_remaining isOpen inData]
        exact ⟨bytes, inData, rfl, scanned_advance isOpen _⟩
  · cases found

/-- What a token leaves alone. -/
theorem next_same {s scanned : Scanner} {token : Token} (found : s.next = some (token, scanned)) :
    token.offset = s.start ∧ scanned.stop = s.stop ∧ scanned.err = s.err ∧
      scanned.reads = s.reads := by
  unfold next at found
  split at found
  · split at found
    · cases found
    · cases found
      exact ⟨rfl, rfl, rfl, rfl⟩
  · cases found

theorem next_eq_none {s : Scanner} (missing : s.next = none) :
    lineFeed ∉ s.data ∧ (s.err = true -> s.data = []) := by
  have length := s.length_data
  unfold next at missing
  split at missing
  · split at missing
    · next noToken =>
        constructor
        · intro present
          rw [scanLines_of_mem present] at noToken
          cases noToken
        · intro failed
          by_contra nonempty
          rcases lines_eq_scanLines nonempty with ⟨token, found, _⟩
          rw [failed, found] at noToken
          cases noToken
    · cases missing
  · next idle =>
      rw [not_or] at idle
      have empty : s.data = [] := by
        apply List.eq_nil_of_length_eq_zero
        omega
      rw [empty]
      exact ⟨List.not_mem_nil, fun _ => rfl⟩

/-- What the result of `Scan` is, for a scanner whose input is given. -/
def ScanResult (s : Scanner) (result : Option Token × Scanner) : Prop :=
  match (scanLines s.remaining true).2 with
  | none => result.1 = none ∧ result.2.err = true
  | some bytes => Exists fun offset => Exists fun scanned =>
      result = (some ⟨offset, bytes.length⟩, scanned) ∧
        Scanned s offset (scanLines s.remaining true).1 scanned

/-- The result depends on the input and the length of the buffer alone. -/
theorem ScanResult.of_same {s other : Scanner} {result : Option Token × Scanner}
    (remaining : other.remaining = s.remaining) (length : other.buf.length = s.buf.length)
    (done : ScanResult other result) : ScanResult s result := by
  unfold ScanResult at done ⊢
  rw [remaining] at done
  split at done
  · exact done
  · rcases done with ⟨offset, scanned, same, outcome⟩
    refine ⟨offset, scanned, same, outcome.length.trans length, outcome.isOpen, outcome.start, ?_, ?_⟩
    · rw [outcome.raw, remaining]
    · rw [outcome.rest, remaining]

theorem scanLoop_spec {fuel : Nat} {s : Scanner} (isOpen : s.Open) (fits : s.Fits)
    (enough : s.rounds < fuel) : ScanResult s (scanLoop fuel s) := by
  induction fuel generalizing s with
  | zero => exact absurd enough (Nat.not_lt_zero _)
  | succ fuel inductionHypothesis =>
      unfold scanLoop
      cases found : s.next with
      | some result =>
          rcases result with ⟨token, scanned⟩
          rcases next_eq_some isOpen found with ⟨bytes, inInput, length, outcome⟩
          unfold ScanResult
          rw [inInput]
          refine ⟨token.offset, scanned, ?_, outcome⟩
          rw [← length]
      | none =>
          rcases next_eq_none found with ⟨absent, exhausted⟩
          dsimp only
          by_cases failed : s.err = true
          · rw [if_pos failed]
            have empty : s.remaining = [] := by
              unfold remaining
              rw [exhausted failed, unread_of_err isOpen failed]
              rfl
            unfold ScanResult
            rw [empty, scanLines_nil]
            exact ⟨rfl, failed⟩
          · rw [if_neg failed]
            have running : s.err = false := eq_false_of_ne_true failed
            have notFull : s.shift.stop ≠ s.shift.buf.length := by
              intro full
              have length := length_data_of_full full
              unfold Fits remaining at fits
              rw [firstLine_append_of_not_mem absent, List.length_append] at fits
              omega
            rw [if_neg notFull]
            have shifted : s.shift.remaining = s.remaining := by
              unfold remaining unread
              rw [shift_data, shift_reads]
            have room := Nat.lt_of_le_of_ne s.shift.stop_le_length notFull
            have done := read_spec room (s.shift_err.trans running)
            have same : s.shift.read.remaining = s.remaining := done.remaining.trans shifted
            have length : s.shift.read.buf.length = s.buf.length := done.length.trans s.shift_length
            have fewer : s.shift.read.rounds < fuel := by
              have before : s.shift.rounds = s.rounds := by
                unfold rounds unread
                rw [shift_reads, shift_err]
              have after := done.rounds
              omega
            have fitsNext : s.shift.read.Fits := by
              unfold Fits
              rw [same, length]
              exact fits
            exact (inductionHypothesis done.isOpen fitsNext fewer).of_same same length

/-- `Scan` applies `ScanLines` to all that is still to come. -/
theorem scan_eq {s : Scanner} (isOpen : s.Open) (fits : s.Fits) : ScanResult s s.scan := by
  apply scanLoop_spec isOpen fits
  unfold rounds
  split <;> omega

/-- A successful scan keeps the scanner open and its buffer as long. -/
theorem scanLoop_eq_some {fuel : Nat} {s scanned : Scanner} {token : Token} (isOpen : s.Open)
    (done : scanLoop fuel s = (some token, scanned)) :
    scanned.Open ∧ scanned.buf.length = s.buf.length := by
  induction fuel generalizing s with
  | zero => cases done
  | succ fuel inductionHypothesis =>
      unfold scanLoop at done
      cases found : s.next with
      | some result =>
          rw [found] at done
          cases done
          rcases next_eq_some isOpen found with ⟨_, _, _, outcome⟩
          exact ⟨outcome.isOpen, outcome.length⟩
      | none =>
          rw [found] at done
          dsimp only at done
          split at done
          · cases done
          · next running =>
              split at done
              · cases done
              · next notFull =>
                  have room := Nat.lt_of_le_of_ne s.shift.stop_le_length notFull
                  have reading := read_spec room (s.shift_err.trans (eq_false_of_ne_true running))
                  have rest := inductionHypothesis reading.isOpen done
                  exact ⟨rest.1, rest.2.trans (reading.length.trans s.shift_length)⟩

/-! ## Writing behind a token -/

/-- Write into the buffer. -/
def write (s : Scanner) (position : Nat) (text : Bytes) : Scanner :=
  { s with
    buf := overwrite s.buf position text
    stop_le_length := Nat.le_trans s.stop_le_length (le_length_overwrite s.buf position text) }

theorem data_write_beside {s : Scanner} {position : Nat} {text : Bytes}
    (within : position ≤ s.buf.length)
    (beside : s.stop ≤ position ∨ position + text.length ≤ s.start) :
    (s.write position text).data = s.data :=
  slice_overwrite_beside text within beside

/-- A write of two bytes that straddles the start of the data replaces the
first byte of the data. -/
theorem data_write_straddling {s : Scanner} {position : Nat} {first second : UInt8}
    (straddles : s.start = position + 1) (nonempty : s.data ≠ []) :
    (s.write position [first, second]).data = second :: s.data.tail := by
  have length := List.length_pos_of_ne_nil nonempty
  rw [length_data] at length
  have within := s.stop_le_length
  have room : position ≤ s.buf.length := by omega
  have roomBehind : s.stop ≤ (overwrite s.buf position [first, second]).length :=
    Nat.le_trans within (le_length_overwrite _ _ _)
  have one : s.start + 1 ≤ s.stop := by omega
  have split := slice_append (overwrite s.buf position [first, second])
    (Nat.le_add_right s.start 1) one roomBehind
  have head : slice (overwrite s.buf position [first, second]) s.start (s.start + 1) = [second] := by
    have both := slice_overwrite [first, second] room
    have suffix := slice_suffix (overwrite s.buf position [first, second])
      (Nat.le_add_right position 1) (position + [first, second].length)
    rw [both, Nat.add_sub_cancel_left] at suffix
    rw [straddles]
    exact suffix
  have tail : slice (overwrite s.buf position [first, second]) (s.start + 1) s.stop = s.data.tail := by
    have behind : position + [first, second].length ≤ s.start + 1 := by
      rw [straddles]
      exact Nat.le_refl (position + 2)
    rw [slice_overwrite_beside [first, second] room (Or.inr behind),
      slice_suffix s.buf (Nat.le_add_right s.start 1) s.stop, Nat.add_sub_cancel_left, List.drop_one]
    rfl
  rw [head, tail] at split
  exact split.symm

/-! ## One round at a time -/

/-- The buffer holds nothing but the beginning of one line, which `Scan` gives
up. -/
def Full (s : Scanner) : Prop :=
  s.shift.stop = s.shift.buf.length

/-- `Scan` waits for the connection. -/
def Waits (s : Scanner) : Prop :=
  s.next.isNone = true ∧ s.err = false ∧ ¬ s.Full

/-- `Scan` answers `false`. -/
def Done (s : Scanner) : Prop :=
  s.next.isNone = true ∧ (s.err = true ∨ s.Full)

instance (s : Scanner) : Decidable s.Full :=
  inferInstanceAs (Decidable (_ = _))

instance (s : Scanner) : Decidable s.Waits :=
  inferInstanceAs (Decidable (_ = _ ∧ _ = _ ∧ ¬ _ = _))

instance (s : Scanner) : Decidable s.Done :=
  inferInstanceAs (Decidable (_ = _ ∧ (_ = _ ∨ _ = _)))

/-- The free space for one `Read`. -/
def room (s : Scanner) : Nat :=
  s.shift.buf.length - s.shift.stop

/-- A read of one chunk. -/
def receive (s : Scanner) (chunk : Chunk) : Scanner :=
  { s.shift with reads := [chunk] }.read

/-- A read that meets the end of the input. -/
def hangUp (s : Scanner) : Scanner :=
  { s.shift with err := true }

/-- What the scanner of a connection is between two rounds: it has nothing to
read of its own. -/
structure Settled (size : Nat) (s : Scanner) : Prop where
  length : s.buf.length = size
  nothing : s.reads = []

theorem Settled.isOpen {size : Nat} {s : Scanner} (settled : Settled size s) : s.Open :=
  fun _ => settled.nothing

theorem Settled.remaining {size : Nat} {s : Scanner} (settled : Settled size s) :
    s.remaining = s.data := by
  unfold Scanner.remaining unread
  rw [settled.nothing]
  exact List.append_nil s.data

theorem Settled.hangUp {size : Nat} {s : Scanner} (settled : Settled size s) :
    Settled size s.hangUp where
  length := s.shift_length.trans settled.length
  nothing := s.shift_reads.trans settled.nothing

/-- A round reads a chunk that fits. -/
theorem Settled.receive {size : Nat} {s : Scanner} (settled : Settled size s) {chunk : Chunk}
    (fits : chunk.val.length ≤ s.room) :
    Settled size (s.receive chunk) ∧ (s.receive chunk).data = s.data ++ chunk.val ∧
      (s.receive chunk).err = s.err := by
  have pending : ({ s.shift with reads := [chunk] } : Scanner).reads = chunk :: [] := rfl
  rcases data_read pending with ⟨length, data, unread, err⟩
  have whole : chunk.val.take (s.shift.buf.length - s.shift.stop) = chunk.val :=
    List.take_of_length_le fits
  have none : chunk.val.drop (s.shift.buf.length - s.shift.stop) = [] :=
    List.drop_eq_nil_of_le fits
  have nothing : (s.receive chunk).reads = [] := by
    have read : (s.receive chunk).reads =
        if left : chunk.val.drop (s.shift.buf.length - s.shift.stop) = [] then []
        else [⟨chunk.val.drop (s.shift.buf.length - s.shift.stop), left⟩] := rfl
    rw [read, dif_pos none]
  refine ⟨⟨length.trans (s.shift_length.trans settled.length), nothing⟩, ?_, err.trans s.shift_err⟩
  have shifted : ({ s.shift with reads := [chunk] } : Scanner).data = s.data := s.shift_data
  exact data.trans (by rw [shifted]; exact congrArg (fun more => s.data ++ more) whole)

/-- A buffered line feed ends a token. -/
theorem exists_next_of_mem {s : Scanner} (present : lineFeed ∈ s.data) :
    Exists fun token => Exists fun scanned => s.next = some (token, scanned) := by
  cases found : s.next with
  | none => exact absurd present (next_eq_none found).1
  | some result => exact ⟨result.1, result.2, rfl⟩

/-- A buffer that is not all data is not full. -/
theorem not_full_of_length {s : Scanner} (short : s.data.length < s.buf.length) : ¬ s.Full := by
  intro full
  rw [length_data_of_full full] at short
  exact Nat.lt_irrefl _ short

theorem waits_of_empty {s : Scanner} (empty : s.data = []) (open_ : s.err = false)
    (positive : 0 < s.buf.length) : s.Waits := by
  have length := s.length_data
  rw [empty, List.length_nil] at length
  refine ⟨?_, open_, not_full_of_length (by rw [empty]; exact positive)⟩
  unfold next
  rw [if_neg]
  · rfl
  · rintro (more | failed)
    · omega
    · cases open_.symm.trans failed

/-- There is room behind a buffer that is not full. -/
theorem room_of_not_full {s : Scanner} (notFull : ¬ s.Full) : 0 < s.room := by
  have within := s.shift.stop_le_length
  unfold Full at notFull
  unfold room
  omega

/-- There is room for half a buffer behind an empty one. -/
theorem room_of_empty {s : Scanner} (empty : s.data = []) : s.buf.length / 2 ≤ s.room := by
  have length := s.length_data
  have inOrder := s.start_le_stop
  rw [empty, List.length_nil] at length
  unfold room
  rw [shift_length]
  unfold shift
  split
  · dsimp only
    omega
  · next unneeded =>
      have within := s.stop_le_length
      omega

end Scanner
end OpenFsd
