import OpenFsd.Go.Scanner

namespace OpenFsd
namespace Fsd

open Buffer

/-!
# The framing of the event loop

`eventLoop` appends the packet delimiter to the token of the scanner.  The
token is a window of the scanner's buffer, so the append writes into the
buffer wherever there is room, and behind a line that a bare line feed ends,
the second of its two bytes falls on the first byte of the input that is
already buffered.  `readLoginPackets` copies its tokens and has no such write.

`framing_iff` says when the packets are the lines of the stream regardless.
-/

/-- `packet = append(packet, '\r', '\n')`, which allocates only where the
capacity does not suffice. -/
def appendDelimiter (scanner : Scanner) (token : Token) : Bytes × Scanner :=
  let position := token.offset + token.length
  if position + crlf.length ≤ scanner.buf.length then
    let written := scanner.write position crlf
    (slice written.buf token.offset (position + crlf.length), written)
  else (slice scanner.buf token.offset position ++ crlf, scanner)

/-- The packets that `eventLoop` hands to `verifyPacket`, in turn, until `Scan`
answers `false`.  There is no result when the fuel does not suffice. -/
def eventLoop : Nat -> Scanner -> Option (List Bytes)
  | 0, _ => none
  | fuel + 1, scanner =>
      match scanner.scan with
      | (none, _) => some []
      | (some token, scanned) =>
          (eventLoop fuel (appendDelimiter scanned token).2).map fun packets =>
            (appendDelimiter scanned token).1 :: packets

/-- The scanner of `handleConn` when its client logs in: `readLoginPackets` has
scanned two lines of what the connection offers. -/
def LoggedIn (reads : List Chunk) (scanner : Scanner) : Prop :=
  Exists fun ident => Exists fun middle => Exists fun add =>
    (Scanner.new 4096 reads).scan = (some ident, middle) ∧ middle.scan = (some add, scanner)

/-- The append damages the input: a bare line feed ended the line, and the next
byte is already buffered, is not a line feed, and is not a carriage return
that ends the stream. -/
def Damages (scanned : Scanner) (token : Token) : Prop :=
  scanned.start = token.offset + token.length + 1 ∧ scanned.data ≠ [] ∧
    scanned.data.head? ≠ some lineFeed ∧ scanned.remaining ≠ [carriageReturn]

instance (scanned : Scanner) (token : Token) : Decidable (Damages scanned token) :=
  inferInstanceAs (Decidable (_ ∧ _ ∧ _ ∧ _))

/-- No append of the run damages the input. -/
def Undamaged : Nat -> Scanner -> Prop
  | 0, _ => True
  | fuel + 1, scanner =>
      match scanner.scan with
      | (none, _) => True
      | (some token, scanned) =>
          ¬ Damages scanned token ∧ Undamaged fuel (appendDelimiter scanned token).2

/-! ## One append -/

theorem appendDelimiter_length (scanned : Scanner) (token : Token) :
    (appendDelimiter scanned token).2.buf.length = scanned.buf.length := by
  unfold appendDelimiter
  dsimp only
  split
  · next room => exact length_overwrite room
  · rfl

theorem appendDelimiter_isOpen {scanned : Scanner} (isOpen : scanned.Open) (token : Token) :
    (appendDelimiter scanned token).2.Open := by
  unfold appendDelimiter
  dsimp only
  split <;> exact isOpen

/-- The packet is the token with the delimiter, whether or not the append
allocates. -/
theorem appendDelimiter_packet {scanned : Scanner} {token : Token}
    (within : token.offset + token.length ≤ scanned.buf.length) :
    (appendDelimiter scanned token).1 =
      slice scanned.buf token.offset (token.offset + token.length) ++ crlf := by
  unfold appendDelimiter
  dsimp only
  split
  · next room =>
      have grows := le_length_overwrite scanned.buf (token.offset + token.length) crlf
      have joined := slice_append (overwrite scanned.buf (token.offset + token.length) crlf)
        (Nat.le_add_right token.offset token.length)
        (Nat.le_add_right (token.offset + token.length) crlf.length) (Nat.le_trans room grows)
      rw [slice_overwrite crlf within,
        slice_overwrite_beside crlf within (Or.inl (Nat.le_refl (token.offset + token.length)))] at joined
      exact joined.symm
  · rfl

/-- What a line of the stream leaves behind: its token, and the input that
follows. -/
structure Line (scanner scanned : Scanner) (token : Token) (bytes : Bytes) : Prop where
  scan : scanner.scan = (some token, scanned)
  found : (scanLines scanner.remaining true).2 = some bytes
  length : token.length = bytes.length
  outcome : Scanner.Scanned scanner token.offset (scanLines scanner.remaining true).1 scanned

/-- The window of a token holds the line. -/
theorem slice_of_scanned {scanner scanned : Scanner} {offset : Nat} {bytes : Bytes}
    (found : (scanLines scanner.remaining true).2 = some bytes)
    (outcome : Scanner.Scanned scanner offset (scanLines scanner.remaining true).1 scanned) :
    slice scanned.buf offset (offset + bytes.length) = bytes ∧
      offset + bytes.length ≤ scanned.buf.length := by
  rcases token_of_scanLines found with ⟨initial, shorter, _, _⟩
  have start := outcome.start
  have inOrder := scanned.start_le_stop
  have within := scanned.stop_le_length
  have inRaw : offset + bytes.length ≤ scanned.start := by omega
  have window := slice_prefix scanned.buf offset inRaw
  rw [outcome.raw, Nat.add_sub_cancel_left, ← initial] at window
  exact ⟨window, by omega⟩

/-- The packet of a scanned line is the line with the delimiter. -/
theorem packet_of_scanned {scanner scanned : Scanner} {token : Token} {bytes : Bytes}
    (found : (scanLines scanner.remaining true).2 = some bytes) (length : token.length = bytes.length)
    (outcome : Scanner.Scanned scanner token.offset (scanLines scanner.remaining true).1 scanned) :
    (appendDelimiter scanned token).1 = bytes ++ crlf := by
  rcases slice_of_scanned found outcome with ⟨window, within⟩
  rw [appendDelimiter_packet (by rw [length]; exact within), length, window]

theorem Line.packet {scanner scanned : Scanner} {token : Token} {bytes : Bytes}
    (line : Line scanner scanned token bytes) : (appendDelimiter scanned token).1 = bytes ++ crlf :=
  packet_of_scanned line.found line.length line.outcome

/-- The append moves neither end of the data. -/
theorem appendDelimiter_same (scanned : Scanner) (token : Token) :
    (appendDelimiter scanned token).2.start = scanned.start ∧
      (appendDelimiter scanned token).2.stop = scanned.stop ∧
        (appendDelimiter scanned token).2.err = scanned.err ∧
          (appendDelimiter scanned token).2.reads = scanned.reads := by
  unfold appendDelimiter
  dsimp only
  split <;> exact ⟨rfl, rfl, rfl, rfl⟩

/-- One turn on a scanner that has nothing to read of its own. -/
structure Framed (size : Nat) (scanner rest : Scanner) (packet bytes : Bytes) : Prop where
  found : (scanLines scanner.data true).2 = some bytes
  packet : packet = bytes ++ crlf
  settled : Scanner.Settled size rest
  err : rest.err = scanner.err
  length : rest.data.length + (scanLines scanner.data true).1 = scanner.data.length

theorem exists_framed {size : Nat} {scanner scanned : Scanner} {token : Token}
    (settled : Scanner.Settled size scanner) (next : scanner.next = some (token, scanned)) :
    Exists fun bytes => Framed size scanner (appendDelimiter scanned token).2
      (appendDelimiter scanned token).1 bytes := by
  rcases Scanner.next_eq_some settled.isOpen next with ⟨bytes, found, length, outcome⟩
  rcases appendDelimiter_same scanned token with ⟨start, stop, err, reads⟩
  rcases Scanner.next_same next with ⟨offset, stopNext, errNext, readsNext⟩
  have packet := packet_of_scanned found length outcome
  have before := scanner.length_data
  have after := (appendDelimiter scanned token).2.length_data
  have startNext := outcome.start
  have inOrder := scanned.start_le_stop
  have inOrderBefore := scanner.start_le_stop
  rw [settled.remaining] at found startNext
  refine ⟨bytes, found, packet, ⟨?_, ?_⟩, err.trans errNext, ?_⟩
  · exact (appendDelimiter_length scanned token).trans (outcome.length.trans settled.length)
  · exact reads.trans (readsNext.trans settled.nothing)
  · omega

/-- Behind a line that does not end in a bare line feed, and at the end of the
buffered input, the append leaves the input alone. -/
theorem Line.remaining_of_beside {scanner scanned : Scanner} {token : Token} {bytes : Bytes}
    (line : Line scanner scanned token bytes)
    (beside : scanned.start ≠ token.offset + token.length + 1 ∨ scanned.data = []) :
    (appendDelimiter scanned token).2.remaining = scanned.remaining := by
  have start := line.outcome.start
  have inOrder := scanned.start_le_stop
  have within := scanned.stop_le_length
  have length := line.length
  rcases token_of_scanLines line.found with ⟨_, shorter, _, ended⟩
  have data : (scanned.write (token.offset + token.length) crlf).data = scanned.data := by
    by_cases empty : scanned.data = []
    · have nothing := scanned.length_data
      rw [empty, List.length_nil] at nothing
      have collapsed : scanned.start = scanned.stop := by omega
      rw [empty]
      show slice _ scanned.start scanned.stop = []
      rw [collapsed, slice_self]
    · have follows : scanner.remaining.drop (scanLines scanner.remaining true).1 ≠ [] := by
        rw [← line.outcome.rest]
        exact List.append_ne_nil_of_left_ne_nil empty _
      have afterCR : scanned.start = token.offset + token.length + 2 := by
        rcases beside with notBare | nothing
        · rcases ended follows with bare | afterCR <;> omega
        · exact absurd nothing empty
      exact Scanner.data_write_beside (by omega) (Or.inr (Nat.le_of_eq afterCR.symm))
  unfold appendDelimiter
  dsimp only
  split
  · exact congrArg (fun data => data ++ scanned.unread) data
  · rfl

/-- Behind a bare line feed it replaces the first byte of the buffered input. -/
theorem remaining_of_straddling {scanned : Scanner} {token : Token}
    (straddles : scanned.start = token.offset + token.length + 1) (nonempty : scanned.data ≠ []) :
    (appendDelimiter scanned token).2.remaining = lineFeed :: scanned.remaining.tail := by
  have length := List.length_pos_of_ne_nil nonempty
  rw [scanned.length_data] at length
  have within := scanned.stop_le_length
  have room : token.offset + token.length + crlf.length ≤ scanned.buf.length := by
    rw [show crlf.length = 2 from rfl]
    omega
  have tail : (scanned.data ++ scanned.unread).tail = scanned.data.tail ++ scanned.unread :=
    List.tail_append_of_ne_nil nonempty
  unfold appendDelimiter
  dsimp only
  rw [if_pos room]
  unfold Scanner.remaining
  rw [tail]
  exact congrArg (fun data => data ++ scanned.unread)
    (Scanner.data_write_straddling straddles nonempty)

/-- After the append the rest of the stream is still to come, unless its
first byte has become a line feed. -/
theorem Line.remaining {scanner scanned : Scanner} {token : Token} {bytes : Bytes}
    (line : Line scanner scanned token bytes) :
    (¬ Damages scanned token ∧
        ((appendDelimiter scanned token).2.remaining = scanned.remaining ∨
          scanned.remaining = [carriageReturn] ∧
            (appendDelimiter scanned token).2.remaining = [lineFeed])) ∨
      Damages scanned token ∧ Exists fun head => Exists fun tail =>
        scanned.remaining = head :: tail ∧ head ≠ lineFeed ∧
          (appendDelimiter scanned token).2.remaining = lineFeed :: tail := by
  by_cases straddles : scanned.start = token.offset + token.length + 1
  · cases data : scanned.data with
    | nil =>
        refine Or.inl ⟨fun damages => damages.2.1 data, Or.inl ?_⟩
        exact line.remaining_of_beside (Or.inr data)
    | cons head rest =>
        have nonempty : scanned.data ≠ [] := by
          rw [data]
          exact List.cons_ne_nil head rest
        have written := remaining_of_straddling straddles nonempty
        have stream : scanned.remaining = head :: (rest ++ scanned.unread) := by
          unfold Scanner.remaining
          rw [data]
          rfl
        rw [stream, List.tail_cons] at written
        by_cases same : head = lineFeed
        · refine Or.inl ⟨fun damages => damages.2.2.1 (by rw [data, same]; rfl), Or.inl ?_⟩
          rw [written, stream, same]
        · by_cases final : scanned.remaining = [carriageReturn]
          · have nothing := stream.symm.trans final
            rw [List.cons.injEq] at nothing
            refine Or.inl ⟨fun damages => damages.2.2.2 final, Or.inr ⟨final, ?_⟩⟩
            rw [written, nothing.2]
          · refine Or.inr ⟨⟨straddles, nonempty, ?_, final⟩, head, _, stream, same, written⟩
            rw [data, List.head?_cons]
            exact fun equal => same (Option.some.inj equal)
  · exact Or.inl ⟨fun damages => straddles damages.1,
      Or.inl (line.remaining_of_beside (Or.inl straddles))⟩

/-! ## The run -/

/-- The scanner has met no error but the end of its input, and every line that
is still to come fits its buffer. -/
structure Ready (scanner : Scanner) : Prop where
  isOpen : scanner.Open
  below : LinesBelow scanner.buf.length scanner.remaining

theorem Ready.exists_line {scanner : Scanner} (ready : Ready scanner)
    (nonempty : scanner.remaining ≠ []) :
    Exists fun scanned => Exists fun token => Exists fun bytes =>
      Line scanner scanned token bytes := by
  have result := Scanner.scan_eq ready.isOpen ready.below.firstLine
  rcases lines_eq_scanLines nonempty with ⟨bytes, found, _⟩
  unfold Scanner.ScanResult at result
  rw [found] at result
  rcases result with ⟨offset, scanned, scan, outcome⟩
  exact ⟨scanned, ⟨offset, bytes.length⟩, bytes, scan, found, rfl, outcome⟩

theorem Ready.scan_of_empty {scanner : Scanner} (ready : Ready scanner)
    (empty : scanner.remaining = []) : scanner.scan.1 = none := by
  have result := Scanner.scan_eq ready.isOpen ready.below.firstLine
  unfold Scanner.ScanResult at result
  rw [empty, scanLines_nil] at result
  exact result.1

/-- The scanner is ready for the next round, and the input has become shorter. -/
theorem Line.ready {scanner scanned : Scanner} {token : Token} {bytes : Bytes}
    (line : Line scanner scanned token bytes) (ready : Ready scanner) :
    Ready (appendDelimiter scanned token).2 ∧
      (appendDelimiter scanned token).2.remaining.length < scanner.remaining.length := by
  have isOpen := appendDelimiter_isOpen line.outcome.isOpen token
  have length := (appendDelimiter_length scanned token).trans line.outcome.length
  have below : LinesBelow scanner.buf.length scanned.remaining := by
    rw [line.outcome.rest]
    exact ready.below.rest
  have shorter : scanned.remaining.length < scanner.remaining.length := by
    rcases token_of_scanLines line.found with ⟨_, _, positive, _⟩
    have within := scanLines_le scanner.remaining true
    rw [line.outcome.rest, List.length_drop]
    omega
  rcases line.remaining with ⟨_, same | ⟨before, after⟩⟩ | ⟨_, head, tail, before, _, after⟩
  · rw [same]
    refine ⟨⟨isOpen, ?_⟩, shorter⟩
    rw [length, same]
    exact below
  · rw [after]
    rw [before] at below shorter
    refine ⟨⟨isOpen, ?_⟩, shorter⟩
    rw [length, after]
    exact below.overwritten
  · rw [after]
    rw [before] at below shorter
    refine ⟨⟨isOpen, ?_⟩, shorter⟩
    rw [length, after]
    exact below.overwritten

theorem Line.eventLoop_succ {scanner scanned : Scanner} {token : Token} {bytes : Bytes}
    (line : Line scanner scanned token bytes) (fuel : Nat) :
    eventLoop (fuel + 1) scanner =
      (eventLoop fuel (appendDelimiter scanned token).2).map fun packets =>
        (bytes ++ crlf) :: packets := by
  rw [eventLoop, line.scan]
  dsimp only
  rw [line.packet]

theorem Line.undamaged_succ {scanner scanned : Scanner} {token : Token} {bytes : Bytes}
    (line : Line scanner scanned token bytes) (fuel : Nat) :
    Undamaged (fuel + 1) scanner ↔
      ¬ Damages scanned token ∧ Undamaged fuel (appendDelimiter scanned token).2 := by
  rw [Undamaged, line.scan]

theorem eventLoop_of_empty {scanner : Scanner} (ready : Ready scanner)
    (empty : scanner.remaining = []) (fuel : Nat) : eventLoop (fuel + 1) scanner = some [] := by
  have done := ready.scan_of_empty empty
  rw [eventLoop]
  generalize scanner.scan = result at done
  rcases result with ⟨found, scanned⟩
  cases done
  rfl

theorem undamaged_of_empty {scanner : Scanner} (ready : Ready scanner)
    (empty : scanner.remaining = []) (fuel : Nat) : Undamaged (fuel + 1) scanner := by
  have done := ready.scan_of_empty empty
  rw [Undamaged]
  generalize scanner.scan = result at done
  rcases result with ⟨found, scanned⟩
  cases done
  exact True.intro

/-- The lines of a stream whose first line is cut off. -/
theorem Line.lines {scanner scanned : Scanner} {token : Token} {bytes : Bytes}
    (line : Line scanner scanned token bytes) :
    lines scanner.remaining = bytes :: lines scanned.remaining := by
  have nonempty : scanner.remaining ≠ [] := by
    intro empty
    have found := line.found
    rw [empty, scanLines_nil] at found
    cases found
  rcases lines_eq_scanLines nonempty with ⟨token, found, split⟩
  rw [line.outcome.rest, split, Option.some.inj (found.symm.trans line.found)]

/-- The loop ends, and never with fewer packets than the stream has lines. -/
theorem exists_packets {fuel : Nat} {scanner : Scanner} (ready : Ready scanner)
    (enough : scanner.remaining.length < fuel) :
    Exists fun packets => eventLoop fuel scanner = some packets ∧
      (lines scanner.remaining).length ≤ packets.length := by
  induction fuel generalizing scanner with
  | zero => exact absurd enough (Nat.not_lt_zero _)
  | succ fuel inductionHypothesis =>
      by_cases empty : scanner.remaining = []
      · refine ⟨[], eventLoop_of_empty ready empty fuel, ?_⟩
        rw [empty]
        exact Nat.le_refl 0
      · rcases ready.exists_line empty with ⟨scanned, token, bytes, line⟩
        rcases line.ready ready with ⟨nextReady, shorter⟩
        rcases inductionHypothesis nextReady (by omega) with ⟨packets, executed, counted⟩
        refine ⟨(bytes ++ crlf) :: packets, ?_, ?_⟩
        · rw [line.eventLoop_succ, executed]
          rfl
        · rw [line.lines, List.length_cons, List.length_cons]
          refine Nat.succ_le_succ (Nat.le_trans ?_ counted)
          rcases line.remaining with ⟨_, same | ⟨before, after⟩⟩ | ⟨_, head, tail, before, _, after⟩
          · rw [same]
          · rw [before, after]
            exact length_lines_overwritten carriageReturn []
          · rw [before, after]
            exact length_lines_overwritten head tail

/-- A packet of the lines of a stream. -/
def delimited (stream : Bytes) : List Bytes :=
  (lines stream).map fun line => line ++ crlf

/-- What the loop makes of a stream whose first byte has become a line feed is
not what it would have made of the stream. -/
theorem eventLoop_ne_of_overwritten {fuel : Nat} {scanner : Scanner} (ready : Ready scanner)
    (enough : scanner.remaining.length < fuel) {head : UInt8} {tail : Bytes}
    (overwritten : scanner.remaining = lineFeed :: tail) (different : head ≠ lineFeed)
    (notFinal : head :: tail ≠ [carriageReturn]) :
    eventLoop fuel scanner ≠ some (delimited (head :: tail)) := by
  intro same
  by_cases last : tail = []
  · subst last
    have absent : lineFeed ∉ [head] := by
      rw [List.mem_singleton]
      exact fun equal => different equal.symm
    have kept : dropCR [head] = [head] := by
      unfold dropCR
      rw [if_neg]
      intro ended
      exact notFinal (congrArg (fun byte => [byte]) (Option.some.inj ended))
    have nonempty : scanner.remaining ≠ [] := by
      rw [overwritten]
      exact List.cons_ne_nil _ _
    rcases ready.exists_line nonempty with ⟨scanned, token, bytes, line⟩
    have empty : bytes = [] := by
      have found := line.found
      rw [overwritten] at found
      exact (Option.some.inj found).symm
    cases fuel with
    | zero => exact absurd enough (Nat.not_lt_zero _)
    | succ fuel =>
        unfold delimited at same
        rw [line.eventLoop_succ, empty, lines_final (List.cons_ne_nil _ _) absent, kept] at same
        rcases Option.map_eq_some_iff.mp same with ⟨packets, _, packet⟩
        have first : carriageReturn = head := (List.cons.inj (List.cons.inj packet).1).1
        exact notFinal (by rw [← first])
  · rcases exists_packets ready enough with ⟨packets, executed, counted⟩
    rw [executed] at same
    rw [Option.some.inj same, overwritten, lines_lineFeed] at counted
    unfold delimited at counted
    rw [List.length_map, length_lines_cons different last, List.length_cons] at counted
    omega

/-- The packets are the lines of the stream exactly if no append of the run
damages the input. -/
theorem eventLoop_eq_iff {fuel : Nat} {scanner : Scanner} (ready : Ready scanner)
    (enough : scanner.remaining.length < fuel) :
    eventLoop fuel scanner = some (delimited scanner.remaining) ↔ Undamaged fuel scanner := by
  induction fuel generalizing scanner with
  | zero => exact absurd enough (Nat.not_lt_zero _)
  | succ fuel inductionHypothesis =>
      by_cases empty : scanner.remaining = []
      · rw [eventLoop_of_empty ready empty fuel, empty]
        exact iff_of_true rfl (undamaged_of_empty ready empty fuel)
      · rcases ready.exists_line empty with ⟨scanned, token, bytes, line⟩
        rcases line.ready ready with ⟨nextReady, shorter⟩
        have rest := inductionHypothesis nextReady (by omega)
        have firstCut : eventLoop (fuel + 1) scanner = some (delimited scanner.remaining) ↔
            eventLoop fuel (appendDelimiter scanned token).2 =
              some (delimited scanned.remaining) := by
          unfold delimited
          rw [line.eventLoop_succ, line.lines, List.map_cons]
          constructor
          · intro same
            rcases Option.map_eq_some_iff.mp same with ⟨packets, executed, packet⟩
            rw [executed, (List.cons.inj packet).2]
          · intro same
            rw [same]
            rfl
        rw [firstCut, line.undamaged_succ]
        rcases line.remaining with ⟨harmless, same | ⟨before, after⟩⟩ |
          ⟨damages, head, tail, before, different, after⟩
        · rw [same] at rest
          rw [rest]
          exact ⟨fun undamaged => ⟨harmless, undamaged⟩, fun both => both.2⟩
        · have equal : delimited (appendDelimiter scanned token).2.remaining =
              delimited scanned.remaining := by
            rw [before, after]
            rfl
          rw [equal] at rest
          rw [rest]
          exact ⟨fun undamaged => ⟨harmless, undamaged⟩, fun both => both.2⟩
        · have notFinal : head :: tail ≠ [carriageReturn] := by
            rw [← before]
            exact damages.2.2.2
          rw [before]
          exact iff_of_false (eventLoop_ne_of_overwritten nextReady (by omega) after different notFinal)
            fun both => both.1 damages

/-! ## After the login -/

theorem LoggedIn.ready {reads : List Chunk} {scanner : Scanner} (loggedIn : LoggedIn reads scanner)
    (below : LinesBelow 4096 scanner.remaining) : Ready scanner := by
  rcases loggedIn with ⟨ident, middle, add, first, second⟩
  have initially : (Scanner.new 4096 reads).Open := by
    intro failed
    cases failed
  rcases Scanner.scanLoop_eq_some initially first with ⟨middleOpen, middleLength⟩
  rcases Scanner.scanLoop_eq_some middleOpen second with ⟨isOpen, length⟩
  have full : scanner.buf.length = 4096 :=
    length.trans (middleLength.trans List.length_replicate)
  refine ⟨isOpen, ?_⟩
  rw [full]
  exact below

/-- Whatever the reads of the connection, the packets after the login are the
lines of the stream, each followed by the delimiter, exactly if no append
damages the input. -/
theorem framing_iff {reads : List Chunk} {scanner : Scanner} (loggedIn : LoggedIn reads scanner)
    (below : LinesBelow 4096 scanner.remaining) {fuel : Nat}
    (enough : scanner.remaining.length < fuel) :
    eventLoop fuel scanner = some ((lines scanner.remaining).map fun line => line ++ crlf) ↔
      Undamaged fuel scanner :=
  eventLoop_eq_iff (loggedIn.ready below) enough

/-! ## Samples -/

def loginLines : Bytes :=
  bytes "$IDLON_CTR:SERVER:88e4:client" ++ crlf ++
    bytes "#AALON_CTR:SERVER:Name:1:secret:12:100" ++ crlf

/-- The connection offers the login and the stream in one read. -/
def oneRead (stream : Bytes) : List Chunk :=
  [⟨loginLines ++ stream, List.append_ne_nil_of_left_ne_nil (by decide) stream⟩]

def afterLogin (stream : Bytes) : Scanner :=
  (Scanner.new 4096 (oneRead stream)).scan.2.scan.2

def sampleCommands (ending : Bytes) : Bytes :=
  bytes "#TMLON_CTR:*S:a" ++ ending ++ bytes "#TMLON_CTR:*S:b" ++ ending

/-- Two scans succeed, and leave the stream. -/
def Offered (stream : Bytes) : Prop :=
  (Scanner.new 4096 (oneRead stream)).scan.1.isSome = true ∧
    (Scanner.new 4096 (oneRead stream)).scan.2.scan.1.isSome = true ∧
    (afterLogin stream).remaining = stream

instance (stream : Bytes) : Decidable (Offered stream) :=
  inferInstanceAs (Decidable (_ ∧ _ ∧ _))

theorem Offered.loggedIn {stream : Bytes} (offered : Offered stream) :
    LoggedIn (oneRead stream) (afterLogin stream) := by
  rcases Option.isSome_iff_exists.mp offered.1 with ⟨ident, identFound⟩
  rcases Option.isSome_iff_exists.mp offered.2.1 with ⟨add, addFound⟩
  refine ⟨ident, (Scanner.new 4096 (oneRead stream)).scan.2, add, ?_, ?_⟩
  · rw [← identFound]
  · unfold afterLogin
    rw [← addFound]

theorem offered_crlf : Offered (sampleCommands crlf) := by
  decide +kernel

theorem offered_bareLineFeed : Offered (sampleCommands [lineFeed]) := by
  decide +kernel

theorem framing_iff_crlf :
    eventLoop 64 (afterLogin (sampleCommands crlf)) =
        some ((lines (afterLogin (sampleCommands crlf)).remaining).map fun line => line ++ crlf) ↔
      Undamaged 64 (afterLogin (sampleCommands crlf)) := by
  refine framing_iff offered_crlf.loggedIn ?_ ?_
  · rw [offered_crlf.2.2]
    unfold LinesBelow
    decide +kernel
  · rw [offered_crlf.2.2]
    decide +kernel

/-- Two commands that bare line feeds end, in one read: the second one is lost. -/
theorem bareLineFeed_loses_command : Exists fun reads => Exists fun scanner =>
    LoggedIn reads scanner ∧ LinesBelow 4096 scanner.remaining ∧
      eventLoop (scanner.remaining.length + 1) scanner ≠
        some ((lines scanner.remaining).map fun line => line ++ crlf) := by
  refine ⟨oneRead (sampleCommands [lineFeed]), afterLogin (sampleCommands [lineFeed]),
    offered_bareLineFeed.loggedIn, ?_, ?_⟩
  · rw [offered_bareLineFeed.2.2]
    unfold LinesBelow
    decide +kernel
  · rw [offered_bareLineFeed.2.2]
    decide +kernel

end Fsd
end OpenFsd
