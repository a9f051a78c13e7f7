import OpenFsd.Fsd.Presence

namespace OpenFsd
namespace Fsd

open Db Transition

/-!
# Whether a cancelled session falls silent

Only the sender watches the context of a session.  The event loop goes on as
long as its scanner returns lines: those that are buffered when the context is
cancelled, and, until the sender has closed the connection, those that the
peer still sends.

`silent_iff` says when no handler runs after the cancellation all the same.
-/

/-! ## What a buffer can still return -/

/-- The packet can still come of the scanner, even if nothing more is read. -/
inductive Leftover : Scanner -> Bytes -> Prop
  | first (s : Scanner) (token : Token) (scanned : Scanner) (found : s.next = some (token, scanned)) :
      Leftover s (appendDelimiter scanned token).1
  | later (s : Scanner) (token : Token) (scanned : Scanner) (found : s.next = some (token, scanned))
      (packet : Bytes) (rest : Leftover (appendDelimiter scanned token).2 packet) : Leftover s packet
  | final (s : Scanner) (waits : s.Waits) (packet : Bytes) (rest : Leftover s.hangUp packet) :
      Leftover s packet

namespace Connections

variable {F : Type}

/-- Nothing more will be read for the session. -/
def Deaf (conn : Connections F) (id : SessionId) : Prop :=
  conn.closed id = true ∨ (conn.scanner id).err = true ∨ (conn.scanner id).Done

/-- Nothing more will be read for the session, and no line that it still has
in its buffer is a packet that `verifyPacket` accepts. -/
structure Exhausted (conn : Connections F) (id : SessionId) : Prop where
  deaf : conn.Deaf id
  refused : forall packet, Leftover (conn.scanner id) packet ->
    handlerOf packet (conn.system.server.clients id).callsign = none

variable [GoFloat F] (P : Platform)

/-- From here on no handler runs for the session. -/
def Silent (conn : Connections F) (id : SessionId) : Prop :=
  forall moves later, run (step P) conn moves = some later ->
    forall turn, turn ∈ later.journal.drop conn.journal.length -> turn.speaker = some id ->
      turn.handler = none

variable {P} {heap : SessionId -> Client F} {initial : Scanner} {conn next : Connections F}
  {move : Move} {id : SessionId}

/-! ## The journal -/

/-- A move only adds to the journal, and only an event loop runs a handler. -/
theorem exists_entered (stepped : Stepped P conn move next) :
    Exists fun entered => next.journal = conn.journal ++ entered ∧
      forall turn, turn ∈ entered -> turn.handler = none ∨
        Exists fun id => Exists fun token => Exists fun scanned =>
          turn.speaker = some id ∧ conn.stage id = .running ∧
            (conn.scanner id).next = some (token, scanned) ∧
            turn.handler = handlerOf (appendDelimiter scanned token).1
              (conn.system.server.clients id).callsign := by
  have nothing : conn.journal = conn.journal ++ [] := (List.append_nil _).symm
  cases stepped with
  | refused => exact ⟨[], nothing, nofun⟩
  | connected env database idLine addLine scanner registered length nothing accepted =>
      refine ⟨_, rfl, ?_⟩
      intro turn member
      rw [List.mem_singleton.mp member]
      exact Or.inl rfl
  | read => exact ⟨[], nothing, nofun⟩
  | hungUp => exact ⟨[], nothing, nofun⟩
  | closed => exact ⟨[], nothing, nofun⟩
  | turned now id system token scanned staged found taken =>
      refine ⟨_, rfl, ?_⟩
      intro turn member
      rw [List.mem_singleton.mp member]
      exact Or.inr ⟨id, token, scanned, rfl, staged, found, rfl⟩
  | failed id system staged taken
  | announced id system staged taken
  | left id system staged finished taken
  | released id system staged taken
  | kicked _ callsign system named taken =>
      refine ⟨_, rfl, ?_⟩
      intro turn member
      rw [List.mem_singleton.mp member]
      exact Or.inl rfl

/-! ## An exhausted session stays exhausted -/

omit [GoFloat F] in
theorem Exhausted.unchanged (exhausted : conn.Exhausted id)
    (scanner : next.scanner id = conn.scanner id)
    (closed : conn.closed id = true -> next.closed id = true)
    (callsign : (next.system.server.clients id).callsign =
      (conn.system.server.clients id).callsign) : next.Exhausted id where
  deaf := by
    unfold Deaf
    rw [scanner]
    exact exhausted.deaf.imp_left closed
  refused := by
    rw [scanner, callsign]
    exact exhausted.refused

omit [GoFloat F] in
/-- A token leaves the rest of what the scanner can still return. -/
theorem Exhausted.turned (exhausted : conn.Exhausted id) {token : Token} {scanned : Scanner}
    (found : (conn.scanner id).next = some (token, scanned))
    (scanner : next.scanner id = (appendDelimiter scanned token).2)
    (closed : next.closed id = conn.closed id)
    (callsign : (next.system.server.clients id).callsign =
      (conn.system.server.clients id).callsign) : next.Exhausted id where
  deaf := by
    rcases exhausted.deaf with shut | failed | done
    · exact Or.inl (closed.trans shut)
    · refine Or.inr (Or.inl ?_)
      rw [scanner, (appendDelimiter_same scanned token).2.2.1, (Scanner.next_same found).2.2.1]
      exact failed
    · have missing := done.1
      rw [found] at missing
      cases missing
  refused := by
    rw [scanner, callsign]
    intro packet leftover
    exact exhausted.refused packet (.later _ token scanned found packet leftover)

theorem Exhausted.step (exhausted : conn.Exhausted id) (below : id < conn.system.allocated)
    (done : step P conn move = some next) : next.Exhausted id := by
  have callsign : forall {system : System F} {action : Action},
      System.step P conn.system action = some system ->
        (system.server.clients id).callsign = (conn.system.server.clients id).callsign := by
    intro system action taken
    exact congrArg LoginData.callsign (System.step_loginData taken below).2
  cases stepped_of_step done with
  | refused => exact exhausted
  | connected env database idLine addLine scanner registered length nothing accepted =>
      have different : id ≠ conn.system.allocated := Nat.ne_of_lt below
      apply exhausted.unchanged
      · exact Function.update_of_ne different _ _
      · intro shut
        exact (Function.update_of_ne different _ _).trans shut
      · exact callsign (System.step_connect accepted)
  | failed other system staged taken
  | announced other system staged taken
  | left other system staged finished taken
  | released other system staged taken
  | kicked _ victim system named taken =>
      exact exhausted.unchanged rfl (fun shut => shut) (callsign taken)
  | read other chunk staged notClosed waits fits =>
      by_cases own : id = other
      · subst own
        rcases exhausted.deaf with shut | failed | finished
        · cases shut.symm.trans notClosed
        · cases failed.symm.trans waits.2.1
        · rcases finished.2 with failed | full
          · cases failed.symm.trans waits.2.1
          · exact absurd full waits.2.2
      · exact exhausted.unchanged (scan_scanner_other _ own _) (fun shut => shut) rfl
  | hungUp other staged waits =>
      by_cases own : id = other
      · subst own
        constructor
        · refine Or.inr (Or.inl ?_)
          rw [scan_scanner_self]
          rfl
        · rw [scan_scanner_self]
          intro packet leftover
          exact exhausted.refused packet (.final _ waits packet leftover)
      · exact exhausted.unchanged (scan_scanner_other _ own _) (fun shut => shut) rfl
  | turned now other system token scanned staged found taken =>
      by_cases own : id = other
      · subst own
        exact exhausted.turned found (scan_scanner_self _ _ _) rfl (callsign taken)
      · exact exhausted.unchanged (scan_scanner_other _ own _) (fun shut => shut) (callsign taken)
  | closed other staged cancelled =>
      refine exhausted.unchanged rfl ?_ rfl
      intro shut
      by_cases own : id = other
      · rw [own]
        exact Function.update_self other _ conn.closed
      · exact (Function.update_of_ne own _ _).trans shut

/-- The session has left its event loop, or never enters it. -/
def Over (conn : Connections F) (id : SessionId) : Prop :=
  conn.stage id ∈ [Stage.departed, .released, .failed]

theorem Over.step (ended : conn.Over id) (below : id < conn.system.allocated)
    (taken : step P conn move = some next) : next.Over id := by
  have entered : forall (system : System F) {other : SessionId} {stage : Stage},
      stage ∈ [Stage.departed, .released, .failed] ∨ conn.stage other = .greeting ->
        ((conn.acted (some other) none system).enter other stage).Over id := by
    intro system other stage allowed
    by_cases own : id = other
    · subst own
      unfold Over
      rw [enter_stage_self]
      rcases allowed with member | greeting
      · exact member
      · unfold Over at ended
        rw [greeting] at ended
        exact absurd ended (by decide)
    · exact (congrArg (fun stage => stage ∈ _) (enter_stage_other _ own stage)).mpr ended
  cases stepped_of_step taken with
  | connected env database idLine addLine scanner registered length nothing accepted =>
      have same : (Function.update conn.stage conn.system.allocated Stage.greeting) id =
          conn.stage id := Function.update_of_ne (Nat.ne_of_lt below) _ _
      exact (congrArg (fun stage => stage ∈ _) same).mpr ended
  | failed other system => exact entered system (Or.inl (by decide))
  | announced other system staged => exact entered system (Or.inr staged)
  | left other system => exact entered system (Or.inl (by decide))
  | released other system => exact entered system (Or.inl (by decide))
  | refused | read | hungUp | turned | kicked | closed => exact ended

/-- No handler runs for a session whose loop is over, or that is exhausted. -/
theorem silent_of_exhausted (quiet : conn.Over id ∨ conn.Exhausted id)
    (below : id < conn.system.allocated) : Silent P conn id := by
  intro moves later executed
  have kept := invariant_of_reaches
    (fun current move next taken (held : ((current.Over id ∨ current.Exhausted id) ∧
        id < current.system.allocated) ∧ forall turn,
          turn ∈ current.journal.drop conn.journal.length -> turn.speaker = some id ->
            turn.handler = none) => by
      rcases held with ⟨⟨quiet, below⟩, silent⟩
      rcases exists_entered (stepped_of_step taken) with ⟨entered, journal, handled⟩
      refine ⟨⟨quiet.imp (fun ended => ended.step below taken)
        fun exhausted => exhausted.step below taken, ?_⟩, ?_⟩
      · exact invariant_of_reaches
          (fun _ _ _ moved (allocated : id < _) => (System.step_loginData moved allocated).1)
          below (system_of_step taken)
      · intro turn member spoken
        rw [journal, List.drop_append] at member
        rcases List.mem_append.mp member with before | new
        · exact silent turn before spoken
        · rcases handled turn (List.mem_of_mem_drop new) with
            nothing | ⟨other, token, scanned, speaker, staged, found, handler⟩
          · exact nothing
          · cases spoken.symm.trans speaker
            rcases quiet with ended | exhausted
            · unfold Over at ended
              rw [staged] at ended
              exact absurd ended (by decide)
            · rw [handler]
              exact exhausted.refused _ (.first _ token scanned found))
    ⟨⟨quiet, below⟩, by simp⟩ ⟨moves, executed⟩
  exact kept.2

/-! ## A silent session is exhausted -/

/-- Every session has a scanner over its own buffer. -/
theorem settled_of_reaches (reached : Reaches (step P) (start heap initial) conn)
    (born : conn.stage id ≠ .unborn) : (conn.scanner id).Settled 4096 := by
  have kept := invariant_of_reaches
    (fun current move next taken (held : forall id, current.stage id ≠ .unborn ->
        (current.scanner id).Settled 4096) => by
      have entered : forall (system : System F) {other : SessionId} {stage : Stage},
          current.stage other ≠ .unborn -> forall id,
            ((current.acted (some other) none system).enter other stage).stage id ≠ .unborn ->
              (current.scanner id).Settled 4096 := by
        intro system other stage born id staged
        by_cases own : id = other
        · rw [own]
          exact held other born
        · exact held id (enter_stage_other _ own stage ▸ staged)
      have scanned : forall {other : SessionId} {scanner : Scanner},
          scanner.Settled 4096 -> forall id, current.stage id ≠ .unborn ->
            ((current.scan other scanner).scanner id).Settled 4096 := by
        intro other scanner settled id staged
        by_cases own : id = other
        · rw [own, scan_scanner_self]
          exact settled
        · rw [scan_scanner_other _ own]
          exact held id staged
      cases stepped_of_step taken with
      | connected env database idLine addLine scanner registered length nothing accepted =>
          intro id staged
          by_cases own : id = current.system.allocated
          · rw [own]
            refine (congrArg (Scanner.Settled 4096) ?_).mpr ⟨length, nothing⟩
            exact Function.update_self _ _ _
          · refine (congrArg (Scanner.Settled 4096) ?_).mpr (held id ?_)
            · exact Function.update_of_ne own _ _
            · intro unborn
              exact staged ((Function.update_of_ne own _ _).trans unborn)
      | failed other system staged => exact entered system (by rw [staged]; decide)
      | announced other system staged => exact entered system (by rw [staged]; decide)
      | left other system staged => exact entered system (by rw [staged]; decide)
      | released other system staged => exact entered system (by rw [staged]; decide)
      | read other chunk staged notClosed waits fits =>
          exact scanned ((held other (by rw [staged]; decide)).receive fits).1
      | hungUp other staged => exact scanned (held other (by rw [staged]; decide)).hangUp
      | turned now other system token rest staged found =>
          rcases exists_framed (held other (by rw [staged]; decide)) found with ⟨bytes, framed⟩
          exact scanned framed.settled
      | refused | kicked | closed => exact held)
    (fun id born => absurd rfl born) reached
  exact kept id born

/-- The turn of a session on the next line of its buffer. -/
def turned (P : Platform) (conn : Connections F) (now : Time) (id : SessionId) (packet : Bytes)
    (rest : Scanner) : Connections F :=
  (conn.acted (some id) (handlerOf packet (conn.system.server.clients id).callsign)
    { conn.system with server := conn.system.server.processPacket P.md5 now id packet }).scan id rest

theorem step_turn (now : Time) {token : Token} {scanned : Scanner}
    (staged : conn.stage id = .running) (registered : conn.system.server.Registered id)
    (found : (conn.scanner id).next = some (token, scanned)) :
    step P conn (.turn now id) =
      some (turned P conn now id (appendDelimiter scanned token).1 (appendDelimiter scanned token).2) := by
  dsimp only [step]
  rw [if_pos staged, found]
  dsimp only
  rw [act]
  dsimp only [System.step]
  rw [if_pos registered]
  rfl

theorem Silent.step (silent : Silent P conn id) (taken : step P conn move = some next) :
    Silent P next id := by
  intro moves later executed turn member
  rcases exists_entered (stepped_of_step taken) with ⟨entered, journal, _⟩
  apply silent (move :: moves) later ((run_cons_of_step taken moves).trans executed) turn
  apply List.drop_subset_drop_left _ _ member
  rw [journal, List.length_append]
  exact Nat.le_add_right _ _

/-- The session is in its event loop, and no handler runs for it any more. -/
structure Muted (P : Platform) (heap : SessionId -> Client F) (initial : Scanner)
    (conn : Connections F) (id : SessionId) : Prop where
  reached : Reaches (Connections.step P) (start heap initial) conn
  staged : conn.stage id = .running
  silent : Silent P conn id

/-- The session has gone on with another scanner. -/
structure Continues (P : Platform) (heap : SessionId -> Client F) (initial : Scanner)
    (conn next : Connections F) (id : SessionId) (scanner : Scanner) : Prop where
  muted : Muted P heap initial next id
  scanner : next.scanner id = scanner
  closed : next.closed = conn.closed
  callsign : (next.system.server.clients id).callsign = (conn.system.server.clients id).callsign

namespace Muted

theorem born (muted : Muted P heap initial conn id) : conn.stage id ≠ .unborn := by
  rw [muted.staged]
  decide

theorem settled (muted : Muted P heap initial conn id) : (conn.scanner id).Settled 4096 :=
  settled_of_reaches muted.reached muted.born

theorem registered (muted : Muted P heap initial conn id) : conn.system.server.Registered id :=
  (seated_of_reaches muted.reached).registered id (by rw [muted.staged]; decide)

theorem validCallsign (muted : Muted P heap initial conn id) :
    ValidCallsign (conn.system.server.clients id).callsign := by
  have reached := system_of_reaches muted.reached
  exact System.named_of_reaches reached id
    ((System.wellFormed_of_reaches reached).allocated_of_registered muted.registered)

/-- A line of the buffer is refused. -/
theorem turn (muted : Muted P heap initial conn id) {token : Token} {scanned : Scanner}
    (found : (conn.scanner id).next = some (token, scanned)) :
    handlerOf (appendDelimiter scanned token).1 (conn.system.server.clients id).callsign = none ∧
      Exists fun next =>
        Continues P heap initial conn next id (appendDelimiter scanned token).2 := by
  have taken := step_turn (P := P) 0 muted.staged muted.registered found
  constructor
  · have silent := muted.silent [.turn 0 id] _ ((run_cons_of_step taken []).trans rfl)
    have journal : (turned P conn 0 id (appendDelimiter scanned token).1
        (appendDelimiter scanned token).2).journal = conn.journal ++ [_] := rfl
    rw [journal, List.drop_left] at silent
    exact silent _ List.mem_cons_self rfl
  · refine ⟨_, ⟨muted.reached.tail taken, muted.staged, muted.silent.step taken⟩,
      scan_scanner_self _ id _, rfl, ?_⟩
    exact congrArg LoginData.callsign (Server.toLoginData_processPacket _ _ _ _ _ id)

theorem hangUp (muted : Muted P heap initial conn id) (waits : (conn.scanner id).Waits) :
    Exists fun next => Continues P heap initial conn next id (conn.scanner id).hangUp := by
  have taken : step P conn (.hangUp id) = some (conn.scan id (conn.scanner id).hangUp) :=
    if_pos ⟨muted.staged, waits⟩
  exact ⟨_, ⟨muted.reached.tail taken, muted.staged, muted.silent.step taken⟩,
    scan_scanner_self conn id _, rfl, rfl⟩

theorem read (muted : Muted P heap initial conn id) (notClosed : conn.closed id = false)
    (waits : (conn.scanner id).Waits) {chunk : Chunk}
    (fits : chunk.val.length ≤ (conn.scanner id).room) :
    Exists fun next =>
      Continues P heap initial conn next id ((conn.scanner id).receive chunk) := by
  have taken : step P conn (.read id chunk) =
      some (conn.scan id ((conn.scanner id).receive chunk)) :=
    if_pos ⟨muted.staged, notClosed, waits, fits⟩
  exact ⟨_, ⟨muted.reached.tail taken, muted.staged, muted.silent.step taken⟩,
    scan_scanner_self conn id _, rfl, rfl⟩

/-- Every line that the buffer still holds is refused. -/
theorem refused {scanner : Scanner} {packet : Bytes} (leftover : Leftover scanner packet)
    (muted : Muted P heap initial conn id) (same : conn.scanner id = scanner) :
    handlerOf packet (conn.system.server.clients id).callsign = none := by
  induction leftover generalizing conn with
  | first s token scanned found => exact (muted.turn (same ▸ found)).1
  | later s token scanned found packet rest inductionHypothesis =>
      rcases (muted.turn (same ▸ found)).2 with ⟨next, continues⟩
      rw [← continues.callsign]
      exact inductionHypothesis continues.muted continues.scanner
  | final s waits packet rest inductionHypothesis =>
      rcases muted.hangUp (same ▸ waits) with ⟨next, continues⟩
      rw [← continues.callsign]
      exact inductionHypothesis continues.muted (same ▸ continues.scanner)

/-- A session that is not deaf comes to a point where it waits for its peer. -/
theorem exists_waiting (muted : Muted P heap initial conn id) (notClosed : conn.closed id = false)
    (isOpen : (conn.scanner id).err = false) (notFull : ¬ (conn.scanner id).Done) :
    Exists fun next => Muted P heap initial next id ∧ next.closed id = false ∧
      (next.scanner id).Waits := by
  induction bound : (conn.scanner id).data.length using Nat.strong_induction_on generalizing conn with
  | _ length inductionHypothesis =>
      cases found : (conn.scanner id).next with
      | none =>
          have missing : (conn.scanner id).next.isNone = true := by rw [found]; rfl
          exact ⟨conn, muted, notClosed, missing, isOpen,
            fun full => notFull ⟨missing, Or.inr full⟩⟩
      | some result =>
          rcases result with ⟨token, scanned⟩
          rcases exists_framed muted.settled found with ⟨bytes, framed⟩
          rcases (muted.turn found).2 with ⟨next, continues⟩
          rcases token_of_scanLines framed.found with ⟨_, _, positive, _⟩
          have shorter := framed.length
          have within := (conn.scanner id).length_data
          have stop := (conn.scanner id).stop_le_length
          have size := muted.settled.length
          have sizeNext := framed.settled.length
          have opened : (next.scanner id).err = false := by
            rw [continues.scanner, framed.err]
            exact isOpen
          have short : (next.scanner id).data.length < (next.scanner id).buf.length := by
            rw [continues.scanner]
            omega
          refine inductionHypothesis (next.scanner id).data.length ?_ continues.muted ?_ opened ?_ rfl
          · rw [continues.scanner]
            omega
          · rw [continues.closed]
            exact notClosed
          · rintro ⟨_, failed | full⟩
            · cases opened.symm.trans failed
            · exact Scanner.not_full_of_length short full

/-- The peer sends the end of a line, and the line is refused. -/
theorem hear (muted : Muted P heap initial conn id) (notClosed : conn.closed id = false)
    (waits : (conn.scanner id).Waits) {chunk : Chunk}
    (fits : chunk.val.length ≤ (conn.scanner id).room) (present : lineFeed ∈ chunk.val) :
    Exists fun next => Exists fun line => Muted P heap initial next id ∧ next.closed id = false ∧
      (scanLines ((conn.scanner id).data ++ chunk.val) true).2 = some line ∧
      handlerOf (line ++ crlf) (conn.system.server.clients id).callsign = none ∧
      (next.scanner id).err = false ∧ (next.scanner id).data.length +
        (scanLines ((conn.scanner id).data ++ chunk.val) true).1 =
          ((conn.scanner id).data ++ chunk.val).length := by
  rcases muted.settled.receive fits with ⟨settled, data, err⟩
  rcases muted.read notClosed waits fits with ⟨middle, heard⟩
  have ended : lineFeed ∈ ((conn.scanner id).receive chunk).data := by
    rw [data]
    exact List.mem_append_right _ present
  rcases Scanner.exists_next_of_mem ended with ⟨token, scanned, found⟩
  rcases exists_framed settled found with ⟨line, framed⟩
  rcases heard.muted.turn (heard.scanner ▸ found) with ⟨silent, next, continues⟩
  refine ⟨next, line, continues.muted, ?_, ?_, ?_, ?_, ?_⟩
  · rw [continues.closed, heard.closed]
    exact notClosed
  · rw [← data]
    exact framed.found
  · rw [← framed.packet, ← heard.callsign]
    exact silent
  · rw [continues.scanner, framed.err, err]
    exact waits.2.1
  · rw [continues.scanner, ← data]
    exact framed.length

/-- The text message that a client addresses to itself. -/
def ownMessage (callsign : Bytes) : Bytes :=
  packetOf [bytes "#TM" ++ callsign, callsign, []]

theorem plain_ownMessage {callsign : Bytes} (valid : ValidCallsign callsign) :
    forall field, field ∈ [bytes "#TM" ++ callsign, callsign, []] -> PlainField field := by
  have plain := valid.plain
  have start : PlainField (bytes "#TM" ++ callsign) := PlainField.append (by decide) plain
  have empty : PlainField [] := by decide
  simp [plain, start, empty]

theorem length_ownMessage (callsign : Bytes) :
    (ownMessage callsign).length = 2 * callsign.length + 7 := by
  simp [ownMessage, packetOf, crlf, bytes]
  omega

theorem accepted_ownMessage {callsign : Bytes} (valid : ValidCallsign callsign) :
    verifyPacket (ownMessage callsign) callsign = .accepted .textMessage := by
  have typed : getPacketType (packetOf ((getPacketPrefix .textMessage ++ callsign) ::
      [callsign, []])) = .textMessage :=
    (getPacketType_hash _ _ _).trans (by decide)
  refine verifyPacket_packetOf typed (by decide) rfl (plain_ownMessage valid) ?_ ?_ ?_
  · have lower := valid.lower
    have length := length_ownMessage callsign
    unfold ownMessage at length
    exact Nat.le_trans (by omega) (Nat.le_of_eq length.symm)
  · simp
  · simp [minFields]

/-- A silent session is deaf: whatever it has in its buffer, its peer could
still end the line and send a message. -/
theorem deaf (muted : Muted P heap initial conn id) : conn.Deaf id := by
  by_contra hears
  unfold Deaf at hears
  rw [not_or, not_or, Bool.not_eq_true, Bool.not_eq_true] at hears
  rcases hears with ⟨notClosed, isOpen, notFull⟩
  rcases muted.exists_waiting notClosed isOpen notFull with ⟨waiting, waitingMuted, notShut, waits⟩
  have absent := (Scanner.next_eq_none (Option.isNone_iff_eq_none.mp waits.1)).1
  have room := Scanner.room_of_not_full waits.2.2
  let ending : Chunk := ⟨[lineFeed], List.cons_ne_nil _ _⟩
  have fits : ending.val.length ≤ (waiting.scanner id).room := room
  rcases waitingMuted.hear notShut waits fits List.mem_cons_self with
    ⟨next, _, nextMuted, nextOpen, _, _, err, length⟩
  -- The line feed has ended all that was in the buffer.
  have empty : (next.scanner id).data = [] := by
    apply List.eq_nil_of_length_eq_zero
    rw [scanLines_lineFeed absent, List.length_append] at length
    have one : ending.val.length = 1 := rfl
    omega
  have size := nextMuted.settled.length
  have ready := Scanner.waits_of_empty empty err (by omega)
  have half := Scanner.room_of_empty empty
  have valid := nextMuted.validCallsign
  rcases exists_line_packetOf (plain_ownMessage valid) with ⟨line, split, unbroken⟩
  have written : ownMessage (next.system.server.clients id).callsign = line ++ crlf := split
  let message : Chunk := ⟨ownMessage (next.system.server.clients id).callsign, by
    rw [written]
    exact List.append_ne_nil_of_right_ne_nil _ (List.cons_ne_nil _ _)⟩
  have short : message.val.length ≤ (next.scanner id).room := by
    have upper := valid.upper
    have length : message.val.length = _ := length_ownMessage _
    omega
  have present : lineFeed ∈ message.val := by
    show lineFeed ∈ ownMessage (next.system.server.clients id).callsign
    rw [written]
    simp [crlf]
  rcases nextMuted.hear nextOpen ready short present with ⟨_, said, _, _, found, silent, _, _⟩
  have same : (next.scanner id).data ++ message.val = line ++ crlf := by
    rw [empty]
    exact written
  rw [same, scanLines_crlf unbroken] at found
  rw [← Option.some.inj found, ← written, handlerOf, accepted_ownMessage valid] at silent
  cases silent

theorem exhausted (muted : Muted P heap initial conn id) : conn.Exhausted id :=
  ⟨muted.deaf, fun _ leftover => refused leftover muted rfl⟩

end Muted

/-! ## `LON_TWR` takes its leave -/

/-- What `LON_TWR` sends in one segment. -/
def parting : Bytes :=
  farewell ++ Muted.ownMessage (bytes "LON_TWR")

/-- The two turns on these lines. -/
theorem exists_parting_tokens : Exists fun token => Exists fun scanned =>
    Exists fun second => Exists fun rescanned =>
      (farewellScanner parting).next = some (token, scanned) ∧
        (appendDelimiter scanned token).1 = farewell ∧
        (appendDelimiter scanned token).2.next = some (second, rescanned) ∧
        (appendDelimiter rescanned second).1 = Muted.ownMessage (bytes "LON_TWR") := by
  have found : ((farewellScanner parting).next.bind fun first =>
      (appendDelimiter first.2 first.1).2.next.map fun second =>
        ((appendDelimiter first.2 first.1).1, (appendDelimiter second.2 second.1).1)) =
          some (farewell, Muted.ownMessage (bytes "LON_TWR")) := by
    decide +kernel
  rcases Option.bind_eq_some_iff.mp found with ⟨⟨token, scanned⟩, next, mapped⟩
  rcases Option.map_eq_some_iff.mp mapped with ⟨⟨second, rescanned⟩, nextSecond, same⟩
  have both := Prod.mk.inj same
  exact ⟨token, scanned, second, rescanned, next, both.1, nextSecond, both.2⟩

/-- The delete packet is handled, and the event loop goes on with the rest of
the buffer. -/
theorem exists_cancelled {text : Bytes} (short : text.length ≤ 4096) {token : Token}
    {scanned : Scanner} (found : (farewellScanner text).next = some (token, scanned))
    (packet : (appendDelimiter scanned token).1 = farewell) :
    Exists fun conn : Connections Real =>
      Reaches (step Symbolic.platform)
          (start (fun _ => newClient [] sampleData) (farewellScanner [])) conn ∧
        (conn.system.server.clients 1).callsign = bytes "LON_TWR" ∧
        (conn.system.server.clients 1).cancelled = true ∧ conn.stage 1 = .running ∧
        conn.scanner 1 = (appendDelimiter scanned token).2 := by
  rcases exists_audience (fun _ => newClient [] sampleData) short with
    ⟨conn, executed, _, audience⟩
  have accepted : verifyPacket farewell (conn.system.server.clients 1).callsign =
      .accepted .deleteATC := by
    rw [audience.callsign]
    decide +kernel
  have taken := step_turn (P := Symbolic.platform) 0 audience.staged audience.speaker
    (audience.scanner ▸ found)
  generalize turns : turned Symbolic.platform conn 0 1 (appendDelimiter scanned token).1
    (appendDelimiter scanned token).2 = left at taken
  have server : left.system.server = conn.system.server.handleDelete 1 farewell := by
    rw [← turns, packet]
    exact (Server.processPacket_of_accepted accepted).trans rfl
  refine ⟨left, Reaches.tail ⟨_, executed⟩ taken, ?_, ?_, ?_, ?_⟩
  · rw [server]
    exact audience.callsign
  · rw [server]
    rfl
  · rw [← turns]
    exact audience.staged
  · rw [← turns]
    exact scan_scanner_self _ 1 _

/-- A scanner that is done returns nothing more. -/
theorem not_leftover_of_done {s : Scanner} (done : s.Done) (packet : Bytes) :
    ¬ Leftover s packet := by
  intro leftover
  have nothing := Option.isNone_iff_eq_none.mp done.1
  cases leftover with
  | first _ _ _ found => cases nothing.symm.trans found
  | later _ _ _ found => cases nothing.symm.trans found
  | final _ waits =>
      rcases done.2 with failed | full
      · cases waits.2.1.symm.trans failed
      · exact waits.2.2 full

/-! ## Silence -/

/-- A cancelled session is silent if and only if its event loop is over, or
nothing more is read for it and none of the lines in its buffer is accepted. -/
theorem silent_iff (reached : Reaches (step P) (start heap initial) conn)
    (born : conn.stage id ≠ .unborn) :
    ((conn.system.server.clients id).cancelled = true -> Silent P conn id) ↔
      ((conn.system.server.clients id).cancelled = true ->
        conn.stage id ∈ [Stage.greeting, .running] -> conn.Exhausted id) := by
  have seated := seated_of_reaches reached
  have below : id < conn.system.allocated := by
    by_contra above
    exact born (seated.unborn id (Nat.le_of_not_lt above))
  constructor
  · intro quiet cancelled staged
    have silent := quiet cancelled
    rcases List.mem_cons.mp staged with greeting | running
    · have registered := seated.registered id (by rw [greeting]; decide)
      rcases exists_announced (P := P) greeting registered with
        ⟨next, taken, system, running, scanner⟩
      have muted : Muted P heap initial next id :=
        ⟨reached.tail taken, running, silent.step taken⟩
      have closed : next.closed = conn.closed := by
        cases stepped_of_step taken <;> rfl
      refine muted.exhausted.unchanged (congrFun scanner id).symm ?_ ?_
      · rw [closed]
        exact fun shut => shut
      · rw [system]
        rfl
    · have muted : Muted P heap initial conn id := ⟨reached, List.mem_singleton.mp running, silent⟩
      exact muted.exhausted
  · intro fine cancelled
    by_cases staged : conn.stage id ∈ [Stage.greeting, .running]
    · exact silent_of_exhausted (Or.inr (fine cancelled staged)) below
    · apply silent_of_exhausted (Or.inl ?_) below
      unfold Over
      revert staged born
      generalize conn.stage id = stage
      cases stage <;> simp

/-- With nothing behind the delete packet the session is silent, and with a
text message behind it it is not. -/
theorem silent_iff_tower :
    (Exists fun conn : Connections Real =>
      (conn.system.server.clients 1).callsign = bytes "LON_TWR" ∧
        (conn.system.server.clients 1).cancelled = true ∧ conn.stage 1 = .running ∧
        Silent Symbolic.platform conn 1) ∧
    Exists fun conn : Connections Real =>
      (conn.system.server.clients 1).callsign = bytes "LON_TWR" ∧
        (conn.system.server.clients 1).cancelled = true ∧ conn.stage 1 = .running ∧
        ¬ Silent Symbolic.platform conn 1 := by
  constructor
  · rcases exists_farewell_token with ⟨token, scanned, found, packet, done⟩
    rcases exists_cancelled (by decide) found packet with
      ⟨conn, reached, callsign, cancelled, staged, scanner⟩
    have born : conn.stage 1 ≠ .unborn := by
      rw [staged]
      decide
    have exhausted : conn.Exhausted 1 := by
      constructor
      · exact Or.inr (Or.inr (scanner ▸ done))
      · intro packet leftover
        exact absurd leftover (not_leftover_of_done (scanner ▸ done) packet)
    exact ⟨conn, callsign, cancelled, staged,
      (silent_iff reached born).mpr (fun _ _ => exhausted) cancelled⟩
  · rcases exists_parting_tokens with
      ⟨token, scanned, second, rescanned, found, packet, later, said⟩
    rcases exists_cancelled (by decide) found packet with
      ⟨conn, reached, callsign, cancelled, staged, scanner⟩
    have born : conn.stage 1 ≠ .unborn := by
      rw [staged]
      decide
    refine ⟨conn, callsign, cancelled, staged, ?_⟩
    intro silent
    have exhausted := (silent_iff reached born).mp (fun _ => silent) cancelled
      (staged ▸ List.mem_cons_of_mem _ List.mem_cons_self)
    have refused := exhausted.refused _ (.first _ second rescanned (scanner ▸ later))
    have valid : ValidCallsign (bytes "LON_TWR") := validCallsign_iff.mp (by decide)
    rw [said, callsign, handlerOf, Muted.accepted_ownMessage valid] at refused
    cases refused

/-- The text message that follows a delete packet in the buffer is handled. -/
theorem cancelled_not_silent : ¬ forall (heap : SessionId -> Client Real) (initial : Scanner)
    (conn : Connections Real) (id : SessionId),
      Reaches (step Symbolic.platform) (start heap initial) conn -> conn.stage id ≠ .unborn ->
      (conn.system.server.clients id).cancelled = true -> Silent Symbolic.platform conn id := by
  intro always
  rcases exists_parting_tokens with ⟨token, scanned, second, rescanned, found, packet, later, said⟩
  rcases exists_cancelled (by decide) found packet with
    ⟨conn, reached, callsign, cancelled, staged, scanner⟩
  have silent := always _ _ conn 1 reached (by rw [staged]; decide) cancelled
  have refused := (Muted.turn ⟨reached, staged, silent⟩ (scanner ▸ later)).1
  have valid : ValidCallsign (bytes "LON_TWR") := validCallsign_iff.mp (by decide)
  rw [said, callsign, handlerOf, Muted.accepted_ownMessage valid] at refused
  cases refused

end Connections
end Fsd
end OpenFsd
