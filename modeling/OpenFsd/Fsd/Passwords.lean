import OpenFsd.Fsd.AddPackets
import OpenFsd.Fsd.EventLoop
import OpenFsd.Go.Saturation

namespace OpenFsd
namespace Fsd

open Buffer Db

/-!
# A password on the wire

The repositories refuse a password with a colon, which would end its field.
They know nothing of the other two things that can happen to it on its way
from the add packet to the stored hash: the scanner ends a line at a line
feed, and a token that looks like a JWT is not compared with the hash at all.
-/

/-! ## Reading the two lines off the connection -/

/-- `Scan`, and a copy of `Bytes` if it has answered `true`. -/
def scanCopy (scanner : Scanner) : Option Bytes × Scanner :=
  match scanner.scan with
  | (none, scanned) => (none, scanned)
  | (some token, scanned) =>
      (some (slice scanned.buf token.offset (token.offset + token.length)), scanned)

/-- `readLoginPackets`, with the scanner that `handleConn` makes.  If the first
scan fails, the outcome of the second one does not matter. -/
def readLogin (now : Time) (reads : List Chunk) : LoginResult (LoginData × Bytes) :=
  let (idLine, middle) := scanCopy (Scanner.new 4096 reads)
  let (addLine, _) := scanCopy middle
  readLoginPackets now idLine addLine

/-- The scanner copies a line that fits its buffer, whatever the reads. -/
theorem scanCopy_append {scanner : Scanner} (isOpen : scanner.Open) {line rest : Bytes}
    (absent : lineFeed ∉ line) (remaining : scanner.remaining = line ++ lineFeed :: rest)
    (fits : line.length < scanner.buf.length) :
    Exists fun scanned => scanCopy scanner = (some (dropCR line), scanned) ∧ scanned.Open ∧
      scanned.remaining = rest ∧ scanned.buf.length = scanner.buf.length := by
  have present : lineFeed ∈ scanner.remaining := by
    rw [remaining]
    exact List.mem_append_right line List.mem_cons_self
  have first : firstLine scanner.remaining = line := by
    rw [remaining, firstLine_append_of_not_mem absent]
    exact List.append_nil line
  have lined := scanLines_of_mem present true
  rw [first] at lined
  have result := Scanner.scan_eq isOpen (show (firstLine scanner.remaining).length < _ by rwa [first])
  unfold Scanner.ScanResult at result
  rw [lined] at result
  rcases result with ⟨offset, scanned, scan, outcome⟩
  have found : (scanLines scanner.remaining true).2 = some (dropCR line) := by rw [lined]
  have whole : Scanner.Scanned scanner offset (scanLines scanner.remaining true).1 scanned := by
    rw [lined]
    exact outcome
  refine ⟨scanned, ?_, outcome.isOpen, ?_, outcome.length⟩
  · unfold scanCopy
    rw [scan]
    dsimp only
    rw [(slice_of_scanned found whole).1]
  · rw [outcome.rest, remaining]
    exact drop_line line rest

theorem dropCR_append_cr (line : Bytes) : dropCR (line ++ [carriageReturn]) = line := by
  unfold dropCR
  rw [if_pos List.getLast?_concat, List.dropLast_concat]

/-- The identification is read as it was sent, and of the rest the first line. -/
theorem readLogin_eq {now : Time} {reads : List Chunk} {ident line rest : Bytes}
    (sent : (reads.flatMap fun chunk => chunk.val) = ident ++ crlf ++ (line ++ lineFeed :: rest))
    (absentIdent : lineFeed ∉ ident) (absentLine : lineFeed ∉ line)
    (fitsIdent : (ident ++ crlf).length ≤ 4096) (fitsLine : line.length < 4096) :
    readLogin now reads = readLoginPackets now (some ident) (some (dropCR line)) := by
  have size : (Scanner.new 4096 reads).buf.length = 4096 := List.length_replicate
  have absent : lineFeed ∉ ident ++ [carriageReturn] := by
    intro member
    rcases List.mem_append.mp member with inIdent | inEnd
    · exact absentIdent inIdent
    · exact absurd inEnd (by decide)
  have remaining : (Scanner.new 4096 reads).remaining =
      (ident ++ [carriageReturn]) ++ lineFeed :: (line ++ lineFeed :: rest) := by
    show slice _ 0 0 ++ _ = _
    rw [Scanner.unread, show (Scanner.new 4096 reads).reads = reads from rfl, sent]
    simp [slice, crlf]
  have fits : (ident ++ [carriageReturn]).length < (Scanner.new 4096 reads).buf.length := by
    rw [size]
    simp only [List.length_append, crlf, List.length_cons, List.length_nil] at fitsIdent ⊢
    omega
  rcases scanCopy_append (fun failed => by cases failed) absent remaining fits with
    ⟨middle, first, isOpen, left, length⟩
  rw [size] at length
  rcases scanCopy_append isOpen absentLine left (by rw [length]; exact fitsLine) with
    ⟨scanned, second, _⟩
  unfold readLogin
  rw [first]
  dsimp only
  rw [second, dropCR_append_cr]

/-! ## The add packet -/

/-- The fields of an add packet but for the token, as the client writes them. -/
structure AddPacket where
  isAtc : Bool
  callsign : Bytes
  recipient : Bytes
  realName : Bytes
  cid : Bytes
  networkRating : Bytes
  protoRevision : Bytes
  simType : Bytes

namespace AddPacket

/-- The fields before the token. -/
def initial (add : AddPacket) : List Bytes :=
  if add.isAtc then
    [addPrefix add.isAtc ++ add.callsign, add.recipient, add.realName, add.cid]
  else [addPrefix add.isAtc ++ add.callsign, add.recipient, add.cid]

/-- The fields behind the token. -/
def final (add : AddPacket) : List Bytes :=
  if add.isAtc then [add.networkRating, add.protoRevision]
  else [add.networkRating, add.protoRevision, add.simType, add.realName]

def fields (add : AddPacket) (token : Bytes) : List Bytes :=
  add.initial ++ token :: add.final

/-- But for its token, the add packet passes every check of the parser, and
its callsign that of `handleConn`. -/
structure Valid (add : AddPacket) (cid : Int) : Prop where
  plain : forall field, field ∈ add.initial ++ add.final -> PlainField field
  callsign : isValidClientCallsign add.callsign = true
  cid : atoi add.cid = ⟨cid, none⟩
  networkRating : Exists fun rating => atoi add.networkRating = ⟨rating, none⟩
  protoRevision : Exists fun revision => atoi add.protoRevision = ⟨revision, none⟩ ∧
    100 ≤ revision ∧ revision ≤ 101

variable {add : AddPacket} {cid : Int}

theorem Valid.plain_fields (valid : add.Valid cid) {token : Bytes} (plain : PlainField token)
    (field : Bytes) (member : field ∈ add.fields token) : PlainField field := by
  unfold fields at member
  rcases List.mem_append.mp member with before | behind
  · exact valid.plain field (List.mem_append_left _ before)
  · rcases List.mem_cons.mp behind with own | behind
    · rw [own]
      exact plain
    · exact valid.plain field (List.mem_append_right _ behind)

theorem getElem_fields (add : AddPacket) (token : Bytes) :
    (add.fields token)[0]? = some (addPrefix add.isAtc ++ add.callsign) ∧
    (add.fields token)[if add.isAtc then 2 else 7]? = some add.realName ∧
    (add.fields token)[if add.isAtc then 3 else 2]? = some add.cid ∧
    (add.fields token)[if add.isAtc then 4 else 3]? = some token ∧
    (add.fields token)[if add.isAtc then 5 else 4]? = some add.networkRating ∧
    (add.fields token)[if add.isAtc then 6 else 5]? = some add.protoRevision := by
  unfold fields initial final
  cases add.isAtc with
  | true => exact ⟨rfl, rfl, rfl, rfl, rfl, rfl⟩
  | false => exact ⟨rfl, rfl, rfl, rfl, rfl, rfl⟩

theorem take_packetOf (add : AddPacket) (token : Bytes) :
    (packetOf (add.fields token)).take 3 = addPrefix add.isAtc := by
  unfold fields initial addPrefix
  cases add.isAtc with
  | true => rfl
  | false => rfl

theorem countFields_packetOf_fields (valid : add.Valid cid) {token : Bytes}
    (plain : PlainField token) :
    countFields (packetOf (add.fields token)) = if add.isAtc then 7 else 8 := by
  have plainFields := valid.plain_fields plain
  unfold fields initial final at plainFields ⊢
  cases isAtc : add.isAtc with
  | true =>
      simp only [isAtc, if_true] at plainFields ⊢
      exact countFields_packetOf plainFields
  | false =>
      simp only [isAtc, Bool.false_eq_true, if_false] at plainFields ⊢
      exact countFields_packetOf plainFields

/-- The fields that the parser asks for make a line that is long enough. -/
theorem Valid.length_packetOf (valid : add.Valid cid) (token : Bytes) :
    18 ≤ (packetOf (add.fields token)).length := by
  have atc : (bytes "#AA").length = 3 := rfl
  have pilot : (bytes "#AP").length = 3 := rfl
  have ending : crlf.length = 2 := rfl
  have callsign := (validCallsign_iff.mp valid.callsign).lower
  have someText : forall {text : Bytes} {number : Int}, atoi text = ⟨number, none⟩ ->
      0 < text.length := by
    intro text number read
    cases text with
    | nil => cases read
    | cons head rest => exact Nat.succ_pos _
  rcases valid.networkRating with ⟨rating, rated⟩
  rcases valid.protoRevision with ⟨revision, revised, supported, _⟩
  have cid := someText valid.cid
  have networkRating := someText rated
  have protoRevision : 3 ≤ add.protoRevision.length := by
    have below := atoi_lt add.protoRevision
    rw [revised] at below
    by_contra short
    have small : (10 : Int) ^ add.protoRevision.length ≤ 10 ^ 2 :=
      pow_le_pow_right₀ (by decide) (by omega)
    dsimp only at below
    omega
  unfold fields initial final addPrefix
  cases add.isAtc with
  | true =>
      simp only [if_true, packetOf, List.cons_append, List.nil_append, List.length_append,
        List.length_cons, atc, ending]
      omega
  | false =>
      simp only [Bool.false_eq_true, if_false, packetOf, List.cons_append, List.nil_append,
        List.length_append, List.length_cons, pilot, ending]
      omega

end AddPacket

/-- The login data of an add packet. -/
def AddPacket.data (add : AddPacket) (challenge : Bytes × UInt16) (now : Time) : LoginData where
  clientChallenge := challenge.1
  callsign := add.callsign
  cid := (atoi add.cid).value
  realName := add.realName
  networkRating := (atoi add.networkRating).value
  maxNetworkRating := 0
  protoRevision := (atoi add.protoRevision).value
  loginTime := now
  clientId := challenge.2
  isAtc := add.isAtc

/-- A token without a separator is read as it stands. -/
theorem AddPacket.Valid.addRead {add : AddPacket} {cid : Int} (valid : add.Valid cid)
    {token line : Bytes} (plain : PlainField token)
    (written : packetOf (add.fields token) = line ++ crlf) (absent : lineFeed ∉ line)
    (challenge : Bytes × UInt16) (now : Time) : AddRead line (add.data challenge now) token := by
  rcases valid.networkRating with ⟨rating, readRating⟩
  rcases valid.protoRevision with ⟨revision, readRevision, supported⟩
  have count := AddPacket.countFields_packetOf_fields valid plain
  have long := valid.length_packetOf token
  refine addRead_of_written (valid.plain_fields plain) written absent long
    (add.take_packetOf token) count (add.getElem_fields token) ?_ ?_ ?_ ?_
  · rw [AddPacket.data, valid.cid]
  · rw [AddPacket.data, readRating]
  · rw [AddPacket.data, readRevision]
  · rw [AddPacket.data, readRevision]
    exact supported

/-! ## A token with a line feed -/

theorem packetOf_cons (first : Bytes) {rest : List Bytes} (more : rest ≠ []) :
    packetOf (first :: rest) = first ++ colon :: packetOf rest := by
  cases rest with
  | nil => exact absurd rfl more
  | cons next others => rfl

/-- The fields in front of one of them, each with its separator. -/
theorem exists_packetOf_append (initial : List Bytes) (field : Bytes) (final : List Bytes) :
    Exists fun rest => packetOf (initial ++ field :: final) =
      (initial.flatMap fun before => before ++ [colon]) ++ (field ++ rest) := by
  induction initial with
  | nil =>
      cases final with
      | nil => exact ⟨crlf, rfl⟩
      | cons next others => exact ⟨colon :: packetOf (next :: others), rfl⟩
  | cons first others inductionHypothesis =>
      rcases inductionHypothesis with ⟨rest, same⟩
      refine ⟨rest, ?_⟩
      rw [List.cons_append, packetOf_cons first (by simp), same]
      simp

theorem count_separators {initial : List Bytes}
    (plain : forall field, field ∈ initial -> PlainField field) :
    (initial.flatMap fun before => before ++ [colon]).count colon = initial.length := by
  induction initial with
  | nil => rfl
  | cons first others inductionHypothesis =>
      rcases List.forall_mem_cons.mp plain with ⟨plainFirst, plainOthers⟩
      simp [inductionHypothesis plainOthers, List.count_eq_zero_of_not_mem plainFirst.1]

theorem lineFeed_not_mem_separated {initial : List Bytes}
    (plain : forall field, field ∈ initial -> PlainField field) :
    lineFeed ∉ initial.flatMap fun before => before ++ [colon] := by
  intro member
  rcases List.mem_flatMap.mp member with ⟨field, listed, inField⟩
  rcases List.mem_append.mp inField with own | separator
  · exact (plain field listed).2 own
  · exact absurd separator (by decide)

/-- Reading the stream of a client whose token has a line feed, the parser
finds too few fields. -/
theorem readLogin_ne_ok {add : AddPacket} {cid : Int} (valid : add.Valid cid) {token : Bytes}
    (noColon : colon ∉ token) (broken : lineFeed ∈ token) {now : Time} {reads : List Chunk}
    {ident rest : Bytes}
    (sent : (reads.flatMap fun chunk => chunk.val) =
      ident ++ crlf ++ (packetOf (add.fields token) ++ rest))
    (absent : lineFeed ∉ ident) (fitsIdent : (ident ++ crlf).length ≤ 4096)
    (fits : (packetOf (add.fields token)).length ≤ 4096) (data : LoginData) (read : Bytes) :
    readLogin now reads ≠ .ok (data, read) := by
  rcases List.eq_append_cons_of_mem broken with ⟨first, second, split, absentFirst⟩
  rcases exists_packetOf_append add.initial token add.final with ⟨behind, written⟩
  have plain : forall field, field ∈ add.initial -> PlainField field :=
    fun field member => valid.plain field (List.mem_append_left _ member)
  generalize before : (add.initial.flatMap fun field => field ++ [colon]) = initial at written
  have separators : initial.count colon = add.initial.length := before ▸ count_separators plain
  have absentInitial : lineFeed ∉ initial := before ▸ lineFeed_not_mem_separated plain
  have whole : packetOf (add.fields token) = (initial ++ first) ++ lineFeed :: (second ++ behind) := by
    unfold AddPacket.fields
    rw [written, split]
    simp
  have absentLine : lineFeed ∉ initial ++ first := by
    intro member
    rcases List.mem_append.mp member with inInitial | inFirst
    · exact absentInitial inInitial
    · exact absentFirst inFirst
  rw [whole] at sent fits
  have short : (initial ++ first).length < 4096 := by
    simp only [List.length_append, List.length_cons] at fits ⊢
    omega
  have framed : (reads.flatMap fun chunk => chunk.val) =
      ident ++ crlf ++ ((initial ++ first) ++ lineFeed :: (second ++ behind ++ rest)) := by
    rw [sent]
    simp
  rw [readLogin_eq framed absent absentLine fitsIdent short]
  intro done
  rcases readLoginPackets_eq_ok_iff.mp done with ⟨_, _, addRead, _⟩
  have colons : (initial ++ first).count colon = add.initial.length := by
    have none : colon ∉ first := fun member => noColon (split ▸ List.mem_append_left _ member)
    rw [List.count_append, separators, List.count_eq_zero_of_not_mem none, Nat.add_zero]
  have fewer : (dropCR (initial ++ first)).count colon ≤ add.initial.length := by
    rw [← colons, dropCR_eq_take]
    exact (List.take_sublist _ _).count_le colon
  have few : add.initial.length ≤ 4 := by
    unfold AddPacket.initial
    cases add.isAtc <;> simp
  have count := addRead.count
  unfold countFields countByte at count
  split at count <;> omega

/-! ## The password that is stored -/

/-- A hash verifies the password that it was made from. -/
def HashVerifies (P : Platform) : Prop :=
  forall salt password hash, P.generateFromPassword salt password = some hash ->
    P.compareHashAndPassword hash password = true

/-- `CreateUser` or `UpdateUser` has accepted a password, which is not empty
for the latter, and has stored it. -/
inductive SetPassword (P : Platform) : Int -> Bytes -> Database -> Prop
  | created (driver : Driver) {before written : Database} {fails : Bool} {salt : Bytes}
      {user created : User}
      (done : driver.createUser P before fails salt user = .ok (created, written)) :
      SetPassword P created.cid user.password written
  | updated {before written : Database} {fails : Bool} {salt : Bytes} {user : User}
      (nonempty : user.password ≠ [])
      (done : before.updateUser P fails salt user = .ok written) :
      SetPassword P user.cid user.password written

/-- The hash that is stored for a user. -/
def passwordColumn (database : Database) (cid : Int) : Option Bytes :=
  (database.users.rows.lookup cid).map fun row => row.password

theorem colon_not_mem_of_created {driver : Driver} {P : Platform} {before written : Database}
    {fails : Bool} {salt : Bytes} {user created : User}
    (done : driver.createUser P before fails salt user = .ok (created, written)) :
    colon ∉ user.password := by
  have refused : forall placeholders, user.password.contains colon = true ->
      before.createUserWith placeholders P fails salt user = .error .failed := by
    intro placeholders present
    unfold Database.createUserWith
    rw [if_pos present]
  intro member
  have present : user.password.contains colon = true := List.contains_iff_mem.mpr member
  cases driver with
  | sqlite => cases (refused 4 present).symm.trans done
  | postgres => cases (refused 5 present).symm.trans done

/-- The repositories store a hash of the password, and take none with a colon. -/
theorem SetPassword.hashed {P : Platform} {cid : Int} {password : Bytes} {written : Database}
    (set : SetPassword P cid password written) :
    colon ∉ password ∧ Exists fun salt => Exists fun hash =>
      P.generateFromPassword salt password = some hash ∧ passwordColumn written cid = some hash := by
  cases set with
  | created driver done =>
      rcases Driver.createUser_eq_ok done with ⟨_, identified, hash, generated, stored⟩
      refine ⟨colon_not_mem_of_created done, _, hash, generated, ?_⟩
      unfold passwordColumn
      rw [identified, stored]
      dsimp only
      rw [UserTable.lookup_insertRow, if_pos rfl]
      rfl
  | updated nonempty done =>
      rcases Database.updateUser_eq_ok done with ⟨_, column, _, _, stored, kept | ⟨_, generated⟩⟩
      · exact absurd kept.1 nonempty
      · refine ⟨?_, _, column, generated, ?_⟩
        · rcases Database.updateUser_hashable done with empty | ⟨absent, _⟩
          · exact absurd empty nonempty
          · intro member
            rw [List.contains_iff_mem.mpr member] at absent
            cases absent
        · unfold passwordColumn
          rw [stored, if_pos rfl]
          rfl

/-! ## Authentication -/

section Authentication

variable {F : Type}

/-- The token is taken for a plaintext password, and the stored hash of the
user verifies it.  What is left of `attemptAuthentication` are the checks of
the client software and of the rating. -/
structure VerifiesPassword (P : Platform) (env : LoginEnv) (database : Database) (client : Client F)
    (token : Bytes) : Prop where
  plaintext : mostLikelyJwt P token = false
  verified : Exists fun user => database.getUserByCID env.getUserFails client.cid = .ok user ∧
    verifyPasswordHash P token user.password = true ∧
    attemptAuthentication P env database client token = (do
      let challenged ← initializeChallenge P client
      checkRating challenged.networkRating user.networkRating
      .ok { challenged with maxNetworkRating := user.networkRating })

theorem cid_initializeChallenge {P : Platform} {client challenged : Client F}
    (done : initializeChallenge P client = .ok challenged) : challenged.cid = client.cid := by
  unfold initializeChallenge at done
  split at done
  · rw [← Except.ok.inj done]
  · split at done
    · exact absurd done refuse_ne_ok
    · rw [← Except.ok.inj done]

theorem verifiesPassword_of_stored {P : Platform} (verifies : HashVerifies P) {env : LoginEnv}
    (readable : env.getUserFails = false) {database : Database} {client : Client F}
    {password salt hash : Bytes} (generated : P.generateFromPassword salt password = some hash)
    (stored : passwordColumn database client.cid = some hash)
    (plaintext : mostLikelyJwt P password = false) :
    VerifiesPassword P env database client password where
  plaintext := plaintext
  verified := by
    rcases Option.map_eq_some_iff.mp stored with ⟨row, found, same⟩
    have read : forall cid, cid = client.cid ->
        database.getUserByCID env.getUserFails cid = .ok (userOf client.cid row) := by
      intro cid own
      rw [own, readable]
      unfold Database.getUserByCID
      rw [if_neg Bool.false_ne_true, found]
    have matching : verifyPasswordHash P password (userOf client.cid row).password = true := by
      show P.compareHashAndPassword row.password password = true
      rw [same]
      exact verifies salt password hash generated
    refine ⟨_, read client.cid rfl, matching, ?_⟩
    unfold attemptAuthentication
    cases initialized : initializeChallenge P client with
    | error sent => rfl
    | ok challenged =>
        have branch : authenticate P env database challenged password =
            (do
              checkRating challenged.networkRating (userOf client.cid row).networkRating
              .ok (userOf client.cid row).networkRating) := by
          unfold authenticate authenticatePassword
          rw [plaintext, if_neg Bool.false_ne_true,
            read challenged.cid (cid_initializeChallenge initialized)]
          dsimp only
          rw [matching]
          rfl
        show (authenticate P env database challenged password >>= _) =
          (checkRating challenged.networkRating (userOf client.cid row).networkRating >>= _)
        rw [branch]
        cases checkRating challenged.networkRating (userOf client.cid row).networkRating with
        | error sent => rfl
        | ok _ => rfl

variable [GoFloat F]

/-- The login data of the lines, with the password as the token, and the check
of the password. -/
def LogsInWith (P : Platform) (env : LoginEnv) (database : Database) (reads : List Chunk)
    (password : Bytes) : Prop :=
  Exists fun data => readLogin env.now reads = .ok (data, password) ∧
    VerifiesPassword P env database (newClient env.remoteAddr data env.takesDone : Client F) password

/-- A stored password can be used to log in exactly if it has no line feed and
does not look like a JWT. -/
theorem password_logs_in_iff {P : Platform} (verifies : HashVerifies P) {cid : Int}
    {password : Bytes} {written database : Database} (set : SetPassword P cid password written)
    (kept : passwordColumn database cid = passwordColumn written cid) {add : AddPacket}
    (valid : add.Valid cid) {reads : List Chunk} {ident rest : Bytes} {challenge : Bytes × UInt16}
    (sent : (reads.flatMap fun chunk => chunk.val) =
      ident ++ crlf ++ (packetOf (add.fields password) ++ rest))
    (absent : lineFeed ∉ ident) (identified : readChallenge ident = .ok challenge)
    (fitsIdent : (ident ++ crlf).length ≤ 4096)
    (fits : (packetOf (add.fields password)).length ≤ 4096) {env : LoginEnv}
    (readable : env.getUserFails = false) :
    LogsInWith (F := F) P env database reads password ↔
      lineFeed ∉ password ∧ mostLikelyJwt P password = false := by
  rcases set.hashed with ⟨noColon, salt, hash, generated, stored⟩
  constructor
  · rintro ⟨data, read, verified⟩
    refine ⟨?_, verified.plaintext⟩
    intro broken
    exact readLogin_ne_ok valid noColon broken sent absent fitsIdent fits data password read
  · rintro ⟨unbroken, plaintext⟩
    rcases exists_line_packetOf (valid.plain_fields ⟨noColon, unbroken⟩) with
      ⟨line, written, absentLine⟩
    have addRead := valid.addRead ⟨noColon, unbroken⟩ written absentLine challenge env.now
    rw [written] at sent fits
    have framed : (reads.flatMap fun chunk => chunk.val) =
        ident ++ crlf ++ ((line ++ [carriageReturn]) ++ lineFeed :: rest) := by
      rw [sent]
      simp [crlf]
    have whole : lineFeed ∉ line ++ [carriageReturn] := by
      intro member
      rcases List.mem_append.mp member with inLine | inEnd
      · exact absentLine inLine
      · exact absurd inEnd (by decide)
    have short : (line ++ [carriageReturn]).length < 4096 := by
      simp only [List.length_append, crlf, List.length_cons, List.length_nil] at fits ⊢
      omega
    refine ⟨add.data challenge env.now, ?_, ?_⟩
    · rw [readLogin_eq framed absent whole fitsIdent short, dropCR_append_cr]
      exact readLoginPackets_eq_ok_iff.mpr
        ⟨challenge, identified, addRead, rfl, rfl, rfl, rfl⟩
    · apply verifiesPassword_of_stored verifies readable generated _ plaintext
      show passwordColumn database (atoi add.cid).value = some hash
      rw [valid.cid]
      exact kept.trans stored

end Authentication

/-! ## Two passwords -/

theorem hashVerifies_platform : HashVerifies Symbolic.platform := fun salt password hash generated =>
  (Symbolic.platform_idealHashing salt password hash generated password).mpr rfl

/-- A password of at most 72 bytes is stored for a new user. -/
theorem exists_setPassword {password : Bytes} (noColon : colon ∉ password)
    (short : password.length ≤ 72) :
    Exists fun written => SetPassword Symbolic.platform 2 password written := by
  let user : User := ⟨0, password, none, none, 1⟩
  have allowed : ¬ user.password.contains colon = true :=
    fun present => noColon (List.contains_iff_mem.mp present)
  have generated : Symbolic.platform.generateFromPassword [] user.password =
      some (pack [[], password]) := if_neg (Nat.not_lt_of_le short)
  have done : Driver.sqlite.createUser Symbolic.platform Symbolic.database false [] user =
      .ok ({ user with cid := 2 }, { Symbolic.database with
        users := Symbolic.database.users.insertRow
          (UserTable.rowOf user (pack [[], password])) }) := by
    show Database.createUserWith 4 Symbolic.platform Symbolic.database false [] user = _
    unfold Database.createUserWith
    rw [if_neg allowed, generated]
    rfl
  exact ⟨_, SetPassword.created .sqlite done⟩

/-- The new user logs in as an observer. -/
def observer : AddPacket :=
  ⟨true, bytes "LON_OBS", bytes "SERVER", bytes "Name", bytes "2", bytes "1", bytes "100", []⟩

theorem valid_observer : observer.Valid 2 where
  plain := by decide
  callsign := by decide
  cid := by decide
  networkRating := ⟨1, by decide⟩
  protoRevision := ⟨100, by decide⟩

def observerIdent : Bytes := bytes "$IDLON_OBS:SERVER:88e4:client"

/-- Both lines arrive in one read. -/
def observerReads (password : Bytes) : List Chunk :=
  [⟨observerIdent ++ crlf ++ (packetOf (observer.fields password) ++ []),
    List.append_ne_nil_of_left_ne_nil (by decide) _⟩]

theorem password_logs_in_iff_horse : Exists fun database =>
    LogsInWith (F := Real) Symbolic.platform sampleLogin database (observerReads (bytes "horse"))
        (bytes "horse") ↔
      lineFeed ∉ bytes "horse" ∧ mostLikelyJwt Symbolic.platform (bytes "horse") = false := by
  have noColon : colon ∉ bytes "horse" := by decide
  rcases exists_setPassword noColon (by decide) with ⟨written, set⟩
  exact ⟨written, password_logs_in_iff hashVerifies_platform set rfl valid_observer
    (List.flatMap_singleton _ _) (by decide) (show readChallenge observerIdent = .ok ([], 0) from rfl)
    (by decide) (by decide) rfl⟩

/-- A password of two lines is accepted and stored, and never read again. -/
theorem two_line_password_is_refused : ¬ forall (P : Platform), HashVerifies P ->
    forall (cid : Int) (password : Bytes) (written database : Database),
      SetPassword P cid password written ->
      passwordColumn database cid = passwordColumn written cid ->
      forall add : AddPacket, add.Valid cid ->
      forall (reads : List Chunk) (ident rest : Bytes) (challenge : Bytes × UInt16),
        (reads.flatMap fun chunk => chunk.val) =
          ident ++ crlf ++ (packetOf (add.fields password) ++ rest) ->
        lineFeed ∉ ident -> readChallenge ident = .ok challenge ->
        (ident ++ crlf).length ≤ 4096 -> (packetOf (add.fields password)).length ≤ 4096 ->
        forall env : LoginEnv, env.getUserFails = false ->
          LogsInWith (F := Real) P env database reads password := by
  intro always
  let password := bytes "horse" ++ [lineFeed] ++ bytes "staple"
  have noColon : colon ∉ password := by decide
  have broken : lineFeed ∈ password := by decide
  have sent : ((observerReads password).flatMap fun chunk => chunk.val) =
      observerIdent ++ crlf ++ (packetOf (observer.fields password) ++ []) :=
    List.flatMap_singleton _ _
  have fits : (packetOf (observer.fields password)).length ≤ 4096 := by decide
  rcases exists_setPassword noColon (by decide) with ⟨written, set⟩
  rcases always _ hashVerifies_platform 2 password written written set rfl observer valid_observer
    (observerReads password) observerIdent [] ([], 0) sent (by decide) rfl (by decide) fits
    sampleLogin rfl with ⟨data, read, _⟩
  exact readLogin_ne_ok valid_observer noColon broken sent (by decide) (by decide) fits data
    password read

end Fsd
end OpenFsd
