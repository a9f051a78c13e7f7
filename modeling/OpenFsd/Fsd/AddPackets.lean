import OpenFsd.Fsd.SingleLine
import OpenFsd.Fsd.Callsigns
import OpenFsd.Fsd.Pieces

namespace OpenFsd
namespace Fsd

open Db

/-!
# The announcement of a login

When a client has logged in, the others are sent an add packet in its name.
It has the layout of the packet that the client sent itself, with the token
left out, so the parser of the login reads the same data off it.  The numbers
may be spelled differently: they are written anew from the values that were
read.
-/

/-! ## Fields without their delimiter -/

theorem countFields_crlf (line : Bytes) : countFields (line ++ crlf) = countFields line := by
  have none : List.count colon crlf = 0 := by decide
  unfold countFields countByte
  rw [List.count_append, none, Nat.add_zero]

/-- A line has the same fields with and without its delimiter. -/
theorem getField_crlf {line : Bytes} (absent : lineFeed ∉ line) (index : Nat) :
    getField (line ++ crlf) index = getField line index := by
  induction line using pieces_induction generalizing index with
  | last piece single =>
      rw [getField_of_not_mem (colon_not_mem_append_crlf single), getField_of_not_mem single,
        cutSuffix_append, cutSuffix_of_not_mem absent]
  | cons piece rest plain inductionHypothesis =>
      rw [List.append_assoc, List.cons_append]
      cases index with
      | zero => rw [getField_zero_append plain, getField_zero_append plain]
      | succ index =>
          rw [getField_succ_append plain, getField_succ_append plain]
          apply inductionHypothesis
          intro member
          exact absent (List.mem_append_right piece (List.mem_cons_of_mem colon member))

/-- A field has no separator. -/
theorem colon_not_mem_getField (packet : Bytes) (index : Nat) : colon ∉ getField packet index := by
  intro member
  unfold getField at member
  have cut := cutSuffix_subset _ crlf member
  by_cases separated : colon ∈ rebaseFields index packet
  · rcases List.eq_append_cons_of_mem separated with ⟨first, rest, split, absentFirst⟩
    have present : ¬ (first.length : Int) = -1 := by omega
    rw [split, indexByte_append_cons absentFirst, if_pos present, Int.toNat_natCast,
      List.take_left] at cut
    exact absentFirst cut
  · have absentPosition : ¬ ¬ (-1 : Int) = -1 := by omega
    rw [indexByte_of_not_mem separated, if_neg absentPosition] at cut
    exact separated cut

/-- The fields of a received line can be put into a packet again. -/
theorem plainField_getField {line : Bytes} (absent : lineFeed ∉ line) (index : Nat) :
    PlainField (getField line index) :=
  ⟨colon_not_mem_getField line index, fun member => absent (getField_subset line index member)⟩

theorem plainField_itoa (number : Int) : PlainField (itoa number) := by
  have absent : colon ∉ digits number.natAbs := by
    intro member
    have code : colon.toNat = 58 := rfl
    have range := isDigit_of_mem_digits member
    omega
  have sign : colon ≠ byte '-' := by decide
  refine ⟨?_, lineFeed_not_mem_itoa number⟩
  unfold itoa
  split
  · exact List.not_mem_cons_of_ne_of_not_mem sign absent
  · exact absent

/-! ## The announcement -/

/-- The fields of an add packet, with an empty token. -/
def addFields (data : LoginData) : List Bytes :=
  if data.isAtc then
    [bytes "#AA" ++ data.callsign, bytes "SERVER", data.realName, itoa data.cid, [],
      itoa data.networkRating, itoa data.protoRevision]
  else
    [bytes "#AP" ++ data.callsign, bytes "SERVER", itoa data.cid, [], itoa data.networkRating,
      itoa data.protoRevision, bytes "1", data.realName]

theorem addPacket_eq_packetOf {F : Type} (client : Client F) :
    Server.addPacket client = packetOf (addFields client.toLoginData) := by
  have server : bytes ":SERVER:" = colon :: (bytes "SERVER" ++ [colon]) := rfl
  have empty : bytes "::" = [colon, colon] := rfl
  have one : bytes ":1:" = colon :: (bytes "1" ++ [colon]) := rfl
  unfold Server.addPacket addFields
  cases client.isAtc with
  | true => simp [server, empty, packetOf]
  | false => simp [server, empty, one, packetOf]

theorem plainField_addFields {data : LoginData} (callsign : PlainField data.callsign)
    (realName : PlainField data.realName) (field : Bytes) (member : field ∈ addFields data) :
    PlainField field := by
  have atc : PlainField (bytes "#AA") := by decide
  have pilot : PlainField (bytes "#AP") := by decide
  have server : PlainField (bytes "SERVER") := by decide
  have one : PlainField (bytes "1") := by decide
  have empty : PlainField [] := by decide
  unfold addFields at member
  cases isAtc : data.isAtc with
  | true =>
      simp only [isAtc, if_true, List.mem_cons, List.not_mem_nil, or_false] at member
      rcases member with rfl | rfl | rfl | rfl | rfl | rfl | rfl
      · exact atc.append callsign
      · exact server
      · exact realName
      · exact plainField_itoa _
      · exact empty
      · exact plainField_itoa _
      · exact plainField_itoa _
  | false =>
      simp only [isAtc, Bool.false_eq_true, if_false, List.mem_cons, List.not_mem_nil, or_false]
        at member
      rcases member with rfl | rfl | rfl | rfl | rfl | rfl | rfl | rfl
      · exact pilot.append callsign
      · exact server
      · exact plainField_itoa _
      · exact empty
      · exact plainField_itoa _
      · exact plainField_itoa _
      · exact one
      · exact realName

theorem length_itoa_pos (number : Int) : 0 < (itoa number).length := by
  have some_ := List.length_pos_iff.mpr (digits_ne_nil number.natAbs)
  unfold itoa
  split
  · exact Nat.succ_pos _
  · exact some_

/-- The line of an announcement is long enough for the parser. -/
theorem length_packetOf_addFields {data : LoginData} (callsign : 2 ≤ data.callsign.length) :
    18 ≤ (packetOf (addFields data)).length := by
  have server : (bytes "SERVER").length = 6 := rfl
  have atc : (bytes "#AA").length = 3 := rfl
  have pilot : (bytes "#AP").length = 3 := rfl
  have one : (bytes "1").length = 1 := rfl
  have ending : crlf.length = 2 := rfl
  have cid := length_itoa_pos data.cid
  have networkRating := length_itoa_pos data.networkRating
  have protoRevision := length_itoa_pos data.protoRevision
  unfold addFields
  cases data.isAtc with
  | true =>
      simp only [if_true, packetOf, List.length_append, List.length_cons, List.length_nil, server,
        atc, ending]
      omega
  | false =>
      simp only [Bool.false_eq_true, if_false, packetOf, List.length_append, List.length_cons,
        List.length_nil, server, pilot, one, ending]
      omega

/-- The first three bytes are the prefix. -/
theorem take_packetOf_addFields (data : LoginData) :
    (packetOf (addFields data)).take 3 = addPrefix data.isAtc := by
  unfold addFields addPrefix
  cases data.isAtc with
  | true => rfl
  | false => rfl

theorem getElem_addFields (data : LoginData) :
    (addFields data)[0]? = some (addPrefix data.isAtc ++ data.callsign) ∧
    (addFields data)[if data.isAtc then 2 else 7]? = some data.realName ∧
    (addFields data)[if data.isAtc then 3 else 2]? = some (itoa data.cid) ∧
    (addFields data)[if data.isAtc then 4 else 3]? = some [] ∧
    (addFields data)[if data.isAtc then 5 else 4]? = some (itoa data.networkRating) ∧
    (addFields data)[if data.isAtc then 6 else 5]? = some (itoa data.protoRevision) := by
  unfold addFields addPrefix
  cases data.isAtc with
  | true => exact ⟨rfl, rfl, rfl, rfl, rfl, rfl⟩
  | false => exact ⟨rfl, rfl, rfl, rfl, rfl, rfl⟩

theorem countFields_addFields {data : LoginData} (callsign : PlainField data.callsign)
    (realName : PlainField data.realName) :
    countFields (packetOf (addFields data)) = if data.isAtc then 7 else 8 := by
  have plain := plainField_addFields callsign realName
  unfold addFields at plain ⊢
  cases isAtc : data.isAtc with
  | true =>
      simp only [isAtc, if_true] at plain ⊢
      exact countFields_packetOf plain
  | false =>
      simp only [isAtc, Bool.false_eq_true, if_false] at plain ⊢
      exact countFields_packetOf plain

/-- The login data can be read off a line with these fields. -/
theorem addRead_of_written {fields : List Bytes} {line token cid networkRating protoRevision : Bytes}
    {data : LoginData} (plain : forall field, field ∈ fields -> PlainField field)
    (written : packetOf fields = line ++ crlf) (absent : lineFeed ∉ line)
    (long : 18 ≤ (packetOf fields).length)
    (starts : (packetOf fields).take 3 = addPrefix data.isAtc)
    (count : countFields (packetOf fields) = if data.isAtc then 7 else 8)
    (positions : fields[0]? = some (addPrefix data.isAtc ++ data.callsign) ∧
      fields[if data.isAtc then 2 else 7]? = some data.realName ∧
      fields[if data.isAtc then 3 else 2]? = some cid ∧
      fields[if data.isAtc then 4 else 3]? = some token ∧
      fields[if data.isAtc then 5 else 4]? = some networkRating ∧
      fields[if data.isAtc then 6 else 5]? = some protoRevision)
    (readCid : atoi cid = ⟨data.cid, none⟩)
    (readRating : atoi networkRating = ⟨data.networkRating, none⟩)
    (readRevision : atoi protoRevision = ⟨data.protoRevision, none⟩)
    (supported : 100 ≤ data.protoRevision ∧ data.protoRevision ≤ 101) : AddRead line data token := by
  have field : forall {index : Nat} {text : Bytes}, fields[index]? = some text ->
      getField line index = text := by
    intro index text found
    rw [← getField_crlf absent, ← written]
    exact getField_packetOf plain found
  rw [written, List.length_append] at long
  have ending : crlf.length = 2 := rfl
  rw [written, List.take_append_of_le_length (by omega)] at starts
  rw [written, countFields_crlf] at count
  rcases positions with ⟨first, named, identified, tokened, rated, revised⟩
  exact {
    long := by omega
    starts := starts
    count := count
    callsign := field first
    realName := (field named).symm
    cid := by rw [field identified, readCid]
    networkRating := by rw [field rated, readRating]
    protoRevision := by rw [field revised, readRevision]
    token := (field tokened).symm
    supported := supported }

/-- The login data can be read off the announcement, with an empty token. -/
theorem addRead_addFields {data : LoginData} {line : Bytes} (callsign : ValidCallsign data.callsign)
    (realName : PlainField data.realName) (cid : IsInt64 data.cid)
    (networkRating : IsInt64 data.networkRating) (protoRevision : IsInt64 data.protoRevision)
    (supported : 100 ≤ data.protoRevision ∧ data.protoRevision ≤ 101)
    (written : packetOf (addFields data) = line ++ crlf) (absent : lineFeed ∉ line) :
    AddRead line data [] :=
  addRead_of_written (plainField_addFields callsign.plain realName) written absent
    (length_packetOf_addFields callsign.lower) (take_packetOf_addFields data)
    (countFields_addFields callsign.plain realName) (getElem_addFields data) (atoi_itoa cid)
    (atoi_itoa networkRating) (atoi_itoa protoRevision) supported

/-- Two lines with the same fields but the token are announced alike. -/
theorem addFields_eq_of_fields {first second : Bytes} {data other : LoginData} {token changed : Bytes}
    (read : AddRead first data token) (readOther : AddRead second other changed)
    (same : forall index, index ≠ (if data.isAtc then 4 else 3) ->
      getField first index = getField second index) :
    addFields data = addFields other := by
  have named : addPrefix data.isAtc ++ data.callsign = addPrefix other.isAtc ++ other.callsign := by
    rw [← read.callsign, ← readOther.callsign]
    apply same
    cases data.isAtc <;> decide
  have typed : data.isAtc = other.isAtc := by
    have starts := congrArg (fun text => text.take 3) named
    cases isAtc : data.isAtc with
    | true =>
        cases isAtcOther : other.isAtc with
        | true => rfl
        | false =>
            rw [isAtc, isAtcOther] at starts
            cases starts
    | false =>
        cases isAtcOther : other.isAtc with
        | false => rfl
        | true =>
            rw [isAtc, isAtcOther] at starts
            cases starts
  rw [← typed] at named
  have callsign := List.append_cancel_left named
  have realName := read.realName
  have cid := read.cid
  have networkRating := read.networkRating
  have protoRevision := read.protoRevision
  -- None of these is the field of the token.
  rw [same _ (by cases data.isAtc <;> decide)] at realName cid networkRating protoRevision
  rw [typed, ← readOther.realName] at realName
  rw [typed, readOther.cid, Parsed.mk.injEq] at cid
  rw [typed, readOther.networkRating, Parsed.mk.injEq] at networkRating
  rw [typed, readOther.protoRevision, Parsed.mk.injEq] at protoRevision
  unfold addFields
  rw [typed, callsign, realName, cid.1, networkRating.1, protoRevision.1]

/-! ## Logins -/

/-- A client is announced by what its add packet says about it, and nothing
that happens to it later is in the announcement. -/
theorem broadcastAddPacket_eq {F : Type} {s : Server F} {id : SessionId} {data : LoginData}
    {line : Bytes} (held : addFields (s.clients id).toLoginData = addFields data)
    (written : packetOf (addFields data) = line ++ crlf) :
    s.broadcastAddPacket id = s.broadcastAll id (line ++ crlf) := by
  unfold Server.broadcastAddPacket
  rw [addPacket_eq_packetOf, held, written]

variable {F : Type} [GoFloat F]

/-- A login keeps what its add packet says, and its callsign is valid. -/
theorem addFields_of_login {P : Platform} {env : LoginEnv} {database : Database}
    {idLine : Option Bytes} {line : Bytes} {client : Client F}
    (loggedIn : login P env database idLine (some line) = .ok client) :
    Exists fun data => Exists fun token =>
      readLoginPackets env.now idLine (some line) = .ok (data, token) ∧ AddRead line data token ∧
        ValidCallsign data.callsign ∧ addFields client.toLoginData = addFields data := by
  rcases login_fresh loggedIn with ⟨data, token, authState, limit, read, same⟩
  rcases login_eq_ok loggedIn with ⟨_, _, rfl, _, admitted⟩
  rcases readLoginPackets_eq_ok_iff.mp read with ⟨_, _, addRead, _⟩
  subst same
  exact ⟨data, token, read, addRead, validCallsign_iff.mp admitted.callsign, rfl⟩

/-- What a login is announced by can be read as a login: the parser finds the
same data in it, and no token.  A login that differs from it in the token
alone is announced by the same bytes. -/
theorem announcement_reads_back {P : Platform} {env : LoginEnv} {database : Database}
    {idLine addLine : Option Bytes} {data : LoginData} {token : Bytes} {client : Client F}
    (received : forall line, addLine = some line -> lineFeed ∉ line)
    (read : readLoginPackets env.now idLine addLine = .ok (data, token))
    (loggedIn : login P env database idLine addLine = .ok client) :
    Exists fun line => lineFeed ∉ line ∧
      (forall (s : Server F) (id : SessionId),
        (s.clients id).toLoginData = client.toLoginData ->
          s.broadcastAddPacket id = s.broadcastAll id (line ++ crlf)) ∧
      (forall now ident challenge, readChallenge ident = .ok challenge ->
        readLoginPackets now (some ident) (some line) =
          .ok ({ data with
            clientChallenge := challenge.1
            clientId := challenge.2
            loginTime := now }, [])) ∧
      forall (envOther : LoginEnv) (databaseOther : Database) (idLineOther : Option Bytes)
        (first second : Bytes) (other : Client F) (s : Server F) (id : SessionId),
        addLine = some first ->
        (forall index, index ≠ (if data.isAtc then 4 else 3) ->
          getField first index = getField second index) ->
        login P envOther databaseOther idLineOther (some second) = .ok other ->
        (s.clients id).toLoginData = other.toLoginData ->
          s.broadcastAddPacket id = s.broadcastAll id (line ++ crlf) := by
  rcases lines_of_readLoginPackets read with ⟨ident, first, rfl, rfl⟩
  rcases addFields_of_login loggedIn with ⟨_, _, readAgain, addRead, callsign, held⟩
  cases readAgain.symm.trans read
  have realName : PlainField data.realName := by
    rw [addRead.realName]
    exact plainField_getField (received first rfl) _
  rcases exists_line_packetOf (plainField_addFields callsign.plain realName) with
    ⟨line, written, absent⟩
  have announced := addRead_addFields callsign realName (isInt64_of_atoi addRead.cid)
    (isInt64_of_atoi addRead.networkRating) (isInt64_of_atoi addRead.protoRevision)
    addRead.supported written absent
  refine ⟨line, absent, ?_, ?_, ?_⟩
  · intro s id same
    exact broadcastAddPacket_eq (by rw [same, held]) written
  · intro now identOther challenge challengeRead
    rcases readLoginPackets_eq_ok_iff.mp read with ⟨_, _, _, _, _, _, unlimited⟩
    apply readLoginPackets_eq_ok_iff.mpr
    exact ⟨challenge, challengeRead, ⟨announced.long, announced.starts, announced.count,
      announced.callsign, announced.realName, announced.cid, announced.networkRating,
      announced.protoRevision, announced.token, announced.supported⟩, rfl, rfl, rfl, unlimited⟩
  · intro envOther databaseOther idLineOther _ second other s id sameFirst fields loggedInOther same
    cases sameFirst
    rcases addFields_of_login loggedInOther with ⟨dataOther, _, _, addReadOther, _, heldOther⟩
    have alike := addFields_eq_of_fields addRead addReadOther fields
    exact broadcastAddPacket_eq (by rw [same, heldOther, alike]) written

/-- A controller is announced, and could log in by its announcement but for
the token. -/
theorem announcement_reads_back_sample : Exists fun line : Bytes => Exists fun data : LoginData =>
    Exists fun client : Client Real =>
      login Symbolic.platform sampleLogin Symbolic.database sampleIdLine sampleAddLine =
          .ok client ∧
        (forall (s : Server Real) (id : SessionId),
          (s.clients id).toLoginData = client.toLoginData ->
            s.broadcastAddPacket id = s.broadcastAll id (line ++ crlf)) ∧
        readLoginPackets 0 (some (bytes "$IDLON_CTR:SERVER")) (some line) = .ok (data, []) := by
  rcases exists_sampleSession fun _ => newClient [] sampleData with ⟨server, connected⟩
  rcases Server.connect_eq_ok connected with ⟨client, loggedIn, _⟩
  rcases login_fresh loggedIn with ⟨data, token, _, _, read, _⟩
  have received : forall line, sampleAddLine = some line -> lineFeed ∉ line := by
    intro line same
    rw [← Option.some.inj same]
    decide
  rcases announcement_reads_back received read loggedIn with ⟨line, _, sent, readBack, _⟩
  exact ⟨line, _, client, loggedIn, sent, readBack 0 (bytes "$IDLON_CTR:SERVER") ([], 0) rfl⟩

end Fsd
end OpenFsd
