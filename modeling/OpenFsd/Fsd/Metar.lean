import OpenFsd.Fsd.SingleLine
import OpenFsd.Fsd.Speaker

namespace OpenFsd
namespace Fsd

/-!
# The METAR service

A worker takes one request at a time, fetches a report over HTTP, and answers
the client that asked for it.  The report is the second line of a body that
has two.  The worker cuts it out together with its line feed, and the packet
that it builds ends in a delimiter of its own, so that every report goes out
as a packet of two lines.
-/

/-- `metarRequest`.  The code is a field of a received line. -/
structure MetarRequest where
  client : SessionId
  icaoCode : Bytes
  plain : lineFeed ∉ icaoCode

/-- What the HTTP client makes of a request: no response, or a status and a
body that is read to its end or as far as it can be. -/
inductive HttpOutcome
  | transportError
  | response (statusCode : Int) (body : Bytes) (readFails : Bool)

def metarServiceErrString (icaoCode : Bytes) : Bytes :=
  bytes "Error fetching METAR for " ++ icaoCode

def buildMetarResponsePacket (callsign metar : Bytes) : Bytes :=
  bytes "$ARSERVER:" ++ callsign ++ bytes ":METAR:" ++ metar ++ crlf

/-- The buffer that the body is read into, which starts with 512 bytes of its own. -/
def bufBytes : Bytes := List.replicate 512 0

/-- The two cuts at the line feeds of the buffer. -/
def cutMetar (resBody : Bytes) : Bytes :=
  let rest := resBody.drop (indexByte resBody lineFeed + 1).toNat
  rest.take (indexByte rest lineFeed + 1).toNat

namespace MetarService

variable {F : Type}

def sendMetarServiceError (s : Server F) (req : MetarRequest) : Server F :=
  s.sendError req.client NoWeatherProfileError (metarServiceErrString req.icaoCode)

/-- `handleMetarRequest`, given the outcome of its HTTP request. -/
def handleMetarRequest (s : Server F) (req : MetarRequest) (outcome : HttpOutcome) : Server F :=
  match outcome with
  | .transportError => sendMetarServiceError s req
  | .response statusCode body readFails =>
      if statusCode ≠ 200 then sendMetarServiceError s req
      else if readFails then sendMetarServiceError s req
      else if countByte (bufBytes ++ body) lineFeed ≠ 2 then sendMetarServiceError s req
      else
        s.sendTo req.client
          (buildMetarResponsePacket (s.clients req.client).callsign (cutMetar (bufBytes ++ body)))

end MetarService

/-! ## What an answer should be -/

/-- The outcome is a body of exactly two lines, read to its end, and the
second line is the report. -/
def HttpOutcome.Reports (outcome : HttpOutcome) (report : Bytes) : Prop :=
  Exists fun first => Exists fun rest =>
    outcome = .response 200 (first ++ lineFeed :: (report ++ lineFeed :: rest)) false ∧
      lineFeed ∉ first ∧ lineFeed ∉ report ∧ lineFeed ∉ rest

/-- The client gets one packet, which is one line: the report if there is one,
and an error otherwise. -/
def AnswersMetar {F : Type} (s : Server F) (req : MetarRequest) (outcome : HttpOutcome) : Prop :=
  Exists fun packet => MetarService.handleMetarRequest s req outcome = s.sendTo req.client packet ∧
    SingleLine packet ∧
    (forall report, outcome.Reports report ->
      packet = buildMetarResponsePacket (s.clients req.client).callsign report) ∧
    ((forall report, ¬ outcome.Reports report) ->
      packet = errorPacket NoWeatherProfileError (metarServiceErrString req.icaoCode))

/-- The outcome is a response of status 200, and its body is read to its end
and has exactly two line feeds. -/
def HttpOutcome.TwoLines : HttpOutcome -> Prop
  | .transportError => False
  | .response statusCode body readFails =>
      statusCode = 200 ∧ readFails = false ∧ countByte body lineFeed = 2

/-! ## Lines of the body -/

theorem countByte_bufBytes_append (body : Bytes) :
    countByte (bufBytes ++ body) lineFeed = countByte body lineFeed := by
  unfold countByte bufBytes
  rw [List.count_append, List.count_replicate]
  exact Nat.zero_add _

/-- One cut: the line up to its line feed, or what follows it. -/
theorem cut_line {line : Bytes} (absent : lineFeed ∉ line) (rest : Bytes) :
    (line ++ lineFeed :: rest).take (indexByte (line ++ lineFeed :: rest) lineFeed + 1).toNat =
        line ++ [lineFeed] ∧
      (line ++ lineFeed :: rest).drop (indexByte (line ++ lineFeed :: rest) lineFeed + 1).toNat =
        rest := by
  rw [indexByte_append_cons absent]
  have position : ((line.length : Int) + 1).toNat = (line ++ [lineFeed]).length := by
    simp
  have split : line ++ lineFeed :: rest = (line ++ [lineFeed]) ++ rest := by
    simp
  rw [position, split, List.take_left, List.drop_left]
  exact ⟨rfl, rfl⟩

/-- The cuts leave the report with the line feed that ends it. -/
theorem cutMetar_eq {first report : Bytes} (absentFirst : lineFeed ∉ first)
    (absentReport : lineFeed ∉ report) (rest : Bytes) :
    cutMetar (bufBytes ++ (first ++ lineFeed :: (report ++ lineFeed :: rest))) =
      report ++ [lineFeed] := by
  have absent : lineFeed ∉ bufBytes ++ first := by
    refine List.not_mem_append ?_ absentFirst
    intro member
    exact absurd (List.eq_of_mem_replicate member) (by decide)
  unfold cutMetar
  rw [← List.append_assoc, (cut_line absent _).2]
  exact (cut_line absentReport rest).1

theorem exists_lines_of_countByte {body : Bytes} (two : countByte body lineFeed = 2) :
    Exists fun first => Exists fun report => Exists fun rest =>
      body = first ++ lineFeed :: (report ++ lineFeed :: rest) ∧
        lineFeed ∉ first ∧ lineFeed ∉ report ∧ lineFeed ∉ rest := by
  unfold countByte at two
  have present : lineFeed ∈ body := List.count_pos_iff.mp (by omega)
  rcases List.eq_append_cons_of_mem present with ⟨first, others, split, absentFirst⟩
  rw [split, List.count_append, List.count_eq_zero_of_not_mem absentFirst, List.count_cons_self]
    at two
  have again : lineFeed ∈ others := List.count_pos_iff.mp (by omega)
  rcases List.eq_append_cons_of_mem again with ⟨report, rest, splitOthers, absentReport⟩
  rw [splitOthers, List.count_append, List.count_eq_zero_of_not_mem absentReport,
    List.count_cons_self] at two
  refine ⟨first, report, rest, ?_, absentFirst, absentReport, ?_⟩
  · rw [split, splitOthers]
  · apply List.count_eq_zero.mp
    omega

theorem twoLines_iff {outcome : HttpOutcome} :
    outcome.TwoLines ↔ Exists fun report => outcome.Reports report := by
  constructor
  · intro two
    cases outcome with
    | transportError => cases two
    | response statusCode body readFails =>
        rcases two with ⟨rfl, rfl, two⟩
        rcases exists_lines_of_countByte two with ⟨first, report, rest, rfl, absent⟩
        exact ⟨report, first, rest, rfl, absent⟩
  · rintro ⟨report, first, rest, rfl, absentFirst, absentReport, absentRest⟩
    refine ⟨rfl, rfl, ?_⟩
    unfold countByte
    rw [List.count_append, List.count_cons_self, List.count_append, List.count_cons_self,
      List.count_eq_zero_of_not_mem absentFirst, List.count_eq_zero_of_not_mem absentReport,
      List.count_eq_zero_of_not_mem absentRest]

namespace MetarService

variable {F : Type}

/-! ## The answers -/

/-- Without a report, the answer is the error. -/
theorem handleMetarRequest_of_not_twoLines (s : Server F) (req : MetarRequest)
    {outcome : HttpOutcome} (other : ¬ outcome.TwoLines) :
    handleMetarRequest s req outcome = sendMetarServiceError s req := by
  unfold handleMetarRequest
  cases outcome with
  | transportError => rfl
  | response statusCode body readFails =>
      dsimp only
      rw [countByte_bufBytes_append]
      split
      · rfl
      · next good =>
          split
          · rfl
          · next complete =>
              split
              · rfl
              · next two =>
                  exact absurd ⟨not_not.mp good, by simpa using complete, not_not.mp two⟩ other

/-- A report is sent with the line feed of the body before the delimiter of
the packet. -/
theorem handleMetarRequest_of_reports (s : Server F) (req : MetarRequest) {outcome : HttpOutcome}
    {report : Bytes} (reports : outcome.Reports report) :
    handleMetarRequest s req outcome = s.sendTo req.client
      (buildMetarResponsePacket (s.clients req.client).callsign (report ++ [lineFeed])) := by
  have two := (twoLines_iff.mpr ⟨report, reports⟩)
  rcases reports with ⟨first, rest, rfl, absentFirst, absentReport, _⟩
  rcases two with ⟨_, _, two⟩
  unfold handleMetarRequest
  dsimp only
  rw [countByte_bufBytes_append, two, cutMetar_eq absentFirst absentReport]
  rfl

/-- Such a packet is more than one line. -/
theorem not_singleLine_buildMetarResponsePacket (callsign report : Bytes) :
    ¬ SingleLine (buildMetarResponsePacket callsign (report ++ [lineFeed])) := by
  intro single
  have once := (singleLine_iff.mp single).1
  unfold countByte buildMetarResponsePacket at once
  simp only [List.count_append, List.count_singleton_self] at once
  have delimiter : List.count lineFeed crlf = 1 := by decide
  omega

theorem singleLine_metarServiceError (req : MetarRequest) :
    SingleLine (errorPacket NoWeatherProfileError (metarServiceErrString req.icaoCode)) := by
  apply singleLine_errorPacket
  exact List.not_mem_append (by decide) req.plain

theorem sendTo_injective {s : Server F} {recipient : SessionId} {first second : Bytes}
    (same : s.sendTo recipient first = s.sendTo recipient second) : first = second := by
  have events := congrArg Server.events same
  simpa [Server.sendTo] using events

/-- The service answers as it should, except where it has a report. -/
theorem answersMetar_iff (s : Server F) (req : MetarRequest) (outcome : HttpOutcome) :
    AnswersMetar s req outcome ↔ ¬ outcome.TwoLines := by
  constructor
  · rintro ⟨packet, answered, single, _, _⟩ two
    rcases twoLines_iff.mp two with ⟨report, reports⟩
    rw [handleMetarRequest_of_reports s req reports] at answered
    rw [← sendTo_injective answered] at single
    exact not_singleLine_buildMetarResponsePacket _ _ single
  · intro other
    refine ⟨_, handleMetarRequest_of_not_twoLines s req other, singleLine_metarServiceError req, ?_, ?_⟩
    · intro report reports
      exact absurd (twoLines_iff.mpr ⟨report, reports⟩) other
    · exact fun _ => rfl

/-- A body of two lines, which its client is sent as a packet of two lines. -/
theorem report_breaks_the_line : ¬ forall (s : Server Real) (req : MetarRequest)
    (outcome : HttpOutcome), AnswersMetar s req outcome := by
  intro always
  have reports : (HttpOutcome.response 200 (bytes "2023/04/30 19:51" ++
      lineFeed :: (bytes "KJFK 301951Z 18010KT" ++ [lineFeed])) false).Reports
        (bytes "KJFK 301951Z 18010KT") :=
    ⟨bytes "2023/04/30 19:51", [], rfl, by decide, by decide, by decide⟩
  rcases always (serverOf (bytes "TEST")) ⟨0, bytes "KJFK", by decide⟩ _ with
    ⟨packet, answered, single, _, _⟩
  rw [handleMetarRequest_of_reports _ _ reports] at answered
  rw [← sendTo_injective answered] at single
  exact not_singleLine_buildMetarResponsePacket _ _ single

/-! ## Requests -/

/-- What the service is handed for a received line is a request of its sender. -/
theorem exists_request_of_line [GoFloat F] {s : Server F} (md5 : Bytes -> List.Vector UInt8 16)
    (now : Time) {id : SessionId} {packet : Bytes} (single : SingleLine packet)
    (accepted : verifyPacket packet (s.clients id).callsign = .accepted .metarRequest) :
    (s.processPacket md5 now id packet).events = s.events ∨
      Exists fun req : MetarRequest => req.client = id ∧
        (s.processPacket md5 now id packet).events =
          s.events ++ [.metarRequest req.client req.icaoCode] := by
  rw [Server.processPacket_of_accepted accepted]
  dsimp only [Server.runHandler]
  unfold Server.handleMetarRequest
  dsimp only
  split
  · exact Or.inl rfl
  · exact Or.inr ⟨⟨id, getField packet 3, single.getField 3⟩, rfl, rfl⟩

end MetarService
end Fsd
end OpenFsd
