import OpenFsd.Fsd.Callsigns
import OpenFsd.Fsd.OnlineUsers
import OpenFsd.Fsd.Positions
import OpenFsd.Fsd.Records
import OpenFsd.Fsd.Session
import OpenFsd.Go.Saturation

namespace OpenFsd
namespace Fsd

open Db Transition

/-!
# The altitude and the groundspeed of a pilot

`handlePilotPosition` reads both with `Atoi`, and stores them as an `int32`.
The heading of the same packet is read as a number of 32 bits in the first
place.
-/

variable {F : Type} [GoFloat F]

/-- The nearest numbers of 32 bits are stored for the client, and they are what
the HTTP service has under its callsign, in whatever order it visits the
clients. -/
structure ReportsNearest (s : Server F) (id : SessionId) (altitude groundspeed : Int) : Prop where
  stored : (s.clients id).altitude = nearest 32 altitude ∧
    (s.clients id).groundspeed = nearest 32 groundspeed
  reported : forall (order : List SessionId) (users : OnlineUsersResponseData F),
    order.Perm s.registeredClients ->
    (handleGetOnlineUsers s order).body.bind decodeOnlineUsers = some users ->
    (s.clients id).isAtc = false ->
      (Exists fun pilot => pilot ∈ users.pilots ∧ pilot.callsign = (s.clients id).callsign) ∧
      forall pilot, pilot ∈ users.pilots -> pilot.callsign = (s.clients id).callsign ->
        pilot.altitude = nearest 32 altitude ∧ pilot.groundspeed = nearest 32 groundspeed

namespace Server

/-! ## What is stored -/

/-- A position without coordinates is answered with an error. -/
theorem parsed_of_unanswered {s : Server F} {md5 : Bytes -> List.Vector UInt8 16} {now : Time}
    {id : SessionId} {packet : Bytes}
    (accepted : verifyPacket packet (s.clients id).callsign = .accepted .pilotPosition)
    (unanswered : ¬ AnswersWithError s (s.processPacket md5 now id packet) id) :
    Exists fun center : F × F => parseLatLon packet 4 5 = some center := by
  cases parsed : (parseLatLon packet 4 5 : Option (F × F)) with
  | some center => exact ⟨center, rfl⟩
  | none =>
      apply absurd _ unanswered
      rw [processPacket_of_accepted accepted]
      dsimp only [runHandler]
      unfold handlePilotPosition
      rw [parsed]
      exact answersWithError_sendError s id _ _

theorem report_storePilotFields (s : Server F) (now : Time) (id : SessionId) (packet : Bytes) :
    ((s.storePilotFields now id packet).clients id).altitude =
        wrapInt32 (atoi (getField packet 6)).value ∧
      ((s.storePilotFields now id packet).clients id).groundspeed =
        wrapInt32 (atoi (getField packet 7)).value := by
  simp [storePilotFields, modifyClient_same]

theorem report_updateSendFast (s : Server F) (id : SessionId) :
    ((s.updateSendFast id).clients id).altitude = (s.clients id).altitude ∧
      ((s.updateSendFast id).clients id).groundspeed = (s.clients id).groundspeed := by
  rcases s.updateSendFast_cases id with kept | ⟨enabled, switched, _⟩
  · rw [kept]
    exact ⟨rfl, rfl⟩
  · rw [switched]
    simp [switchSendFast, modifyClient_same]

theorem report_of_accepted {s : Server F} {md5 : Bytes -> List.Vector UInt8 16} {now : Time}
    {id : SessionId} {packet : Bytes}
    (accepted : verifyPacket packet (s.clients id).callsign = .accepted .pilotPosition)
    (unanswered : ¬ AnswersWithError s (s.processPacket md5 now id packet) id) :
    ((s.processPacket md5 now id packet).clients id).altitude =
        wrapInt32 (atoi (getField packet 6)).value ∧
      ((s.processPacket md5 now id packet).clients id).groundspeed =
        wrapInt32 (atoi (getField packet 7)).value := by
  rcases parsed_of_unanswered accepted unanswered with ⟨center, parsed⟩
  rw [processPacket_of_accepted accepted]
  dsimp only [runHandler]
  unfold handlePilotPosition
  rw [parsed]
  dsimp only
  rw [(report_updateSendFast _ id).1, (report_updateSendFast _ id).2]
  exact report_storePilotFields _ now id packet

/-! ## What is reported -/

/-- A pilot of the response is a registered client. -/
theorem mem_pilots_iff {s : Server F} (indexed : s.Indexed) {order : List SessionId}
    {users : OnlineUsersResponseData F} (listed : order.Perm s.registeredClients)
    (decoded : (handleGetOnlineUsers s order).body.bind decodeOnlineUsers = some users)
    (pilot : OnlineUserPilot F) :
    pilot ∈ users.pilots ↔ Exists fun id => s.Registered id ∧ (s.clients id).isAtc = false ∧
      pilot = (onlineUserPilot (s.clients id)).read := by
  rcases Option.bind_eq_some_iff.mp decoded with ⟨json, body, read⟩
  have same := Option.some.inj (read.symm.trans (decodeOnlineUsers_of_encoded body))
  rw [same, onlineUsers_eq]
  simp only [List.map_map, List.mem_map, List.mem_filter, listed.mem_iff,
    mem_registeredClients indexed]
  constructor
  · rintro ⟨id, ⟨registered, other⟩, made⟩
    exact ⟨id, registered, by simpa using other, made.symm⟩
  · rintro ⟨id, registered, other, made⟩
    exact ⟨id, ⟨registered, by simp [other]⟩, made.symm⟩

/-- The response has the stored numbers under the callsign of the client. -/
theorem reported_of_stored {s : Server F} (indexed : s.Indexed)
    (valid : forall id, s.Registered id -> ValidCallsign (s.clients id).callsign) {id : SessionId}
    (registered : s.Registered id) {altitude groundspeed : Int}
    (stored : (s.clients id).altitude = nearest 32 altitude ∧
      (s.clients id).groundspeed = nearest 32 groundspeed) :
    ReportsNearest s id altitude groundspeed where
  stored := stored
  reported := by
    intro order users listed decoded pilots
    have named : forall other, s.Registered other ->
        (onlineUserPilot (s.clients other)).read.callsign = (s.clients other).callsign :=
      fun other there => toValidUTF8_of_ascii fun _ => (valid other there).ascii
    constructor
    · refine ⟨(onlineUserPilot (s.clients id)).read, ?_, named id registered⟩
      exact (mem_pilots_iff indexed listed decoded _).mpr ⟨id, registered, pilots, rfl⟩
    · intro pilot member callsign
      rcases (mem_pilots_iff indexed listed decoded pilot).mp member with ⟨other, there, _, made⟩
      rw [made, named other there] at callsign
      have same : other = id := by
        unfold Registered at there registered
        rw [callsign] at there
        exact Option.some.inj (there.symm.trans registered)
      rw [made, same]
      exact stored

end Server

/-! ## Runs -/

variable {P : Platform} {heap : SessionId -> Client F}

/-- After an accepted position the nearest numbers are stored and reported,
exactly if both numbers survive the narrowing. -/
theorem position_reports_nearest_iff {system : System F}
    (reached : Reaches (System.step P) (System.start heap) system) {id : SessionId}
    (registered : system.server.Registered id) {packet : Bytes}
    (accepted : verifyPacket packet (system.server.clients id).callsign = .accepted .pilotPosition)
    {now : Time}
    (unanswered : ¬ AnswersWithError system.server
      (system.server.processPacket P.md5 now id packet) id) {altitude groundspeed : Int}
    (readAltitude : DecimalInteger (getField packet 6) altitude)
    (readGroundspeed : DecimalInteger (getField packet 7) groundspeed) :
    ReportsNearest (system.server.processPacket P.md5 now id packet) id altitude groundspeed ↔
      SurvivesNarrowing altitude ∧ SurvivesNarrowing groundspeed := by
  rcases Server.report_of_accepted accepted unanswered with ⟨storedAltitude, storedGroundspeed⟩
  rw [← stored_nearest_iff readAltitude, ← stored_nearest_iff readGroundspeed, ← storedAltitude,
    ← storedGroundspeed]
  constructor
  · intro reports
    exact reports.stored
  · intro stored
    have taken : System.step P system (.packet now id packet) =
        some ⟨system.server.processPacket P.md5 now id packet, system.allocated⟩ := if_pos registered
    have after := reached.tail taken
    apply Server.reported_of_stored _ _ _ stored
    · exact fun callsign other found => (System.callsign_of_find after found).1
    · exact fun other there => (System.callsign_of_find after there).2
    · exact (system.server.registered_processPacket P.md5 now id packet).mpr registered

/-! ## Two positions of one pilot -/

/-- A pilot who has logged in sends a position with these two numbers. -/
structure Positioned (system : System Real) (packet : Bytes) (altitude groundspeed : Int) : Prop where
  reached : Reaches (System.step Symbolic.platform)
    (System.start fun _ => (newClient [] sampleData : Client Real)) system
  registered : system.server.Registered 0
  accepted : verifyPacket packet (system.server.clients 0).callsign = .accepted .pilotPosition
  unanswered : ¬ AnswersWithError system.server
    (system.server.processPacket Symbolic.platform.md5 0 0 packet) 0
  readAltitude : DecimalInteger (getField packet 6) altitude
  readGroundspeed : DecimalInteger (getField packet 7) groundspeed

theorem exists_positioned {packet : Bytes} {latitude longitude : Rat} {altitude groundspeed : Int}
    (accepted : verifyPacket packet (bytes "N172SP") = .accepted .pilotPosition)
    (readLatitude : parseDecimal (getField packet 4) = some latitude)
    (readLongitude : parseDecimal (getField packet 5) = some longitude)
    (readAltitude : DecimalInteger (getField packet 6) altitude)
    (readGroundspeed : DecimalInteger (getField packet 7) groundspeed) :
    Exists fun system => Positioned system packet altitude groundspeed := by
  have pilotLine : Exists fun server : Server Real =>
      (System.start fun _ => newClient [] sampleData).server.connect Symbolic.platform sampleLogin
        Symbolic.database 0 sampleIdLine
          (some (bytes "#APN172SP:SERVER:1:secret:1:100:1:Name")) = .ok server ∧
      (server.clients 0).callsign = bytes "N172SP" ∧ (server.clients 0).isAtc = false ∧
        (server.clients 0).networkRating = 1 ∧ server.Registered 0 :=
    exists_registered _ (by decide +kernel)
  rcases pilotLine with ⟨server, connected, callsign, _, _, registered⟩
  have decimal : forall text value, parseDecimal text = some value ->
      GoFloat.parseFloat text = some (value : Real) := by
    intro text value read
    show (parseDecimal text).map (fun value => (value : Real)) = some (value : Real)
    rw [read]
    rfl
  have parsed : parseLatLon packet 4 5 = some ((latitude : Real), (longitude : Real)) := by
    unfold parseLatLon
    rw [decimal _ _ readLatitude, decimal _ _ readLongitude]
  rw [← callsign] at accepted
  refine ⟨⟨server, 1⟩, ?_, registered, accepted, ?_, readAltitude, readGroundspeed⟩
  · exact Reaches.single (System.step_connect connected)
  · apply Server.not_answersWithError
    rw [Server.processPacket_of_accepted accepted]
    apply Server.emits_handlePilotPosition_parsed _ _ _ _ parsed
    exact Server.notError_of_position (verifyPacket_accepted accepted).1 (Or.inr rfl)

/-- A position at 3500 feet, of a pilot who rolls backwards. -/
def backwards : Bytes :=
  bytes "@N:N172SP:1200:1:51.5:-0.1:3500:-0120:0:25" ++ crlf

theorem position_reports_nearest_iff_backwards : Exists fun system : System Real =>
    ReportsNearest (system.server.processPacket Symbolic.platform.md5 0 0 backwards) 0 3500 (-120) ↔
      SurvivesNarrowing 3500 ∧ SurvivesNarrowing (-120) := by
  have altitude : getField backwards 6 = numeral [3, 5, 0, 0] := by decide +kernel
  have groundspeed : getField backwards 7 = byte '-' :: numeral [0, 1, 2, 0] := by decide +kernel
  have readAltitude : DecimalInteger (getField backwards 6) 3500 := by
    rw [altitude]
    exact .unsigned [3, 5, 0, 0] (by decide)
  have readGroundspeed : DecimalInteger (getField backwards 7) (-120) := by
    rw [groundspeed]
    exact .minus [0, 1, 2, 0] (by decide)
  have latitude : parseDecimal (getField backwards 4) = some 51.5 := by decide +kernel
  have longitude : parseDecimal (getField backwards 5) = some (-0.1) := by decide +kernel
  rcases exists_positioned (by decide +kernel) latitude longitude readAltitude readGroundspeed with
    ⟨system, positioned⟩
  exact ⟨system, position_reports_nearest_iff positioned.reached positioned.registered
    positioned.accepted positioned.unanswered positioned.readAltitude positioned.readGroundspeed⟩

/-- A position at three billion feet. -/
def beyondSpace : Bytes :=
  bytes "@N:N172SP:1200:1:51.5:-0.1:3000000000:120:0:25" ++ crlf

/-- An altitude of three billion feet is stored as a depth. -/
theorem altitude_wraps : ¬ forall (heap : SessionId -> Client Real) (system : System Real)
    (id : SessionId) (packet : Bytes) (now : Time) (altitude groundspeed : Int),
      Reaches (System.step Symbolic.platform) (System.start heap) system ->
      system.server.Registered id ->
      verifyPacket packet (system.server.clients id).callsign = .accepted .pilotPosition ->
      ¬ AnswersWithError system.server
        (system.server.processPacket Symbolic.platform.md5 now id packet) id ->
      DecimalInteger (getField packet 6) altitude ->
      DecimalInteger (getField packet 7) groundspeed ->
      ReportsNearest (system.server.processPacket Symbolic.platform.md5 now id packet) id altitude
        groundspeed := by
  intro always
  have altitude : getField beyondSpace 6 = numeral [3, 0, 0, 0, 0, 0, 0, 0, 0, 0] := by
    decide +kernel
  have groundspeed : getField beyondSpace 7 = numeral [1, 2, 0] := by decide +kernel
  have readAltitude : DecimalInteger (getField beyondSpace 6) 3000000000 := by
    rw [altitude]
    exact .unsigned [3, 0, 0, 0, 0, 0, 0, 0, 0, 0] (by decide)
  have readGroundspeed : DecimalInteger (getField beyondSpace 7) 120 := by
    rw [groundspeed]
    exact .unsigned [1, 2, 0] (by decide)
  have latitude : parseDecimal (getField beyondSpace 4) = some 51.5 := by decide +kernel
  have longitude : parseDecimal (getField beyondSpace 5) = some (-0.1) := by decide +kernel
  rcases exists_positioned (by decide +kernel) latitude longitude readAltitude readGroundspeed with
    ⟨system, positioned⟩
  have reports := always _ system 0 _ 0 _ _ positioned.reached positioned.registered
    positioned.accepted positioned.unanswered positioned.readAltitude positioned.readGroundspeed
  have survives := (stored_nearest_iff readAltitude).mp
    ((Server.report_of_accepted positioned.accepted positioned.unanswered).1.symm.trans
      reports.stored.1)
  unfold SurvivesNarrowing IsInt32 IsInt64 at survives
  omega

end Fsd
end OpenFsd
