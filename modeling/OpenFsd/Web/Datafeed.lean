import OpenFsd.Fsd.Alterations
import OpenFsd.Fsd.Callsigns
import OpenFsd.Fsd.OnlineUsers
import OpenFsd.Fsd.Records
import OpenFsd.Fsd.Session

namespace OpenFsd
namespace Web

open Db Fsd Transition

/-!
# The datafeed

The web server makes its feed out of the online users of the FSD server.  The
encoding of the feed, its tag and its cache are left out: a feed that is made
has got through the decoder.

`run_feed_survives_iff` says for which runs of the FSD server the feed can be
made in every state, with an entry for each registered client.  One client
with a coordinate that is not finite stops the feed for everybody.
-/

structure DatafeedGeneral where
  version : Int
  updateTimestamp : Time
  connectedClients : Int
  uniqueUsers : Int

structure DatafeedPilot (F : Type) extends OnlineUserPilot F where
  server : Bytes
  pilotRating : Int
  militaryRating : Int
  qnhIHg : F
  qnhMb : Int

structure DatafeedATC (F : Type) extends OnlineUserATC F where
  server : Bytes
  textATIS : List Bytes

structure Datafeed (F : Type) where
  general : DatafeedGeneral
  pilots : List (DatafeedPilot F)
  atc : List (DatafeedATC F)

variable {F : Type} [GoFloat F]

def datafeed (now : Time) (onlineUsers : OnlineUsersResponseData F) : Datafeed F where
  general :=
    { version := 3
      updateTimestamp := now
      connectedClients := onlineUsers.pilots.length + onlineUsers.atc.length
      uniqueUsers := onlineUsers.pilots.length + onlineUsers.atc.length }
  pilots := onlineUsers.pilots.map fun pilot =>
    { pilot with
      server := bytes "OPENFSD"
      pilotRating := 1
      militaryRating := 1
      qnhIHg := GoFloat.ofRat 29.92
      qnhMb := 1013 }
  atc := onlineUsers.atc.map fun atc =>
    { atc with
      server := bytes "OPENFSD"
      textATIS := [] }

/-- `generateDatafeed`, on the response of the FSD server.  The decoder fails
at the end of an empty body. -/
def generateDatafeed (now : Time) (response : ServiceResponse F) : Option (Datafeed F) :=
  if response.status ≠ 200 then none
  else (response.body.bind decodeOnlineUsers).map (datafeed now)

/-! ## What the feed is for -/

/-- The record says who the client is and where it is. -/
structure Represents (client : Client F) (data : OnlineUserGeneralData F) : Prop where
  callsign : data.callsign = client.callsign
  cid : data.cid = client.cid
  networkRating : data.networkRating = client.networkRating
  maxNetworkRating : data.maxNetworkRating = client.maxNetworkRating
  position : (data.latitude, data.longitude) = client.coords

/-- The records are those of the registered clients of one login type, one for
each of them. -/
def ListsEach (s : Server F) (isAtc : Bool) (records : List (OnlineUserGeneralData F)) : Prop :=
  Exists fun ids : List SessionId => ids.Nodup ∧
    (forall id, id ∈ ids ↔ s.Registered id ∧ (s.clients id).isAtc = isAtc) ∧
      List.Forall₂ (fun id data => Represents (s.clients id) data) ids records

/-- The feed lists every registered client once, in the place of its login type. -/
structure Complete (s : Server F) (feed : Datafeed F) : Prop where
  pilots : ListsEach s false (feed.pilots.map fun pilot => pilot.toOnlineUserGeneralData)
  atc : ListsEach s true (feed.atc.map fun atc => atc.toOnlineUserGeneralData)

/-- In whatever order the clients are visited, the feed can be made, and it is
complete. -/
def FeedSurvives (s : Server F) : Prop :=
  forall (order : List SessionId) (now : Time), order.Perm s.registeredClients ->
    Exists fun feed => generateDatafeed now (handleGetOnlineUsers s order) = some feed ∧
      Complete s feed

/-! ## One state -/

omit [GoFloat F] in
theorem represents_generalData {client : Client F} (valid : ValidCallsign client.callsign) :
    Represents client (generalData client).read where
  callsign := toValidUTF8_of_ascii fun _ => valid.ascii
  cid := rfl
  networkRating := rfl
  maxNetworkRating := rfl
  position := rfl

omit [GoFloat F] in
theorem listsEach_filter {s : Server F} (indexed : s.Indexed)
    (valid : forall id, s.Registered id -> ValidCallsign (s.clients id).callsign)
    {order : List SessionId} (listed : order.Perm s.registeredClients) (isAtc : Bool) :
    ListsEach s isAtc ((order.filter fun id => (s.clients id).isAtc == isAtc).map fun id =>
      (generalData (s.clients id)).read) := by
  have registered : forall id, id ∈ order ↔ s.Registered id := fun id =>
    listed.mem_iff.trans (Server.mem_registeredClients indexed)
  refine ⟨order.filter fun id => (s.clients id).isAtc == isAtc, ?_, ?_, ?_⟩
  · exact (listed.nodup_iff.mpr (Server.nodup_registeredClients indexed)).filter _
  · intro id
    rw [List.mem_filter, registered, beq_iff_eq]
  · rw [List.forall₂_map_right_iff, List.forall₂_same]
    intro id member
    exact represents_generalData (valid id ((registered id).mp (List.mem_of_mem_filter member)))

/-- The feed of one state can be made exactly if every registered client has
finite coordinates. -/
theorem feedSurvives_iff {s : Server F} (indexed : s.Indexed)
    (valid : forall id, s.Registered id -> ValidCallsign (s.clients id).callsign) :
    FeedSurvives s ↔ forall id, s.Registered id -> FiniteCoords (s.clients id).coords := by
  constructor
  · intro survives id registered
    rcases survives s.registeredClients 0 (List.Perm.refl _) with ⟨feed, made, _⟩
    rcases Option.map_eq_some_iff.mp made with ⟨onlineUsers, decoded, _⟩
    rcases Option.bind_eq_some_iff.mp decoded with ⟨json, body, _⟩
    have written : (handleGetOnlineUsers s s.registeredClients).body.isSome = true := by
      rw [body]
      rfl
    exact (body_isSome_iff s _).mp written id ((Server.mem_registeredClients indexed).mpr registered)
  · intro finite order now listed
    have written : (handleGetOnlineUsers s order).body.isSome = true := by
      rw [body_isSome_iff]
      intro id member
      exact finite id ((Server.mem_registeredClients indexed).mp (listed.mem_iff.mp member))
    rcases Option.isSome_iff_exists.mp written with ⟨json, body⟩
    have decoded := decodeOnlineUsers_of_encoded body
    have made : generateDatafeed now (handleGetOnlineUsers s order) = some (datafeed now
        ⟨(onlineUsers s order).pilots.map OnlineUserPilot.read,
          (onlineUsers s order).atc.map OnlineUserATC.read⟩) := by
      unfold generateDatafeed
      rw [if_neg (by simp [handleGetOnlineUsers]), body, Option.bind_some, decoded, Option.map_some]
    refine ⟨_, made, ?_, ?_⟩
    · have listing := listsEach_filter indexed valid listed false
      simpa [datafeed, onlineUsers_eq, OnlineUserPilot.read, onlineUserPilot, Function.comp_def]
        using listing
    · have listing := listsEach_filter indexed valid listed true
      simpa [datafeed, onlineUsers_eq, OnlineUserATC.read, onlineUserATC, Function.comp_def]
        using listing

/-! ## Whole runs -/

variable {P : Platform} {heap : SessionId -> Client F}

/-- A step stores no position but a finite one. -/
def StoresFinite (system : System F) : Action -> Prop
  | .packet _ id packet =>
      system.server.Registered id ->
      forall packetType, verifyPacket packet (system.server.clients id).callsign =
        .accepted packetType ->
      forall center visRange, storedPosition (system.server.clients id) packet =
        some (center, visRange) -> FiniteCoords center
  | _ => True

/-- Every registered client has finite coordinates. -/
def AllFinite (s : Server F) : Prop :=
  forall id, s.Registered id -> FiniteCoords (s.clients id).coords

/-- A step keeps to finite coordinates exactly if it stores none but those. -/
theorem storesFinite_keeps (zero : GoFloat.isFinite (GoFloat.ofRat 0 : F) = true) :
    System.Keeps P (StoresFinite (F := F)) fun client => FiniteCoords client.coords where
  fresh := by
    intro env database idLine addLine client loggedIn
    rcases login_fresh loggedIn with ⟨data, _, _, _, _, same⟩
    rw [same]
    exact ⟨zero, zero⟩
  cancelled := fun _ _ finite => finite
  elsewhere := by
    intro system action noPacket
    cases action with
    | packet now id packet => exact absurd rfl (noPacket now id packet)
    | _ => exact True.intro
  unregistered := fun _ _ _ _ absent registered => absurd registered absent
  turn := by
    intro system finite now id packet registered
    constructor
    · intro stores other registeredOther
      have before := (system.server.registered_processPacket P.md5 now id packet).mp registeredOther
      rcases system.server.coords_processPacket P.md5 now id other packet with
        kept | ⟨own, packetType, visRange, accepted, stored⟩
      · rw [kept]
        exact finite other before
      · exact stores registered packetType accepted _ visRange stored
    · intro keeps _ packetType accepted center visRange stored
      have after := keeps id
        ((system.server.registered_processPacket P.md5 now id packet).mpr registered)
      dsimp only at after
      rw [system.server.coords_of_accepted P.md5 now accepted stored] at after
      exact after

theorem feedSurvives_of_reaches {system : System F}
    (reached : Reaches (System.step P) (System.start heap) system) :
    FeedSurvives system.server ↔ AllFinite system.server := by
  have wellFormed := System.wellFormed_of_reaches reached
  apply feedSurvives_iff
  · exact fun callsign id found => (wellFormed.mapped callsign id found).1
  · intro id registered
    exact (System.callsign_of_find reached registered).2

/-- In every state of a run the feed can be made, with an entry for each
registered client, exactly if no step of the run stores a coordinate that is
not finite. -/
theorem run_feed_survives_iff (zero : GoFloat.isFinite (GoFloat.ofRat 0 : F) = true)
    (actions : List Action) :
    (forall system, Visits (System.step P) (System.start heap) actions system ->
      FeedSurvives system.server) ↔
        Along (System.step P) StoresFinite (System.start heap) actions := by
  rw [← (storesFinite_keeps zero).run]
  apply forall₂_congr
  rintro system ⟨before, _, executed⟩
  exact feedSurvives_of_reaches ⟨before, executed⟩

/-- The position report of a pilot. -/
def somewhere : Bytes :=
  bytes "@N:N172SP:1200:1:51.5:-0.25:1000:90:0:0" ++ crlf

theorem storedPosition_somewhere (client : Client RealOrNaN) :
    storedPosition client somewhere =
      some ((RealOrNaN.real (103 / 2 : Rat), RealOrNaN.real (-1 / 4 : Rat)), pilotVisRange) := by
  have latitude : (GoFloat.parseFloat (getField somewhere 4) : Option RealOrNaN) =
      some (RealOrNaN.real (103 / 2 : Rat)) :=
    RealOrNaN.parseFloat_of_decimal (by decide +kernel) (by decide +kernel)
  have longitude : (GoFloat.parseFloat (getField somewhere 5) : Option RealOrNaN) =
      some (RealOrNaN.real (-1 / 4 : Rat)) :=
    RealOrNaN.parseFloat_of_decimal (by decide +kernel) (by decide +kernel)
  have typed : getPacketType somewhere = .pilotPosition := by decide +kernel
  unfold storedPosition
  rw [typed]
  dsimp only
  unfold storedPilotPosition parseLatLon
  rw [latitude, longitude]
  rfl

/-- A controller and a pilot log in, and the pilot reports its position. -/
theorem run_feed_survives_iff_sample : Exists fun system : System RealOrNaN =>
    run (System.step Symbolic.platform) (System.start fun _ => newClient [] sampleData)
        [.connect sampleLogin Symbolic.database sampleIdLine sampleAddLine,
          .connect sampleLogin Symbolic.database pilotIdLine pilotAddLine,
          .packet 0 1 somewhere] = some system ∧
      system.server.Registered 0 ∧ system.server.Registered 1 ∧
      (system.server.clients 1).coords =
        (RealOrNaN.real (103 / 2 : Rat), RealOrNaN.real (-1 / 4 : Rat)) ∧
      FeedSurvives system.server := by
  let heap : SessionId -> Client RealOrNaN := fun _ => newClient [] sampleData
  have both : Exists fun system => Crew heap
      (.connect sampleLogin Symbolic.database sampleIdLine sampleAddLine)
      (.connect sampleLogin Symbolic.database pilotIdLine pilotAddLine)
      ⟨bytes "LON_CTR", true, 12, 100, false⟩ ⟨bytes "N172SP", false, 1, 101, false⟩ system :=
    exists_crew heap (by decide +kernel) (by decide +kernel) (by decide)
  rcases both with ⟨system, crew⟩
  have accepted : verifyPacket somewhere (system.server.clients 1).callsign =
      .accepted .pilotPosition := by
    rw [crew.callsignOther]
    decide +kernel
  let reported : System RealOrNaN := { system with
    server := system.server.processPacket Symbolic.platform.md5 0 1 somewhere }
  have taken : System.step Symbolic.platform system (.packet 0 1 somewhere) = some reported :=
    if_pos crew.registeredOther
  have executed : run (System.step Symbolic.platform) (System.start heap)
      ([.connect sampleLogin Symbolic.database sampleIdLine sampleAddLine,
        .connect sampleLogin Symbolic.database pilotIdLine pilotAddLine] ++
          [.packet 0 1 somewhere]) = some reported := by
    rw [run_append, crew.executed]
    exact run_cons_of_step taken []
  have finite : Along (System.step Symbolic.platform) StoresFinite (System.start heap)
      ([.connect sampleLogin Symbolic.database sampleIdLine sampleAddLine,
        .connect sampleLogin Symbolic.database pilotIdLine pilotAddLine] ++
          [.packet 0 1 somewhere]) := by
    refine ⟨True.intro, fun _ _ => ⟨True.intro, fun _ _ => ⟨?_, fun _ _ => True.intro⟩⟩⟩
    intro _ _ _ center visRange stored
    rw [storedPosition_somewhere] at stored
    cases stored
    exact ⟨rfl, rfl⟩
  refine ⟨reported, executed, ?_, ?_, ?_, ?_⟩
  · exact (system.server.registered_processPacket _ 0 1 somewhere).mpr crew.registered
  · exact (system.server.registered_processPacket _ 0 1 somewhere).mpr crew.registeredOther
  · exact system.server.coords_of_accepted _ 0 accepted (storedPosition_somewhere _)
  · exact (run_feed_survives_iff rfl _).mpr finite reported ⟨_, List.prefix_refl _, executed⟩

/-- A position whose latitude is spelled `NaN`. -/
def nowhere : Bytes :=
  bytes "%LON_CTR:22800:5:100:12:NaN:0:0" ++ crlf

/-- The position is stored, and it is not finite. -/
theorem storedPosition_nowhere {client : Client RealOrNaN} (networkRating : client.networkRating = 12) :
    Exists fun center => Exists fun visRange =>
      storedPosition client nowhere = some (center, visRange) ∧ ¬ FiniteCoords center := by
  have latitude : (GoFloat.parseFloat (getField nowhere 5) : Option RealOrNaN) = some none :=
    if_pos (by decide +kernel)
  have longitude : (GoFloat.parseFloat (getField nowhere 6) : Option RealOrNaN) =
      some (RealOrNaN.real (0 : Rat)) :=
    RealOrNaN.parseFloat_of_decimal (by decide +kernel) (by decide +kernel)
  have range : (GoFloat.parseFloat (getField nowhere 3) : Option RealOrNaN) =
      some (RealOrNaN.real (100 : Rat)) :=
    RealOrNaN.parseFloat_of_decimal (by decide +kernel) (by decide +kernel)
  have typed : getPacketType nowhere = .atcPosition := by decide +kernel
  have placed : storedFacility client nowhere = some 5 := by
    unfold storedFacility
    rw [networkRating]
    decide +kernel
  have parsed : (parseLatLon nowhere 5 6 : Option (RealOrNaN × RealOrNaN)) =
      some (none, some ((0 : Rat) : Real)) := by
    unfold parseLatLon
    rw [latitude, longitude]
    rfl
  have ranged : Exists fun visRange : RealOrNaN => parseVisRange nowhere 3 = some visRange := by
    unfold parseVisRange
    rw [range]
    exact ⟨_, rfl⟩
  rcases ranged with ⟨visRange, ranged⟩
  refine ⟨(none, some ((0 : Rat) : Real)), visRange, ?_, ?_⟩
  · unfold storedPosition
    rw [typed]
    dsimp only
    unfold storedAtcPosition
    rw [placed, parsed, ranged]
    rfl
  · intro finite
    exact absurd finite.1 (by simp [GoFloat.isFinite])

/-- One client at this position, and there is no feed. -/
theorem feed_fails_nowhere : ¬ forall (heap : SessionId -> Client RealOrNaN)
    (system : System RealOrNaN),
    Reaches (System.step Symbolic.platform) (System.start heap) system ->
      FeedSurvives system.server := by
  intro always
  let heap : SessionId -> Client RealOrNaN := fun _ => newClient [] sampleData
  have read : ((login Symbolic.platform sampleLogin Symbolic.database sampleIdLine sampleAddLine :
      LoginResult (Client RealOrNaN)).toOption.map fun client =>
        (client.callsign, client.isAtc, client.networkRating)) =
          some (bytes "LON_CTR", true, 12) := by
    decide +kernel
  rcases exists_registered heap read with
    ⟨server, connected, callsign, _, networkRating, registered⟩
  have accepted : verifyPacket nowhere (server.clients 0).callsign = .accepted .atcPosition := by
    rw [callsign]
    decide +kernel
  rcases storedPosition_nowhere networkRating with ⟨center, visRange, stored, infinite⟩
  have entered : System.step Symbolic.platform (System.start heap)
      (.connect sampleLogin Symbolic.database sampleIdLine sampleAddLine) = some ⟨server, 1⟩ := by
    dsimp only [System.step]
    rw [show (System.start heap).allocated = 0 from rfl, connected]
  have positioned : System.step Symbolic.platform ⟨server, 1⟩ (.packet 0 0 nowhere) =
      some ⟨server.processPacket Symbolic.platform.md5 0 0 nowhere, 1⟩ := if_pos registered
  have reached := (Reaches.single entered).tail positioned
  have finite := (feedSurvives_of_reaches reached).mp (always heap _ reached) 0
    ((server.registered_processPacket _ 0 0 nowhere).mpr registered)
  rw [server.coords_of_accepted _ 0 accepted stored] at finite
  exact infinite finite

end Web
end OpenFsd
