import OpenFsd.Web.Datafeed
import OpenFsd.Web.FsdConn
import OpenFsd.Web.Lifetime

namespace OpenFsd
namespace Web

open Db Fsd Transition

/-!
# The cache of the feed

Every fifteen seconds `runDatafeedWorker` fetches the online users of the FSD
server and stores a feed, and a request for the feed is served from the store.
The dashboard of `dashboard.js` polls the feed, and keeps its markers when it
gets none.  So what a visitor sees has been copied twice.

The FSD server goes on working between the copies.  `Site` has the three
together.  What the store holds is a function of the last refresh of the run,
and what the dashboard shows is a function of the last refresh before its last
poll.  Both are applications of `shows_lastWrite`.
-/

/-! ## The store -/

/-- `DatafeedCache`, with a document in place of its text.  The tag is computed
and never sent, and is left out. -/
structure DatafeedCache (F : Type) where
  json : Json F
  lastUpdated : Time

/-- What a tick of the worker meets outside the program.  The online users are
visited in some order, and the clock is read again once they have arrived. -/
structure Tick where
  env : Env
  call : CallEnv
  database : Database
  order : List SessionId
  arrived : Time

/-- A response of `getDatafeed`. -/
structure FeedResponse (F : Type) where
  status : Nat
  maxAge : Option Int
  body : Option (Json F)

section Store

variable {F : Type} [GoFloat F]

def encodeDatafeedGeneral (general : DatafeedGeneral) : Option (Json F) :=
  Json.ofStruct
    [(bytes "version", Json.ofInt general.version),
     (bytes "update_timestamp", Json.ofTime general.updateTimestamp),
     (bytes "connected_clients", Json.ofInt general.connectedClients),
     (bytes "unique_users", Json.ofInt general.uniqueUsers)]

/-- The fields of the embedded record come first.  No pilot has a flight plan, and
the field is left out where there is none. -/
def encodeDatafeedPilot (pilot : DatafeedPilot F) : Option (Json F) :=
  Json.ofStruct (generalFields pilot.toOnlineUserGeneralData ++
    [(bytes "altitude", Json.ofInt pilot.altitude),
     (bytes "groundspeed", Json.ofInt pilot.groundspeed),
     (bytes "heading", Json.ofInt pilot.heading),
     (bytes "transponder", Json.ofString pilot.transponder),
     (bytes "server", Json.ofString pilot.server),
     (bytes "pilot_rating", Json.ofInt pilot.pilotRating),
     (bytes "military_rating", Json.ofInt pilot.militaryRating),
     (bytes "qnh_i_hg", Json.ofFloat pilot.qnhIHg),
     (bytes "qnh_mb", Json.ofInt pilot.qnhMb)])

def encodeDatafeedATC (atc : DatafeedATC F) : Option (Json F) :=
  Json.ofStruct (generalFields atc.toOnlineUserGeneralData ++
    [(bytes "frequency", Json.ofString atc.frequency),
     (bytes "facility", Json.ofInt atc.facility),
     (bytes "visual_range", Json.ofInt atc.visRange),
     (bytes "server", Json.ofString atc.server),
     (bytes "text_atis", Json.ofSlice Json.ofString atc.textATIS)])

def encodeDatafeed (feed : Datafeed F) : Option (Json F) :=
  Json.ofStruct
    [(bytes "general", encodeDatafeedGeneral feed.general),
     (bytes "pilots", Json.ofSlice encodeDatafeedPilot feed.pilots),
     (bytes "controllers", Json.ofSlice encodeDatafeedATC feed.atc)]

/-- `GET /online_users` -/
def getOnlineUsers (P : Platform) (env : ServiceEnv) (s : Server F) (authorization : Bytes)
    (order : List SessionId) : ServiceResponse F :=
  match authMiddleware P env authorization with
  | some status => ⟨status, none⟩
  | none => handleGetOnlineUsers s order

/-- All of `generateDatafeed`: the request, the feed, and the encoder. -/
def makeDatafeed (P : Platform) (s : Server F) (tick : Tick) : Option (DatafeedCache F) :=
  match makeFsdHttpServiceHttpRequest P tick.env tick.call.newRequestFails tick.database with
  | none => none
  | some authorization =>
      match tick.call.exchange with
      | .failed _ => none
      | .answered =>
          match generateDatafeed tick.arrived
              (getOnlineUsers P tick.call.service s authorization tick.order) with
          | none => none
          | some feed => (encodeDatafeed feed).map fun json => ⟨json, tick.arrived⟩

def updateDataFeedCache (P : Platform) (s : Server F) (tick : Tick)
    (cache : Option (DatafeedCache F)) : Option (DatafeedCache F) :=
  match makeDatafeed P s tick with
  | none => cache
  | some feed => some feed

/-- The times are in seconds, and so is the age. -/
def getDatafeed (now : Time) : Option (DatafeedCache F) -> FeedResponse F
  | none => ⟨500, none, none⟩
  | some feed =>
      let timeUntilInvalid := feed.lastUpdated - now
      ⟨200, if 0 < timeUntilInvalid then some (timeUntilInvalid + 1) else none, some feed.json⟩

/-! ## The dashboard -/

/-- A marker of the map, and the name in its popup. -/
structure Marker (F : Type) where
  title : Bytes
  latitude : F
  longitude : F
  rotationAngle : Int
  name : Bytes

def markerOf (pilot : Json F) : Option (Marker F) := do
  return {
    title := ← pilot.field (bytes "callsign") Json.toString []
    latitude := ← pilot.field (bytes "latitude") Json.toFloat (GoFloat.ofRat 0)
    longitude := ← pilot.field (bytes "longitude") Json.toFloat (GoFloat.ofRat 0)
    rotationAngle := ← pilot.field (bytes "heading") Json.toInt 0
    name := ← pilot.field (bytes "name") Json.toString [] }

/-- `populateMap`: the markers after a poll.  The old ones are removed once a
document has arrived. -/
def populateMap (response : FeedResponse F) (dashboardMarkers : List (Marker F)) :
    List (Marker F) :=
  match response.body with
  | none => dashboardMarkers
  | some res => (res.field (bytes "pilots") (Json.toSlice markerOf) []).getD []

end Store

/-! ## The site -/

/-- The FSD server, the store of the web server, and the markers of a dashboard. -/
structure Site (F : Type) where
  fsd : System F
  cache : Option (DatafeedCache F)
  markers : List (Marker F)

inductive SiteAction
  | fsd (action : Action)
  | tick (tick : Tick)
  | poll (now : Time)

namespace Site

variable {F : Type} [GoFloat F]

def start (heap : SessionId -> Client F) : Site F :=
  ⟨System.start heap, none, []⟩

def step (P : Platform) (site : Site F) : SiteAction -> Option (Site F)
  | .fsd action => (System.step P site.fsd action).map fun fsd => { site with fsd := fsd }
  | .tick tick =>
      some { site with cache := updateDataFeedCache P site.fsd.server tick site.cache }
  | .poll now =>
      some { site with markers := populateMap (getDatafeed now site.cache) site.markers }

end Site

/-! ## What the copies are for -/

section Purpose

variable {F : Type} [GoFloat F]

/-- The request of the tick reaches the service, which lets it through. -/
structure Connected (P : Platform) (tick : Tick) : Prop where
  authorized : Exists fun authorization =>
    CanCall P tick.env tick.call tick.database authorization ∧
      ServiceAuthorized P tick.call.service authorization
  answered : tick.call.exchange = .answered

/-- The tick replaces the feed: the service is there, and no registered client is
at a place that JSON cannot write. -/
structure Refreshes (P : Platform) (site : Site F) (tick : Tick) : Prop where
  connected : Connected P tick
  finite : AllFinite site.fsd.server

open Classical in
/-- The FSD server that a refresh copies, with the time of the copy. -/
noncomputable def Site.refresh (P : Platform) (site : Site F) : SiteAction -> Option (Server F × Time)
  | .tick tick => if Refreshes P site tick then some (site.fsd.server, tick.arrived) else none
  | _ => none

/-- The response is made out of this refresh. -/
def ServesRefresh (now : Time) : Option (Server F × Time) -> FeedResponse F -> Prop
  | none, response => response = ⟨500, none, none⟩
  | some (s, arrived), response => Exists fun feed => Exists fun json =>
      Complete s feed ∧ feed.general.updateTimestamp = arrived ∧ encodeDatafeed feed = some json ∧
        response = ⟨200, if now < arrived then some (arrived - now + 1) else none, some json⟩

/-- The marker is at the place of the client. -/
structure Marks (client : Client F) (marker : Marker F) : Prop where
  title : marker.title = client.callsign
  position : (marker.latitude, marker.longitude) = client.coords
  rotationAngle : marker.rotationAngle = client.heading

/-- The markers are those of the registered pilots, one for each of them. -/
def MarksPilots (s : Server F) (markers : List (Marker F)) : Prop :=
  Exists fun ids : List SessionId => ids.Nodup ∧
    (forall id, id ∈ ids ↔ s.Registered id ∧ (s.clients id).isAtc = false) ∧
      List.Forall₂ (fun id marker => Marks (s.clients id) marker) ids markers

/-- The store is a copy of the server. -/
structure Copies (s : Server F) (arrived : Time) (cache : DatafeedCache F) : Prop where
  lastUpdated : cache.lastUpdated = arrived
  feed : Exists fun feed => Complete s feed ∧ feed.general.updateTimestamp = arrived ∧
    encodeDatafeed feed = some cache.json
  pilots : Exists fun markers =>
    cache.json.field (bytes "pilots") (Json.toSlice markerOf) [] = some markers ∧
      MarksPilots s markers

end Purpose

/-! ## The document -/

section Document

variable {F : Type} [GoFloat F]

theorem encodeDatafeedPilot_isSome (qnh : GoFloat.isFinite (GoFloat.ofRat 29.92 : F) = true)
    {pilot : DatafeedPilot F} (placed : pilot.qnhIHg = GoFloat.ofRat 29.92)
    (finite : FiniteCoords (pilot.latitude, pilot.longitude)) :
    (encodeDatafeedPilot pilot).isSome = true := by
  unfold encodeDatafeedPilot generalFields Json.ofFloat
  rw [placed, if_pos qnh, if_pos finite.1, if_pos finite.2]
  rfl

theorem encodeDatafeedATC_isSome {atc : DatafeedATC F} (silent : atc.textATIS = [])
    (finite : FiniteCoords (atc.latitude, atc.longitude)) :
    (encodeDatafeedATC atc).isSome = true := by
  unfold encodeDatafeedATC generalFields Json.ofFloat
  rw [silent, if_pos finite.1, if_pos finite.2]
  rfl

/-- What `markerOf` finds in the entry of a pilot. -/
def markerFor (pilot : DatafeedPilot F) : Marker F :=
  ⟨toValidUTF8 pilot.callsign, pilot.latitude, pilot.longitude, pilot.heading,
    toValidUTF8 pilot.name⟩

theorem markerOf_of_encoded {pilot : DatafeedPilot F} {json : Json F}
    (written : encodeDatafeedPilot pilot = some json) : markerOf json = some (markerFor pilot) := by
  unfold encodeDatafeedPilot generalFields at written
  cases latitude : (Json.ofFloat pilot.latitude : Option (Json F)) with
  | none =>
      rw [latitude] at written
      cases written
  | some first =>
      cases longitude : (Json.ofFloat pilot.longitude : Option (Json F)) with
      | none =>
          rw [latitude, longitude] at written
          cases written
      | some second =>
          cases pressure : (Json.ofFloat pilot.qnhIHg : Option (Json F)) with
          | none =>
              rw [latitude, longitude, pressure] at written
              cases written
          | some third =>
              rw [latitude, longitude, pressure] at written
              rw [← Option.some.inj written]
              unfold Json.ofFloat at latitude longitude
              rw [Option.ite_none_right_eq_some] at latitude longitude
              rw [← Option.some.inj latitude.2, ← Option.some.inj longitude.2]
              rfl

/-- A feed whose records can be written is written, and its pilots can be read. -/
theorem exists_encodeDatafeed {feed : Datafeed F}
    (pilots : forall pilot, pilot ∈ feed.pilots -> (encodeDatafeedPilot pilot).isSome = true)
    (atc : forall entry, entry ∈ feed.atc -> (encodeDatafeedATC entry).isSome = true) :
    Exists fun json => encodeDatafeed feed = some json ∧
      json.field (bytes "pilots") (Json.toSlice markerOf) [] = some (feed.pilots.map markerFor) := by
  rcases Option.isSome_iff_exists.mp (Json.ofSlice_isSome.mpr pilots) with ⟨pilotsJson, first⟩
  rcases Option.isSome_iff_exists.mp (Json.ofSlice_isSome.mpr atc) with ⟨atcJson, second⟩
  have general : Exists fun json : Json F => encodeDatafeedGeneral feed.general = some json :=
    ⟨_, rfl⟩
  rcases general with ⟨generalJson, third⟩
  have read := Json.toSlice_ofSlice (fun _ _ => markerOf_of_encoded) first
  unfold encodeDatafeed
  rw [first, second, third]
  exact ⟨_, rfl, read⟩

end Document

/-! ## One tick -/

section OneTick

variable {F : Type} [GoFloat F] {P : Platform} {s : Server F} {tick : Tick}

theorem authMiddleware_eq_none_iff {env : ServiceEnv} {authorization : Bytes} :
    authMiddleware P env authorization = none ↔ ServiceAuthorized P env authorization := by
  constructor
  · intro passed
    rcases authMiddleware_cases P env authorization with ⟨_, authorized⟩ | ⟨status, aborted, _⟩
    · exact authorized
    · cases passed.symm.trans aborted
  · rintro ⟨claims, bearer, typed, high⟩
    rcases bearerToken_iff.mp bearer with ⟨token, secret, cut, read, parsed⟩
    unfold authMiddleware
    rw [cut, read]
    simp [parsed, typed, Int.not_lt.mpr high]

theorem getOnlineUsers_of_authorized {env : ServiceEnv} {authorization : Bytes}
    (authorized : ServiceAuthorized P env authorization) (s : Server F) (order : List SessionId) :
    getOnlineUsers P env s authorization order = handleGetOnlineUsers s order := by
  unfold getOnlineUsers
  rw [authMiddleware_eq_none_iff.mpr authorized]

/-- What is decoded of a server whose clients all have finite coordinates. -/
def copyOf (s : Server F) (order : List SessionId) : OnlineUsersResponseData F :=
  ⟨(onlineUsers s order).pilots.map OnlineUserPilot.read,
    (onlineUsers s order).atc.map OnlineUserATC.read⟩

theorem generateDatafeed_listed (arrived : Time) (order : List SessionId) :
    generateDatafeed arrived (handleGetOnlineUsers s order) =
      ((handleGetOnlineUsers s order).body.bind decodeOnlineUsers).map (datafeed arrived) :=
  rfl

theorem generateDatafeed_of_finite {order : List SessionId} (arrived : Time)
    (finite : forall id, id ∈ order -> FiniteCoords (s.clients id).coords) :
    generateDatafeed arrived (handleGetOnlineUsers s order) =
      some (datafeed arrived (copyOf s order)) := by
  rcases Option.isSome_iff_exists.mp ((body_isSome_iff s order).mpr finite) with ⟨json, body⟩
  have decoded := decodeOnlineUsers_of_encoded body
  rw [generateDatafeed_listed, body, Option.bind_some, decoded]
  rfl

theorem complete_copyOf (indexed : s.Indexed)
    (valid : forall id, s.Registered id -> ValidCallsign (s.clients id).callsign)
    {order : List SessionId} (listed : order.Perm s.registeredClients) (arrived : Time) :
    Complete s (datafeed arrived (copyOf s order)) := by
  constructor
  · have listing := listsEach_filter indexed valid listed false
    simpa [copyOf, datafeed, onlineUsers_eq, OnlineUserPilot.read, onlineUserPilot,
      Function.comp_def] using listing
  · have listing := listsEach_filter indexed valid listed true
    simpa [copyOf, datafeed, onlineUsers_eq, OnlineUserATC.read, onlineUserATC,
      Function.comp_def] using listing

theorem marksPilots_copyOf (indexed : s.Indexed)
    (valid : forall id, s.Registered id -> ValidCallsign (s.clients id).callsign)
    {order : List SessionId} (listed : order.Perm s.registeredClients) (arrived : Time) :
    MarksPilots s ((datafeed arrived (copyOf s order)).pilots.map markerFor) := by
  have registered : forall id, id ∈ order ↔ s.Registered id := fun id =>
    listed.mem_iff.trans (Server.mem_registeredClients indexed)
  have same : (datafeed arrived (copyOf s order)).pilots.map markerFor =
      (order.filter fun id => !(s.clients id).isAtc).map fun id =>
        ⟨toValidUTF8 (toValidUTF8 (s.clients id).callsign), (s.clients id).coords.1,
          (s.clients id).coords.2, (s.clients id).heading,
          toValidUTF8 (toValidUTF8 (s.clients id).realName)⟩ := by
    simp [copyOf, datafeed, onlineUsers_eq, OnlineUserPilot.read, OnlineUserGeneralData.read,
      onlineUserPilot, generalData, markerFor, Function.comp_def]
  refine ⟨order.filter fun id => !(s.clients id).isAtc, ?_, ?_, ?_⟩
  · exact (listed.nodup_iff.mpr (Server.nodup_registeredClients indexed)).filter _
  · intro id
    rw [List.mem_filter, registered, Bool.not_eq_true']
  · rw [same, List.forall₂_map_right_iff, List.forall₂_same]
    intro id member
    have spelled : toValidUTF8 (s.clients id).callsign = (s.clients id).callsign :=
      toValidUTF8_of_ascii fun _ =>
        (valid id ((registered id).mp (List.mem_of_mem_filter member))).ascii
    constructor
    · dsimp only
      rw [spelled, spelled]
    · rfl
    · rfl

/-- Once the service has let the request through, the feed is made out of the
server, if this has no coordinate that cannot be written. -/
theorem exists_copies (qnh : GoFloat.isFinite (GoFloat.ofRat 29.92 : F) = true)
    (indexed : s.Indexed)
    (valid : forall id, s.Registered id -> ValidCallsign (s.clients id).callsign)
    (listed : tick.order.Perm s.registeredClients) (connected : Connected P tick)
    (finite : AllFinite s) :
    Exists fun cache => makeDatafeed P s tick = some cache ∧ Copies s tick.arrived cache := by
  have finiteListed : forall id, id ∈ tick.order -> FiniteCoords (s.clients id).coords := by
    intro id member
    exact finite id ((Server.mem_registeredClients indexed).mp (listed.mem_iff.mp member))
  have writable : Exists fun json =>
      encodeDatafeed (datafeed tick.arrived (copyOf s tick.order)) = some json ∧
        json.field (bytes "pilots") (Json.toSlice markerOf) [] =
          some ((datafeed tick.arrived (copyOf s tick.order)).pilots.map markerFor) := by
    apply exists_encodeDatafeed
    · intro pilot member
      simp only [datafeed, copyOf, onlineUsers_eq, List.mem_map, List.mem_filter] at member
      rcases member with ⟨_, ⟨_, ⟨id, ⟨inside, _⟩, rfl⟩, rfl⟩, rfl⟩
      exact encodeDatafeedPilot_isSome qnh rfl (finiteListed id inside)
    · intro entry member
      simp only [datafeed, copyOf, onlineUsers_eq, List.mem_map, List.mem_filter] at member
      rcases member with ⟨_, ⟨_, ⟨id, ⟨inside, _⟩, rfl⟩, rfl⟩, rfl⟩
      exact encodeDatafeedATC_isSome rfl (finiteListed id inside)
  rcases writable with ⟨json, written, read⟩
  rcases connected with ⟨⟨authorization, canCall, authorized⟩, answered⟩
  refine ⟨⟨json, tick.arrived⟩, ?_, rfl, ?_, ?_⟩
  · unfold makeDatafeed
    rw [makeFsdHttpServiceHttpRequest_eq_some.mpr canCall, answered]
    dsimp only
    rw [getOnlineUsers_of_authorized authorized, generateDatafeed_of_finite _ finiteListed]
    dsimp only
    rw [written]
    rfl
  · exact ⟨_, complete_copyOf indexed valid listed tick.arrived, rfl, written⟩
  · exact ⟨_, read, marksPilots_copyOf indexed valid listed tick.arrived⟩

/-- Nothing else makes a feed. -/
theorem refreshes_of_makeDatafeed (indexed : s.Indexed)
    (listed : tick.order.Perm s.registeredClients) {cache : DatafeedCache F}
    (made : makeDatafeed P s tick = some cache) : Connected P tick ∧ AllFinite s := by
  unfold makeDatafeed at made
  cases called : makeFsdHttpServiceHttpRequest P tick.env tick.call.newRequestFails tick.database with
  | none =>
      rw [called] at made
      cases made
  | some authorization =>
      cases answered : tick.call.exchange with
      | failed delivered =>
          rw [called, answered] at made
          cases made
      | answered =>
          rw [called, answered] at made
          dsimp only at made
          rcases authMiddleware_cases P tick.call.service authorization with
            ⟨_, authorized⟩ | ⟨status, aborted, high⟩
          · refine ⟨⟨⟨authorization, ?_, authorized⟩, answered⟩, ?_⟩
            · exact makeFsdHttpServiceHttpRequest_eq_some.mp called
            · rw [getOnlineUsers_of_authorized authorized] at made
              intro id registered
              by_contra infinite
              have unwritten : (handleGetOnlineUsers s tick.order).body = none := by
                rw [← Option.not_isSome_iff_eq_none, body_isSome_iff]
                intro finite
                exact infinite (finite id (listed.mem_iff.mpr
                  ((Server.mem_registeredClients indexed).mpr registered)))
              rw [generateDatafeed_listed, unwritten] at made
              cases made
          · have refused : generateDatafeed tick.arrived
                (getOnlineUsers P tick.call.service s authorization tick.order) = none := by
              unfold getOnlineUsers
              rw [aborted]
              apply if_pos
              intro same
              have low : status = 200 := same
              omega
            rw [refused] at made
            cases made

end OneTick

/-! ## Whole runs -/

section Runs

variable {F : Type} [GoFloat F] {P : Platform} {heap : SessionId -> Client F}

/-- A tick visits the clients that are registered at the time. -/
def ListsClients (site : Site F) : SiteAction -> Prop
  | .tick tick => tick.order.Perm site.fsd.server.registeredClients
  | _ => True

/-- The store holds a copy of this refresh. -/
def Holds : Option (Server F × Time) -> Site F -> Prop
  | none, site => site.cache = none
  | some (s, arrived), site => Exists fun cache => site.cache = some cache ∧ Copies s arrived cache

/-- The FSD server of the site is in one of its reachable states. -/
def Running (P : Platform) (heap : SessionId -> Client F) (site : Site F) : Prop :=
  Reaches (System.step P) (System.start heap) site.fsd

theorem Running.step {site next : Site F} {action : SiteAction}
    (taken : Site.step P site action = some next) (running : Running P heap site) :
    Running P heap next := by
  cases action with
  | fsd action =>
      rcases Option.map_eq_some_iff.mp taken with ⟨fsd, stepped, same⟩
      rw [← same]
      exact running.tail stepped
  | tick tick =>
      rw [← Option.some.inj taken]
      exact running
  | poll now =>
      rw [← Option.some.inj taken]
      exact running

theorem Running.indexed {site : Site F} (running : Running P heap site) :
    site.fsd.server.Indexed :=
  fun callsign id found => ((System.wellFormed_of_reaches running).mapped callsign id found).1

theorem Running.valid {site : Site F} (running : Running P heap site) {id : SessionId}
    (registered : site.fsd.server.Registered id) :
    ValidCallsign (site.fsd.server.clients id).callsign :=
  (System.callsign_of_find running registered).2

theorem Site.refresh_tick (site : Site F) {tick : Tick} (refreshes : Refreshes P site tick) :
    site.refresh P (.tick tick) = some (site.fsd.server, tick.arrived) :=
  if_pos refreshes

/-- A refresh stores a copy. -/
theorem holds_of_refresh (qnh : GoFloat.isFinite (GoFloat.ofRat 29.92 : F) = true)
    {site next : Site F} {action : SiteAction} {copied : Server F × Time}
    (taken : Site.step P site action = some next) (lists : ListsClients site action)
    (running : Running P heap site) (refreshed : site.refresh P action = some copied) :
    Holds (some copied) next := by
  cases action with
  | fsd action => cases refreshed
  | poll now => cases refreshed
  | tick tick =>
      unfold Site.refresh at refreshed
      rw [Option.ite_none_right_eq_some] at refreshed
      rcases refreshed with ⟨refreshes, same⟩
      rcases exists_copies qnh running.indexed (fun _ => running.valid) lists refreshes.connected
        refreshes.finite with ⟨cache, made, copies⟩
      rw [← Option.some.inj taken, ← Option.some.inj same]
      refine ⟨cache, ?_, copies⟩
      dsimp only [updateDataFeedCache]
      rw [made]

/-- Every other step leaves the store as it is. -/
theorem cache_of_no_refresh {site next : Site F} {action : SiteAction}
    (taken : Site.step P site action = some next) (lists : ListsClients site action)
    (running : Running P heap site) (kept : site.refresh P action = none) :
    next.cache = site.cache := by
  cases action with
  | fsd action =>
      rcases Option.map_eq_some_iff.mp taken with ⟨fsd, _, same⟩
      rw [← same]
  | poll now => rw [← Option.some.inj taken]
  | tick tick =>
      rw [← Option.some.inj taken]
      cases made : makeDatafeed P site.fsd.server tick with
      | none =>
          dsimp only [updateDataFeedCache]
          rw [made]
      | some cache =>
          rcases refreshes_of_makeDatafeed running.indexed lists made with ⟨connected, finite⟩
          cases kept.symm.trans (site.refresh_tick ⟨connected, finite⟩)

/-- The store holds a copy of the last refresh of the run. -/
theorem holds_lastWrite (qnh : GoFloat.isFinite (GoFloat.ofRat 29.92 : F) = true)
    {actions : List SiteAction} {site : Site F}
    (lists : Along (Site.step P) ListsClients (Site.start heap) actions)
    (executed : run (Site.step P) (Site.start heap) actions = some site) :
    Holds (lastWrite (Site.step P) (Site.refresh P) (Site.start heap) actions) site := by
  have initially : Running P heap (Site.start heap) := Reaches.refl _
  have empty : Holds none (Site.start heap) := rfl
  have kept : forall (site : Site F) action next held, Site.step P site action = some next ->
      ListsClients site action -> Running P heap site -> site.refresh P action = none ->
        Holds held site -> Holds held next := by
    intro site action next held taken lists running kept shown
    have same := cache_of_no_refresh taken lists running kept
    cases held with
    | none => exact same.trans shown
    | some copied =>
        rcases shown with ⟨cache, stored, copies⟩
        exact ⟨cache, same.trans stored, copies⟩
  have preserved : forall (site : Site F) action next, Site.step P site action = some next ->
      ListsClients site action -> Running P heap site -> Running P heap next :=
    fun _ _ _ taken _ running => running.step taken
  have wrote : forall (site : Site F) action next copied, Site.step P site action = some next ->
      ListsClients site action -> Running P heap site -> site.refresh P action = some copied ->
        Holds (some copied) next :=
    fun _ _ _ _ taken lists running refreshed => holds_of_refresh qnh taken lists running refreshed
  have shown : Holds ((lastWrite (Site.step P) (Site.refresh P) (Site.start heap) actions).or none)
      site :=
    shows_lastWrite preserved wrote kept initially lists executed empty
  rw [Option.or_none] at shown
  exact shown

/-- A request for the feed is answered with the last refresh, whatever has happened
on the FSD server since then, and with an error before the first one. -/
theorem feed_is_last_refresh (qnh : GoFloat.isFinite (GoFloat.ofRat 29.92 : F) = true)
    {actions : List SiteAction} {site : Site F}
    (lists : Along (Site.step P) ListsClients (Site.start heap) actions)
    (executed : run (Site.step P) (Site.start heap) actions = some site) (now : Time) :
    ServesRefresh now (lastWrite (Site.step P) (Site.refresh P) (Site.start heap) actions)
      (getDatafeed now site.cache) := by
  have holds := holds_lastWrite qnh lists executed
  cases last : lastWrite (Site.step P) (Site.refresh P) (Site.start heap) actions with
  | none =>
      rw [last] at holds
      have empty : site.cache = none := holds
      rw [empty]
      rfl
  | some copied =>
      rw [last] at holds
      rcases holds with ⟨cache, stored, copies⟩
      rcases copies.feed with ⟨feed, complete, stamped, written⟩
      refine ⟨feed, cache.json, complete, stamped, written, ?_⟩
      rw [stored, ← copies.lastUpdated]
      unfold getDatafeed
      dsimp only
      simp only [Int.sub_pos]

/-- The markers are made out of this refresh. -/
def ShowsRefresh : Option (Server F × Time) -> List (Marker F) -> Prop
  | none, markers => markers = []
  | some (s, _), markers => MarksPilots s markers

/-- The dashboard does not poll. -/
def Unpolled : SiteAction -> Prop
  | .poll _ => False
  | _ => True

theorem markers_of_unpolled {site next : Site F} {action : SiteAction} (unpolled : Unpolled action)
    (taken : Site.step P site action = some next) : next.markers = site.markers := by
  cases action with
  | fsd action =>
      rcases Option.map_eq_some_iff.mp taken with ⟨fsd, _, same⟩
      rw [← same]
  | tick tick => rw [← Option.some.inj taken]
  | poll now => exact absurd unpolled not_false

theorem markers_of_run {actions : List SiteAction} {start site : Site F}
    (unpolled : forall action, action ∈ actions -> Unpolled action)
    (executed : run (Site.step P) start actions = some site) : site.markers = start.markers := by
  induction actions generalizing start with
  | nil =>
      cases executed
      rfl
  | cons action rest inductionHypothesis =>
      cases taken : Site.step P start action with
      | none =>
          rw [run_cons, taken] at executed
          cases executed
      | some next =>
          rw [run_cons_of_step taken] at executed
          have later := inductionHypothesis
            (fun other member => unpolled other (List.mem_cons_of_mem action member)) executed
          exact later.trans (markers_of_unpolled (unpolled action List.mem_cons_self) taken)

/-- As long as the store is empty, the dashboard is. -/
def Unseen (site : Site F) : Prop :=
  site.cache = none -> site.markers = []

theorem Unseen.step {site next : Site F} {action : SiteAction}
    (taken : Site.step P site action = some next) (unseen : Unseen site) : Unseen next := by
  cases action with
  | fsd action =>
      rcases Option.map_eq_some_iff.mp taken with ⟨fsd, _, same⟩
      rw [← same]
      exact unseen
  | tick tick =>
      rw [← Option.some.inj taken]
      intro empty
      dsimp only [updateDataFeedCache] at empty
      cases made : makeDatafeed P site.fsd.server tick with
      | none =>
          rw [made] at empty
          exact unseen empty
      | some cache =>
          rw [made] at empty
          cases empty
  | poll now =>
      rw [← Option.some.inj taken]
      intro empty
      have absent : site.cache = none := empty
      dsimp only
      rw [absent]
      exact unseen absent

/-- The dashboard shows one marker for each pilot of the last refresh before its last
poll, in place, and no other marker. -/
theorem dashboard_is_last_refresh (qnh : GoFloat.isFinite (GoFloat.ofRat 29.92 : F) = true)
    {before after : List SiteAction} {now : Time} {site : Site F}
    (lists : Along (Site.step P) ListsClients (Site.start heap) (before ++ .poll now :: after))
    (executed : run (Site.step P) (Site.start heap) (before ++ .poll now :: after) = some site)
    (unpolled : forall action, action ∈ after -> Unpolled action) :
    ShowsRefresh (lastWrite (Site.step P) (Site.refresh P) (Site.start heap) before)
      site.markers := by
  rw [run_append, Option.bind_eq_some_iff] at executed
  rcases executed with ⟨middle, reached, executed⟩
  have polled : Site.step P middle (.poll now) =
      some { middle with markers := populateMap (getDatafeed now middle.cache) middle.markers } :=
    rfl
  rw [run_cons_of_step polled] at executed
  rw [markers_of_run unpolled executed]
  have holds := holds_lastWrite qnh (along_of_append lists) reached
  cases last : lastWrite (Site.step P) (Site.refresh P) (Site.start heap) before with
  | none =>
      rw [last] at holds
      have empty : middle.cache = none := holds
      have initially : Unseen (Site.start heap) := fun _ => rfl
      have unseen : Unseen middle :=
        invariant_of_reaches (fun _ _ _ taken unseen => Unseen.step taken unseen) initially
          ⟨before, reached⟩
      dsimp only
      rw [empty]
      exact unseen empty
  | some copied =>
      rw [last] at holds
      rcases holds with ⟨cache, stored, copies⟩
      rcases copies.pilots with ⟨markers, read, marks⟩
      have shown : populateMap (getDatafeed now middle.cache) middle.markers = markers := by
        rw [stored]
        unfold populateMap getDatafeed
        dsimp only
        rw [read]
        rfl
      dsimp only
      rw [shown]
      exact marks

end Runs

/-! ## A site that works -/

section Sample

/-- Nothing fails at the tick, both servers read the same key, and the clock of the
service is neither half a minute behind nor a quarter of an hour ahead. -/
structure Healthy (key : Bytes) (tick : Tick) : Prop where
  drawn : Exists fun id => tick.env.uuid 0 = some id
  valid : tick.call.newRequestFails = false
  answered : tick.call.exchange = .answered
  configured : KeyRead tick.env tick.database key
  readable : tick.call.service.getConfigFails = false
  shared : tick.call.service.database.config.lookup configJwtSecretKey = some key
  started : tick.env.now - 30 ≤ tick.call.service.now
  alive : tick.call.service.now < tick.env.now + 15 * 60

theorem connected_of_healthy {P : Platform} (faithful : P.FaithfulTokens)
    (timed : P.FaithfulRegistered) (signs : P.Signs) {key : Bytes} {tick : Tick}
    (healthy : Healthy key tick) : Connected P tick := by
  rcases healthy.drawn with ⟨id, drawn⟩
  have claimed : Exists fun claims =>
      makeJwtToken tick.env.now (tick.env.uuid 0) serviceFields (15 * 60) = some claims ∧
        claims.expiresAt = some (tick.env.now + 15 * 60) ∧
        claims.notBefore = some (tick.env.now - 30) ∧ claims.issuer = jwtIssuer := by
    rw [drawn]
    exact ⟨_, rfl, rfl, rfl, rfl⟩
  rcases claimed with ⟨claims, made, expires, begins, issued⟩
  have fields := makeJwtToken_eq_some made
  rcases signs claims key with ⟨raw, signed, _⟩
  rcases faithful claims key raw signed with ⟨verified, carried, payload, _, type, rating⟩
  rcases timed claims key raw signed with ⟨again, samePayload, carriedExpiry, carriedStart, issuer⟩
  cases payload.symm.trans samePayload
  have valid : claimsValid tick.call.service.now carried = true := by
    unfold claimsValid
    rw [carriedExpiry, expires, carriedStart, begins, issuer, issued]
    have alive := decide_eq_true healthy.alive
    have started := decide_eq_true healthy.started
    dsimp only
    rw [alive, started, decide_eq_true rfl]
    rfl
  have parsed : parseJwtToken P tick.call.service.now raw key = some carried := by
    unfold parseJwtToken
    rw [payload]
    dsimp only
    rw [verified, valid]
    rfl
  refine ⟨⟨bytes "Bearer " ++ raw, ?_, carried, ?_, ?_, ?_⟩, healthy.answered⟩
  · exact .signed key raw healthy.configured ⟨claims, made, signed⟩ healthy.valid rfl
  · exact .verified raw key rfl healthy.readable healthy.shared parsed
  · rw [type, fields]
    rfl
  · rw [rating, fields]
    exact Int.le_refl _

/-- The tick of a site whose two servers read the sample database. -/
def sampleTick (order : List SessionId) : Tick where
  env := sampleEnv
  call := ⟨false, false, .answered, ⟨0, Symbolic.database, false⟩⟩
  database := Symbolic.database
  order := order
  arrived := 0

theorem connected_sampleTick (order : List SessionId) :
    Connected Symbolic.platform (sampleTick order) := by
  have healthy : Healthy (bytes "key") (sampleTick order) :=
    ⟨⟨[], rfl⟩, rfl, rfl, ⟨rfl, rfl⟩, rfl, rfl,
      show (0 : Int) - 30 ≤ 0 by decide, show (0 : Int) < 0 + 15 * 60 by decide⟩
  exact connected_of_healthy Symbolic.platform_faithfulTokens Symbolic.platform_faithfulRegistered
    Symbolic.platform_signs healthy

/-- A pilot logs in, the worker ticks, and the dashboard polls. -/
def sampleFlight (order : List SessionId) : List SiteAction :=
  [.fsd (.connect sampleLogin Symbolic.database sampleIdLine
      (some (bytes "#APN172SP:SERVER:1:secret:1:100:1:Name"))),
    .tick (sampleTick order)]

def sampleSite {F : Type} [GoFloat F] : Site F :=
  Site.start fun _ => newClient [] sampleData

/-- What the samples use of this run. -/
structure Flown (server : Server Real) (order : List SessionId) (site : Site Real) : Prop where
  executed : run (Site.step Symbolic.platform) (sampleSite : Site Real)
    (sampleFlight order) = some site
  lists : Along (Site.step Symbolic.platform) ListsClients
    (sampleSite : Site Real) (sampleFlight order)
  refreshed : lastWrite (Site.step Symbolic.platform) (Site.refresh Symbolic.platform)
    (sampleSite : Site Real) (sampleFlight order) = some (server, 0)
  callsign : (server.clients 0).callsign = bytes "N172SP"
  isAtc : (server.clients 0).isAtc = false
  registered : server.Registered 0

theorem exists_of_forall₂ {A B : Type} {related : A -> B -> Prop} {left : List A} {right : List B}
    (all : List.Forall₂ related left right) {item : A} (member : item ∈ left) :
    Exists fun other => other ∈ right ∧ related item other := by
  induction all with
  | nil => cases member
  | cons head rest inductionHypothesis =>
      rcases List.mem_cons.mp member with rfl | later
      · exact ⟨_, List.mem_cons_self, head⟩
      · rcases inductionHypothesis later with ⟨other, inside, relates⟩
        exact ⟨other, List.mem_cons_of_mem _ inside, relates⟩

theorem exists_flown : Exists fun server => Exists fun order => Exists fun site =>
    Flown server order site := by
  have pilotLine : Exists fun server : Server Real =>
      (System.start fun _ => newClient [] sampleData).server.connect Symbolic.platform sampleLogin
        Symbolic.database 0 sampleIdLine
          (some (bytes "#APN172SP:SERVER:1:secret:1:100:1:Name")) = .ok server ∧
      (server.clients 0).callsign = bytes "N172SP" ∧ (server.clients 0).isAtc = false ∧
        (server.clients 0).networkRating = 1 ∧ server.Registered 0 :=
    exists_registered _ (by decide +kernel)
  rcases pilotLine with ⟨server, connected, callsign, isAtc, _, registered⟩
  have entered : Site.step Symbolic.platform sampleSite
      (.fsd (.connect sampleLogin Symbolic.database sampleIdLine
        (some (bytes "#APN172SP:SERVER:1:secret:1:100:1:Name")))) =
          some ⟨⟨server, 1⟩, none, []⟩ := by
    have stepped := System.step_connect connected
    unfold Site.step
    dsimp only
    rw [show (sampleSite : Site Real).fsd = System.start fun _ => newClient [] sampleData from rfl,
      stepped]
    rfl
  let middle : Site Real := ⟨⟨server, 1⟩, none, []⟩
  let tick := sampleTick server.registeredClients
  have refreshes : Refreshes Symbolic.platform middle tick :=
    ⟨connected_sampleTick _, fun _ _ => ⟨rfl, rfl⟩⟩
  have ticked : Site.step Symbolic.platform middle (.tick tick) =
      some { middle with cache := updateDataFeedCache Symbolic.platform server tick none } := rfl
  refine ⟨server, server.registeredClients,
    { middle with cache := updateDataFeedCache Symbolic.platform server tick none }, ?_, ?_, ?_,
    callsign, isAtc, registered⟩
  · unfold sampleFlight
    rw [run_cons_of_step entered, run_cons_of_step ticked]
    rfl
  · refine ⟨True.intro, fun next taken => ?_⟩
    cases entered.symm.trans taken
    exact ⟨List.Perm.refl _, fun _ _ => True.intro⟩
  · unfold sampleFlight
    rw [lastWrite_cons_of_step entered, lastWrite_cons_of_step ticked,
      Site.refresh_tick middle refreshes]
    rfl

theorem feed_is_last_refresh_pilot : Exists fun site : Site Real =>
    Exists fun server => server.Registered 0 ∧
      ServesRefresh 0 (some (server, 0)) (getDatafeed 0 site.cache) := by
  rcases exists_flown with ⟨server, order, site, flown⟩
  refine ⟨site, server, flown.registered, ?_⟩
  rw [← flown.refreshed]
  exact feed_is_last_refresh rfl flown.lists flown.executed 0

theorem dashboard_is_last_refresh_pilot : Exists fun site : Site Real =>
    Exists fun marker => marker ∈ site.markers ∧ marker.title = bytes "N172SP" := by
  rcases exists_flown with ⟨server, order, site, flown⟩
  have polled : run (Site.step Symbolic.platform) sampleSite
      (sampleFlight order ++ [.poll 0]) = some { site with
        markers := populateMap (getDatafeed 0 site.cache) site.markers } := by
    rw [run_append, flown.executed]
    rfl
  have polls : Along (Site.step Symbolic.platform) ListsClients site [.poll 0] :=
    ⟨True.intro, fun _ _ => True.intro⟩
  have lists := flown.lists.append flown.executed polls
  have shows := dashboard_is_last_refresh rfl lists polled
    (fun _ member => absurd member List.not_mem_nil)
  rw [← sampleSite, flown.refreshed] at shows
  rcases shows with ⟨ids, _, listed, marked⟩
  rcases exists_of_forall₂ marked ((listed 0).mpr ⟨flown.registered, flown.isAtc⟩) with
    ⟨marker, shown, marks⟩
  exact ⟨_, marker, shown, marks.title.trans flown.callsign⟩

end Sample

end Web
end OpenFsd
