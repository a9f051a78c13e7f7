import OpenFsd.Fsd.Deliveries
import OpenFsd.Go.Json

namespace OpenFsd
namespace Fsd

/-!
# The online users

`handleGetOnlineUsers` of the internal HTTP service copies the map of the post
office, and makes a record for each of its clients.  Go iterates over a map in
any order, so the order is a parameter.  The status is written before the
document is encoded, and the result of the encoder is not looked at.
-/

structure OnlineUserGeneralData (F : Type) where
  callsign : Bytes
  cid : Int
  name : Bytes
  networkRating : Int
  maxNetworkRating : Int
  latitude : F
  longitude : F
  logonTime : Time
  lastUpdated : Time

structure OnlineUserPilot (F : Type) extends OnlineUserGeneralData F where
  altitude : Int
  groundspeed : Int
  heading : Int
  transponder : Bytes

structure OnlineUserATC (F : Type) extends OnlineUserGeneralData F where
  frequency : Bytes
  facility : Int
  visRange : Int

structure OnlineUsersResponseData (F : Type) where
  pilots : List (OnlineUserPilot F)
  atc : List (OnlineUserATC F)

/-- A response of the internal HTTP service.  There is no document in a body to
which nothing has been written. -/
structure ServiceResponse (F : Type) where
  status : Nat
  body : Option (Json F)

variable {F : Type}

def generalData (client : Client F) : OnlineUserGeneralData F where
  callsign := client.callsign
  cid := client.cid
  name := client.realName
  networkRating := client.networkRating
  maxNetworkRating := client.maxNetworkRating
  latitude := client.coords.1
  longitude := client.coords.2
  logonTime := client.loginTime
  lastUpdated := client.lastUpdated

def onlineUserPilot (client : Client F) : OnlineUserPilot F where
  toOnlineUserGeneralData := generalData client
  altitude := client.altitude
  groundspeed := client.groundspeed
  heading := client.heading
  transponder := client.transponder

section Handler

variable [GoFloat F]

/-- The visibility range goes from meters to nautical miles. -/
def onlineUserATC (client : Client F) : OnlineUserATC F where
  toOnlineUserGeneralData := generalData client
  frequency := client.frequency
  facility := client.facilityType
  visRange := GoFloat.truncate (client.visRange * GoFloat.ofRat 0.000539957)

/-- One round of the loop over the clients. -/
def OnlineUsersResponseData.add (resData : OnlineUsersResponseData F) (client : Client F) :
    OnlineUsersResponseData F :=
  if client.isAtc then { resData with atc := resData.atc ++ [onlineUserATC client] }
  else { resData with pilots := resData.pilots ++ [onlineUserPilot client] }

def onlineUsers (s : Server F) (order : List SessionId) : OnlineUsersResponseData F :=
  order.foldl (fun resData id => resData.add (s.clients id)) ⟨[], []⟩

/-! ## The document -/

def generalFields (data : OnlineUserGeneralData F) : List (Bytes × Option (Json F)) :=
  [(bytes "callsign", Json.ofString data.callsign),
   (bytes "cid", Json.ofInt data.cid),
   (bytes "name", Json.ofString data.name),
   (bytes "network_rating", Json.ofInt data.networkRating),
   (bytes "max_network_rating", Json.ofInt data.maxNetworkRating),
   (bytes "latitude", Json.ofFloat data.latitude),
   (bytes "longitude", Json.ofFloat data.longitude),
   (bytes "logon_time", Json.ofTime data.logonTime),
   (bytes "last_updated", Json.ofTime data.lastUpdated)]

def encodePilot (pilot : OnlineUserPilot F) : Option (Json F) :=
  Json.ofStruct (generalFields pilot.toOnlineUserGeneralData ++
    [(bytes "altitude", Json.ofInt pilot.altitude),
     (bytes "groundspeed", Json.ofInt pilot.groundspeed),
     (bytes "heading", Json.ofInt pilot.heading),
     (bytes "transponder", Json.ofString pilot.transponder)])

def encodeATC (atc : OnlineUserATC F) : Option (Json F) :=
  Json.ofStruct (generalFields atc.toOnlineUserGeneralData ++
    [(bytes "frequency", Json.ofString atc.frequency),
     (bytes "facility", Json.ofInt atc.facility),
     (bytes "visual_range", Json.ofInt atc.visRange)])

def encodeOnlineUsers (resData : OnlineUsersResponseData F) : Option (Json F) :=
  Json.ofStruct
    [(bytes "pilots", Json.ofSlice encodePilot resData.pilots),
     (bytes "atc", Json.ofSlice encodeATC resData.atc)]

def handleGetOnlineUsers (s : Server F) (order : List SessionId) : ServiceResponse F :=
  ⟨200, encodeOnlineUsers (onlineUsers s order)⟩

/-! ## The decoder -/

def zeroGeneralData : OnlineUserGeneralData F :=
  ⟨[], 0, [], 0, 0, GoFloat.ofRat 0, GoFloat.ofRat 0, 0, 0⟩

def decodeGeneralData (json : Json F) : Option (OnlineUserGeneralData F) := do
  let zero : OnlineUserGeneralData F := zeroGeneralData
  return {
    callsign := ← json.field (bytes "callsign") Json.toString zero.callsign
    cid := ← json.field (bytes "cid") Json.toInt zero.cid
    name := ← json.field (bytes "name") Json.toString zero.name
    networkRating := ← json.field (bytes "network_rating") Json.toInt zero.networkRating
    maxNetworkRating := ← json.field (bytes "max_network_rating") Json.toInt zero.maxNetworkRating
    latitude := ← json.field (bytes "latitude") Json.toFloat zero.latitude
    longitude := ← json.field (bytes "longitude") Json.toFloat zero.longitude
    logonTime := ← json.field (bytes "logon_time") Json.toTime zero.logonTime
    lastUpdated := ← json.field (bytes "last_updated") Json.toTime zero.lastUpdated }

def decodePilot (json : Json F) : Option (OnlineUserPilot F) := do
  return {
    toOnlineUserGeneralData := ← decodeGeneralData json
    altitude := ← json.field (bytes "altitude") Json.toInt 0
    groundspeed := ← json.field (bytes "groundspeed") Json.toInt 0
    heading := ← json.field (bytes "heading") Json.toInt 0
    transponder := ← json.field (bytes "transponder") Json.toString [] }

def decodeATC (json : Json F) : Option (OnlineUserATC F) := do
  return {
    toOnlineUserGeneralData := ← decodeGeneralData json
    frequency := ← json.field (bytes "frequency") Json.toString []
    facility := ← json.field (bytes "facility") Json.toInt 0
    visRange := ← json.field (bytes "visual_range") Json.toInt 0 }

def decodeOnlineUsers (json : Json F) : Option (OnlineUsersResponseData F) := do
  return {
    pilots := ← json.field (bytes "pilots") (Json.toSlice decodePilot) []
    atc := ← json.field (bytes "atc") (Json.toSlice decodeATC) [] }

/-! ## What the decoder reads -/

/-- The data with valid strings. -/
def OnlineUserGeneralData.read (data : OnlineUserGeneralData F) : OnlineUserGeneralData F :=
  { data with callsign := toValidUTF8 data.callsign, name := toValidUTF8 data.name }

def OnlineUserPilot.read (pilot : OnlineUserPilot F) : OnlineUserPilot F :=
  { pilot with
    toOnlineUserGeneralData := pilot.toOnlineUserGeneralData.read
    transponder := toValidUTF8 pilot.transponder }

def OnlineUserATC.read (atc : OnlineUserATC F) : OnlineUserATC F :=
  { atc with
    toOnlineUserGeneralData := atc.toOnlineUserGeneralData.read
    frequency := toValidUTF8 atc.frequency }

/-- Both coordinates are finite. -/
def FiniteCoords (coords : F × F) : Prop :=
  GoFloat.isFinite coords.1 = true ∧ GoFloat.isFinite coords.2 = true

theorem encodePilot_isSome {pilot : OnlineUserPilot F} :
    (encodePilot pilot).isSome = true ↔ FiniteCoords (pilot.latitude, pilot.longitude) := by
  unfold FiniteCoords encodePilot Json.ofStruct generalFields Json.ofFloat
  dsimp only
  cases GoFloat.isFinite pilot.latitude <;> cases GoFloat.isFinite pilot.longitude <;>
    simp [Json.all, Json.ofString, Json.ofInt, Json.ofTime]

theorem encodeATC_isSome {atc : OnlineUserATC F} :
    (encodeATC atc).isSome = true ↔ FiniteCoords (atc.latitude, atc.longitude) := by
  unfold FiniteCoords encodeATC Json.ofStruct generalFields Json.ofFloat
  dsimp only
  cases GoFloat.isFinite atc.latitude <;> cases GoFloat.isFinite atc.longitude <;>
    simp [Json.all, Json.ofString, Json.ofInt, Json.ofTime]

theorem decodePilot_of_encoded {pilot : OnlineUserPilot F} {json : Json F}
    (written : encodePilot pilot = some json) : decodePilot json = some pilot.read := by
  have finite := encodePilot_isSome.mp (by rw [written]; rfl : (encodePilot pilot).isSome = true)
  unfold encodePilot generalFields Json.ofFloat at written
  rw [if_pos finite.1, if_pos finite.2] at written
  rw [← Option.some.inj written]
  rfl

theorem decodeATC_of_encoded {atc : OnlineUserATC F} {json : Json F}
    (written : encodeATC atc = some json) : decodeATC json = some atc.read := by
  have finite := encodeATC_isSome.mp (by rw [written]; rfl : (encodeATC atc).isSome = true)
  unfold encodeATC generalFields Json.ofFloat at written
  rw [if_pos finite.1, if_pos finite.2] at written
  rw [← Option.some.inj written]
  rfl

theorem encodeOnlineUsers_isSome {resData : OnlineUsersResponseData F} :
    (encodeOnlineUsers resData).isSome = true ↔
      (forall pilot, pilot ∈ resData.pilots -> FiniteCoords (pilot.latitude, pilot.longitude)) ∧
        forall atc, atc ∈ resData.atc -> FiniteCoords (atc.latitude, atc.longitude) := by
  have both : (encodeOnlineUsers resData).isSome = true ↔
      (Json.ofSlice encodePilot resData.pilots).isSome = true ∧
        (Json.ofSlice encodeATC resData.atc).isSome = true := by
    unfold encodeOnlineUsers Json.ofStruct
    cases Json.ofSlice encodePilot resData.pilots <;> cases Json.ofSlice encodeATC resData.atc <;>
      simp [Json.all]
  rw [both, Json.ofSlice_isSome, Json.ofSlice_isSome]
  simp only [encodePilot_isSome, encodeATC_isSome]

theorem decodeOnlineUsers_of_encoded {resData : OnlineUsersResponseData F} {json : Json F}
    (written : encodeOnlineUsers resData = some json) :
    decodeOnlineUsers json = some
      ⟨resData.pilots.map OnlineUserPilot.read, resData.atc.map OnlineUserATC.read⟩ := by
  unfold encodeOnlineUsers at written
  cases pilots : Json.ofSlice encodePilot resData.pilots with
  | none =>
      rw [pilots] at written
      cases written
  | some pilotsJson =>
      cases atc : Json.ofSlice encodeATC resData.atc with
      | none =>
          rw [pilots, atc] at written
          cases written
      | some atcJson =>
          rw [pilots, atc] at written
          have readPilots := Json.toSlice_ofSlice (fun _ _ => decodePilot_of_encoded) pilots
          have readATC := Json.toSlice_ofSlice (fun _ _ => decodeATC_of_encoded) atc
          have same : json = .object [(bytes "pilots", pilotsJson), (bytes "atc", atcJson)] :=
            (Option.some.inj written).symm
          have first : json.field (bytes "pilots") (Json.toSlice decodePilot) [] =
              Json.toSlice decodePilot pilotsJson := by
            rw [same]
            rfl
          have second : json.field (bytes "atc") (Json.toSlice decodeATC) [] =
              Json.toSlice decodeATC atcJson := by
            rw [same]
            rfl
          unfold decodeOnlineUsers
          rw [first, second, readPilots, readATC]
          rfl

/-! ## Who is listed -/

/-- The loop sorts the clients into pilots and ATC. -/
theorem onlineUsers_eq (s : Server F) (order : List SessionId) :
    onlineUsers s order =
      ⟨(order.filter fun id => !(s.clients id).isAtc).map fun id => onlineUserPilot (s.clients id),
       (order.filter fun id => (s.clients id).isAtc).map fun id => onlineUserATC (s.clients id)⟩ := by
  have folded : forall resData : OnlineUsersResponseData F,
      order.foldl (fun resData id => resData.add (s.clients id)) resData =
        ⟨resData.pilots ++ (order.filter fun id => !(s.clients id).isAtc).map fun id =>
            onlineUserPilot (s.clients id),
         resData.atc ++ (order.filter fun id => (s.clients id).isAtc).map fun id =>
            onlineUserATC (s.clients id)⟩ := by
    induction order with
    | nil => simp
    | cons id rest inductionHypothesis =>
        intro resData
        rw [List.foldl_cons, inductionHypothesis]
        cases isAtc : (s.clients id).isAtc <;>
          simp [OnlineUsersResponseData.add, isAtc, List.append_assoc]
  exact folded ⟨[], []⟩

/-- The document is written exactly if every listed client has finite
coordinates. -/
theorem body_isSome_iff (s : Server F) (order : List SessionId) :
    (handleGetOnlineUsers s order).body.isSome = true ↔
      forall id, id ∈ order -> FiniteCoords (s.clients id).coords := by
  unfold handleGetOnlineUsers
  dsimp only
  rw [encodeOnlineUsers_isSome, onlineUsers_eq]
  dsimp only
  rw [List.forall_mem_map, List.forall_mem_map]
  constructor
  · rintro ⟨pilots, atc⟩ id member
    cases isAtc : (s.clients id).isAtc with
    | true => exact atc id (List.mem_filter.mpr ⟨member, isAtc⟩)
    | false => exact pilots id (List.mem_filter.mpr ⟨member, by simp [isAtc]⟩)
  · intro finite
    exact ⟨fun id member => finite id (List.mem_of_mem_filter member),
      fun id member => finite id (List.mem_of_mem_filter member)⟩

end Handler
end Fsd
end OpenFsd
