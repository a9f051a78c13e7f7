import OpenFsd.Fsd.Client
import OpenFsd.Library.Traversal

namespace OpenFsd
namespace Fsd

/-!
# The post office

`register`, `release` and `updatePosition` each consist of two critical
sections, one under the lock of the map and one under the lock of the tree.
Each section is a definition of its own, and the three operations are their
compositions.  `search` and `all` visit clients with a callback, and the
broadcasts are such visits.

`Delete` of the R-tree removes one entry of the given client with the given
box, and does nothing when there is none.  Boxes are compared coordinate by
coordinate with `GoFloat.Same`.
-/

variable {F : Type} [GoFloat F]

/-! ## Geometry -/

def earthRadius : F := GoFloat.ofRat 6371000

def calculateBoundingBox (center : F × F) (radius : F) : Box F :=
  let latRad := center.1 * GoFloat.degToRad
  let deltaLat := radius / GoFloat.metersPerDegreeLat
  let metersPerDegreeLon := GoFloat.metersPerDegreeLat * GoFloat.cos latRad
  let deltaLon := radius / metersPerDegreeLon
  let minLat := center.1 - deltaLat
  let maxLat := center.1 + deltaLat
  let minLon := center.2 - deltaLon
  let maxLon := center.2 + deltaLon
  ⟨(minLat, minLon), (maxLat, maxLon)⟩

/-- The haversine distance in meters. -/
def distance (lat1 lon1 lat2 lon2 : F) : F :=
  let dLat := (lat2 - lat1) * GoFloat.degToRad
  let dLon := (lon2 - lon1) * GoFloat.degToRad
  let sinDLat2 := GoFloat.sin (dLat * GoFloat.ofRat (1 / 2))
  let sinDLon2 := GoFloat.sin (dLon * GoFloat.ofRat (1 / 2))
  let cosLat1 := GoFloat.cos (lat1 * GoFloat.degToRad)
  let cosLat2 := GoFloat.cos (lat2 * GoFloat.degToRad)
  let a := sinDLat2 * sinDLat2 + cosLat1 * cosLat2 * sinDLon2 * sinDLon2
  let sqrtA := GoFloat.sqrt a
  let sqrt1MinusA := GoFloat.sqrt (GoFloat.ofRat 1 - a)
  let c := GoFloat.ofRat 2 * GoFloat.atan2 sqrtA sqrt1MinusA
  earthRadius * c

namespace Box

/-- Go's `==` on the four coordinates. -/
def eq (first second : Box F) : Bool :=
  GoFloat.eq first.min.1 second.min.1 && GoFloat.eq first.min.2 second.min.2 &&
    (GoFloat.eq first.max.1 second.max.1 && GoFloat.eq first.max.2 second.max.2)

/-- The two boxes have the same coordinates. -/
def Same (first second : Box F) : Prop :=
  GoFloat.Same first.min.1 second.min.1 ∧ GoFloat.Same first.min.2 second.min.2 ∧
    GoFloat.Same first.max.1 second.max.1 ∧ GoFloat.Same first.max.2 second.max.2

instance (first second : Box F) : Decidable (Same first second) :=
  inferInstanceAs (Decidable (_ ∧ _ ∧ _ ∧ _))

/-- Neither box lies beyond the other along an axis. -/
def intersects (first second : Box F) : Bool :=
  !(GoFloat.gt second.min.1 first.max.1 || GoFloat.lt second.max.1 first.min.1 ||
    (GoFloat.gt second.min.2 first.max.2 || GoFloat.lt second.max.2 first.min.2))

theorem same_refl (box : Box F) : Same box box :=
  ⟨GoFloat.same_refl _, GoFloat.same_refl _, GoFloat.same_refl _, GoFloat.same_refl _⟩

theorem same_of_eq {first second : Box F} (equal : eq first second = true) :
    Same first second := by
  simp only [eq, Bool.and_eq_true] at equal
  exact ⟨Or.inr equal.1.1, Or.inr equal.1.2, Or.inr equal.2.1, Or.inr equal.2.2⟩

/-- Intersection does not depend on which box is asked about the other. -/
theorem intersects_comm (first second : Box F) : intersects first second = intersects second first := by
  unfold intersects GoFloat.gt
  ac_rfl

section Lawful

variable [LawfulGoFloat F]

theorem same_symm {first second : Box F} (same : Same first second) : Same second first :=
  ⟨GoFloat.same_symm same.1, GoFloat.same_symm same.2.1, GoFloat.same_symm same.2.2.1,
    GoFloat.same_symm same.2.2.2⟩

theorem same_trans {first second third : Box F} (left : Same first second)
    (right : Same second third) : Same first third :=
  ⟨GoFloat.same_trans left.1 right.1, GoFloat.same_trans left.2.1 right.2.1,
    GoFloat.same_trans left.2.2.1 right.2.2.1, GoFloat.same_trans left.2.2.2 right.2.2.2⟩

theorem intersects_same {first second other : Box F} (same : Same first second) :
    intersects other first = intersects other second := by
  have refl := fun value : F => GoFloat.same_refl value
  unfold intersects GoFloat.gt
  rw [GoFloat.lt_same (refl other.max.1) same.1, GoFloat.lt_same same.2.2.1 (refl other.min.1),
    GoFloat.lt_same (refl other.max.2) same.2.1, GoFloat.lt_same same.2.2.2 (refl other.min.2)]

end Lawful
end Box

namespace Server

/-! ## Critical sections -/

/-- The box of a client's current position and range. -/
def currentBox (s : Server F) (id : SessionId) : Box F :=
  calculateBoundingBox (s.clients id).coords (s.clients id).visRange

/-- `tree.Insert` -/
def treeInsert (s : Server F) (box : Box F) (id : SessionId) : Server F :=
  { s with postOffice := { s.postOffice with tree := ⟨box, id⟩ :: s.postOffice.tree } }

/-- `tree.Delete` -/
def treeDelete (s : Server F) (box : Box F) (id : SessionId) : Server F :=
  { s with postOffice := { s.postOffice with
      tree := s.postOffice.tree.eraseP fun entry =>
        decide (entry.client = id) && decide (Box.Same box entry.box) } }

/-- The section of `register` under the lock of the map.  There is no result
for `ErrCallsignInUse`. -/
def registerMap (s : Server F) (id : SessionId) : Option (Server F) :=
  let callsign := (s.clients id).callsign
  match s.postOffice.clientMap.lookup callsign with
  | some _ => none
  | none =>
      some { s with postOffice := { s.postOffice with
        clientMap := s.postOffice.clientMap.insert callsign id } }

/-- The section of `register` under the lock of the tree. -/
def registerTree (s : Server F) (id : SessionId) : Server F :=
  s.treeInsert (s.currentBox id) id

def register (s : Server F) (id : SessionId) : Option (Server F) :=
  (s.registerMap id).map fun mapped => mapped.registerTree id

/-- The section of `release` under the lock of the tree. -/
def releaseTree (s : Server F) (id : SessionId) : Server F :=
  s.treeDelete (s.currentBox id) id

/-- The section of `release` under the lock of the map. -/
def releaseMap (s : Server F) (id : SessionId) : Server F :=
  { s with postOffice := { s.postOffice with
      clientMap := s.postOffice.clientMap.erase (s.clients id).callsign } }

def release (s : Server F) (id : SessionId) : Server F :=
  (s.releaseTree id).releaseMap id

/-- The stores of `updatePosition`, before it takes the lock of the tree. -/
def storePosition (s : Server F) (id : SessionId) (newCenter : F × F) (newVisRange : F) : Server F :=
  s.modifyClient id fun client => { client with coords := newCenter, visRange := newVisRange }

/-- The section of `updatePosition` under the lock of the tree. -/
def reindex (s : Server F) (id : SessionId) (oldBox newBox : Box F) : Server F :=
  (s.treeDelete oldBox id).treeInsert newBox id

def updatePosition (s : Server F) (id : SessionId) (newCenter : F × F) (newVisRange : F) : Server F :=
  let oldBox := s.currentBox id
  let newBox := calculateBoundingBox newCenter newVisRange
  let stored := s.storePosition id newCenter newVisRange
  -- Avoid redundant updates
  if Box.eq oldBox newBox then stored else stored.reindex id oldBox newBox

/-! ## Visits -/

/-- The entries that the R-tree's `Search` visits. -/
def treeSearch (s : Server F) (box : Box F) : List (Entry F) :=
  s.postOffice.tree.filter fun entry => Box.intersects box entry.box

/-- The distance bookkeeping that `search` does for one found client. -/
def noteDistance (s : Server F) (id found : SessionId) : Server F :=
  let client := s.clients id
  if !client.isAtc && decide (client.protoRevision = 101) &&
      decide ((s.clients found).protoRevision = 101) then
    let dist := distance client.coords.1 client.coords.2
      (s.clients found).coords.1 (s.clients found).coords.2
    if GoFloat.lt dist client.closestVelocityClientDistance then
      s.modifyClient id fun client => { client with closestVelocityClientDistance := dist }
    else s
  else s

/-- The callback that `search` hands to the R-tree, around its own callback. -/
def searchVisit {X : Type} (id : SessionId) (callback : X -> SessionId -> X × Bool)
    (state : Server F × X) (entry : Entry F) : (Server F × X) × Bool :=
  if entry.client = id then (state, true) -- Ignore self
  else
    let (next, goOn) := callback state.2 entry.client
    ((state.1.noteDistance id entry.client, next), goOn)

/-- `search`.  The callback works on a state of its own: no callback of the
source changes a client or the post office. -/
def search {X : Type} (s : Server F) (id : SessionId) (callback : X -> SessionId -> X × Bool)
    (state : X) : Server F × X :=
  let box := s.currentBox id
  let reset := s.modifyClient id fun client =>
    { client with closestVelocityClientDistance := GoFloat.maxFloat64 }
  Traversal.foldUntil (searchVisit id callback) (reset, state) (reset.treeSearch box)

/-- The registered clients, in the order in which the map is iterated. -/
def registeredClients (s : Server F) : List SessionId :=
  s.postOffice.clientMap.entries.map fun entry => entry.snd

/-- `all` -/
def all {X : Type} (s : Server F) (id : SessionId) (callback : X -> SessionId -> X × Bool)
    (state : X) : X :=
  Traversal.foldUntil
    (fun current recipient => if recipient = id then (current, true) else callback current recipient)
    state s.registeredClients

/-- `find`, without a result for `ErrCallsignDoesNotExist`. -/
def find (s : Server F) (callsign : Bytes) : Option SessionId :=
  s.postOffice.clientMap.lookup callsign

/-! ## Broadcasts -/

/-- The callback of every broadcast: send the packet to the recipients that
the broadcast is for, and never stop. -/
def deliver (s : Server F) (accepts : Client F -> Bool) (packet : Bytes)
    (events : List Event) (recipient : SessionId) : List Event × Bool :=
  if accepts (s.clients recipient) then (events ++ [.send recipient packet], true)
  else (events, true)

/-- A broadcast to the clients in range that satisfy a condition. -/
def broadcastRangedWhere (s : Server F) (id : SessionId) (accepts : Client F -> Bool)
    (packet : Bytes) : Server F :=
  let (searched, events) := s.search id (s.deliver accepts packet) s.events
  { searched with events := events }

/-- A broadcast to the clients of the whole server that satisfy a condition. -/
def broadcastAllWhere (s : Server F) (id : SessionId) (accepts : Client F -> Bool)
    (packet : Bytes) : Server F :=
  { s with events := s.all id (s.deliver accepts packet) s.events }

def broadcastRanged (s : Server F) (id : SessionId) (packet : Bytes) : Server F :=
  s.broadcastRangedWhere id (fun _ => true) packet

def broadcastRangedVelocity (s : Server F) (id : SessionId) (packet : Bytes) : Server F :=
  s.broadcastRangedWhere id (fun recipient => decide (recipient.protoRevision = 101)) packet

def broadcastRangedAtcOnly (s : Server F) (id : SessionId) (packet : Bytes) : Server F :=
  s.broadcastRangedWhere id (fun recipient => recipient.isAtc) packet

def broadcastAll (s : Server F) (id : SessionId) (packet : Bytes) : Server F :=
  s.broadcastAllWhere id (fun _ => true) packet

def broadcastAllATC (s : Server F) (id : SessionId) (packet : Bytes) : Server F :=
  s.broadcastAllWhere id (fun recipient => recipient.isAtc) packet

def broadcastAllSupervisors (s : Server F) (id : SessionId) (packet : Bytes) : Server F :=
  s.broadcastAllWhere id
    (fun recipient => decide (NetworkRatingSupervisor ≤ recipient.networkRating)) packet

def sendDirectOrErr (s : Server F) (id : SessionId) (recipient packet : Bytes) : Server F :=
  match s.find recipient with
  | none => s.sendError id NoSuchCallsignError (bytes "No such callsign")
  | some found =>
      let sent := s.sendTo found packet
      -- The error of the context is answered like a missing callsign.
      if s.refuses found then sent.sendError id NoSuchCallsignError (bytes "No such callsign")
      else sent

end Server
end Fsd
end OpenFsd
