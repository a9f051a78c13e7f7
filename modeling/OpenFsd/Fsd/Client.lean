import OpenFsd.Fsd.Packet
import OpenFsd.Fsd.VatsimAuth
import Mathlib.Data.List.AList
import Mathlib.Logic.Function.Basic

namespace OpenFsd
namespace Fsd

/-!
# Clients, the post office and the server state

A client is a pointer in the source: two sessions with equal fields are
different clients.  A `SessionId` stands for the pointer, and `Server.clients`
for the heap.  The post office holds two views of the registered clients: the
map from callsigns, and the spatial index with the box under which each
client was last stored.

`Server.events` records, in order, what the handlers do to the outside: each
call of `Client.send`, each call of a client's `cancelCtx`, and each request
handed to the METAR service.  A call of `Client.send` puts its packet into the
channel of a client whose context is live.  After the end of the context, when
both cases of its `select` may be ready, `Client.takesDone` says for each call
which of them is taken.
-/

abbrev SessionId := Nat

/-- Seconds since some fixed instant. -/
abbrev Time := Int

/-- `loginData` -/
structure LoginData where
  clientChallenge : Bytes
  callsign : Bytes
  cid : Int
  realName : Bytes
  networkRating : NetworkRating
  maxNetworkRating : NetworkRating
  protoRevision : Int
  loginTime : Time
  clientId : UInt16
  isAtc : Bool
  deriving DecidableEq

/-- `Client`.  The connection is represented by its remote address, the
context by whether `cancelCtx` has been called, and the channel by whether `send`
finds the context over first, for each call by the number of its event. -/
structure Client (F : Type) extends LoginData where
  remoteAddr : Bytes
  cancelled : Bool
  takesDone : Nat -> Bool
  coords : F × F
  visRange : F
  closestVelocityClientDistance : F
  flightPlan : Bytes
  assignedBeaconCode : Bytes
  frequency : Bytes
  altitude : Int
  groundspeed : Int
  transponder : Bytes
  heading : Int
  lastUpdated : Time
  facilityType : Int
  authState : VatsimAuthState
  sendFastEnabled : Bool

/-- `newClient` -/
def newClient {F : Type} [GoFloat F] (remoteAddr : Bytes) (loginData : LoginData)
    (takesDone : Nat -> Bool := fun _ => false) : Client F where
  toLoginData := loginData
  remoteAddr := remoteAddr
  cancelled := false
  takesDone := takesDone
  coords := (GoFloat.ofRat 0, GoFloat.ofRat 0)
  visRange := GoFloat.ofRat 0
  closestVelocityClientDistance := GoFloat.ofRat 0
  flightPlan := []
  assignedBeaconCode := []
  frequency := []
  altitude := 0
  groundspeed := 0
  transponder := []
  heading := 0
  lastUpdated := 0
  facilityType := 0
  authState := VatsimAuthState.zero
  sendFastEnabled := false

/-- An axis-parallel box of latitudes and longitudes. -/
structure Box (F : Type) where
  min : F × F
  max : F × F

/-- One entry of the spatial index. -/
structure Entry (F : Type) where
  box : Box F
  client : SessionId

/-- `postOffice`, without its two locks.  The R-tree is the multiset of its
entries, in the order in which a search would visit them. -/
structure PostOffice (F : Type) where
  clientMap : AList (fun _ : Bytes => SessionId)
  tree : List (Entry F)

/-- What a handler does to the outside. -/
inductive Event
  | send (recipient : SessionId) (packet : Bytes)
  | cancel (victim : SessionId)
  | metarRequest (client : SessionId) (icaoCode : Bytes)
  deriving DecidableEq

/-- The heap of clients, the post office, and the events so far. -/
structure Server (F : Type) where
  clients : SessionId -> Client F
  postOffice : PostOffice F
  events : List Event

namespace Server

variable {F : Type}

/-- Overwrite some fields of one client. -/
def modifyClient (s : Server F) (id : SessionId) (change : Client F -> Client F) : Server F :=
  { s with clients := Function.update s.clients id (change (s.clients id)) }

/-- A call of `Client.send` -/
def sendTo (s : Server F) (recipient : SessionId) (packet : Bytes) : Server F :=
  { s with events := s.events ++ [.send recipient packet] }

/-- The next call of `Client.send` returns the error of the context. -/
def refuses (s : Server F) (recipient : SessionId) : Bool :=
  (s.clients recipient).cancelled && (s.clients recipient).takesDone s.events.length

/-- `Client.sendError` -/
def sendError (s : Server F) (recipient : SessionId) (code : Int) (message : Bytes) : Server F :=
  s.sendTo recipient (errorPacket code message)

/-- `client.cancelCtx()` -/
def cancelCtx (s : Server F) (victim : SessionId) : Server F :=
  { s.modifyClient victim (fun client => { client with cancelled := true }) with
    events := s.events ++ [.cancel victim] }

/-- The client is the map's entry for its callsign. -/
def Registered (s : Server F) (id : SessionId) : Prop :=
  s.postOffice.clientMap.lookup (s.clients id).callsign = some id

instance (s : Server F) (id : SessionId) : Decidable (s.Registered id) :=
  inferInstanceAs (Decidable (_ = _))

@[simp] theorem modifyClient_same (s : Server F) (id : SessionId) (change : Client F -> Client F) :
    (s.modifyClient id change).clients id = change (s.clients id) :=
  Function.update_self id _ s.clients

@[simp] theorem modifyClient_other (s : Server F) {id other : SessionId}
    (change : Client F -> Client F) (different : other ≠ id) :
    (s.modifyClient id change).clients other = s.clients other :=
  Function.update_of_ne different _ s.clients

@[simp] theorem modifyClient_postOffice (s : Server F) (id : SessionId)
    (change : Client F -> Client F) : (s.modifyClient id change).postOffice = s.postOffice :=
  rfl

@[simp] theorem modifyClient_events (s : Server F) (id : SessionId)
    (change : Client F -> Client F) : (s.modifyClient id change).events = s.events :=
  rfl

@[simp] theorem sendTo_clients (s : Server F) (recipient : SessionId) (packet : Bytes) :
    (s.sendTo recipient packet).clients = s.clients :=
  rfl

@[simp] theorem sendTo_postOffice (s : Server F) (recipient : SessionId) (packet : Bytes) :
    (s.sendTo recipient packet).postOffice = s.postOffice :=
  rfl

theorem cancelCtx_same (s : Server F) (victim : SessionId) :
    (s.cancelCtx victim).clients victim = { s.clients victim with cancelled := true } :=
  Function.update_self victim _ s.clients

theorem cancelCtx_other (s : Server F) {victim other : SessionId} (different : other ≠ victim) :
    (s.cancelCtx victim).clients other = s.clients other :=
  Function.update_of_ne different _ s.clients

end Server
end Fsd
end OpenFsd
