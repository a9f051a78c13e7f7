import OpenFsd.Fsd.System
import OpenFsd.Go.Exact
import OpenFsd.Symbolic

namespace OpenFsd
namespace Fsd

open Db Transition

/-!
# What a registered session is, and what it may cause

The two results of the FSD server's access control.  `session_lifetime` says
what the login has established about a session and that nothing undoes it.
`privileged_effects` says, for every packet of every session in every
reachable state, which effects on others presuppose which standing.
-/

/-! ## The effects that need a privilege -/

/-- An ATC client in a facility that its rating allows. -/
def ActiveController {F : Type} (client : Client F) : Prop :=
  client.isAtc = true ∧ 0 < client.facilityType ∧
    isAllowedFacilityType client.networkRating client.facilityType = true

/-- A flight plan amendment, a handoff, or a message or query of a privileged
type. -/
def ControlPacket (packet : Bytes) : Prop :=
  getPacketType packet ∈ [.flightPlanAmendment, .handoffRequest, .handoffAccept] ∨
    (getPacketType packet = .proController ∧ getField packet 3 ∈ privilegedProcontrollerTypes) ∨
    (getPacketType packet ∈ [.clientQuery, .clientQueryResponse] ∧
      getField packet 2 ∈ privilegedAtcQueries)

/-- A `#PC` message, ATC chat, or an unprivileged ATC query. -/
def AtcPacket (packet : Bytes) : Prop :=
  getPacketType packet = .proController ∨
    (getPacketType packet = .textMessage ∧ getField packet 1 = bytes "@49999") ∨
    (getPacketType packet ∈ [.clientQuery, .clientQueryResponse] ∧
      getField packet 2 ∈ unprivilegedAtcQueries)

/-- A server-wide text broadcast, or a query for client information. -/
def SupervisorPacket (packet : Bytes) : Prop :=
  (getPacketType packet = .textMessage ∧ getField packet 1 = bytes "*") ∨
    (getPacketType packet = .clientQuery ∧ getField packet 2 = bytes "INF")

/-- The standing that the effects of one packet on others presuppose. -/
structure PrivilegedEffects {F : Type} (actor : Client F) (id : SessionId) (caused : List Event)
    (s next : Server F) : Prop where
  control : forall other packet, Event.send other packet ∈ caused -> other ≠ id ->
    ControlPacket packet -> ActiveController actor
  flightPlan : forall other, other ≠ id ->
    (next.clients other).flightPlan ≠ (s.clients other).flightPlan -> ActiveController actor
  atc : forall other packet, Event.send other packet ∈ caused -> other ≠ id ->
    AtcPacket packet -> actor.isAtc = true
  supervisor : forall other packet, Event.send other packet ∈ caused -> other ≠ id ->
    SupervisorPacket packet -> NetworkRatingSupervisor ≤ actor.networkRating
  cancelled : forall other, Event.cancel other ∈ caused -> other ≠ id ->
    NetworkRatingSupervisor ≤ actor.networkRating

/-! ## The three kinds of packets in the table -/

/-- No ATC query is both unprivileged and privileged. -/
theorem not_unprivileged_of_privileged {queryType : Bytes}
    (privileged : queryType ∈ privilegedAtcQueries) : queryType ∉ unprivilegedAtcQueries := by
  have disjoint : forall other, other ∈ privilegedAtcQueries -> other ∉ unprivilegedAtcQueries := by
    decide
  exact disjoint queryType privileged

theorem requiredPrivilege_query {packet : Bytes}
    (query : getPacketType packet ∈ [PacketType.clientQuery, .clientQueryResponse]) :
    requiredPrivilege packet = queryPrivilege (getPacketType packet) (getField packet 2) := by
  unfold requiredPrivilege
  rcases List.mem_pair.mp query with request | response
  · rw [request]
  · rw [response]

theorem requiredPrivilege_control {packet : Bytes} (control : ControlPacket packet) :
    requiredPrivilege packet = .activeAtc := by
  rcases control with forwarded | ⟨message, privileged⟩ | ⟨query, privileged⟩
  · unfold requiredPrivilege
    generalize getPacketType packet = packetType at forwarded ⊢
    cases packetType <;> first
      | rfl
      | exact absurd forwarded (by decide)
  · unfold requiredPrivilege
    rw [message]
    exact if_pos privileged
  · rw [requiredPrivilege_query query, queryPrivilege,
      if_neg (not_unprivileged_of_privileged privileged), if_pos privileged]

theorem isAtc_of_atcPacket {F : Type} {actor : Client F} {packet : Bytes} (atc : AtcPacket packet)
    (held : actor.Holds (requiredPrivilege packet)) : actor.isAtc = true := by
  rcases atc with message | ⟨text, chat⟩ | ⟨query, unprivileged⟩
  · unfold requiredPrivilege at held
    rw [message] at held
    dsimp only at held
    split at held
    · exact held.1
    · exact held
  · unfold requiredPrivilege at held
    rw [text] at held
    dsimp only at held
    rw [textPrivilege, if_pos chat] at held
    exact held
  · rw [requiredPrivilege_query query, queryPrivilege, if_pos unprivileged] at held
    exact held

theorem requiredPrivilege_supervisor {packet : Bytes} (supervisor : SupervisorPacket packet) :
    requiredPrivilege packet = .supervisor := by
  rcases supervisor with ⟨text, everybody⟩ | ⟨query, information⟩
  · unfold requiredPrivilege
    rw [text, everybody]
    rfl
  · rw [requiredPrivilege_query (List.mem_pair.mpr (Or.inl query)), query, information,
      Server.queryPrivilege_information]
    rfl

variable {F : Type}

/-- What `Acts` allows, in the words of the three kinds of packets. -/
theorem Acts.privilegedEffects {md5 : Bytes -> List.Vector UInt8 16} {actor : Client F}
    {id : SessionId} {s next : Server F} (acts : Acts md5 actor id s next)
    (facility : isAllowedFacilityType actor.networkRating actor.facilityType = true) :
    Exists fun caused => next.events = s.events ++ caused ∧
      PrivilegedEffects actor id caused s next := by
  rcases acts.events with ⟨caused, same, allowed⟩
  have held : forall other packet, Event.send other packet ∈ caused -> other ≠ id ->
      actor.Holds (requiredPrivilege packet) := by
    intro other packet member different
    rcases allowed _ member with own | held
    · exact absurd own different
    · exact held
  have active : actor.Holds .activeAtc -> ActiveController actor :=
    fun holds => ⟨holds.1, holds.2, facility⟩
  refine ⟨caused, same, ?_⟩
  constructor
  · intro other packet member different control
    have holds := held other packet member different
    rw [requiredPrivilege_control control] at holds
    exact active holds
  · intro other different changed
    rcases acts.flightPlan other different with unchanged | holds
    · exact absurd unchanged changed
    · exact active holds
  · intro other packet member different atc
    exact isAtc_of_atcPacket atc (held other packet member different)
  · intro other packet member different supervisor
    have holds := held other packet member different
    rw [requiredPrivilege_supervisor supervisor] at holds
    exact holds
  · intro other member different
    rcases allowed _ member with own | holds
    · exact absurd own different
    · exact holds

theorem Server.RegisteredAs.registered {s next : Server F} {id : SessionId} {client : Client F}
    (registeredAs : Server.RegisteredAs s next id client) : next.Registered id := by
  unfold Server.Registered
  rw [registeredAs.clients, registeredAs.clientMap, Function.update_self]
  exact AList.lookup_insert _

/-! ## A sample session -/

def sampleLogin : LoginEnv := ⟨0, bytes "192.0.2.1:6809", false, false, fun _ => false⟩

def sampleIdLine : Option Bytes := some (bytes "$IDLON_CTR:SERVER:88e4:client")

def sampleAddLine : Option Bytes := some (bytes "#AALON_CTR:SERVER:Name:1:secret:12:100")

/-- The login data of an unallocated place of the heap. -/
def sampleData : LoginData :=
  ⟨[], [], 0, [], 0, 0, 100, 0, 0, false⟩

/-- What is known of a client whose login is accepted. -/
theorem exists_loggedIn [GoFloat F] {P : Platform} {env : LoginEnv} {database : Database}
    {idLine addLine : Option Bytes} {B : Type} {view : Client F -> B} {value : B}
    (read : (login P env database idLine addLine : LoginResult (Client F)).toOption.map view =
      some value) :
    Exists fun client => login P env database idLine addLine = .ok client ∧ view client = value := by
  cases loggedIn : (login P env database idLine addLine : LoginResult (Client F)) with
  | error sent =>
      rw [loggedIn] at read
      cases read
  | ok client =>
      rw [loggedIn] at read
      exact ⟨client, rfl, Option.some.inj read⟩

/-- An administrator logs in as ATC on the symbolic platform. -/
theorem exists_sampleSession (heap : SessionId -> Client Real) :
    Exists fun server => (System.start heap).server.connect Symbolic.platform sampleLogin
      Symbolic.database 0 sampleIdLine sampleAddLine = .ok server := by
  have read : (login Symbolic.platform sampleLogin Symbolic.database sampleIdLine
      sampleAddLine : LoginResult (Client Real)).toOption.map (fun client => client.isAtc) =
        some true := by
    decide +kernel
  rcases exists_loggedIn read with ⟨client, loggedIn, _⟩
  exact Server.connect_of_free 0 loggedIn rfl

/-- A client whose login is accepted is registered on an empty server. -/
theorem exists_registered [GoFloat F] {env : LoginEnv} {idLine addLine : Option Bytes}
    {callsign : Bytes} {isAtc : Bool} {networkRating : NetworkRating} (heap : SessionId -> Client F)
    (read : ((login Symbolic.platform env Symbolic.database idLine addLine :
      LoginResult (Client F)).toOption.map fun client =>
        (client.callsign, client.isAtc, client.networkRating)) =
          some (callsign, isAtc, networkRating)) :
    Exists fun server => (System.start heap).server.connect Symbolic.platform env
        Symbolic.database 0 idLine addLine = .ok server ∧
      (server.clients 0).callsign = callsign ∧ (server.clients 0).isAtc = isAtc ∧
        (server.clients 0).networkRating = networkRating ∧ server.Registered 0 := by
  rcases exists_loggedIn read with ⟨client, loggedIn, fields⟩
  rcases Server.connect_of_free (s := (System.start heap).server) 0 loggedIn rfl with
    ⟨server, connected⟩
  rcases Server.connect_eq_ok connected with ⟨other, again, registeredAs⟩
  cases Except.ok.inj (loggedIn.symm.trans again)
  have own : server.clients 0 = client := by
    rw [registeredAs.clients, Function.update_self]
  have rest := Prod.mk.inj (Prod.mk.inj fields).2
  refine ⟨server, connected, ?_, ?_, ?_, registeredAs.registered⟩
  · rw [own]
    exact (Prod.mk.inj fields).1
  · rw [own]
    exact rest.1
  · rw [own]
    exact rest.2

/-- Two clients under different callsigns are registered on an empty server. -/
theorem exists_both_registered [GoFloat F] {P : Platform} {env envOther : LoginEnv}
    {database : Database} {idLine addLine idLineOther addLineOther : Option Bytes} {first second : Client F}
    (heap : SessionId -> Client F) (firstIn : login P env database idLine addLine = .ok first)
    (secondIn : login P envOther database idLineOther addLineOther = .ok second)
    (different : second.callsign ≠ first.callsign) :
    Exists fun one : Server F => Exists fun both : Server F =>
      (System.start heap).server.connect P env database 0 idLine addLine = .ok one ∧
        one.connect P envOther database 1 idLineOther addLineOther = .ok both ∧
        (both.clients 0 = first ∧ both.clients 1 = second) ∧
        both.Registered 0 ∧ both.Registered 1 := by
  rcases Server.connect_of_free (s := (System.start heap).server) 0 firstIn rfl with
    ⟨one, connectedFirst⟩
  rcases Server.connect_eq_ok connectedFirst with ⟨client, again, registeredFirst⟩
  cases Except.ok.inj (firstIn.symm.trans again)
  have empty : (System.start heap).server.postOffice.clientMap = ∅ := rfl
  have free : one.postOffice.clientMap.lookup second.callsign = none := by
    rw [registeredFirst.clientMap, AList.lookup_insert_ne different, empty, AList.lookup_empty]
  rcases Server.connect_of_free (s := one) 1 secondIn free with ⟨both, connectedSecond⟩
  rcases Server.connect_eq_ok connectedSecond with ⟨client, again, registeredSecond⟩
  cases Except.ok.inj (secondIn.symm.trans again)
  have firstRecord : both.clients 0 = first := by
    rw [registeredSecond.clients, Function.update_of_ne (by decide), registeredFirst.clients,
      Function.update_self]
  have secondRecord : both.clients 1 = second := by
    rw [registeredSecond.clients, Function.update_self]
  refine ⟨one, both, connectedFirst, connectedSecond, ⟨firstRecord, secondRecord⟩, ?_,
    registeredSecond.registered⟩
  unfold Server.Registered
  rw [firstRecord, registeredSecond.clientMap, AList.lookup_insert_ne different.symm,
    registeredFirst.clientMap, AList.lookup_insert]

/-- What the witnesses know of a client. -/
structure Standing where
  callsign : Bytes
  isAtc : Bool
  networkRating : NetworkRating
  protoRevision : Int
  cancelled : Bool
  deriving DecidableEq

def Client.standing (client : Client F) : Standing :=
  ⟨client.callsign, client.isAtc, client.networkRating, client.protoRevision, client.cancelled⟩

/-- The client is the one that the login admits. -/
def Entered [GoFloat F] (client : Client F) : Action -> Prop
  | .connect env database idLine addLine =>
      login Symbolic.platform env database idLine addLine = .ok client
  | _ => False

/-- Nothing has happened to a client that has just logged in. -/
theorem Entered.fresh [GoFloat F] {client : Client F} {env : LoginEnv} {database : Database}
    {idLine addLine : Option Bytes}
    (entered : Entered client (.connect env database idLine addLine)) :
    client.coords = (GoFloat.ofRat 0, GoFloat.ofRat 0) ∧ client.visRange = GoFloat.ofRat 0 ∧
      client.sendFastEnabled = false ∧ client.takesDone = env.takesDone := by
  rcases login_fresh entered with ⟨_, _, _, _, _, fresh⟩
  rw [fresh]
  exact ⟨rfl, rfl, rfl, rfl⟩

/-- Two sessions have been registered on an empty server, one after the other. -/
structure Crew [GoFloat F] (heap : SessionId -> Client F) (first second : Action)
    (standing standingOther : Standing) (system : System F) : Prop where
  executed : run (System.step Symbolic.platform) (System.start heap) [first, second] = some system
  allocated : system.allocated = 2
  silent : system.server.events = []
  entered : Entered (system.server.clients 0) first
  enteredOther : Entered (system.server.clients 1) second
  standing : (system.server.clients 0).standing = standing
  standingOther : (system.server.clients 1).standing = standingOther
  registered : system.server.Registered 0
  registeredOther : system.server.Registered 1

theorem exists_crew [GoFloat F] {env envOther : LoginEnv}
    {idLine addLine idLineOther addLineOther : Option Bytes}
    {standing standingOther : Standing}
    (heap : SessionId -> Client F)
    (read : (login Symbolic.platform env Symbolic.database idLine addLine :
      LoginResult (Client F)).toOption.map Client.standing = some standing)
    (readOther : (login Symbolic.platform envOther Symbolic.database idLineOther addLineOther :
      LoginResult (Client F)).toOption.map Client.standing = some standingOther)
    (different : standingOther.callsign ≠ standing.callsign) :
    Exists fun system => Crew heap (.connect env Symbolic.database idLine addLine)
      (.connect envOther Symbolic.database idLineOther addLineOther) standing standingOther
      system := by
  rcases exists_loggedIn read with ⟨client, loggedIn, stands⟩
  rcases exists_loggedIn readOther with ⟨other, otherIn, otherStands⟩
  have named : other.callsign ≠ client.callsign := by
    rw [← stands, ← otherStands] at different
    exact different
  rcases exists_both_registered heap loggedIn otherIn named with
    ⟨one, both, connected, otherConnected, ⟨record, otherRecord⟩, registered, otherRegistered⟩
  have first : System.step Symbolic.platform (System.start heap)
      (.connect env Symbolic.database idLine addLine) = some ⟨one, 1⟩ :=
    System.step_connect connected
  have second : System.step Symbolic.platform (⟨one, 1⟩ : System F)
      (.connect envOther Symbolic.database idLineOther addLineOther) = some ⟨both, 2⟩ :=
    System.step_connect otherConnected
  refine ⟨⟨both, 2⟩, ?_, rfl, ?_, ?_, ?_, ?_, ?_, registered, otherRegistered⟩
  · rw [run_cons_of_step first, run_cons_of_step second]
    rfl
  · exact (Server.events_connect otherConnected).trans (Server.events_connect connected)
  · exact record.symm ▸ loggedIn
  · exact otherRecord.symm ▸ otherIn
  · rw [record, stands]
  · rw [otherRecord, otherStands]

namespace Crew

variable [GoFloat F] {heap : SessionId -> Client F} {first second : Action}
  {standing standingOther : Standing} {system : System F}

theorem reaches (crew : Crew heap first second standing standingOther system) :
    Reaches (System.step Symbolic.platform) (System.start heap) system :=
  ⟨_, crew.executed⟩

theorem callsign (crew : Crew heap first second standing standingOther system) :
    (system.server.clients 0).callsign = standing.callsign :=
  congrArg Standing.callsign crew.standing

theorem callsignOther (crew : Crew heap first second standing standingOther system) :
    (system.server.clients 1).callsign = standingOther.callsign :=
  congrArg Standing.callsign crew.standingOther

theorem networkRating (crew : Crew heap first second standing standingOther system) :
    (system.server.clients 0).networkRating = standing.networkRating :=
  congrArg Standing.networkRating crew.standing

theorem live (crew : Crew heap first second standing standingOther system) :
    (system.server.clients 0).cancelled = standing.cancelled :=
  congrArg Standing.cancelled crew.standing

theorem liveOther (crew : Crew heap first second standing standingOther system) :
    (system.server.clients 1).cancelled = standingOther.cancelled :=
  congrArg Standing.cancelled crew.standingOther

theorem found (crew : Crew heap first second standing standingOther system) :
    system.server.find standing.callsign = some 0 :=
  crew.callsign ▸ crew.registered

theorem foundOther (crew : Crew heap first second standing standingOther system) :
    system.server.find standingOther.callsign = some 1 :=
  crew.callsignOther ▸ crew.registeredOther

end Crew

def pilotIdLine : Option Bytes := some (bytes "$IDN172SP:SERVER:88e4:client")

def pilotAddLine : Option Bytes := some (bytes "#APN172SP:SERVER:1:secret:1:101:1:Name")

/-- The pilot reports that it is on the equator. -/
def equatorPosition : Bytes :=
  bytes "@N:N172SP:1200:1:0:0:1000:90:0:0"

theorem parseLatLon_real {packet : Bytes} {latIndex lonIndex : Nat} {lat lon : Rat}
    (parsedLat : parseDecimal (getField packet latIndex) = some lat)
    (parsedLon : parseDecimal (getField packet lonIndex) = some lon) :
    (parseLatLon packet latIndex lonIndex : Option (Real × Real)) =
      some ((lat : Real), (lon : Real)) := by
  unfold parseLatLon
  rw [parseFloat_real parsedLat, parseFloat_real parsedLon]

/-- An administrator as `LON_CTR`, and a pilot. -/
theorem exists_controller_and_pilot (heap : SessionId -> Client Real) :
    Exists fun system => Crew heap
      (.connect sampleLogin Symbolic.database sampleIdLine sampleAddLine)
      (.connect sampleLogin Symbolic.database pilotIdLine pilotAddLine)
      ⟨bytes "LON_CTR", true, 12, 100, false⟩ ⟨bytes "N172SP", false, 1, 101, false⟩ system := by
  exact exists_crew heap (by decide +kernel) (by decide +kernel) (by decide)

variable {P : Platform}

/-- Where a challenge is answered, the authentication state is initialized. -/
theorem System.WellFormed.isInitialized_of_challenged {system : System F}
    (wellFormed : System.WellFormed P system) {id : SessionId} (registered : system.server.Registered id)
    {authState : VatsimAuthState} (challenged : system.server.challengedState id = some authState) :
    authState.isInitialized = true := by
  have sound := wellFormed.sound id (wellFormed.allocated_of_registered registered)
  unfold Server.challengedState at challenged
  split at challenged
  · cases challenged
  · next present =>
      rw [← Option.some.inj challenged]
      exact (sound.authState present).isInitialized

variable [GoFloat F] {heap : SessionId -> Client F}

/-- Whatever line a registered session sends in a reachable state, its effects
on others presuppose the standing that they need. -/
theorem privileged_effects {system : System F}
    (reached : Reaches (System.step P) (System.start heap) system) {id : SessionId}
    (registered : system.server.Registered id) (now : Time) (packet : Bytes) :
    Exists fun caused =>
      (system.server.processPacket P.md5 now id packet).events = system.server.events ++ caused ∧
        PrivilegedEffects (system.server.clients id) id caused system.server
          (system.server.processPacket P.md5 now id packet) := by
  have wellFormed := System.wellFormed_of_reaches reached
  have sound := wellFormed.sound id (wellFormed.allocated_of_registered registered)
  exact (system.server.acts_processPacket now packet).privilegedEffects sound.facilityType

/-- The administrator kills the pilot: the context of the pilot ends, and the
kill presupposes the rating of the administrator. -/
theorem privileged_effects_kill : Exists fun system : System Real => Exists fun caused =>
    (system.server.clients 1).callsign = bytes "N172SP" ∧ system.server.Registered 1 ∧
      (system.server.clients 1).cancelled = false ∧
      (system.server.processPacket Symbolic.platform.md5 0 0
        (bytes "$!!LON_CTR:N172SP:bye" ++ crlf)).events = system.server.events ++ caused ∧
      Event.cancel 1 ∈ caused ∧
      PrivilegedEffects (system.server.clients 0) 0 caused system.server
        (system.server.processPacket Symbolic.platform.md5 0 0
          (bytes "$!!LON_CTR:N172SP:bye" ++ crlf)) := by
  rcases exists_controller_and_pilot fun _ => newClient [] sampleData with ⟨system, crew⟩
  have accepted : verifyPacket (bytes "$!!LON_CTR:N172SP:bye" ++ crlf)
      (system.server.clients 0).callsign = .accepted .killRequest := by
    rw [crew.callsign]
    decide +kernel
  have named : getField (bytes "$!!LON_CTR:N172SP:bye" ++ crlf) 1 = bytes "N172SP" := by
    decide +kernel
  have killed : system.server.processPacket Symbolic.platform.md5 0 0
      (bytes "$!!LON_CTR:N172SP:bye" ++ crlf) = system.server.cancelCtx 1 := by
    refine (Server.processPacket_of_accepted accepted).trans ?_
    dsimp only [Server.runHandler]
    unfold Server.handleKillRequest
    rw [crew.networkRating, if_neg (by decide), named, crew.foundOther]
  rcases privileged_effects crew.reaches crew.registered 0
    (bytes "$!!LON_CTR:N172SP:bye" ++ crlf) with ⟨caused, grown, effects⟩
  refine ⟨system, caused, crew.callsignOther, crew.registeredOther, crew.liveOther, grown, ?_,
    effects⟩
  have cancelled : (system.server.cancelCtx 1).events = system.server.events ++ [.cancel 1] := rfl
  rw [killed, cancelled] at grown
  rw [← List.append_cancel_left grown]
  exact List.mem_singleton.mpr rfl

/-! ## The lifetime of a session -/

namespace System

/-- No step touches the login data of an allocated session. -/
theorem step_loginData {system next : System F} {action : Action}
    (taken : System.step P system action = some next) {id : SessionId}
    (below : id < system.allocated) :
    id < next.allocated ∧
      (next.server.clients id).toLoginData = (system.server.clients id).toLoginData := by
  cases System.moved_of_step taken with
  | unchanged => exact ⟨below, rfl⟩
  | connected env database idLine addLine client server loggedIn registered =>
      refine ⟨Nat.lt_succ_of_lt below, ?_⟩
      simp only [registered.clients]
      rw [Function.update_of_ne (Nat.ne_of_lt below)]
  | acted actor other server acts => exact ⟨below, acts.loginData id⟩
  | released other => exact ⟨below, rfl⟩

/-- No run touches the login data of an allocated session. -/
theorem run_loginData {system later : System F} (reached : Reaches (System.step P) system later)
    {id : SessionId} (below : id < system.allocated) :
    (later.server.clients id).toLoginData = (system.server.clients id).toLoginData := by
  have kept := invariant_of_reaches
    (fun current action next taken (held : id < current.allocated ∧
        (current.server.clients id).toLoginData = (system.server.clients id).toLoginData) => by
      have stepped := step_loginData taken held.1
      exact ⟨stepped.1, stepped.2.trans held.2⟩)
    ⟨below, rfl⟩ reached
  exact kept.2

end System

/-- A session that `handleConn` registers has passed every check of the login,
keeps its login data for good, and challenges are only ever answered from an
initialized state. -/
theorem session_lifetime {system : System F}
    (reached : Reaches (System.step P) (System.start heap) system) {env : LoginEnv}
    {database : Database} {idLine addLine : Option Bytes} {server : Server F}
    (connected :
      system.server.connect P env database system.allocated idLine addLine = .ok server) :
    (Exists fun idPacket => Exists fun addPacket =>
      idLine = some idPacket ∧ addLine = some addPacket ∧
        Admitted P env.now database idPacket addPacket (server.clients system.allocated)) ∧
    forall later, Reaches (System.step P) ⟨server, system.allocated + 1⟩ later ->
      (later.server.clients system.allocated).toLoginData =
          (server.clients system.allocated).toLoginData ∧
        forall id authState, later.server.Registered id ->
          later.server.challengedState id = some authState -> authState.isInitialized = true := by
  rcases Server.connect_eq_ok connected with ⟨client, loggedIn, registeredAs⟩
  have own : server.clients system.allocated = client := by
    rw [registeredAs.clients, Function.update_self]
  have entered : Reaches (System.step P) (System.start heap)
      (⟨server, system.allocated + 1⟩ : System F) := by
    have taken : System.step P system (.connect env database idLine addLine) =
        some ⟨server, system.allocated + 1⟩ := by
      dsimp only [System.step]
      rw [connected]
    exact reached.tail taken
  constructor
  · rw [own]
    exact login_eq_ok loggedIn
  · intro later continued
    constructor
    · exact System.run_loginData continued (Nat.lt_succ_self _)
    · intro id authState registered challenged
      have wellFormed := System.wellFormed_of_reaches (entered.trans continued)
      exact wellFormed.isInitialized_of_challenged registered challenged

theorem session_lifetime_sample : Exists fun server : Server Real =>
    (Exists fun idPacket => Exists fun addPacket =>
      sampleIdLine = some idPacket ∧ sampleAddLine = some addPacket ∧
        Admitted Symbolic.platform 0 Symbolic.database idPacket addPacket (server.clients 0)) ∧
    forall later, Reaches (System.step Symbolic.platform) ⟨server, 1⟩ later ->
      (later.server.clients 0).toLoginData = (server.clients 0).toLoginData ∧
        forall id authState, later.server.Registered id ->
          later.server.challengedState id = some authState -> authState.isInitialized = true := by
  rcases exists_sampleSession fun _ => newClient [] sampleData with ⟨server, connected⟩
  exact ⟨server, session_lifetime (Reaches.refl (System.start fun _ => newClient [] sampleData))
    connected⟩

end Fsd
end OpenFsd
