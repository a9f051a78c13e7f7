import OpenFsd.Fsd.Admission
import OpenFsd.Fsd.Turn
import OpenFsd.Library.Transition

namespace OpenFsd
namespace Fsd

open Db

/-!
# The FSD server as a transition system

The state is the server with the number of sessions allocated so far.  The
actions are a login, the broadcasts around the event loop, one packet of a
registered session, the release, and a kick over HTTP.  Every login brings its
own database: the web server may have changed it since the last one.  The end
of an event loop cancels the context of its client before the rest of the
connection's exit runs.

`WellFormed` is the invariant of the reachable states.  It ties the map to
the callsigns, every facility to the rating of its client, and every
challenge to an initialized authentication state.
-/

/-- One step of the server. -/
inductive Action
  | connect (env : LoginEnv) (database : Database) (idLine addLine : Option Bytes)
  | announce (id : SessionId)
  | packet (now : Time) (id : SessionId) (packet : Bytes)
  | depart (id : SessionId)
  | release (id : SessionId)
  | kick (callsign : Bytes)

structure System (F : Type) where
  server : Server F
  allocated : SessionId

namespace System

variable {F : Type}

/-- The server as it starts: nobody is registered.  The heap is arbitrary,
since nothing is read from it before it is allocated. -/
def start (heap : SessionId -> Client F) : System F :=
  ⟨⟨heap, ⟨∅, []⟩, []⟩, 0⟩

variable [GoFloat F]

/-- `handleKickUser`, after the request is read. -/
def kick (s : Server F) (callsign : Bytes) : Option (Server F) :=
  (s.find callsign).map fun client => s.cancelCtx client

/-- The transition function.  A refused login leaves the server as it is. -/
def step (P : Platform) (system : System F) : Action -> Option (System F)
  | .connect env database idLine addLine =>
      match system.server.connect P env database system.allocated idLine addLine with
      | .error _ => some system
      | .ok registered => some ⟨registered, system.allocated + 1⟩
  | .announce id =>
      if system.server.Registered id then
        some { system with server := system.server.broadcastAddPacket id }
      else none
  | .packet now id packet =>
      if system.server.Registered id then
        some { system with server := system.server.processPacket P.md5 now id packet }
      else none
  | .depart id =>
      if system.server.Registered id then
        some { system with server := (system.server.cancelCtx id).broadcastDisconnectPacket id }
      else none
  | .release id =>
      if system.server.Registered id then
        some { system with server := system.server.release id }
      else none
  | .kick callsign =>
      (kick system.server callsign).map fun server => { system with server := server }

/-- The client record of an allocated session. -/
structure Sound (P : Platform) (client : Client F) : Prop where
  facilityType : isAllowedFacilityType client.networkRating client.facilityType = true
  authState : client.clientChallenge ≠ [] ->
    client.authState.InitializedFrom P.md5 client.clientId client.clientChallenge

/-- The invariant of the reachable states. -/
structure WellFormed (P : Platform) (system : System F) : Prop where
  mapped : forall callsign id, system.server.postOffice.clientMap.lookup callsign = some id ->
    (system.server.clients id).callsign = callsign ∧ id < system.allocated
  sound : forall id, id < system.allocated -> Sound P (system.server.clients id)

end System

namespace Server

variable {F : Type}

/-! ## What the steps do -/

/-- The effect of a registration, with the client that was allocated for it. -/
structure RegisteredAs (s next : Server F) (id : SessionId) (client : Client F) : Prop where
  clients : next.clients = Function.update s.clients id client
  free : s.postOffice.clientMap.lookup client.callsign = none
  clientMap : next.postOffice.clientMap = s.postOffice.clientMap.insert client.callsign id

theorem registerMap_eq_some {s next : Server F} {id : SessionId}
    (done : s.registerMap id = some next) :
    s.postOffice.clientMap.lookup (s.clients id).callsign = none ∧
      next = { s with postOffice := { s.postOffice with
        clientMap := s.postOffice.clientMap.insert (s.clients id).callsign id } } := by
  unfold registerMap at done
  cases free : s.postOffice.clientMap.lookup (s.clients id).callsign with
  | some other =>
      simp only [free] at done
      cases done
  | none =>
      simp only [free, Option.some.injEq] at done
      exact ⟨rfl, done.symm⟩

theorem registerMap_of_free {s : Server F} {id : SessionId}
    (free : s.postOffice.clientMap.lookup (s.clients id).callsign = none) :
    s.registerMap id = some { s with postOffice := { s.postOffice with
      clientMap := s.postOffice.clientMap.insert (s.clients id).callsign id } } := by
  unfold registerMap
  simp only [free]

theorem requiredPrivilege_addPacket (client : Client F) :
    requiredPrivilege (addPacket client) = .none := by
  have typed : getPacketType (addPacket client) = .unknown := by
    unfold addPacket
    cases client.isAtc with
    | true => exact (getPacketType_hash _ _ _).trans (by decide)
    | false => exact (getPacketType_hash _ _ _).trans (by decide)
  exact requiredPrivilege_of_untabled typed (by decide)

theorem requiredPrivilege_disconnectPacket (client : Client F) :
    requiredPrivilege (disconnectPacket client) = .none := by
  have typed : getPacketType (disconnectPacket client) =
      if client.isAtc then .deleteATC else .deletePilot := by
    unfold disconnectPacket
    cases client.isAtc with
    | true => exact (getPacketType_hash _ _ _).trans (by decide)
    | false => exact (getPacketType_hash _ _ _).trans (by decide)
  refine requiredPrivilege_of_untabled typed ?_
  cases client.isAtc <;> decide

theorem acts_broadcastAddPacket (s : Server F) {md5 : Bytes -> List.Vector UInt8 16}
    (id : SessionId) : Acts md5 (s.clients id) id s (s.broadcastAddPacket id) := by
  refine s.acts_broadcastAllWhere _ ?_
  rw [requiredPrivilege_addPacket]
  exact True.intro

theorem acts_broadcastDisconnectPacket (s : Server F) {md5 : Bytes -> List.Vector UInt8 16}
    {actor : Client F} (id : SessionId) :
    Acts md5 actor id s (s.broadcastDisconnectPacket id) := by
  refine s.acts_broadcastAllWhere _ ?_
  rw [requiredPrivilege_disconnectPacket]
  exact True.intro

variable [GoFloat F]

theorem connect_eq_ok {s next : Server F} {P : Platform} {env : LoginEnv} {database : Database}
    {id : SessionId} {idLine addLine : Option Bytes}
    (done : s.connect P env database id idLine addLine = .ok next) :
    Exists fun client => login P env database idLine addLine = .ok client ∧
      RegisteredAs s next id client := by
  unfold connect at done
  rcases bind_eq_ok.mp done with ⟨client, loggedIn, done⟩
  refine ⟨client, loggedIn, ?_⟩
  unfold register at done
  cases mapped : (s.allocate id client).registerMap id with
  | none =>
      rw [mapped] at done
      exact absurd done refuse_ne_ok
  | some stored =>
      rw [mapped] at done
      rcases registerMap_eq_some mapped with ⟨free, same⟩
      have own : (s.allocate id client).clients id = client := s.modifyClient_same id _
      rw [own] at free same
      subst same
      rw [← Except.ok.inj done]
      exact ⟨rfl, free, rfl⟩

/-- An accepted login causes no event. -/
theorem events_connect {s registered : Server F} {P : Platform} {env : LoginEnv}
    {database : Database} {id : SessionId} {idLine addLine : Option Bytes}
    (accepted : s.connect P env database id idLine addLine = .ok registered) :
    registered.events = s.events := by
  unfold connect at accepted
  rcases bind_eq_ok.mp accepted with ⟨client, _, accepted⟩
  unfold register at accepted
  cases mapped : (s.allocate id client).registerMap id with
  | none =>
      rw [mapped] at accepted
      exact absurd accepted refuse_ne_ok
  | some stored =>
      rw [mapped] at accepted
      rw [← Except.ok.inj accepted, (registerMap_eq_some mapped).2]
      rfl

/-- A login with a free callsign is registered. -/
theorem connect_of_free {s : Server F} {P : Platform} {env : LoginEnv} {database : Database}
    {idLine addLine : Option Bytes} {client : Client F} (id : SessionId)
    (loggedIn : login P env database idLine addLine = .ok client)
    (free : s.postOffice.clientMap.lookup client.callsign = none) :
    Exists fun next => s.connect P env database id idLine addLine = .ok next := by
  have own : (s.allocate id client).clients id = client := s.modifyClient_same id _
  have unused : (s.allocate id client).postOffice.clientMap.lookup
      ((s.allocate id client).clients id).callsign = none := by
    rw [own]
    exact free
  have registered : Exists fun next => (s.allocate id client).register id = some next := by
    unfold register
    rw [registerMap_of_free unused]
    exact ⟨_, rfl⟩
  rcases registered with ⟨next, registered⟩
  refine ⟨next, ?_⟩
  unfold connect
  refine bind_eq_ok.mpr ⟨client, loggedIn, ?_⟩
  simp only [registered]

end Server

namespace System

variable {F : Type} {P : Platform}

theorem WellFormed.allocated_of_registered {system : System F} (wellFormed : WellFormed P system)
    {id : SessionId} (registered : system.server.Registered id) : id < system.allocated :=
  (wellFormed.mapped _ id registered).2

/-- A turn of an event loop keeps the invariant. -/
theorem WellFormed.acts {system : System F} (wellFormed : WellFormed P system) {actor : Client F}
    {id : SessionId} {next : Server F} (acts : Acts P.md5 actor id system.server next) :
    WellFormed P { system with server := next } where
  mapped := by
    intro callsign other found
    rw [acts.clientMap] at found
    rcases wellFormed.mapped callsign other found with ⟨named, below⟩
    refine ⟨?_, below⟩
    rw [← named]
    exact congrArg LoginData.callsign (acts.loginData other)
  sound := by
    intro other below
    have before := wellFormed.sound other below
    have same := acts.loginData other
    constructor
    · rw [same]
      rcases acts.facilityType other with unchanged | allowed
      · rw [unchanged]
        exact before.facilityType
      · exact allowed
    · rw [same]
      intro challenged
      exact acts.authState other _ _ (before.authState challenged)

theorem wellFormed_start (heap : SessionId -> Client F) : WellFormed P (start heap) where
  mapped := fun _ _ found => by cases found
  sound := fun _ below => absurd below (Nat.not_lt_zero _)

variable [GoFloat F]

/-- A login is refused, or it connects the server. -/
theorem step_connect_cases {system next : System F} {env : LoginEnv} {database : Database}
    {idLine addLine : Option Bytes}
    (taken : System.step P system (.connect env database idLine addLine) = some next) :
    next = system ∨ Exists fun server =>
      system.server.connect P env database system.allocated idLine addLine = .ok server ∧
        next = ⟨server, system.allocated + 1⟩ := by
  dsimp only [System.step] at taken
  cases connected : system.server.connect P env database system.allocated idLine addLine with
  | error sent =>
      simp only [connected] at taken
      exact Or.inl (Option.some.inj taken).symm
  | ok server =>
      simp only [connected] at taken
      exact Or.inr ⟨server, rfl, (Option.some.inj taken).symm⟩

/-- An accepted login allocates a session. -/
theorem step_connect {system : System F} {env : LoginEnv} {database : Database}
    {idLine addLine : Option Bytes} {registered : Server F}
    (accepted : system.server.connect P env database system.allocated idLine addLine =
      .ok registered) :
    System.step P system (.connect env database idLine addLine) =
      some ⟨registered, system.allocated + 1⟩ := by
  dsimp only [System.step]
  rw [accepted]

/-- What one step does to the system. -/
inductive Moved (P : Platform) (system : System F) : System F -> Prop
  | unchanged : Moved P system system
  | connected (env : LoginEnv) (database : Database) (idLine addLine : Option Bytes)
      (client : Client F) (server : Server F)
      (loggedIn : login P env database idLine addLine = .ok client)
      (registered : Server.RegisteredAs system.server server system.allocated client) :
      Moved P system ⟨server, system.allocated + 1⟩
  | acted (actor : Client F) (id : SessionId) (server : Server F)
      (acts : Acts P.md5 actor id system.server server) :
      Moved P system { system with server := server }
  | released (id : SessionId) : Moved P system { system with server := system.server.release id }

theorem moved_of_step {system next : System F} {action : Action}
    (taken : System.step P system action = some next) : Moved P system next := by
  cases action with
  | connect env database idLine addLine =>
      rcases step_connect_cases taken with same | ⟨server, connected, same⟩
      · rw [same]
        exact .unchanged
      · rw [same]
        rcases Server.connect_eq_ok connected with ⟨client, loggedIn, registered⟩
        exact .connected env database idLine addLine client server loggedIn registered
  | announce id =>
      dsimp only [System.step] at taken
      split at taken
      · rw [← Option.some.inj taken]
        exact .acted _ id _ (system.server.acts_broadcastAddPacket id)
      · cases taken
  | packet now id packet =>
      dsimp only [System.step] at taken
      split at taken
      · rw [← Option.some.inj taken]
        exact .acted _ id _ (system.server.acts_processPacket now packet)
      · cases taken
  | depart id =>
      dsimp only [System.step] at taken
      split at taken
      · rw [← Option.some.inj taken]
        have cancelled : Acts P.md5 (system.server.clients id) id system.server
            (system.server.cancelCtx id) :=
          system.server.acts_cancelCtx (Or.inl rfl)
        exact .acted _ id _ (cancelled.trans (Server.acts_broadcastDisconnectPacket _ id))
      · cases taken
  | release id =>
      dsimp only [System.step] at taken
      split at taken
      · rw [← Option.some.inj taken]
        exact .released id
      · cases taken
  | kick callsign =>
      rcases Option.map_eq_some_iff.mp taken with ⟨server, kicked, same⟩
      rcases Option.map_eq_some_iff.mp kicked with ⟨victim, _, cancelled⟩
      rw [← same, ← cancelled]
      exact .acted (system.server.clients victim) victim _
        (system.server.acts_cancelCtx (Or.inl rfl))

/-! ## The invariant -/

theorem WellFormed.connect {system : System F} (wellFormed : WellFormed P system) {env : LoginEnv}
    {database : Database} {idLine addLine : Option Bytes} {client : Client F} {next : Server F}
    (loggedIn : login P env database idLine addLine = .ok client)
    (registered : Server.RegisteredAs system.server next system.allocated client) :
    WellFormed P ⟨next, system.allocated + 1⟩ := by
  rcases login_eq_ok loggedIn with ⟨idPacket, addPacket, _, _, admitted⟩
  constructor
  · intro callsign id found
    simp only [registered.clientMap, registered.clients] at found ⊢
    by_cases own : callsign = client.callsign
    · rw [own, AList.lookup_insert] at found
      rw [← Option.some.inj found, own, Function.update_self]
      exact ⟨rfl, Nat.lt_succ_self _⟩
    · rw [AList.lookup_insert_ne own] at found
      rcases wellFormed.mapped callsign id found with ⟨named, below⟩
      rw [Function.update_of_ne (Nat.ne_of_lt below)]
      exact ⟨named, Nat.lt_succ_of_lt below⟩
  · intro id below
    simp only [registered.clients]
    by_cases own : id = system.allocated
    · rw [own, Function.update_self]
      refine ⟨?_, admitted.authState⟩
      rw [admitted.facilityType]
      exact isAllowedFacilityType_zero _
    · rw [Function.update_of_ne own]
      exact wellFormed.sound id (Nat.lt_of_le_of_ne (Nat.le_of_lt_succ below) own)

theorem WellFormed.release {system : System F} (wellFormed : WellFormed P system) (id : SessionId) :
    WellFormed P { system with server := system.server.release id } where
  mapped := by
    intro callsign other found
    by_cases own : callsign = (system.server.clients id).callsign
    · rw [own] at found
      cases (AList.lookup_erase _ _).symm.trans found
    · exact wellFormed.mapped callsign other ((AList.lookup_erase_ne own).symm.trans found)
  sound := wellFormed.sound

/-- Every step keeps the invariant. -/
theorem WellFormed.step {system next : System F} {action : Action}
    (taken : System.step P system action = some next) (wellFormed : WellFormed P system) :
    WellFormed P next := by
  cases moved_of_step taken with
  | unchanged => exact wellFormed
  | connected env database idLine addLine client server loggedIn registered =>
      exact wellFormed.connect loggedIn registered
  | acted actor id server acts => exact wellFormed.acts acts
  | released id => exact wellFormed.release id

theorem wellFormed_of_reaches {heap : SessionId -> Client F} {system : System F}
    (reached : Transition.Reaches (System.step P) (start heap) system) : WellFormed P system :=
  Transition.invariant_of_reaches (fun _ _ _ taken wellFormed => wellFormed.step taken)
    (wellFormed_start heap) reached

end System
end Fsd
end OpenFsd
