import OpenFsd.Fsd.Alterations
import OpenFsd.Fsd.Callsigns

namespace OpenFsd
namespace Fsd

open Db

/-!
# What one step does to the records and to the registry

`Moved` says who may do what in a step.  `Recorded` says which records a step
changes: a packet alters them as `Altered` lists, a login fills a fresh one,
and everything else cancels contexts at most.
-/

variable {F : Type}

/-- Nothing is changed but events and whether contexts are cancelled. -/
structure Undisturbed (s next : Server F) : Prop where
  postOffice : next.postOffice = s.postOffice
  clients : forall other, Exists fun cancelled =>
    next.clients other = { s.clients other with cancelled := cancelled }

namespace Undisturbed

theorem trans {s middle next : Server F} (left : Undisturbed s middle)
    (right : Undisturbed middle next) : Undisturbed s next where
  postOffice := right.postOffice.trans left.postOffice
  clients := by
    intro other
    rcases left.clients other with ⟨_, first⟩
    rcases right.clients other with ⟨cancelled, second⟩
    rw [first] at second
    exact ⟨cancelled, second⟩

theorem sent {s next : Server F} (postOffice : next.postOffice = s.postOffice)
    (clients : next.clients = s.clients) : Undisturbed s next where
  postOffice := postOffice
  clients := fun other => ⟨(s.clients other).cancelled, by rw [clients]⟩

theorem cancelCtx (s : Server F) (victim : SessionId) : Undisturbed s (s.cancelCtx victim) where
  postOffice := rfl
  clients := by
    intro other
    have marked : (s.cancelCtx victim).clients = (s.modifyClient victim fun client =>
        { client with cancelled := true }).clients := rfl
    rw [marked]
    by_cases own : other = victim
    · rw [own, Server.modifyClient_same]
      exact ⟨true, rfl⟩
    · rw [Server.modifyClient_other _ _ own]
      exact ⟨(s.clients other).cancelled, rfl⟩

theorem toLoginData {s next : Server F} (undisturbed : Undisturbed s next) (other : SessionId) :
    (next.clients other).toLoginData = (s.clients other).toLoginData := by
  rcases undisturbed.clients other with ⟨_, same⟩
  rw [same]

theorem registered_iff {s next : Server F} (undisturbed : Undisturbed s next) {other : SessionId} :
    next.Registered other ↔ s.Registered other := by
  have same : (next.clients other).callsign = (s.clients other).callsign :=
    congrArg LoginData.callsign (undisturbed.toLoginData other)
  unfold Server.Registered
  rw [undisturbed.postOffice, same]

end Undisturbed

namespace Server

theorem clientMap_processPacket [GoFloat F] (s : Server F) (md5 : Bytes -> List.Vector UInt8 16)
    (now : Time) (id : SessionId) (packet : Bytes) :
    (s.processPacket md5 now id packet).postOffice.clientMap = s.postOffice.clientMap :=
  (s.acts_processPacket now packet).clientMap

theorem toLoginData_processPacket [GoFloat F] (s : Server F) (md5 : Bytes -> List.Vector UInt8 16)
    (now : Time) (id : SessionId) (packet : Bytes) (other : SessionId) :
    ((s.processPacket md5 now id packet).clients other).toLoginData =
      (s.clients other).toLoginData :=
  (s.acts_processPacket now packet).loginData other

theorem registered_processPacket [GoFloat F] (s : Server F) (md5 : Bytes -> List.Vector UInt8 16)
    (now : Time) (id : SessionId) (packet : Bytes) {other : SessionId} :
    (s.processPacket md5 now id packet).Registered other ↔ s.Registered other := by
  have same : ((s.processPacket md5 now id packet).clients other).callsign =
      (s.clients other).callsign :=
    congrArg LoginData.callsign (s.toLoginData_processPacket md5 now id packet other)
  unfold Registered
  rw [clientMap_processPacket, same]

/-- Whoever is registered after a registration is the new client, or was
registered before. -/
theorem RegisteredAs.registered_other {s next : Server F} {id other : SessionId} {client : Client F}
    (registeredAs : RegisteredAs s next id client) (registered : next.Registered other)
    (different : other ≠ id) : s.Registered other := by
  unfold Registered at registered ⊢
  rw [registeredAs.clients, Function.update_of_ne different, registeredAs.clientMap] at registered
  by_cases own : (s.clients other).callsign = client.callsign
  · rw [own, AList.lookup_insert] at registered
    exact absurd (Option.some.inj registered).symm different
  · rwa [AList.lookup_insert_ne own] at registered

/-- Whoever is registered after a release was registered before. -/
theorem registered_of_release [GoFloat F] {s : Server F} {id other : SessionId}
    (registered : (s.release id).Registered other) : s.Registered other := by
  unfold Registered at registered ⊢
  have same : (s.release id).clients = s.clients := rfl
  have erased : (s.release id).postOffice.clientMap =
      s.postOffice.clientMap.erase (s.clients id).callsign := rfl
  rw [same, erased] at registered
  by_cases own : (s.clients other).callsign = (s.clients id).callsign
  · rw [own, AList.lookup_erase] at registered
    cases registered
  · rwa [AList.lookup_erase_ne own] at registered

end Server

namespace System

variable [GoFloat F] {P : Platform}

/-- What one step does to the records and to the registry. -/
inductive Recorded (P : Platform) (system : System F) : Action -> System F -> Prop
  | refused (env : LoginEnv) (database : Database) (idLine addLine : Option Bytes) :
      Recorded P system (.connect env database idLine addLine) system
  | connected (env : LoginEnv) (database : Database) (idLine addLine : Option Bytes)
      (client : Client F) (server : Server F)
      (loggedIn : login P env database idLine addLine = .ok client)
      (registered : Server.RegisteredAs system.server server system.allocated client) :
      Recorded P system (.connect env database idLine addLine) ⟨server, system.allocated + 1⟩
  | processed (now : Time) (id : SessionId) (packet : Bytes)
      (registered : system.server.Registered id) :
      Recorded P system (.packet now id packet)
        { system with server := system.server.processPacket P.md5 now id packet }
  | undisturbed (action : Action) (server : Server F)
      (other : forall now id packet, action ≠ .packet now id packet)
      (undisturbed : Undisturbed system.server server) :
      Recorded P system action { system with server := server }
  | released (id : SessionId) (registered : system.server.Registered id) :
      Recorded P system (.release id) { system with server := system.server.release id }

theorem recorded_of_step {system next : System F} {action : Action}
    (taken : System.step P system action = some next) : Recorded P system action next := by
  cases action with
  | connect env database idLine addLine =>
      rcases step_connect_cases taken with same | ⟨server, connected, same⟩
      · rw [same]
        exact .refused env database idLine addLine
      · rw [same]
        rcases Server.connect_eq_ok connected with ⟨client, loggedIn, registered⟩
        exact .connected env database idLine addLine client server loggedIn registered
  | announce id =>
      rcases Option.ite_none_right_eq_some.mp taken with ⟨_, same⟩
      rw [← Option.some.inj same]
      exact .undisturbed _ _ nofun (.sent rfl rfl)
  | packet now id packet =>
      rcases Option.ite_none_right_eq_some.mp taken with ⟨registered, same⟩
      rw [← Option.some.inj same]
      exact .processed now id packet registered
  | depart id =>
      rcases Option.ite_none_right_eq_some.mp taken with ⟨_, same⟩
      rw [← Option.some.inj same]
      exact .undisturbed _ _ nofun ((Undisturbed.cancelCtx _ id).trans (.sent rfl rfl))
  | release id =>
      rcases Option.ite_none_right_eq_some.mp taken with ⟨registered, same⟩
      rw [← Option.some.inj same]
      exact .released id registered
  | kick callsign =>
      rcases Option.map_eq_some_iff.mp taken with ⟨server, kicked, same⟩
      rcases Option.map_eq_some_iff.mp kicked with ⟨victim, _, cancelled⟩
      rw [← same, ← cancelled]
      exact .undisturbed _ _ nofun (.cancelCtx _ victim)

theorem allocated_of_step {system next : System F} {action : Action}
    (taken : System.step P system action = some next) :
    next.allocated = system.allocated ∨ next.allocated = system.allocated + 1 ∧
      Exists fun env => Exists fun database => Exists fun idLine => Exists fun addLine =>
        action = .connect env database idLine addLine := by
  cases recorded_of_step taken with
  | refused => exact Or.inl rfl
  | connected env database idLine addLine =>
      exact Or.inr ⟨rfl, env, database, idLine, addLine, rfl⟩
  | processed => exact Or.inl rfl
  | undisturbed => exact Or.inl rfl
  | released => exact Or.inl rfl

/-- Nobody but itself takes a session out of the registry. -/
theorem registered_of_step {system next : System F} {action : Action}
    (taken : System.step P system action = some next) (wellFormed : WellFormed P system)
    {other : SessionId} (registered : system.server.Registered other)
    (stays : action ≠ .release other) : next.server.Registered other := by
  have below := wellFormed.allocated_of_registered registered
  cases recorded_of_step taken with
  | refused => exact registered
  | connected env database idLine addLine client server loggedIn registeredAs =>
      have different : other ≠ system.allocated := Nat.ne_of_lt below
      have free : (system.server.clients other).callsign ≠ client.callsign := by
        intro same
        have found : system.server.postOffice.clientMap.lookup client.callsign = some other :=
          same ▸ registered
        rw [registeredAs.free] at found
        cases found
      show server.postOffice.clientMap.lookup (server.clients other).callsign = some other
      rw [registeredAs.clients, Function.update_of_ne different, registeredAs.clientMap,
        AList.lookup_insert_ne free]
      exact registered
  | processed now id packet _ =>
      exact (system.server.registered_processPacket P.md5 now id packet).mpr registered
  | undisturbed action server _ undisturbed => exact undisturbed.registered_iff.mpr registered
  | released id released =>
      have free : (system.server.clients other).callsign ≠ (system.server.clients id).callsign := by
        intro same
        unfold Server.Registered at registered released
        rw [same, released] at registered
        rw [Option.some.inj registered] at stays
        exact stays rfl
      exact (AList.lookup_erase_ne free).trans registered

/-! ## What holds of every registered client -/

/-- The records of all registered clients are as they should be. -/
def AllRegistered (fits : Client F -> Prop) (s : Server F) : Prop :=
  forall id, s.Registered id -> fits (s.clients id)

/-- A condition on steps that asks for something only where a packet is
processed, and there for what keeps all records as they should be. -/
structure Keeps (P : Platform) (stores : System F -> Action -> Prop) (fits : Client F -> Prop) :
    Prop where
  fresh : forall {env : LoginEnv} {database : Database} {idLine addLine : Option Bytes}
    {client : Client F}, login P env database idLine addLine = .ok client -> fits client
  cancelled : forall (client : Client F) (cancelled : Bool),
    fits client -> fits { client with cancelled := cancelled }
  elsewhere : forall (system : System F) (action : Action),
    (forall now id packet, action ≠ .packet now id packet) -> stores system action
  unregistered : forall (system : System F) (now : Time) (id : SessionId) (packet : Bytes),
    ¬ system.server.Registered id -> stores system (.packet now id packet)
  turn : forall {system : System F}, AllRegistered fits system.server ->
    forall (now : Time) (id : SessionId) (packet : Bytes), system.server.Registered id ->
      (stores system (.packet now id packet) ↔
        AllRegistered fits (system.server.processPacket P.md5 now id packet))

namespace Keeps

variable {stores : System F -> Action -> Prop} {fits : Client F -> Prop}

theorem step (keeps : Keeps P stores fits) {system next : System F} {action : Action}
    (taken : System.step P system action = some next) (all : AllRegistered fits system.server) :
    stores system action ↔ AllRegistered fits next.server := by
  cases recorded_of_step taken with
  | refused env database idLine addLine => exact iff_of_true (keeps.elsewhere system _ nofun) all
  | processed now id packet registered => exact keeps.turn all now id packet registered
  | connected env database idLine addLine client server loggedIn registeredAs =>
      refine iff_of_true (keeps.elsewhere system _ nofun) ?_
      intro other registered
      rw [registeredAs.clients]
      by_cases own : other = system.allocated
      · rw [own, Function.update_self]
        exact keeps.fresh loggedIn
      · rw [Function.update_of_ne own]
        exact all other (registeredAs.registered_other registered own)
  | undisturbed action server noPacket undisturbed =>
      refine iff_of_true (keeps.elsewhere system _ noPacket) ?_
      intro other registered
      rcases undisturbed.clients other with ⟨cancelled, same⟩
      dsimp only
      rw [same]
      exact keeps.cancelled _ cancelled (all other (undisturbed.registered_iff.mp registered))
  | released id registered =>
      refine iff_of_true (keeps.elsewhere system _ nofun) ?_
      exact fun other registeredOther => all other (Server.registered_of_release registeredOther)

/-- In every state of a run all records are as they should be, exactly if every
step meets the condition. -/
theorem run (keeps : Keeps P stores fits) (heap : SessionId -> Client F) (actions : List Action) :
    (forall system, Transition.Visits (System.step P) (start heap) actions system ->
      AllRegistered fits system.server) ↔
        Transition.Along (System.step P) stores (start heap) actions := by
  have nobody : AllRegistered fits (start heap).server := fun id registered => by cases registered
  apply Transition.forall_visited_iff (fun _ _ _ _ (_ : True) => True.intro)
    (fun state action next taken _ all => keeps.step taken all) ?_ True.intro nobody
  intro system action disabled
  cases action with
  | packet now id packet =>
      apply keeps.unregistered
      intro registered
      dsimp only [System.step] at disabled
      rw [if_pos registered] at disabled
      cases disabled
  | _ => exact keeps.elsewhere system _ nofun

end Keeps

end System
end Fsd
end OpenFsd
