import OpenFsd.Fsd.Connections
import OpenFsd.Fsd.Deliveries

namespace OpenFsd
namespace Fsd

open Transition

/-!
# Announcements of presence

`handleConn` announces every session once before its event loop, and once
after it.  The handler of the client's own delete packet announces the
departure too, and the event loop goes on.  So another session is told exactly
once if the client has sent no delete packet, and otherwise once more for
every delete packet that was accepted.
-/

/-- The packet announces an arrival. -/
def IsAdd (packet : Bytes) : Prop :=
  packet.take 3 = bytes "#AA" ∨ packet.take 3 = bytes "#AP"

/-- The packet announces a departure. -/
def IsDelete (packet : Bytes) : Prop :=
  getPacketType packet ∈ [PacketType.deleteATC, .deletePilot]

theorem exists_of_take {packet : Bytes} {first second third : UInt8}
    (starts : packet.take 3 = [first, second, third]) :
    Exists fun rest => packet = first :: second :: third :: rest := by
  refine ⟨packet.drop 3, ?_⟩
  rw [← List.take_append_drop 3 packet, starts]
  rfl

/-- No client can send an arrival: its packet type is unknown. -/
theorem IsAdd.unknown {packet : Bytes} (add : IsAdd packet) : getPacketType packet = .unknown := by
  rcases add with atc | pilot
  · rcases exists_of_take atc with ⟨rest, same⟩
    rw [same]
    exact (getPacketType_hash _ _ _).trans (by decide)
  · rcases exists_of_take pilot with ⟨rest, same⟩
    rw [same]
    exact (getPacketType_hash _ _ _).trans (by decide)

variable {F : Type}

theorem isAdd_addPacket (client : Client F) : IsAdd (Server.addPacket client) := by
  unfold Server.addPacket
  cases client.isAtc with
  | true => exact Or.inl rfl
  | false => exact Or.inr rfl

theorem isDelete_disconnectPacket (client : Client F) :
    IsDelete (Server.disconnectPacket client) := by
  unfold IsDelete Server.disconnectPacket
  cases client.isAtc with
  | true =>
      have typed : getPacketType (bytes "#DA" ++ client.callsign ++ bytes ":SERVER:" ++
          itoa client.cid ++ crlf) = .deleteATC := (getPacketType_hash _ _ _).trans (by decide)
      rw [if_pos rfl, typed]
      decide
  | false =>
      have typed : getPacketType (bytes "#DP" ++ client.callsign ++ bytes ":SERVER:" ++
          itoa client.cid ++ crlf) = .deletePilot := (getPacketType_hash _ _ _).trans (by decide)
      rw [if_neg Bool.false_ne_true, typed]
      decide

/-! ## What others are told in one step -/

namespace Server

variable {s : Server F} {id recipient : SessionId}

theorem sentTo_broadcast (indexed : s.Indexed) (registered : s.Registered recipient)
    (different : recipient ≠ id) (packet : Bytes) :
    sentTo recipient ((s.broadcastAll id packet).events.drop s.events.length) = [packet] := by
  have nodup : (s.recipientsAll id fun _ => true).Nodup := (nodup_registeredClients indexed).filter _
  rw [broadcastAll, broadcastAllWhere_eq, List.drop_left, sentTo_map_nodup nodup,
    if_pos ((mem_recipientsAll indexed).mpr ⟨registered, different, rfl⟩)]

variable [GoFloat F]

/-- What another client is told because of one packet is of the type of that
packet, and its type is known. -/
theorem getPacketType_of_told {md5 : Bytes -> List.Vector UInt8 16} {now : Time} {packet : Bytes}
    {packetType : PacketType}
    (accepted : verifyPacket packet (s.clients id).callsign = .accepted packetType)
    (different : recipient ≠ id) {told : Bytes}
    (member : told ∈ sentTo recipient
      ((s.processPacket md5 now id packet).events.drop s.events.length)) :
    getPacketType told = packetType := by
  have typed := (verifyPacket_accepted accepted).1
  rcases s.emits_processPacket md5 now id packet with ⟨caused, same, outgoing⟩
  rw [same, List.drop_left, mem_sentTo] at member
  generalize sent : Event.send recipient told = event at member
  cases outgoing event member with
  | relayed target =>
      cases sent
      exact typed.symm
  | filed target filed =>
      cases sent
      rw [typed, filed]
      exact (getPacketType_dollar _ _ _).trans (by decide)
  | amended target amended =>
      cases sent
      rw [typed, amended]
      exact (getPacketType_dollar _ _ _).trans (by decide)
  | replied reply answers =>
      cases sent
      exact absurd rfl different
  | cancelled victim => cases sent
  | metar icaoCode => cases sent

/-- A packet that is refused is told to nobody else. -/
theorem sentTo_of_refused {md5 : Bytes -> List.Vector UInt8 16} {now : Time} {packet : Bytes}
    {code : Int} {message : Bytes}
    (refused : verifyPacket packet (s.clients id).callsign = .refused code message)
    (different : recipient ≠ id) :
    sentTo recipient ((s.processPacket md5 now id packet).events.drop s.events.length) = [] := by
  have answered : s.processPacket md5 now id packet = s.sendTo id (errorPacket code message) := by
    unfold processPacket
    rw [refused]
    rfl
  have events : (s.sendTo id (errorPacket code message)).events =
      s.events ++ [Event.send id (errorPacket code message)] := rfl
  rw [answered, events, List.drop_left, sentTo_send_other (Ne.symm different)]

omit [GoFloat F] in
/-- A client's own delete packet is told to everybody else. -/
theorem sentTo_handleDelete (indexed : s.Indexed) (registered : s.Registered recipient)
    (different : recipient ≠ id) (packet : Bytes) :
    sentTo recipient ((s.handleDelete id packet).events.drop s.events.length) = [packet] := by
  have nodup : (s.recipientsAll id fun _ => true).Nodup := (nodup_registeredClients indexed).filter _
  have events : (s.handleDelete id packet).events =
      s.events ++ (((s.recipientsAll id fun _ => true).map fun target => Event.send target packet) ++
        [Event.cancel id]) := by
    rw [handleDelete, broadcastAll, broadcastAllWhere_eq]
    exact List.append_assoc _ _ _
  rw [events, List.drop_left, sentTo_append, sentTo_map_nodup nodup,
    if_pos ((mem_recipientsAll indexed).mpr ⟨registered, different, rfl⟩), sentTo_cancel]
  rfl

/-- A packet never tells others of an arrival, and it tells them of a
departure exactly if the handler of the delete packets is run on it. -/
theorem sentTo_processPacket (indexed : s.Indexed) (registered : s.Registered recipient)
    (different : recipient ≠ id) (md5 : Bytes -> List.Vector UInt8 16) (now : Time)
    (packet : Bytes) :
    (forall told, told ∈ sentTo recipient
        ((s.processPacket md5 now id packet).events.drop s.events.length) -> ¬ IsAdd told) ∧
      ((Exists fun told => told ∈ sentTo recipient
          ((s.processPacket md5 now id packet).events.drop s.events.length) ∧ IsDelete told) ↔
        Connections.handlerOf packet (s.clients id).callsign ∈
          [some PacketType.deleteATC, some PacketType.deletePilot]) := by
  unfold Connections.handlerOf
  cases verified : verifyPacket packet (s.clients id).callsign with
  | refused code message =>
      rw [sentTo_of_refused verified different]
      simp
  | accepted packetType =>
      have typed := (verifyPacket_accepted verified).1.symm
      have known : packetType ≠ .unknown := by
        intro unknown
        rw [unknown] at verified
        exact verifyPacket_ne_unknown verified
      constructor
      · intro told member add
        rw [← getPacketType_of_told verified different member] at known
        exact known add.unknown
      · constructor
        · rintro ⟨told, member, delete⟩
          unfold IsDelete at delete
          rw [getPacketType_of_told verified different member] at delete
          revert delete
          cases packetType <;> decide
        · intro handled
          have ownType : packetType ∈ [PacketType.deleteATC, .deletePilot] := by
            revert handled
            cases packetType <;> decide
          have deletes : s.processPacket md5 now id packet = s.handleDelete id packet := by
            unfold processPacket
            rw [verified]
            rcases List.mem_pair.mp ownType with atc | pilot
            · rw [atc]
              rfl
            · rw [pilot]
              rfl
          refine ⟨packet, ?_, ?_⟩
          · rw [deletes, sentTo_handleDelete indexed registered different]
            exact List.mem_cons_self
          · unfold IsDelete
            rw [typed]
            exact ownType

end Server

/-! ## Whole connections -/

namespace Connections

/-- What the goroutine of the first session sends to the second, in order. -/
def heard (conn : Connections F) (speaker listener : SessionId) : List Bytes :=
  conn.journal.flatMap fun turn =>
    if turn.speaker = some speaker then sentTo listener turn.caused else []

/-- The session has had a delete packet of its own accepted. -/
def BidsFarewell (conn : Connections F) (id : SessionId) : Prop :=
  Exists fun turn => turn ∈ conn.journal ∧ turn.speaker = some id ∧
    turn.handler ∈ [some PacketType.deleteATC, some PacketType.deletePilot]

/-- The listener has been told of the arrival first, of the departure last,
and of neither in between; or of neither, if the speaker never arrived. -/
def ToldOnce (conn : Connections F) (speaker listener : SessionId) : Prop :=
  (conn.stage speaker = .failed -> conn.heard speaker listener = []) ∧
    (conn.stage speaker = .released -> Exists fun middle =>
      conn.heard speaker listener =
          Server.addPacket (conn.system.server.clients speaker) ::
            (middle ++ [Server.disconnectPacket (conn.system.server.clients speaker)]) ∧
        forall told, told ∈ middle -> ¬ IsAdd told ∧ ¬ IsDelete told)

/-- The listener is registered and its context is live, whenever the
goroutine of the speaker takes a step on the server. -/
def Attends (speaker listener : SessionId) (conn : Connections F) (move : Move) : Prop :=
  mover move = some speaker ->
    conn.system.server.Registered listener ∧
      (conn.system.server.clients listener).cancelled = false

/-- What a listener has been told between the arrival and the departure: no
other arrival, and a departure exactly if the speaker has bidden farewell. -/
structure Between (farewell : Prop) (middle : List Bytes) : Prop where
  add : forall told, told ∈ middle -> ¬ IsAdd told
  delete : (Exists fun told => told ∈ middle ∧ IsDelete told) ↔ farewell

/-- What a listener has been told by a session at this stage. -/
inductive Told (add delete : Bytes) (farewell : Prop) : Stage -> List Bytes -> Prop
  | before (stage : Stage) (staged : stage ∈ [Stage.unborn, .greeting, .failed])
      (quiet : ¬ farewell) : Told add delete farewell stage []
  | during (middle : List Bytes) (between : Between farewell middle) :
      Told add delete farewell .running (add :: middle)
  | after (stage : Stage) (staged : stage ∈ [Stage.departed, .released]) (middle : List Bytes)
      (between : Between farewell middle) :
      Told add delete farewell stage (add :: (middle ++ [delete]))

/-- `Told`, of a session and a listener. -/
def Tells (conn : Connections F) (speaker listener : SessionId) : Prop :=
  Told (Server.addPacket (conn.system.server.clients speaker))
    (Server.disconnectPacket (conn.system.server.clients speaker)) (conn.BidsFarewell speaker)
    (conn.stage speaker) (conn.heard speaker listener)

/-! ## The journal -/

variable {conn : Connections F} {speaker listener : SessionId}

theorem heard_acted (mover : Option SessionId) (handler : Option PacketType) (next : System F) :
    (conn.acted mover handler next).heard speaker listener =
      conn.heard speaker listener ++
        if mover = some speaker then
          sentTo listener (next.server.events.drop conn.system.server.events.length)
        else [] := by
  unfold heard acted
  rw [List.flatMap_append, List.flatMap_singleton]

theorem bidsFarewell_acted (mover : Option SessionId) (handler : Option PacketType)
    (next : System F) :
    (conn.acted mover handler next).BidsFarewell speaker ↔ conn.BidsFarewell speaker ∨
      mover = some speaker ∧
        handler ∈ [some PacketType.deleteATC, some PacketType.deletePilot] := by
  unfold BidsFarewell acted
  constructor
  · rintro ⟨turn, member, own, delete⟩
    rcases List.mem_append.mp member with before | last
    · exact Or.inl ⟨turn, before, own, delete⟩
    · rw [List.mem_singleton.mp last] at own delete
      exact Or.inr ⟨own, delete⟩
  · rintro (⟨turn, member, own, delete⟩ | ⟨own, delete⟩)
    · exact ⟨turn, List.mem_append_left _ member, own, delete⟩
    · exact ⟨_, List.mem_append_right _ List.mem_cons_self, own, delete⟩

/-- Only the login data of a session stands in its announcements. -/
theorem announcements_congr {first second : Client F}
    (same : first.toLoginData = second.toLoginData) :
    Server.addPacket first = Server.addPacket second ∧
      Server.disconnectPacket first = Server.disconnectPacket second := by
  unfold Server.addPacket Server.disconnectPacket
  rw [same]
  exact ⟨rfl, rfl⟩

section Told

variable {add delete : Bytes} {farewell : Prop} {heard : List Bytes}

/-- Before its arrival a session has told nothing. -/
theorem Told.of_before {stage : Stage} (told : Told add delete farewell stage heard)
    (staged : stage ∈ [Stage.unborn, .greeting, .failed]) : heard = [] ∧ ¬ farewell := by
  cases told with
  | before _ _ quiet => exact ⟨rfl, quiet⟩
  | during middle between => exact absurd staged (by decide)
  | after _ ended middle between =>
      rcases List.mem_pair.mp ended with departed | released
      · rw [departed] at staged
        exact absurd staged (by decide)
      · rw [released] at staged
        exact absurd staged (by decide)

theorem Told.of_running (told : Told add delete farewell .running heard) :
    Exists fun middle => heard = add :: middle ∧ Between farewell middle := by
  cases told with
  | before _ staged _ => exact absurd staged (by decide)
  | during middle between => exact ⟨middle, rfl, between⟩
  | after _ staged _ _ => exact absurd staged (by decide)

theorem Told.of_after {stage : Stage} (told : Told add delete farewell stage heard)
    (staged : stage ∈ [Stage.departed, .released]) :
    Exists fun middle => heard = add :: (middle ++ [delete]) ∧ Between farewell middle := by
  cases told with
  | before _ early quiet =>
      rcases List.mem_pair.mp staged with departed | released
      · rw [departed] at early
        exact absurd early (by decide)
      · rw [released] at early
        exact absurd early (by decide)
  | during middle between => exact absurd staged (by decide)
  | after _ _ middle between => exact ⟨middle, rfl, between⟩

/-- What is told between the arrival and the departure adds up. -/
theorem Between.append {middle : List Bytes} (between : Between farewell middle)
    {later : List Bytes} {bids : Prop}
    (added : forall told, told ∈ later -> ¬ IsAdd told)
    (deleted : (Exists fun told => told ∈ later ∧ IsDelete told) ↔ bids) :
    Between (farewell ∨ bids) (middle ++ later) where
  add := by
    intro told member
    rcases List.mem_append.mp member with early | late
    · exact between.add told early
    · exact added told late
  delete := by
    rw [← between.delete, ← deleted]
    constructor
    · rintro ⟨told, member, delete⟩
      rcases List.mem_append.mp member with early | late
      · exact Or.inl ⟨told, early, delete⟩
      · exact Or.inr ⟨told, late, delete⟩
    · rintro (⟨told, member, delete⟩ | ⟨told, member, delete⟩)
      · exact ⟨told, List.mem_append_left later member, delete⟩
      · exact ⟨told, List.mem_append_right middle member, delete⟩

end Told

/-! ## The steps -/

/-- Nothing about a session and what it has told changes. -/
theorem Tells.unchanged {next : Connections F} (tells : conn.Tells speaker listener)
    (seated : Seated conn) (stage : next.stage speaker = conn.stage speaker)
    (loginData : speaker < conn.system.allocated ->
      (next.system.server.clients speaker).toLoginData =
        (conn.system.server.clients speaker).toLoginData)
    (heard : next.heard speaker listener = conn.heard speaker listener)
    (farewell : next.BidsFarewell speaker ↔ conn.BidsFarewell speaker) :
    next.Tells speaker listener := by
  unfold Tells at tells ⊢
  rw [stage, heard, propext farewell]
  by_cases below : speaker < conn.system.allocated
  · rw [(announcements_congr (loginData below)).1, (announcements_congr (loginData below)).2]
    exact tells
  · have unborn := seated.unborn speaker (Nat.not_lt.mp below)
    rw [unborn] at tells ⊢
    rcases tells.of_before (by decide) with ⟨nothing, quiet⟩
    rw [nothing]
    exact .before _ (by decide) quiet

/-- Another session enters a stage. -/
theorem Tells.entered_other (tells : conn.Tells speaker listener) {id : SessionId}
    (other : speaker ≠ id) (stage : Stage) : (conn.enter id stage).Tells speaker listener := by
  unfold Tells at tells ⊢
  rw [enter_stage_other conn other]
  exact tells

variable [GoFloat F] {P : Platform}

/-- A step on the server that is not the speaker's tells nothing. -/
theorem Tells.acted_other {next : System F} {action : Action} (tells : conn.Tells speaker listener)
    (seated : Seated conn) (taken : System.step P conn.system action = some next)
    (mover : Option SessionId) (other : mover ≠ some speaker) (handler : Option PacketType) :
    (conn.acted mover handler next).Tells speaker listener := by
  refine tells.unchanged seated rfl (fun below => (System.step_loginData taken below).2) ?_ ?_
  · rw [heard_acted, if_neg other, List.append_nil]
  · rw [bidsFarewell_acted]
    exact ⟨fun either => either.resolve_right fun own => other own.1, Or.inl⟩

/-- A step of the speaker on the server adds what it tells. -/
theorem tells_entered {next : System F} {action : Action}
    (taken : System.step P conn.system action = some next)
    (below : speaker < conn.system.allocated) {handler : Option PacketType} {stage : Stage}
    (told : Told (Server.addPacket (conn.system.server.clients speaker))
      (Server.disconnectPacket (conn.system.server.clients speaker))
      (conn.BidsFarewell speaker ∨ handler ∈ [some PacketType.deleteATC, some PacketType.deletePilot])
      stage (conn.heard speaker listener ++
        sentTo listener (next.server.events.drop conn.system.server.events.length))) :
    ((conn.acted (some speaker) handler next).enter speaker stage).Tells speaker listener := by
  have loginData := (System.step_loginData taken below).2
  have heard : ((conn.acted (some speaker) handler next).enter speaker stage).heard speaker listener =
      conn.heard speaker listener ++
        sentTo listener (next.server.events.drop conn.system.server.events.length) :=
    (heard_acted (some speaker) handler next).trans (by rw [if_pos rfl])
  have farewell : ((conn.acted (some speaker) handler next).enter speaker stage).BidsFarewell
      speaker ↔ conn.BidsFarewell speaker ∨
        handler ∈ [some PacketType.deleteATC, some PacketType.deletePilot] :=
    (bidsFarewell_acted (some speaker) handler next).trans (by rw [and_iff_right rfl])
  unfold Tells
  rw [enter_stage_self, heard, propext farewell]
  rw [← (announcements_congr loginData).1, ← (announcements_congr loginData).2] at told
  exact told

/-- A session tells nothing with its release. -/
theorem sentTo_release {next : System F} {id : SessionId}
    (taken : System.step P conn.system (.release id) = some next) :
    sentTo listener (next.server.events.drop conn.system.server.events.length) = [] := by
  rcases Option.ite_none_right_eq_some.mp taken with ⟨_, same⟩
  have events : (conn.system.server.release id).events = conn.system.server.events := rfl
  rw [← Option.some.inj same]
  dsimp only
  rw [events, List.drop_length, sentTo_nil]

theorem sentTo_announce {next : System F} (indexed : conn.system.server.Indexed)
    (registered : conn.system.server.Registered listener) (different : listener ≠ speaker)
    (taken : System.step P conn.system (.announce speaker) = some next) :
    sentTo listener (next.server.events.drop conn.system.server.events.length) =
      [Server.addPacket (conn.system.server.clients speaker)] := by
  rcases Option.ite_none_right_eq_some.mp taken with ⟨_, same⟩
  rw [← Option.some.inj same]
  exact Server.sentTo_broadcast indexed registered different _

theorem sentTo_depart {next : System F} (indexed : conn.system.server.Indexed)
    (registered : conn.system.server.Registered listener) (different : listener ≠ speaker)
    (taken : System.step P conn.system (.depart speaker) = some next) :
    sentTo listener (next.server.events.drop conn.system.server.events.length) =
      [Server.disconnectPacket (conn.system.server.clients speaker)] := by
  have undisturbed := Undisturbed.cancelCtx conn.system.server speaker
  have indexedAfter : (conn.system.server.cancelCtx speaker).Indexed := by
    intro callsign id found
    have same : ((conn.system.server.cancelCtx speaker).clients id).callsign =
        (conn.system.server.clients id).callsign :=
      congrArg LoginData.callsign (undisturbed.toLoginData id)
    rw [same]
    exact indexed callsign id found
  have told := Server.sentTo_broadcast indexedAfter (undisturbed.registered_iff.mpr registered)
    different (Server.disconnectPacket ((conn.system.server.cancelCtx speaker).clients speaker))
  rw [(announcements_congr (undisturbed.toLoginData speaker)).2] at told
  have marked : (conn.system.server.cancelCtx speaker).events =
      conn.system.server.events ++ [.cancel speaker] := rfl
  rcases Option.ite_none_right_eq_some.mp taken with ⟨_, same⟩
  rw [← Option.some.inj same]
  rw [Server.broadcastAll, Server.broadcastAllWhere_eq, List.drop_left] at told
  rw [Server.broadcastDisconnectPacket, Server.broadcastAll, Server.broadcastAllWhere_eq,
    (announcements_congr (undisturbed.toLoginData speaker)).2]
  dsimp only
  rw [marked, List.append_assoc, List.drop_left, sentTo_append, sentTo_cancel, told]
  rfl

/-- Every move keeps what a session tells, if the listener attends. -/
theorem Tells.step {next : Connections F} {move : Move} (tells : conn.Tells speaker listener)
    (seated : Seated conn) (wellFormed : System.WellFormed P conn.system)
    (different : listener ≠ speaker) (attends : Attends speaker listener conn move)
    (done : step P conn move = some next) : next.Tells speaker listener := by
  have indexed : conn.system.server.Indexed := fun callsign id found =>
    (wellFormed.mapped callsign id found).1
  have below : forall {stage : Stage}, conn.stage speaker = stage -> stage ≠ .unborn ->
      speaker < conn.system.allocated := by
    intro stage staged born
    by_contra above
    exact born (staged.symm.trans (seated.unborn speaker (Nat.not_lt.mp above)))
  have quietly : forall {id : SessionId} {action : Action} {system : System F} (stage : Stage)
      (handler : Option PacketType), speaker ≠ id ->
      System.step P conn.system action = some system ->
        ((conn.acted (some id) handler system).enter id stage).Tells speaker listener := by
    intro id action system stage handler other taken
    have acted := tells.acted_other seated taken (some id)
      (fun same => other (Option.some.inj same).symm) handler
    exact acted.entered_other other stage
  have unheard : ¬ (none : Option PacketType) ∈
      [some PacketType.deleteATC, some PacketType.deletePilot] := by decide
  cases stepped_of_step done with
  | refused => exact tells
  | connected env database idLine addLine scanner registered length nothing accepting =>
      have taken := System.step_connect accepting
      by_cases own : speaker = conn.system.allocated
      · have unborn := seated.unborn speaker (Nat.le_of_eq own.symm)
        rcases tells.of_before (by rw [unborn]; decide) with ⟨silent, quiet⟩
        let accepted := conn.acted (some conn.system.allocated) none
          ⟨registered, conn.system.allocated + 1⟩
        have heard : accepted.heard speaker listener = [] := by
          rw [heard_acted, silent, Server.events_connect accepting, List.drop_length, sentTo_nil,
            List.nil_append, ite_self]
        have farewell : ¬ accepted.BidsFarewell speaker := by
          rw [bidsFarewell_acted]
          exact fun either => either.elim quiet fun both => unheard both.2
        have greeting : (accepted.enter conn.system.allocated .greeting).stage speaker =
            .greeting := by
          rw [own]
          exact enter_stage_self _ _ _
        have told : (accepted.enter conn.system.allocated .greeting).Tells speaker listener := by
          unfold Tells
          rw [greeting]
          show Told _ _ _ _ (accepted.heard speaker listener)
          rw [heard]
          exact .before _ (by decide) farewell
        exact told
      · exact quietly .greeting none own taken
  | failed id system staged taken =>
      by_cases own : speaker = id
      · subst own
        rcases tells.of_before (by rw [staged]; decide) with ⟨silent, quiet⟩
        apply tells_entered taken (below staged (by decide))
        rw [silent, sentTo_release taken]
        exact .before _ (by decide) fun either => either.elim quiet unheard
      · exact quietly .failed none own taken
  | announced id system staged taken =>
      by_cases own : speaker = id
      · subst own
        rcases tells.of_before (by rw [staged]; decide) with ⟨silent, quiet⟩
        apply tells_entered taken (below staged (by decide))
        rw [silent, sentTo_announce indexed (attends rfl).1 different taken]
        refine .during [] ⟨nofun, ?_⟩
        simp [quiet]
      · exact quietly .running none own taken
  | read => exact tells
  | hungUp => exact tells
  | turned now id system token scanned staged found taken =>
      by_cases own : speaker = id
      · subst own
        unfold Tells at tells
        rw [staged] at tells
        rcases tells.of_running with ⟨middle, heard, between⟩
        rcases Option.ite_none_right_eq_some.mp taken with ⟨_, same⟩
        have told := Server.sentTo_processPacket indexed (attends rfl).1 different P.md5 now
          (appendDelimiter scanned token).1
        have entered : ((conn.acted (some speaker) (handlerOf (appendDelimiter scanned token).1
            (conn.system.server.clients speaker).callsign) system).enter speaker
              .running).Tells speaker listener := by
          apply tells_entered taken (below staged (by decide))
          rw [heard, ← Option.some.inj same, List.cons_append]
          exact .during _ (between.append told.1 told.2)
        have running : ((conn.acted (some speaker) (handlerOf (appendDelimiter scanned token).1
            (conn.system.server.clients speaker).callsign) system).enter speaker
              .running).stage speaker = conn.stage speaker :=
          (enter_stage_self _ speaker .running).trans staged.symm
        unfold Tells at entered ⊢
        rw [running] at entered
        exact entered
      · exact tells.acted_other seated taken (some id)
          (fun same => own (Option.some.inj same).symm) _
  | left id system staged finished taken =>
      by_cases own : speaker = id
      · subst own
        unfold Tells at tells
        rw [staged] at tells
        rcases tells.of_running with ⟨middle, heard, between⟩
        apply tells_entered taken (below staged (by decide))
        rw [heard, sentTo_depart indexed (attends rfl).1 different taken, List.cons_append]
        refine .after _ (by decide) middle ⟨between.add, between.delete.trans ?_⟩
        exact (or_iff_left unheard).symm
      · exact quietly .departed none own taken
  | released id system staged taken =>
      by_cases own : speaker = id
      · subst own
        rcases tells.of_after (by rw [staged]; decide) with ⟨middle, heard, between⟩
        apply tells_entered taken (below staged (by decide))
        rw [heard, sentTo_release taken, List.append_nil]
        refine .after _ (by decide) middle ⟨between.add, between.delete.trans ?_⟩
        exact (or_iff_left unheard).symm
      · exact quietly .released none own taken
  | kicked callsign system _ named taken => exact tells.acted_other seated taken none nofun none
  | closed => exact tells

variable {heap : SessionId -> Client F} {scanner : Scanner} {moves : List Move}

theorem tells_of_run (executed : run (step P) (start heap scanner) moves = some conn)
    (different : listener ≠ speaker)
    (attended : Along (step P) (Attends speaker listener) (start heap scanner) moves) :
    conn.Tells speaker listener := by
  have initially : (start heap scanner).Tells speaker listener :=
    .before .unborn (by decide) fun bids => by
      rcases bids with ⟨_, member, _⟩
      cases member
  have kept := invariant_along
    (fun current move next done attends (held : Reaches (step P) (start heap scanner) current ∧
        current.Tells speaker listener) => by
      have wellFormed := System.wellFormed_of_reaches (system_of_reaches held.1)
      exact ⟨held.1.tail done,
        held.2.step (seated_of_reaches held.1) wellFormed different attends done⟩)
    ⟨Reaches.refl _, initially⟩ attended executed
  exact kept.2

omit [GoFloat F] in
theorem Tells.toldOnce_iff (tells : conn.Tells speaker listener)
    (ended : conn.stage speaker = .released ∨ conn.stage speaker = .failed) :
    ToldOnce conn speaker listener ↔ ¬ conn.BidsFarewell speaker := by
  unfold Tells at tells
  rcases ended with released | failed
  · rw [released] at tells
    rcases tells.of_after (by decide) with ⟨middle, heard, between⟩
    rw [← between.delete]
    constructor
    · rintro ⟨_, told⟩ ⟨delete, member, deletes⟩
      rcases told released with ⟨other, heardOther, plain⟩
      have same : middle = other := by
        have equal := heard.symm.trans heardOther
        rw [List.cons_inj_right] at equal
        exact List.append_cancel_right equal
      exact (plain delete (same ▸ member)).2 deletes
    · intro none
      refine ⟨fun failed => ?_, fun _ => ⟨middle, heard, ?_⟩⟩
      · rw [released] at failed
        cases failed
      · intro told member
        exact ⟨between.add told member, fun delete => none ⟨told, member, delete⟩⟩
  · rw [failed] at tells
    rcases tells.of_before (by decide) with ⟨silent, quiet⟩
    refine iff_of_true ⟨fun _ => silent, fun released => ?_⟩ quiet
    rw [failed] at released
    cases released

/-- A listener that attends a session to its end has been told exactly once of
its arrival and of its departure, in this order and with nothing outside, if
and only if the session has had no delete packet of its own accepted.  A
session that fails before it is announced has told nothing, and a refused
login tells nobody. -/
theorem told_exactly_once_iff (executed : run (step P) (start heap scanner) moves = some conn)
    (different : listener ≠ speaker)
    (attended : Along (step P) (Attends speaker listener) (start heap scanner) moves)
    (ended : conn.stage speaker = .released ∨ conn.stage speaker = .failed) :
    (ToldOnce conn speaker listener ↔ ¬ conn.BidsFarewell speaker) ∧
      forall env database idLine addLine buffered sent next,
        conn.system.server.connect P env database conn.system.allocated idLine addLine =
          .error sent ->
        step P conn (.connect env database idLine addLine buffered) = some next -> next = conn := by
  constructor
  · exact (tells_of_run executed different attended).toldOnce_iff ended
  · intro env database idLine addLine buffered sent next refused done
    rcases Option.ite_none_right_eq_some.mp done with ⟨_, same⟩
    rw [refused] at same
    exact (Option.some.inj same).symm

/-! ## An audience -/

/-- The buffer of a connection whose peer has sent this text and hung up. -/
def farewellScanner (text : Bytes) : Scanner :=
  { Scanner.new 4096 [] with
    buf := text ++ List.replicate (4096 - text.length) 0
    stop := text.length
    err := true
    start_le_stop := Nat.zero_le _
    stop_le_length := by
      rw [List.length_append]
      exact Nat.le_add_right _ _ }

def towerIdLine : Option Bytes := some (bytes "$IDLON_TWR:SERVER:88e4:client")

def towerAddLine : Option Bytes := some (bytes "#AALON_TWR:SERVER:Name:1:secret:12:100")

/-- `LON_CTR` is registered, and `LON_TWR` enters its event loop, with this
text in its buffer. -/
def audienceMoves (text : Bytes) : List Move :=
  [.connect sampleLogin Symbolic.database sampleIdLine sampleAddLine (farewellScanner []),
   .connect sampleLogin Symbolic.database towerIdLine towerAddLine (farewellScanner text),
   .announce 1]

/-- The audience is in place, and the speaker has announced itself. -/
structure Audience (text : Bytes) (conn : Connections Real) : Prop where
  staged : conn.stage 1 = .running
  scanner : conn.scanner 1 = farewellScanner text
  listener : conn.system.server.Registered 0
  live : (conn.system.server.clients 0).cancelled = false
  speaker : conn.system.server.Registered 1
  callsign : (conn.system.server.clients 1).callsign = bytes "LON_TWR"

theorem length_farewellScanner {text : Bytes} (short : text.length ≤ 4096) :
    (farewellScanner text).buf.length = 4096 := by
  show (text ++ List.replicate (4096 - text.length) 0).length = 4096
  rw [List.length_append, List.length_replicate, Nat.add_sub_of_le short]

theorem exists_connected {conn : Connections F} {env : LoginEnv} {database : Db.Database}
    {idLine addLine : Option Bytes} {buffered : Scanner} {registered : Server F}
    (length : buffered.buf.length = 4096) (nothing : buffered.reads = [])
    (accepted : conn.system.server.connect P env database conn.system.allocated idLine addLine =
      .ok registered) :
    Exists fun next => step P conn (.connect env database idLine addLine buffered) = some next ∧
      next.system = ⟨registered, conn.system.allocated + 1⟩ ∧
        next.stage conn.system.allocated = .greeting ∧
          next.scanner conn.system.allocated = buffered := by
  dsimp only [step]
  rw [if_pos ⟨length, nothing⟩, accepted]
  exact ⟨_, rfl, rfl, Function.update_self _ _ _, Function.update_self _ _ _⟩

theorem exists_announced {id : SessionId} (staged : conn.stage id = .greeting)
    (registered : conn.system.server.Registered id) :
    Exists fun next => step P conn (.announce id) = some next ∧
      next.system = { conn.system with server := conn.system.server.broadcastAddPacket id } ∧
        next.stage id = .running ∧ next.scanner = conn.scanner := by
  dsimp only [step]
  rw [if_pos staged, act]
  dsimp only [System.step]
  rw [if_pos registered]
  exact ⟨_, rfl, rfl, Function.update_self _ _ _, rfl⟩

theorem exists_audience (heap : SessionId -> Client Real) {text : Bytes}
    (short : text.length ≤ 4096) :
    Exists fun conn : Connections Real =>
      run (step Symbolic.platform) (start heap (farewellScanner [])) (audienceMoves text) =
          some conn ∧
        Along (step Symbolic.platform) (Attends 1 0) (start heap (farewellScanner []))
          (audienceMoves text) ∧ Audience text conn := by
  have readListener : (login Symbolic.platform sampleLogin Symbolic.database sampleIdLine
      sampleAddLine : LoginResult (Client Real)).toOption.map (fun client =>
        (client.callsign, client.cancelled)) = some (bytes "LON_CTR", false) := by
    decide +kernel
  have readSpeaker : (login Symbolic.platform sampleLogin Symbolic.database towerIdLine
      towerAddLine : LoginResult (Client Real)).toOption.map (fun client => client.callsign) =
        some (bytes "LON_TWR") := by
    decide +kernel
  rcases exists_loggedIn readListener with ⟨listener, listenerIn, listenerRead⟩
  rcases exists_loggedIn readSpeaker with ⟨speaker, speakerIn, speakerNamed⟩
  rcases Prod.mk.inj listenerRead with ⟨listenerNamed, listenerLive⟩
  have different : speaker.callsign ≠ listener.callsign := by
    rw [speakerNamed, listenerNamed]
    decide
  rcases exists_both_registered heap listenerIn speakerIn different with
    ⟨first, second, connectedFirst, connectedSecond, ⟨listenerRecord, speakerRecord⟩, registered,
      registeredSpeaker⟩
  have empty : ([] : Bytes).length ≤ 4096 := Nat.zero_le 4096
  let begun : Connections Real := start heap (farewellScanner [])
  have connectedFirst' : begun.system.server.connect Symbolic.platform sampleLogin
      Symbolic.database begun.system.allocated sampleIdLine sampleAddLine = .ok first :=
    connectedFirst
  rcases exists_connected (length_farewellScanner empty) rfl connectedFirst' with
    ⟨greeted, enteredFirst, systemFirst, _, _⟩
  have connectedSecond' : greeted.system.server.connect Symbolic.platform sampleLogin
      Symbolic.database greeted.system.allocated towerIdLine towerAddLine = .ok second := by
    rw [systemFirst]
    exact connectedSecond
  rcases exists_connected (length_farewellScanner short) rfl connectedSecond' with
    ⟨both, enteredSecond, systemSecond, stagedSecond, scannerSecond⟩
  rw [systemFirst] at systemSecond stagedSecond scannerSecond
  have greeting : both.stage 1 = .greeting := stagedSecond
  have buffered : both.scanner 1 = farewellScanner text := scannerSecond
  have attended : both.system.server.Registered 0 := by
    rw [systemSecond]
    exact registered
  rcases exists_announced (P := Symbolic.platform) greeting
    (by rw [systemSecond]; exact registeredSpeaker) with ⟨conn, announced, system, staged, scanner⟩
  have present : second.broadcastAddPacket 1 = { second with
      events := (second.broadcastAddPacket 1).events } := rfl
  refine ⟨conn, ?_, ?_, ?_⟩
  · show run _ begun _ = _
    unfold audienceMoves
    rw [run_cons_of_step enteredFirst, run_cons_of_step enteredSecond, run_cons_of_step announced]
    rfl
  · refine ⟨nofun, fun next taken => ?_⟩
    cases enteredFirst.symm.trans taken
    refine ⟨nofun, fun next taken => ?_⟩
    cases enteredSecond.symm.trans taken
    refine ⟨fun _ => ⟨attended, ?_⟩, fun _ _ => True.intro⟩
    rw [systemSecond]
    exact (congrArg Client.cancelled listenerRecord).trans listenerLive
  · rw [systemSecond] at system
    constructor
    · exact staged
    · rw [scanner]
      exact buffered
    · rw [system]
      exact registered
    · rw [system]
      exact (congrArg Client.cancelled listenerRecord).trans listenerLive
    · rw [system]
      exact registeredSpeaker
    · rw [system]
      exact (congrArg (fun client => client.callsign) speakerRecord).trans speakerNamed

/-- Both sessions are in the registry, and the listener's context is live. -/
structure Present (conn : Connections F) : Prop where
  listener : conn.system.server.Registered 0
  live : (conn.system.server.clients 0).cancelled = false
  speaker : conn.system.server.Registered 1

omit [GoFloat F] in
theorem Present.cancelled {next : Connections F} (present : Present conn)
    (undisturbed : Undisturbed (conn.system.server.cancelCtx 1) next.system.server)
    (live : (next.system.server.clients 0).cancelled =
      ((conn.system.server.cancelCtx 1).clients 0).cancelled) : Present next where
  listener := undisturbed.registered_iff.mpr
    ((Undisturbed.cancelCtx _ 1).registered_iff.mpr present.listener)
  live := by
    rw [live, conn.system.server.cancelCtx_other (by decide)]
    exact present.live
  speaker := undisturbed.registered_iff.mpr
    ((Undisturbed.cancelCtx _ 1).registered_iff.mpr present.speaker)

/-- The speaker leaves, and the listener attends it. -/
theorem exists_departed {conn : Connections F} (staged : conn.stage 1 = .running)
    (done : (conn.scanner 1).Done) (present : Present conn) :
    Exists fun next => run (step P) conn [.leave 1, .release 1] = some next ∧
      Along (step P) (Attends 1 0) conn [.leave 1, .release 1] ∧ next.stage 1 = .released ∧
        (conn.BidsFarewell 1 -> next.BidsFarewell 1) := by
  let departed : System F := { conn.system with
    server := (conn.system.server.cancelCtx 1).broadcastDisconnectPacket 1 }
  let left := (conn.acted (some 1) none departed).enter 1 .departed
  let released : System F := { left.system with server := left.system.server.release 1 }
  let next := (left.acted (some 1) none released).enter 1 .released
  have presentLeft : Present left := present.cancelled (.sent rfl rfl) rfl
  have stagedLeft : left.stage 1 = .departed := enter_stage_self _ 1 .departed
  have leaves : step P conn (.leave 1) = some left := by
    dsimp only [step]
    rw [if_pos ⟨staged, done⟩, act]
    dsimp only [System.step]
    rw [if_pos present.speaker]
    rfl
  have releases : step P left (.release 1) = some next := by
    dsimp only [step]
    rw [if_pos stagedLeft, act]
    dsimp only [System.step]
    rw [if_pos presentLeft.speaker]
    rfl
  refine ⟨next, ?_, ?_, enter_stage_self _ 1 .released, ?_⟩
  · rw [run_cons_of_step leaves, run_cons_of_step releases]
    rfl
  · refine ⟨fun _ => ⟨present.listener, present.live⟩, fun other taken => ?_⟩
    cases leaves.symm.trans taken
    exact ⟨fun _ => ⟨presentLeft.listener, presentLeft.live⟩, fun _ _ => True.intro⟩
  · rintro ⟨turn, member, own, delete⟩
    exact ⟨turn, List.mem_append_left _ (List.mem_append_left _ member), own, delete⟩

theorem done_farewellScanner : (farewellScanner []).Done := by
  decide +kernel

/-- `LON_TWR` comes and goes, and `LON_CTR` is told so. -/
theorem told_exactly_once_iff_tower : Exists fun moves => Exists fun conn : Connections Real =>
    run (step Symbolic.platform) (start (fun _ => newClient [] sampleData) (farewellScanner [])) moves =
        some conn ∧ (ToldOnce conn 1 0 ↔ ¬ conn.BidsFarewell 1) := by
  have short : ([] : Bytes).length ≤ 4096 := Nat.zero_le 4096
  rcases exists_audience (fun _ => newClient [] sampleData) short with
    ⟨conn, executed, attended, audience⟩
  have present : Present conn := ⟨audience.listener, audience.live, audience.speaker⟩
  rcases exists_departed (P := Symbolic.platform) audience.staged
    (by rw [audience.scanner]; exact done_farewellScanner) present with
    ⟨next, departed, attendedLast, released, _⟩
  have executedAll : run (step Symbolic.platform)
      (start (fun _ => newClient [] sampleData) (farewellScanner []))
        (audienceMoves [] ++ [.leave 1, .release 1]) = some next := by
    rw [run_append, executed]
    exact departed
  refine ⟨_, next, executedAll, ?_⟩
  exact (told_exactly_once_iff executedAll (by decide) (attended.append executed attendedLast)
    (Or.inl released)).1

/-- The delete packet that `LON_TWR` sends. -/
def farewell : Bytes := bytes "#DALON_TWR:SERVER:1" ++ crlf

/-- The turn on the delete packet, and what it leaves of the scanner. -/
theorem exists_farewell_token : Exists fun token => Exists fun scanned =>
    (farewellScanner farewell).next = some (token, scanned) ∧
      (appendDelimiter scanned token).1 = farewell ∧ (appendDelimiter scanned token).2.Done := by
  have found : ((farewellScanner farewell).next.map fun result =>
      ((appendDelimiter result.2 result.1).1, decide (appendDelimiter result.2 result.1).2.Done)) =
        some (farewell, true) := by
    decide +kernel
  rcases Option.map_eq_some_iff.mp found with ⟨⟨token, scanned⟩, next, same⟩
  have both := Prod.mk.inj same
  exact ⟨token, scanned, next, both.1, of_decide_eq_true both.2⟩

/-- `LON_TWR` sends its own delete packet, and `LON_CTR` is told twice. -/
theorem farewell_told_twice : ¬ forall (heap : SessionId -> Client Real) (scanner : Scanner)
    (moves : List Move) (conn : Connections Real) (speaker listener : SessionId),
      run (step Symbolic.platform) (start heap scanner) moves = some conn ->
      listener ≠ speaker ->
      Along (step Symbolic.platform) (Attends speaker listener) (start heap scanner) moves ->
      conn.stage speaker = .released -> ToldOnce conn speaker listener := by
  intro always
  have short : farewell.length ≤ 4096 := by decide
  rcases exists_audience (fun _ => newClient [] sampleData) short with
    ⟨conn, executed, attended, audience⟩
  rcases exists_farewell_token with ⟨token, scanned, found, packet, done⟩
  have accepted : verifyPacket farewell (conn.system.server.clients 1).callsign =
      .accepted .deleteATC := by
    rw [audience.callsign]
    decide +kernel
  let told : System Real := { conn.system with
    server := conn.system.server.processPacket Symbolic.platform.md5 0 1 farewell }
  let spoken := (conn.acted (some 1) (some .deleteATC) told).scan 1 (appendDelimiter scanned token).2
  have handled : told.server = conn.system.server.handleDelete 1 farewell :=
    (Server.processPacket_of_accepted accepted).trans rfl
  have spoke : step Symbolic.platform conn (.turn 0 1) = some spoken := by
    dsimp only [step]
    rw [if_pos audience.staged, audience.scanner, found]
    dsimp only
    rw [packet, act]
    dsimp only [System.step]
    rw [if_pos audience.speaker, handlerOf, accepted]
    rfl
  have presentSpoken : Present spoken := by
    have present : Present conn := ⟨audience.listener, audience.live, audience.speaker⟩
    apply present.cancelled
    · show Undisturbed _ told.server
      rw [handled]
      exact .sent rfl rfl
    · show (told.server.clients 0).cancelled = _
      rw [handled]
      rfl
  have bids : spoken.BidsFarewell 1 :=
    ⟨_, List.mem_append_right _ List.mem_cons_self, rfl, List.mem_cons_self⟩
  have stagedSpoken : spoken.stage 1 = .running := audience.staged
  rcases exists_departed (P := Symbolic.platform) stagedSpoken
    (by rw [scan_scanner_self]; exact done) presentSpoken with
    ⟨next, departed, attendedLast, released, kept⟩
  have spoken' : run (step Symbolic.platform) conn [.turn 0 1, .leave 1, .release 1] = some next := by
    rw [run_cons_of_step spoke]
    exact departed
  have attendedSpoken : Along (step Symbolic.platform) (Attends 1 0) conn
      [.turn 0 1, .leave 1, .release 1] := by
    refine ⟨fun _ => ⟨audience.listener, audience.live⟩, fun other taken => ?_⟩
    cases spoke.symm.trans taken
    exact attendedLast
  have executedAll : run (step Symbolic.platform)
      (start (fun _ => newClient [] sampleData) (farewellScanner []))
        (audienceMoves farewell ++ [.turn 0 1, .leave 1, .release 1]) = some next := by
    rw [run_append, executed]
    exact spoken'
  have attendedAll := attended.append executed attendedSpoken
  have told := always _ _ _ next 1 0 executedAll (by decide) attendedAll released
  have tells := tells_of_run executedAll (by decide) attendedAll
  exact (tells.toldOnce_iff (Or.inl released)).mp told (kept bids)

end Connections
end Fsd
end OpenFsd
