import OpenFsd.Fsd.Deliveries
import OpenFsd.Fsd.Gates
import OpenFsd.Fsd.Registry

namespace OpenFsd
namespace Fsd

open Db Transition

/-!
# The audience of a text message

The second field of a text message is a frequency, one of a few special
names, or a callsign.  The handler tests for them in order.  The tests do not
get in each other's way, and none of them catches a callsign that a login
admits, so every recipient has one meaning and every registered client can be
addressed.

A delivery is a call of `send`; as long as the context of the recipient is
live, the call queues the packet.
-/

/-- The recipients that are not looked up as callsigns. -/
def SpecialRecipient (recipient : Bytes) : Prop :=
  hasPrefix recipient (bytes "@") = true ∨
    recipient ∈ [bytes "*S", bytes "*", bytes "FP", bytes "SERVER"]

/-- No callsign that can register is a special recipient. -/
theorem ValidCallsign.not_special {callsign : Bytes} (valid : ValidCallsign callsign) :
    ¬ SpecialRecipient callsign := by
  rintro (frequency | named)
  · have foreign : hasPrefix callsign (bytes "@") = false := valid.not_hasPrefix (by decide)
    rw [foreign] at frequency
    cases frequency
  · have star : isCallsignByte (byte '*') = false := by decide
    simp only [List.mem_cons, List.not_mem_nil, or_false] at named
    rcases named with wallop | everyone | plans | server
    · exact valid.ne_of_mem (by decide : byte '*' ∈ bytes "*S") star wallop
    · exact valid.ne_of_mem (by decide : byte '*' ∈ bytes "*") star everyone
    · exact valid.ne_fp plans
    · exact valid.ne_server server

/-- Each entitled client is sent one copy of the packet, and nobody else is
sent anything. -/
def OneCopyEach (packet : Bytes) (caused : List Event) (entitled : SessionId -> Prop) : Prop :=
  forall other, (entitled other -> sentTo other caused = [packet]) ∧
    (¬ entitled other -> sentTo other caused = [])

theorem oneCopyEach_map {recipients : List SessionId} (nodup : recipients.Nodup) (packet : Bytes)
    {entitled : SessionId -> Prop} (listed : forall other, other ∈ recipients ↔ entitled other) :
    OneCopyEach packet (recipients.map fun recipient => .send recipient packet) entitled := by
  intro other
  rw [sentTo_map_nodup nodup, ← listed other]
  exact ⟨fun member => if_pos member, fun absent => if_neg absent⟩

theorem oneCopyEach_nobody {entitled : SessionId -> Prop} (packet : Bytes)
    (nobody : forall other, ¬ entitled other) : OneCopyEach packet [] entitled :=
  fun other => ⟨fun entitled => absurd entitled (nobody other), fun _ => rfl⟩

theorem OneCopyEach.congr {packet : Bytes} {caused : List Event} {first second : SessionId -> Prop}
    (each : OneCopyEach packet caused first) (same : forall other, first other ↔ second other) :
    OneCopyEach packet caused second :=
  fun other => ⟨fun entitled => (each other).1 ((same other).mpr entitled),
    fun excluded => (each other).2 fun entitled => excluded ((same other).mp entitled)⟩

variable {F : Type}

/-- What the handler of a text message causes, by the kind of its recipient.  The
sender of a direct message is also told if its recipient's context is over and
refuses it. -/
structure Delivered (s : Server F) (id : SessionId) (packet : Bytes)
    (inRange : SessionId -> Prop) (caused : List Event) : Prop where
  sends : forall event, event ∈ caused -> Exists fun recipient => Exists fun sent =>
    event = .send recipient sent
  atcChat : getField packet 1 = bytes "@49999" -> OneCopyEach packet caused fun other =>
    (s.clients id).isAtc = true ∧ other ≠ id ∧ inRange other ∧ (s.clients other).isAtc = true
  frequency : getField packet 1 ≠ bytes "@49999" ->
    hasPrefix (getField packet 1) (bytes "@") = true -> OneCopyEach packet caused fun other =>
      other ≠ id ∧ inRange other
  wallop : getField packet 1 = bytes "*S" -> OneCopyEach packet caused fun other =>
    other ≠ id ∧ s.Registered other ∧ NetworkRatingSupervisor ≤ (s.clients other).networkRating
  everyone : getField packet 1 = bytes "*" -> OneCopyEach packet caused fun other =>
    NetworkRatingSupervisor ≤ (s.clients id).networkRating ∧ other ≠ id ∧ s.Registered other
  reserved : getField packet 1 = bytes "FP" ∨ getField packet 1 = bytes "SERVER" -> caused = []
  direct : ¬ SpecialRecipient (getField packet 1) -> forall found,
    s.find (getField packet 1) = some found -> caused = .send found packet :: s.refusal id found
  missing : ¬ SpecialRecipient (getField packet 1) -> s.find (getField packet 1) = none ->
    caused = [.send id (errorPacket NoSuchCallsignError (bytes "No such callsign"))]

namespace Delivered

variable {s : Server F} {id : SessionId} {packet : Bytes} {inRange : SessionId -> Prop}
  {caused : List Event}

/-! ## One kind of recipient excludes the others -/

theorem of_atcChat (addressed : getField packet 1 = bytes "@49999")
    (sends : forall event, event ∈ caused -> Exists fun recipient => Exists fun sent =>
      event = .send recipient sent)
    (each : OneCopyEach packet caused fun other =>
      (s.clients id).isAtc = true ∧ other ≠ id ∧ inRange other ∧ (s.clients other).isAtc = true) :
    Delivered s id packet inRange caused := by
  have special : SpecialRecipient (getField packet 1) := by
    rw [addressed]
    exact Or.inl (by decide)
  exact {
    sends := sends
    atcChat := fun _ => each
    frequency := fun different => absurd addressed different
    wallop := fun same => absurd (addressed.symm.trans same) (by decide)
    everyone := fun same => absurd (addressed.symm.trans same) (by decide)
    reserved := fun same => same.elim (fun plans => absurd (addressed.symm.trans plans) (by decide))
      fun server => absurd (addressed.symm.trans server) (by decide)
    direct := fun ordinary => absurd special ordinary
    missing := fun ordinary => absurd special ordinary }

theorem of_frequency (different : getField packet 1 ≠ bytes "@49999")
    (addressed : hasPrefix (getField packet 1) (bytes "@") = true)
    (sends : forall event, event ∈ caused -> Exists fun recipient => Exists fun sent =>
      event = .send recipient sent)
    (each : OneCopyEach packet caused fun other => other ≠ id ∧ inRange other) :
    Delivered s id packet inRange caused := by
  have other : forall recipient, hasPrefix recipient (bytes "@") = false ->
      getField packet 1 ≠ recipient := by
    intro recipient plain same
    rw [same, plain] at addressed
    cases addressed
  exact {
    sends := sends
    atcChat := fun same => absurd same different
    frequency := fun _ _ => each
    wallop := fun same => absurd same (other _ (by decide))
    everyone := fun same => absurd same (other _ (by decide))
    reserved := fun same => same.elim (fun plans => absurd plans (other _ (by decide)))
      fun server => absurd server (other _ (by decide))
    direct := fun ordinary => absurd (Or.inl addressed) ordinary
    missing := fun ordinary => absurd (Or.inl addressed) ordinary }

theorem of_wallop (addressed : getField packet 1 = bytes "*S")
    (sends : forall event, event ∈ caused -> Exists fun recipient => Exists fun sent =>
      event = .send recipient sent)
    (each : OneCopyEach packet caused fun other => other ≠ id ∧ s.Registered other ∧
      NetworkRatingSupervisor ≤ (s.clients other).networkRating) :
    Delivered s id packet inRange caused := by
  have special : SpecialRecipient (getField packet 1) := by
    rw [addressed]
    exact Or.inr (by decide)
  have plain : hasPrefix (getField packet 1) (bytes "@") = false := by
    rw [addressed]
    decide
  exact {
    sends := sends
    atcChat := fun same => absurd (addressed.symm.trans same) (by decide)
    frequency := fun _ frequency => by
      rw [plain] at frequency
      cases frequency
    wallop := fun _ => each
    everyone := fun same => absurd (addressed.symm.trans same) (by decide)
    reserved := fun same => same.elim (fun plans => absurd (addressed.symm.trans plans) (by decide))
      fun server => absurd (addressed.symm.trans server) (by decide)
    direct := fun ordinary => absurd special ordinary
    missing := fun ordinary => absurd special ordinary }

theorem of_everyone (addressed : getField packet 1 = bytes "*")
    (sends : forall event, event ∈ caused -> Exists fun recipient => Exists fun sent =>
      event = .send recipient sent)
    (each : OneCopyEach packet caused fun other =>
      NetworkRatingSupervisor ≤ (s.clients id).networkRating ∧ other ≠ id ∧ s.Registered other) :
    Delivered s id packet inRange caused := by
  have special : SpecialRecipient (getField packet 1) := by
    rw [addressed]
    exact Or.inr (by decide)
  have plain : hasPrefix (getField packet 1) (bytes "@") = false := by
    rw [addressed]
    decide
  exact {
    sends := sends
    atcChat := fun same => absurd (addressed.symm.trans same) (by decide)
    frequency := fun _ frequency => by
      rw [plain] at frequency
      cases frequency
    wallop := fun same => absurd (addressed.symm.trans same) (by decide)
    everyone := fun _ => each
    reserved := fun same => same.elim (fun plans => absurd (addressed.symm.trans plans) (by decide))
      fun server => absurd (addressed.symm.trans server) (by decide)
    direct := fun ordinary => absurd special ordinary
    missing := fun ordinary => absurd special ordinary }

theorem of_reserved (addressed : getField packet 1 = bytes "FP" ∨ getField packet 1 = bytes "SERVER") :
    Delivered s id packet inRange [] := by
  have other : forall recipient, recipient ≠ bytes "FP" -> recipient ≠ bytes "SERVER" ->
      getField packet 1 ≠ recipient := by
    intro recipient notPlans notServer same
    rw [same] at addressed
    exact addressed.elim notPlans notServer
  have special : SpecialRecipient (getField packet 1) := by
    rcases addressed with plans | server
    · rw [plans]
      exact Or.inr (by decide)
    · rw [server]
      exact Or.inr (by decide)
  have plain : hasPrefix (getField packet 1) (bytes "@") = false := by
    rcases addressed with plans | server
    · rw [plans]
      decide
    · rw [server]
      decide
  exact {
    sends := nofun
    atcChat := fun same => absurd same (other _ (by decide) (by decide))
    frequency := fun _ frequency => by
      rw [plain] at frequency
      cases frequency
    wallop := fun same => absurd same (other _ (by decide) (by decide))
    everyone := fun same => absurd same (other _ (by decide) (by decide))
    reserved := fun _ => rfl
    direct := fun ordinary => absurd special ordinary
    missing := fun ordinary => absurd special ordinary }

theorem of_ordinary (ordinary : ¬ SpecialRecipient (getField packet 1))
    (sends : forall event, event ∈ caused -> Exists fun recipient => Exists fun sent =>
      event = .send recipient sent)
    (direct : forall found, s.find (getField packet 1) = some found ->
      caused = .send found packet :: s.refusal id found)
    (missing : s.find (getField packet 1) = none ->
      caused = [.send id (errorPacket NoSuchCallsignError (bytes "No such callsign"))]) :
    Delivered s id packet inRange caused := by
  have other : forall recipient, SpecialRecipient recipient -> getField packet 1 ≠ recipient :=
    fun recipient special same => ordinary (same ▸ special)
  exact {
    sends := sends
    atcChat := fun same => absurd same (other _ (Or.inl (by decide)))
    frequency := fun _ frequency => absurd (Or.inl frequency) ordinary
    wallop := fun same => absurd same (other _ (Or.inr (by decide)))
    everyone := fun same => absurd same (other _ (Or.inr (by decide)))
    reserved := fun same => same.elim (fun plans => absurd plans (other _ (Or.inr (by decide))))
      fun server => absurd server (other _ (Or.inr (by decide)))
    direct := fun _ => direct
    missing := fun _ => missing }

end Delivered

namespace Server

/-- The other client is indexed under a box that meets the box of this one. -/
def Meets [GoFloat F] (s : Server F) (id other : SessionId) : Prop :=
  Exists fun entry => entry ∈ s.postOffice.tree ∧ entry.client = other ∧
    Box.intersects (s.currentBox id) entry.box = true

/-! ## The handler -/

theorem sends_map (recipients : List SessionId) (packet : Bytes) (event : Event)
    (member : event ∈ recipients.map fun recipient => Event.send recipient packet) :
    Exists fun recipient => Exists fun sent => event = .send recipient sent := by
  rcases List.mem_map.mp member with ⟨recipient, _, same⟩
  exact ⟨recipient, packet, same.symm⟩

theorem sends_refusal {s : Server F} {id target : SessionId} (packet : Bytes) (event : Event)
    (member : event ∈ .send target packet :: s.refusal id target) :
    Exists fun recipient => Exists fun sent => event = .send recipient sent := by
  rcases List.mem_cons.mp member with direct | told
  · exact ⟨target, packet, direct⟩
  · exact ⟨id, _, mem_refusal told⟩

theorem sends_singleton (recipient : SessionId) (sent : Bytes) (event : Event)
    (member : event ∈ [Event.send recipient sent]) :
    Exists fun recipient => Exists fun sent => event = .send recipient sent :=
  ⟨recipient, sent, List.mem_singleton.mp member⟩

/-- A broadcast to the whole server reaches each registered client that it is
for. -/
theorem oneCopyEach_broadcastAllWhere {s : Server F} (indexed : s.Indexed) (id : SessionId)
    (accepts : Client F -> Bool) (packet : Bytes) :
    OneCopyEach packet ((s.recipientsAll id accepts).map fun recipient => .send recipient packet)
      fun other => s.Registered other ∧ other ≠ id ∧ accepts (s.clients other) = true :=
  oneCopyEach_map ((nodup_registeredClients indexed).filter _) packet
    fun _ => mem_recipientsAll indexed

variable [GoFloat F] {s : Server F} {id : SessionId} {packet : Bytes}
  {inRange : SessionId -> Prop}

/-- A broadcast in range reaches each found client that it is for. -/
theorem oneCopyEach_broadcastRangedWhere (nodup : (s.foundBy id).Nodup)
    (found : forall other, other ∈ s.foundBy id ↔ other ≠ id ∧ inRange other)
    (accepts : Client F -> Bool) (packet : Bytes) :
    OneCopyEach packet ((s.recipientsRanged id accepts).map fun recipient => .send recipient packet)
      fun other => (other ≠ id ∧ inRange other) ∧ accepts (s.clients other) = true := by
  apply oneCopyEach_map (nodup.filter _) packet
  intro other
  rw [List.mem_filter, found other]

/-- What the handler of a text message causes, if the search reports every
client in range once and the map is keyed by callsigns. -/
theorem delivered_handleTextMessage (indexed : s.Indexed) (nodup : (s.foundBy id).Nodup)
    (found : forall other, other ∈ s.foundBy id ↔ other ≠ id ∧ inRange other) :
    Exists fun caused => (s.handleTextMessage id packet).events = s.events ++ caused ∧
      Delivered s id packet inRange caused := by
  unfold handleTextMessage
  dsimp only
  split
  · next atcChat =>
      cases isAtc : (s.clients id).isAtc with
      | false =>
          refine ⟨[], (List.append_nil _).symm, .of_atcChat atcChat nofun ?_⟩
          apply oneCopyEach_nobody
          rintro other ⟨atc, _⟩
          rw [isAtc] at atc
          cases atc
      | true =>
          rcases s.broadcastRangedWhere_eq id (fun recipient => recipient.isAtc) packet with
            ⟨dist, same⟩
          refine ⟨_, congrArg Server.events same, .of_atcChat atcChat (sends_map _ packet) ?_⟩
          apply OneCopyEach.congr (oneCopyEach_broadcastRangedWhere nodup found _ packet)
          intro other
          rw [isAtc, and_assoc]
          exact (and_iff_right rfl).symm
  · next different =>
      split
      · next frequency =>
          rcases s.broadcastRangedWhere_eq id (fun _ => true) packet with ⟨dist, same⟩
          refine ⟨_, congrArg Server.events same,
            .of_frequency different frequency (sends_map _ packet) ?_⟩
          apply OneCopyEach.congr (oneCopyEach_broadcastRangedWhere nodup found _ packet)
          exact fun other => and_iff_left rfl
      · next plain =>
          split
          · next wallop =>
              have same := s.broadcastAllWhere_eq id
                (fun recipient => decide (NetworkRatingSupervisor ≤ recipient.networkRating)) packet
              refine ⟨_, congrArg Server.events same, .of_wallop wallop (sends_map _ packet) ?_⟩
              apply OneCopyEach.congr (oneCopyEach_broadcastAllWhere indexed id _ packet)
              intro other
              rw [decide_eq_true_eq, and_left_comm]
          · next notWallop =>
              split
              · next everyone =>
                  split
                  · next low =>
                      refine ⟨[], (List.append_nil _).symm, .of_everyone everyone nofun ?_⟩
                      apply oneCopyEach_nobody
                      rintro other ⟨supervisor, _⟩
                      exact absurd low (not_lt.mpr supervisor)
                  · next high =>
                      have same := s.broadcastAllWhere_eq id (fun _ => true) packet
                      refine ⟨_, congrArg Server.events same,
                        .of_everyone everyone (sends_map _ packet) ?_⟩
                      apply OneCopyEach.congr (oneCopyEach_broadcastAllWhere indexed id _ packet)
                      intro other
                      have supervisor := not_lt.mp high
                      constructor
                      · rintro ⟨registered, distinct, _⟩
                        exact ⟨supervisor, distinct, registered⟩
                      · rintro ⟨_, distinct, registered⟩
                        exact ⟨registered, distinct, rfl⟩
              · next notEveryone =>
                  split
                  · next plans =>
                      exact ⟨[], (List.append_nil _).symm, .of_reserved (Or.inl plans)⟩
                  · next notPlans =>
                      split
                      · next server =>
                          exact ⟨[], (List.append_nil _).symm, .of_reserved (Or.inr server)⟩
                      · next notServer =>
                          have ordinary : ¬ SpecialRecipient (getField packet 1) := by
                            rintro (frequency | named)
                            · exact plain frequency
                            · simp only [List.mem_cons, List.not_mem_nil, or_false] at named
                              rcases named with same | same | same | same
                              · exact notWallop same
                              · exact notEveryone same
                              · exact notPlans same
                              · exact notServer same
                          cases target : s.find (getField packet 1) with
                          | none =>
                              unfold sendDirectOrErr
                              rw [target]
                              refine ⟨_, rfl, .of_ordinary ordinary (sends_singleton _ _) ?_ fun _ => rfl⟩
                              intro other found
                              cases target.symm.trans found
                          | some recipient =>
                              rw [sendDirectOrErr_of_find target]
                              refine ⟨_, rfl, .of_ordinary ordinary (sends_refusal _) ?_ ?_⟩
                              · intro other found
                                cases target.symm.trans found
                                rfl
                              · intro absent
                                cases target.symm.trans absent

theorem delivered_processPacket (indexed : s.Indexed) (nodup : (s.foundBy id).Nodup)
    (found : forall other, other ∈ s.foundBy id ↔ other ≠ id ∧ inRange other)
    (accepted : verifyPacket packet (s.clients id).callsign = .accepted .textMessage)
    (md5 : Bytes -> List.Vector UInt8 16) (now : Time) :
    Exists fun caused => (s.processPacket md5 now id packet).events = s.events ++ caused ∧
      Delivered s id packet inRange caused := by
  rw [processPacket_of_accepted accepted]
  exact delivered_handleTextMessage indexed nodup found

end Server

/-- In every state of the post office, also while operations are in progress,
and in every state of the system, a text message reaches exactly its audience.
No registered callsign, and none that a login admits, is a special recipient. -/
theorem textMessage_audience [GoFloat F] [LawfulGoFloat F] :
    (forall (heap : SessionId -> Client F) office,
      Reaches Office.step (Office.start heap) office -> forall md5 now id packet,
        verifyPacket packet (office.server.clients id).callsign = .accepted .textMessage ->
          Exists fun caused =>
            (office.server.processPacket md5 now id packet).events =
              office.server.events ++ caused ∧
            Delivered office.server id packet (office.server.Meets id) caused) ∧
    (forall P (heap : SessionId -> Client F) system,
      Reaches (System.step P) (System.start heap) system -> forall now id packet,
        system.server.Registered id ->
          verifyPacket packet (system.server.clients id).callsign = .accepted .textMessage ->
            Exists fun next => Exists fun caused =>
              System.step P system (.packet now id packet) = some next ∧
              next.server.events = system.server.events ++ caused ∧
              Delivered system.server id packet (system.server.Near id) caused) ∧
    (forall P (heap : SessionId -> Client F) system,
      Reaches (System.step P) (System.start heap) system -> forall id,
        system.server.Registered id ->
          ¬ SpecialRecipient (system.server.clients id).callsign) ∧
    forall P env database idLine addLine (client : Client F),
      login P env database idLine addLine = .ok client -> ¬ SpecialRecipient client.callsign := by
  refine ⟨?_, ?_, ?_, ?_⟩
  · intro heap office reached md5 now id packet accepted
    have consistent := Office.consistent_of_reaches reached
    have indexed : office.server.Indexed := fun callsign other found =>
      (consistent.mapped callsign other found).1
    exact Server.delivered_processPacket indexed (consistent.nodup_foundBy id)
      (fun other => Server.mem_foundBy) accepted md5 now
  · intro P heap system reached now id packet registered accepted
    have indexed : system.server.Indexed := fun callsign other found =>
      ((System.wellFormed_of_reaches reached).mapped callsign other found).1
    rcases (System.settled_of_reaches reached).found id with ⟨nodup, found⟩
    rcases Server.delivered_processPacket indexed nodup found accepted P.md5 now with
      ⟨caused, grown, delivered⟩
    exact ⟨_, caused, if_pos registered, grown, delivered⟩
  · intro P heap system reached id registered
    have below := (System.wellFormed_of_reaches reached).allocated_of_registered registered
    exact (System.named_of_reaches reached id below).not_special
  · intro P env database idLine addLine client loggedIn
    rcases login_eq_ok loggedIn with ⟨_, _, _, _, admitted⟩
    exact (validCallsign_iff.mp admitted.callsign).not_special

/-- A pilot writes to a controller, who is sent the message and nobody else. -/
theorem textMessage_audience_sample : Exists fun system : System Real => Exists fun next =>
    (system.server.clients 0).callsign = bytes "LON_CTR" ∧
      (system.server.clients 1).callsign = bytes "N172SP" ∧
      System.step Symbolic.platform system
        (.packet 0 1 (bytes "#TMN172SP:LON_CTR:hello" ++ crlf)) = some next ∧
      next.server.events = system.server.events ++
        [.send 0 (bytes "#TMN172SP:LON_CTR:hello" ++ crlf)] ∧
      ¬ SpecialRecipient (system.server.clients 0).callsign := by
  let heap : SessionId -> Client Real := fun _ => newClient [] sampleData
  rcases exists_controller_and_pilot heap with ⟨system, crew⟩
  have accepted : verifyPacket (bytes "#TMN172SP:LON_CTR:hello" ++ crlf)
      (system.server.clients 1).callsign = .accepted .textMessage := by
    rw [crew.callsignOther]
    decide +kernel
  have recipient : getField (bytes "#TMN172SP:LON_CTR:hello" ++ crlf) 1 = bytes "LON_CTR" := by
    decide +kernel
  have audience := textMessage_audience (F := Real)
  have ordinary := audience.2.2.1 Symbolic.platform heap system crew.reaches 0 crew.registered
  rcases audience.2.1 Symbolic.platform heap system crew.reaches 0 1 _ crew.registeredOther
    accepted with ⟨next, caused, taken, grown, delivered⟩
  have plain : ¬ SpecialRecipient (getField (bytes "#TMN172SP:LON_CTR:hello" ++ crlf) 1) := by
    rw [recipient]
    have named : (system.server.clients 0).callsign = bytes "LON_CTR" := crew.callsign
    exact named ▸ ordinary
  have found : system.server.find (getField (bytes "#TMN172SP:LON_CTR:hello" ++ crlf) 1) =
      some 0 := by
    rw [recipient]
    exact crew.found
  rw [delivered.direct plain 0 found, Server.refusal_of_live crew.live] at grown
  exact ⟨system, next, crew.callsign, crew.callsignOther, taken, grown, ordinary⟩

end Fsd
end OpenFsd
