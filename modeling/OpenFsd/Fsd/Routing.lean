import OpenFsd.Fsd.FlightPlans
import OpenFsd.Fsd.Presence
import OpenFsd.Fsd.Registry
import OpenFsd.Fsd.Signals
import OpenFsd.Fsd.TextMessages
import OpenFsd.Library.History

namespace OpenFsd
namespace Fsd

open Db Transition

/-!
# Who hears a packet

The handlers test fields, ratings and positions in many places before they
hand a packet on.  Seen from the other clients all of it is one rule in three
parts.  The destination is read off the packet alone.  The sender needs the
privilege of the packet, and for a few types something more.  The destination
then includes some of the registered clients, each of them once.

`Server.Heard` states the rule.  There is one lemma for each handler, and the
main theorem is about runs: it lists what a client that only listens is sent,
from whatever state to the end of the run.
-/

/-- Whom a broadcast is for among the clients that it comes to. -/
inductive Listeners
  | anyone
  | controllers
  | supervisors
  | velocity
  deriving DecidableEq

variable {F : Type}

def Listeners.accepts : Listeners -> Client F -> Bool
  | .anyone, _ => true
  | .controllers, recipient => recipient.isAtc
  | .supervisors, recipient => decide (NetworkRatingSupervisor ≤ recipient.networkRating)
  | .velocity, recipient => decide (recipient.protoRevision = 101)

/-- Where a packet is to go. -/
inductive Destination
  | nobody
  | named (callsign : Bytes)
  | everywhere (listeners : Listeners)
  | inRange (listeners : Listeners)
  deriving DecidableEq

/-- The destination of a text message, by its recipient. -/
def textDestination (recipient : Bytes) : Destination :=
  if recipient = bytes "@49999" then .inRange .controllers
  else if hasPrefix recipient (bytes "@") then .inRange .anyone
  else if recipient = bytes "*S" then .everywhere .supervisors
  else if recipient = bytes "*" then .everywhere .anyone
  else if recipient = bytes "FP" ∨ recipient = bytes "SERVER" then .nobody
  else .named recipient

/-- The destination of a message between controllers. -/
def controlDestination (recipient messageType : Bytes) : Destination :=
  if recipient.length < 2 then .nobody
  else if messageType ∈ unprivilegedProcontrollerTypes then .named recipient
  else if messageType ∈ privilegedProcontrollerTypes then
    if recipient.take 1 = bytes "@" then .inRange .controllers else .named recipient
  else .nobody

/-- The destination of a query that is forwarded. -/
def forwardDestination (recipient : Bytes) : Destination :=
  if recipient.length < 2 then .nobody
  else if recipient = bytes "@94835" then .inRange .controllers
  else if recipient = bytes "@94836" then .inRange .anyone
  else .named recipient

/-- The destination of a query or of the response to one. -/
def queryDestination (packetType : PacketType) (recipient queryType : Bytes) : Destination :=
  if recipient = bytes "SERVER" then .nobody
  else if queryType = bytes "INF" ∧ packetType = .clientQueryResponse then .named recipient
  else if queryType ∈ unprivilegedAtcQueries ++ privilegedAtcQueries ++ configurationQueries ∨
      queryType = bytes "INF" then forwardDestination recipient
  else .nobody

/-- The destination of a packet. -/
def destination (packet : Bytes) : Destination :=
  match getPacketType packet with
  | .textMessage => textDestination (getField packet 1)
  | .atcPosition => .inRange .anyone
  | .pilotPosition => .inRange .anyone
  | .pilotPositionFast => .inRange .velocity
  | .pilotPositionSlow => .inRange .velocity
  | .pilotPositionStopped => .inRange .velocity
  | .deletePilot => .everywhere .anyone
  | .deleteATC => .everywhere .anyone
  | .squawkbox => .named (getField packet 1)
  | .proController => controlDestination (getField packet 1) (getField packet 3)
  | .clientQuery => queryDestination .clientQuery (getField packet 1) (getField packet 2)
  | .clientQueryResponse =>
      queryDestination .clientQueryResponse (getField packet 1) (getField packet 2)
  | .handoffRequest => .named (getField packet 1)
  | .handoffAccept => .named (getField packet 1)
  | .flightPlan => .everywhere .controllers
  | .flightPlanAmendment => .everywhere .controllers
  | .killRequest => .nobody
  | .authChallenge => .nobody
  | .metarRequest => .nobody
  | .unknown => .nobody

/-- What arrives of a packet: flight plans are written anew, everything else
is handed on as it is. -/
def relayedPacket (callsign packet : Bytes) : Bytes :=
  match getPacketType packet with
  | .flightPlan =>
      buildFileFlightplanPacket callsign (bytes "*A") (extractFlightplanInfoSection packet)
  | .flightPlanAmendment =>
      buildAmendFlightplanPacket callsign (bytes "*A") (getField packet 2)
        (extractFlightplanInfoSection packet)
  | _ => packet

instance (client : Client F) (privilege : Privilege) : Decidable (client.Holds privilege) :=
  match privilege with
  | .none => inferInstanceAs (Decidable True)
  | .atc => inferInstanceAs (Decidable (_ = _))
  | .activeAtc => inferInstanceAs (Decidable (_ ∧ _))
  | .supervisor => inferInstanceAs (Decidable (_ ≤ _))

variable [GoFloat F]

/-- The box in which a packet of the client is heard: a position report takes
the sender along. -/
def Client.soundingBox (client : Client F) (packet : Bytes) : Box F :=
  match storedPosition client packet with
  | none => calculateBoundingBox client.coords client.visRange
  | some (center, visRange) => calculateBoundingBox center visRange

namespace Server

/-- The clients at a destination, for a packet that sounds in the box. -/
def At (s : Server F) (box : Box F) : Destination -> SessionId -> Prop
  | .nobody, _ => False
  | .named callsign, other => s.find callsign = some other
  | .everywhere listeners, other => s.Registered other ∧ listeners.accepts (s.clients other) = true
  | .inRange listeners, other => s.Registered other ∧
      Box.intersects box (s.currentBox other) = true ∧ listeners.accepts (s.clients other) = true

instance (s : Server F) (box : Box F) (place : Destination) (other : SessionId) :
    Decidable (s.At box place other) :=
  match place with
  | .nobody => inferInstanceAs (Decidable False)
  | .named _ => inferInstanceAs (Decidable (_ = _))
  | .everywhere _ => inferInstanceAs (Decidable (_ ∧ _))
  | .inRange _ => inferInstanceAs (Decidable (_ ∧ _ ∧ _))

/-- What a packet of the type takes besides the privilege. -/
def Supports (s : Server F) (id : SessionId) (packet : Bytes) : PacketType -> Prop
  | .atcPosition => (storedPosition (s.clients id) packet).isSome = true
  | .pilotPosition => (storedPosition (s.clients id) packet).isSome = true
  | .handoffRequest => 1 < (s.clients id).facilityType
  | .handoffAccept => 1 < (s.clients id).facilityType
  | .flightPlanAmendment => (s.find (getField packet 2)).isSome = true
  | _ => True

instance (s : Server F) (id : SessionId) (packet : Bytes) (packetType : PacketType) :
    Decidable (s.Supports id packet packetType) :=
  match packetType with
  | .atcPosition => inferInstanceAs (Decidable (_ = _))
  | .pilotPosition => inferInstanceAs (Decidable (_ = _))
  | .flightPlanAmendment => inferInstanceAs (Decidable (_ = _))
  | .handoffRequest => inferInstanceAs (Decidable (_ < _))
  | .handoffAccept => inferInstanceAs (Decidable (_ < _))
  | .textMessage | .pilotPositionFast | .pilotPositionSlow | .pilotPositionStopped | .deletePilot
  | .deleteATC | .squawkbox | .proController | .clientQuery | .clientQueryResponse | .killRequest
  | .authChallenge | .metarRequest | .flightPlan | .unknown => inferInstanceAs (Decidable True)

/-- The sender may send the packet, and the other client is at its destination. -/
def Relayed (s : Server F) (id : SessionId) (packet : Bytes) (other : SessionId) : Prop :=
  (s.clients id).Holds (requiredPrivilege packet) ∧
    s.Supports id packet (getPacketType packet) ∧
    s.At ((s.clients id).soundingBox packet) (destination packet) other

instance (s : Server F) (id : SessionId) (packet : Bytes) (other : SessionId) :
    Decidable (s.Relayed id packet other) :=
  inferInstanceAs (Decidable (_ ∧ _ ∧ _))

/-- What one client is sent of a packet of another. -/
def heardOf (s : Server F) (id : SessionId) (packet : Bytes) (other : SessionId) : List Bytes :=
  match verifyPacket packet (s.clients id).callsign with
  | .refused _ _ => []
  | .accepted _ =>
      if s.Relayed id packet other then [relayedPacket (s.clients id).callsign packet] else []

/-! ## What a handler hands on -/

/-- Beside what it sends to the session itself, the server has sent one copy to
each of these clients. -/
def HandsOn (id : SessionId) (packet : Bytes) (s next : Server F) (audience : SessionId -> Prop) :
    Prop :=
  Exists fun caused => next.events = s.events ++ caused ∧ forall other, other ≠ id ->
    (audience other -> sentTo other caused = [packet]) ∧
      (¬ audience other -> sentTo other caused = [])

/-- No client but the session itself is sent anything. -/
def Unheard (id : SessionId) (event : Event) : Prop :=
  forall recipient packet, event = .send recipient packet -> recipient = id

section HandsOn

variable {s middle next : Server F} {id : SessionId} {packet : Bytes}
  {audience : SessionId -> Prop}

omit [GoFloat F]

theorem sentTo_of_unheard {caused : List Event} (unheard : forall event, event ∈ caused ->
    Unheard id event) {other : SessionId} (different : other ≠ id) : sentTo other caused = [] := by
  apply List.eq_nil_iff_forall_not_mem.mpr
  intro sent member
  exact different (unheard _ (mem_sentTo.mp member) other sent rfl)

theorem handsOn_of_unheard (unheard : Emits (Unheard id) s next)
    (nobody : forall other, ¬ audience other) : HandsOn id packet s next audience := by
  rcases unheard with ⟨caused, grown, own⟩
  exact ⟨caused, grown, fun other different =>
    ⟨fun entitled => absurd entitled (nobody other), fun _ => sentTo_of_unheard own different⟩⟩

namespace HandsOn

theorem congr {first second : SessionId -> Prop} (handsOn : HandsOn id packet s next first)
    (same : forall other, other ≠ id -> (first other ↔ second other)) :
    HandsOn id packet s next second := by
  rcases handsOn with ⟨caused, grown, each⟩
  refine ⟨caused, grown, ?_⟩
  intro other different
  rw [← same other different]
  exact each other different

/-- What only the session hears may follow. -/
theorem followed (handsOn : HandsOn id packet s middle audience)
    (unheard : Emits (Unheard id) middle next) : HandsOn id packet s next audience := by
  rcases handsOn with ⟨earlier, earlierGrown, each⟩
  rcases unheard with ⟨later, laterGrown, own⟩
  refine ⟨earlier ++ later, by rw [laterGrown, earlierGrown, List.append_assoc], ?_⟩
  intro other different
  rw [sentTo_append, sentTo_of_unheard own different, List.append_nil]
  exact each other different

/-- What sends nothing may come first. -/
theorem preceded (silent : middle.events = s.events)
    (handsOn : HandsOn id packet middle next audience) : HandsOn id packet s next audience := by
  rcases handsOn with ⟨caused, grown, each⟩
  exact ⟨caused, by rw [grown, silent], each⟩

/-- A condition on the sender is a condition on the audience. -/
theorem gated {allowed : Prop} [Decidable allowed]
    (refused : ¬ allowed -> Emits (Unheard id) s next)
    (granted : allowed -> HandsOn id packet s next audience) :
    HandsOn id packet s next fun other => allowed ∧ audience other := by
  by_cases permitted : allowed
  · exact (granted permitted).congr fun _ _ => (and_iff_right permitted).symm
  · exact handsOn_of_unheard (refused permitted) fun other entitled => permitted entitled.1

/-- Where nothing is asked of the sender. -/
theorem free (handsOn : HandsOn id packet s next audience) :
    HandsOn id packet s next fun other => True ∧ True ∧ audience other :=
  handsOn.congr fun _ _ => by rw [true_and, true_and]

/-- Where the privilege is all that is asked of the sender. -/
theorem privileged {privilege : Prop}
    (handsOn : HandsOn id packet s next fun other => privilege ∧ audience other) :
    HandsOn id packet s next fun other => privilege ∧ True ∧ audience other :=
  handsOn.congr fun _ _ => by rw [true_and]

end HandsOn

theorem unheard_send (packet : Bytes) : Unheard id (.send id packet) := by
  intro recipient sent same
  cases same
  rfl

theorem unheard_cancel (victim : SessionId) : Unheard id (.cancel victim) :=
  nofun

theorem emits_ownError (s : Server F) (code : Int) (message : Bytes) :
    Emits (Unheard id) s (s.sendError id code message) :=
  s.emits_sendTo (unheard_send _)

theorem emits_ownAnswers (s : Server F) (packet queryType : Bytes) :
    Emits (Unheard id) s (s.handleServerQuery id packet queryType) := by
  rcases s.handleServerQuery_cases id packet queryType with
    kept | ⟨reply, answered⟩ | ⟨plan, beaconCode, answered⟩
  · rw [kept]
    exact .silent rfl
  · rw [answered]
    exact s.emits_sendTo (unheard_send reply)
  · rw [answered]
    exact (s.emits_sendTo (unheard_send plan)).trans (emits_sendTo _ (unheard_send beaconCode))

theorem emits_ownKill (s : Server F) (packet : Bytes) :
    Emits (Unheard id) s (s.handleKillRequest id packet) := by
  unfold handleKillRequest
  split
  · exact .silent rfl
  · cases s.find (getField packet 1) with
    | none => exact s.emits_ownError _ _
    | some victim => exact s.emits_cancelCtx (unheard_cancel victim)

theorem emits_ownChallenge (s : Server F) (md5 : Bytes -> List.Vector UInt8 16) (packet : Bytes) :
    Emits (Unheard id) s (s.handleAuthChallenge md5 id packet) := by
  unfold handleAuthChallenge
  split
  · exact s.emits_ownError _ _
  · next authState _ =>
      have advanced : forall response, Emits (Unheard id) s (s.modifyClient id fun client =>
          { client with authState := authState.updateState md5 response }) := fun _ => .silent rfl
      exact (advanced _).trans (emits_sendTo _ (unheard_send _))

theorem emits_ownMetar (s : Server F) (packet : Bytes) :
    Emits (Unheard id) s (s.handleMetarRequest id packet) := by
  unfold handleMetarRequest
  dsimp only
  split
  · exact .silent rfl
  · refine ⟨[.metarRequest id (getField packet 3)], rfl, ?_⟩
    intro event member recipient sent same
    rw [List.mem_singleton.mp member] at same
    cases same

theorem emits_ownSendFast [GoFloat F] (s : Server F) :
    Emits (Unheard id) s (s.updateSendFast id) := by
  rcases s.updateSendFast_cases id with kept | ⟨enabled, switched, _⟩
  · rw [kept]
    exact .silent rfl
  · have stored : Emits (Unheard id) s (s.modifyClient id fun client =>
        { client with sendFastEnabled := enabled }) := .silent rfl
    rw [switched, switchSendFast]
    exact stored.trans (emits_sendTo _ (unheard_send _))

theorem indexed_modifyFlightPlan (indexed : s.Indexed) (target : SessionId) (plan : Bytes) :
    (s.modifyClient target fun client => { client with flightPlan := plan }).Indexed := by
  intro callsign other found
  by_cases own : other = target
  · rw [own] at found ⊢
    rw [modifyClient_same]
    exact indexed callsign target found
  · rw [modifyClient_other _ _ own]
    exact indexed callsign other found

theorem handsOn_of_map {recipients : List SessionId} (nodup : recipients.Nodup)
    (grown : next.events = s.events ++ recipients.map fun recipient => Event.send recipient packet)
    (listed : forall other, other ∈ recipients ↔ other ≠ id ∧ audience other) :
    HandsOn id packet s next audience := by
  refine ⟨_, grown, ?_⟩
  intro other different
  rw [sentTo_map_nodup nodup]
  exact ⟨fun entitled => if_pos ((listed other).mpr ⟨different, entitled⟩),
    fun excluded => if_neg fun member => excluded ((listed other).mp member).2⟩

end HandsOn

section Broadcasts

variable {s : Server F} {id : SessionId}

theorem indexed_of_settled (settled : Settled s) : s.Indexed := by
  rcases settled with ⟨phase, consistent, _⟩
  exact fun callsign other found => (consistent.mapped callsign other found).1

/-- Who is at a place depends on the map and on the client itself. -/
theorem at_congr {next : Server F} {other : SessionId} (same : next.clients other = s.clients other)
    (map : next.postOffice.clientMap = s.postOffice.clientMap) (box : Box F) (place : Destination) :
    next.At box place other ↔ s.At box place other := by
  cases place with
  | nobody => exact Iff.rfl
  | named callsign =>
      dsimp only [At, find]
      rw [map]
  | everywhere listeners =>
      dsimp only [At, Registered]
      rw [map, same]
  | inRange listeners =>
      dsimp only [At, Registered, currentBox]
      rw [map, same]

/-- A place does not depend on what is stored in a flight plan. -/
theorem at_modifyFlightPlan (target : SessionId) (plan : Bytes) (box : Box F) (other : SessionId) :
    (s.modifyClient target fun client => { client with flightPlan := plan }).At box
      (.everywhere .controllers) other ↔ s.At box (.everywhere .controllers) other := by
  dsimp only [At, Registered, Listeners.accepts]
  by_cases own : other = target
  · rw [own, modifyClient_same, modifyClient_postOffice]
  · rw [modifyClient_other _ _ own, modifyClient_postOffice]

theorem handsOn_nobody {next : Server F} {packet : Bytes} (unheard : Emits (Unheard id) s next)
    (box : Box F) : HandsOn id packet s next (s.At box .nobody) :=
  handsOn_of_unheard unheard fun _ impossible => impossible

theorem handsOn_sendDirectOrErr (recipient packet : Bytes) (box : Box F) :
    HandsOn id packet s (s.sendDirectOrErr id recipient packet) (s.At box (.named recipient)) := by
  cases registered : s.find recipient with
  | none =>
      unfold sendDirectOrErr
      rw [registered]
      apply handsOn_of_unheard (s.emits_ownError _ _)
      intro other found
      cases registered.symm.trans found
  | some target =>
      rw [sendDirectOrErr_of_find registered]
      refine ⟨_, rfl, ?_⟩
      intro other different
      have untold : sentTo other (s.refusal id target) = [] := by
        apply List.eq_nil_iff_forall_not_mem.mpr
        intro sent member
        exact different (Event.send.inj (mem_refusal (mem_sentTo.mp member))).1
      have direct : sentTo other (.send target packet :: s.refusal id target) =
          sentTo other [.send target packet] := by
        rw [← List.singleton_append, sentTo_append, untold, List.append_nil]
      rw [direct]
      constructor
      · intro found
        cases registered.symm.trans found
        exact sentTo_send_self target packet
      · intro missing
        apply sentTo_send_other
        intro same
        exact missing (registered.trans (congrArg some same))

theorem handsOn_broadcastAllWhere (indexed : s.Indexed) (packet : Bytes) (listeners : Listeners)
    (box : Box F) :
    HandsOn id packet s (s.broadcastAllWhere id listeners.accepts packet)
      (s.At box (.everywhere listeners)) := by
  have nodup : (s.recipientsAll id listeners.accepts).Nodup :=
    (nodup_registeredClients indexed).filter _
  apply handsOn_of_map nodup (congrArg Server.events (s.broadcastAllWhere_eq id _ packet))
  intro other
  rw [mem_recipientsAll indexed]
  exact and_left_comm

theorem handsOn_broadcastRangedWhere [LawfulGoFloat F] (settled : Settled s) (packet : Bytes)
    (listeners : Listeners) :
    HandsOn id packet s (s.broadcastRangedWhere id listeners.accepts packet)
      (s.At (s.currentBox id) (.inRange listeners)) := by
  rcases s.broadcastRangedWhere_eq id listeners.accepts packet with ⟨dist, same⟩
  rcases settled.found id with ⟨nodup, found⟩
  have distinct : (s.recipientsRanged id listeners.accepts).Nodup := nodup.filter _
  apply handsOn_of_map distinct (congrArg Server.events same)
  intro other
  have listed : other ∈ s.recipientsRanged id listeners.accepts ↔
      other ∈ s.foundBy id ∧ listeners.accepts (s.clients other) = true := List.mem_filter
  rw [listed, found other]
  unfold Near At
  rw [and_assoc, and_assoc]

theorem handsOn_handleHandoff (packet : Bytes) (box : Box F) :
    HandsOn id packet s (s.handleHandoff id packet) fun other =>
      ((s.clients id).Holds .activeAtc ∧ 1 < (s.clients id).facilityType) ∧
        s.At box (.named (getField packet 1)) other := by
  unfold handleHandoff
  apply HandsOn.gated
  · intro refused
    rw [if_pos]
    · exact .silent rfl
    · by_contra passes
      rw [Bool.or_eq_true, Bool.not_eq_true', decide_eq_true_eq, not_or, Bool.not_eq_false,
        not_le] at passes
      exact refused ⟨⟨passes.1, lt_trans zero_lt_one passes.2⟩, passes.2⟩
  · rintro ⟨active, above⟩
    rw [if_neg]
    · exact handsOn_sendDirectOrErr _ packet _
    · rw [Bool.or_eq_true, Bool.not_eq_true', decide_eq_true_eq, not_or, Bool.not_eq_false, not_le]
      exact ⟨active.1, above⟩

end Broadcasts

/-! ## The handlers that hand packets on -/

section Handlers

variable [LawfulGoFloat F] {s : Server F} {id : SessionId}

theorem handsOn_handleTextMessage (settled : Settled s) (packet : Bytes) :
    HandsOn id packet s (s.handleTextMessage id packet) fun other =>
      (s.clients id).Holds (textPrivilege (getField packet 1)) ∧
        s.At (s.currentBox id) (textDestination (getField packet 1)) other := by
  unfold handleTextMessage textPrivilege textDestination
  dsimp only
  by_cases chat : getField packet 1 = bytes "@49999"
  · simp only [if_pos chat]
    apply HandsOn.gated
    · intro pilot
      rw [if_pos (by simpa [Client.Holds] using pilot)]
      exact .silent rfl
    · intro atc
      rw [if_neg (by simpa [Client.Holds] using atc)]
      exact handsOn_broadcastRangedWhere settled packet .controllers
  · simp only [if_neg chat]
    by_cases frequency : hasPrefix (getField packet 1) (bytes "@") = true
    · have notEveryone : getField packet 1 ≠ bytes "*" := by
        intro same
        rw [same] at frequency
        exact absurd frequency (by decide)
      simp only [if_pos frequency, if_neg notEveryone]
      exact .gated (absurd True.intro) fun _ => handsOn_broadcastRangedWhere settled packet .anyone
    · simp only [if_neg frequency]
      by_cases wallop : getField packet 1 = bytes "*S"
      · have notEveryone : getField packet 1 ≠ bytes "*" := by
          rw [wallop]
          decide
        simp only [if_pos wallop, if_neg notEveryone]
        exact .gated (absurd True.intro) fun _ =>
          handsOn_broadcastAllWhere (indexed_of_settled settled) packet .supervisors _
      · simp only [if_neg wallop]
        by_cases everyone : getField packet 1 = bytes "*"
        · simp only [if_pos everyone]
          apply HandsOn.gated
          · intro low
            rw [if_pos (not_le.mp low)]
            exact .silent rfl
          · intro supervisor
            rw [if_neg (not_lt.mpr supervisor)]
            exact handsOn_broadcastAllWhere (indexed_of_settled settled) packet .anyone _
        · simp only [if_neg everyone]
          apply HandsOn.gated (absurd True.intro)
          intro _
          by_cases plans : getField packet 1 = bytes "FP"
          · simp only [if_pos plans,
              if_pos (Or.inl plans : _ ∨ getField packet 1 = bytes "SERVER")]
            exact handsOn_nobody (.silent rfl) _
          · by_cases server : getField packet 1 = bytes "SERVER"
            · simp only [if_neg plans, if_pos server,
                if_pos (Or.inr server : getField packet 1 = bytes "FP" ∨ _)]
              exact handsOn_nobody (.silent rfl) _
            · simp only [if_neg plans, if_neg server, if_neg (not_or_intro plans server)]
              exact handsOn_sendDirectOrErr _ packet _

theorem handsOn_handleProcontroller (settled : Settled s) (packet : Bytes) :
    HandsOn id packet s (s.handleProcontroller id packet) fun other =>
      (s.clients id).Holds
          (if getField packet 3 ∈ privilegedProcontrollerTypes then .activeAtc else .atc) ∧
        s.At (s.currentBox id)
          (controlDestination (getField packet 1) (getField packet 3)) other := by
  unfold handleProcontroller controlDestination
  dsimp only
  cases isAtc : (s.clients id).isAtc with
  | false =>
      apply handsOn_of_unheard (.silent rfl)
      rintro other ⟨held, _⟩
      split at held
      · have active : (s.clients id).isAtc = true := held.1
        rw [isAtc] at active
        cases active
      · have atc : (s.clients id).isAtc = true := held
        rw [isAtc] at atc
        cases atc
  | true =>
      rw [if_neg (by decide)]
      by_cases short : (getField packet 1).length < 2
      · simp only [if_pos short]
        exact handsOn_of_unheard (s.emits_ownError _ _) fun _ impossible => impossible.2
      · simp only [if_neg short]
        by_cases unprivileged : getField packet 3 ∈ unprivilegedProcontrollerTypes
        · have ordinary := not_privileged_of_unprivileged unprivileged
          simp only [if_pos unprivileged, if_neg ordinary]
          exact .gated (absurd isAtc) fun _ => handsOn_sendDirectOrErr _ packet _
        · simp only [if_neg unprivileged]
          by_cases privileged : getField packet 3 ∈ privilegedProcontrollerTypes
          · simp only [if_pos privileged]
            apply HandsOn.gated
            · intro inactive
              have low : (s.clients id).facilityType ≤ 0 :=
                not_lt.mp fun above => inactive ⟨isAtc, above⟩
              rw [if_pos low]
              exact s.emits_ownError _ _
            · rintro ⟨_, above⟩
              rw [if_neg (not_le.mpr above)]
              split
              · exact handsOn_broadcastRangedWhere settled packet .controllers
              · exact handsOn_sendDirectOrErr _ packet _
          · simp only [if_neg privileged]
            exact handsOn_of_unheard (.silent rfl) fun _ impossible => impossible.2

theorem handsOn_forwardClientQuery (settled : Settled s) (packet : Bytes) :
    HandsOn id packet s (s.forwardClientQuery id packet)
      (s.At (s.currentBox id) (forwardDestination (getField packet 1))) := by
  unfold forwardClientQuery forwardDestination
  dsimp only
  split
  · exact handsOn_nobody (s.emits_ownError _ _) _
  · split
    · exact handsOn_broadcastRangedWhere settled packet .controllers
    · split
      · exact handsOn_broadcastRangedWhere settled packet .anyone
      · exact handsOn_sendDirectOrErr _ packet _

theorem handsOn_handleInfQuery (settled : Settled s) {packet : Bytes} {packetType : PacketType}
    (typed : getPacketType packet = packetType)
    (query : packetType = .clientQuery ∨ packetType = .clientQueryResponse) :
    HandsOn id packet s (s.handleInfQuery id packet (getField packet 1)) fun other =>
      (s.clients id).Holds (if packetType = .clientQuery then .supervisor else .none) ∧
        s.At (s.currentBox id) (if packetType = .clientQueryResponse then .named (getField packet 1)
          else forwardDestination (getField packet 1)) other := by
  unfold handleInfQuery
  rw [typed]
  rcases query with rfl | rfl
  · simp only [reduceCtorEq, if_true, if_false]
    apply HandsOn.gated
    · intro low
      rw [if_pos (not_le.mp low)]
      exact s.emits_ownError _ _
    · intro supervisor
      rw [if_neg (not_lt.mpr supervisor)]
      exact handsOn_forwardClientQuery settled packet
  · simp only [reduceCtorEq, if_true, if_false]
    exact .gated (absurd True.intro) fun _ => handsOn_sendDirectOrErr _ packet _

theorem handsOn_handleClientQuery (settled : Settled s) {packet : Bytes} {packetType : PacketType}
    (typed : getPacketType packet = packetType)
    (query : packetType = .clientQuery ∨ packetType = .clientQueryResponse) :
    HandsOn id packet s (s.handleClientQuery id packet) fun other =>
      (s.clients id).Holds (queryPrivilege packetType (getField packet 2)) ∧
        s.At (s.currentBox id)
          (queryDestination packetType (getField packet 1) (getField packet 2)) other := by
  have plain : forall queryType,
      queryType ∈ unprivilegedAtcQueries ++ privilegedAtcQueries ++ configurationQueries ->
        queryType ≠ bytes "INF" := by decide
  unfold handleClientQuery queryPrivilege queryDestination
  dsimp only
  by_cases server : getField packet 1 = bytes "SERVER"
  · simp only [if_pos server]
    exact handsOn_of_unheard (s.emits_ownAnswers packet _) fun _ impossible => impossible.2
  · simp only [if_neg server]
    by_cases unprivileged : getField packet 2 ∈ unprivilegedAtcQueries
    · have listed : getField packet 2 ∈
          unprivilegedAtcQueries ++ privilegedAtcQueries ++ configurationQueries := by
        simp [unprivileged]
      simp only [if_pos unprivileged, plain _ listed, false_and, if_false, listed, true_or, if_true]
      apply HandsOn.gated
      · intro pilot
        rw [if_pos (by simpa [Client.Holds] using pilot)]
        exact s.emits_ownError _ _
      · intro atc
        rw [if_neg (by simpa [Client.Holds] using atc)]
        exact handsOn_forwardClientQuery settled packet
    · simp only [if_neg unprivileged]
      by_cases privileged : getField packet 2 ∈ privilegedAtcQueries
      · have listed : getField packet 2 ∈
            unprivilegedAtcQueries ++ privilegedAtcQueries ++ configurationQueries := by
          simp [privileged]
        simp only [if_pos privileged, plain _ listed, false_and, if_false, listed, true_or, if_true]
        apply HandsOn.gated
        · intro inactive
          rw [if_pos ((active_iff _).mpr inactive)]
          exact s.emits_ownError _ _
        · intro active
          rw [if_neg (mt (active_iff _).mp (not_not.mpr active))]
          exact handsOn_forwardClientQuery settled packet
      · simp only [if_neg privileged]
        by_cases configuration : getField packet 2 ∈ configurationQueries
        · have listed : getField packet 2 ∈
              unprivilegedAtcQueries ++ privilegedAtcQueries ++ configurationQueries := by
            simp [configuration]
          simp only [if_pos configuration, plain _ listed, false_and, and_false, if_false, listed,
            true_or, if_true]
          exact .gated (absurd True.intro) fun _ => handsOn_forwardClientQuery settled packet
        · simp only [if_neg configuration]
          by_cases inf : getField packet 2 = bytes "INF"
          · simp only [inf, true_and, and_true, or_true, if_true]
            exact handsOn_handleInfQuery settled typed query
          · simp only [inf, false_and, and_false, or_false, List.mem_append, unprivileged,
              privileged, configuration, if_false]
            exact handsOn_of_unheard (.silent rfl) fun _ impossible => impossible.2

omit [LawfulGoFloat F] in
/-- A stored plan is announced to the controllers. -/
theorem handsOn_storedPlan (settled : Settled s) (target : SessionId) (plan packet : Bytes)
    (box : Box F) :
    HandsOn id packet s
      ((s.modifyClient target fun client => { client with flightPlan := plan }).broadcastAllATC id
        packet) (s.At box (.everywhere .controllers)) := by
  have indexed := indexed_modifyFlightPlan (indexed_of_settled settled) target plan
  have announced : HandsOn id packet
      (s.modifyClient target fun client => { client with flightPlan := plan }) _ _ :=
    handsOn_broadcastAllWhere indexed packet .controllers box
  exact .preceded rfl (announced.congr fun other _ => at_modifyFlightPlan target plan box other)

omit [LawfulGoFloat F] in
theorem handsOn_handleFileFlightplan (settled : Settled s) (packet : Bytes) (box : Box F) :
    HandsOn id (buildFileFlightplanPacket (s.clients id).callsign (bytes "*A")
        (extractFlightplanInfoSection packet)) s (s.handleFileFlightplan id packet)
      (s.At box (.everywhere .controllers)) :=
  handsOn_storedPlan settled id _ _ box

omit [LawfulGoFloat F] in
theorem handsOn_handleAmendFlightplan (settled : Settled s) (packet : Bytes) (box : Box F) :
    HandsOn id (buildAmendFlightplanPacket (s.clients id).callsign (bytes "*A") (getField packet 2)
        (extractFlightplanInfoSection packet)) s (s.handleAmendFlightplan id packet) fun other =>
      (s.clients id).Holds .activeAtc ∧ (s.find (getField packet 2)).isSome = true ∧
        s.At box (.everywhere .controllers) other := by
  unfold handleAmendFlightplan
  apply HandsOn.gated
  · intro inactive
    rw [if_pos ((active_iff _).mpr inactive)]
    exact .silent rfl
  · intro active
    rw [if_neg (mt (active_iff _).mp (not_not.mpr active))]
    dsimp only
    cases s.find (getField packet 2) with
    | none =>
        apply handsOn_of_unheard (s.emits_ownError _ _)
        rintro other ⟨found, _⟩
        cases found
    | some target =>
        exact (handsOn_storedPlan settled target _ _ box).congr fun _ _ => (and_iff_right rfl).symm

/-- A stored position is announced in the box to which it moves the session. -/
theorem handsOn_updatePosition (settled : Settled s) (registered : s.Registered id)
    (center : F × F) (visRange : F) (packet : Bytes) :
    HandsOn id packet s ((s.updatePosition id center visRange).broadcastRanged id packet)
      (s.At (calculateBoundingBox center visRange) (.inRange .anyone)) := by
  have moved := settled_updatePosition settled registered center visRange
  have clients := s.clients_updatePosition id center visRange
  have box : (s.updatePosition id center visRange).currentBox id =
      calculateBoundingBox center visRange := by
    unfold currentBox
    rw [clients]
    exact Office.currentBox_storePosition s id center visRange
  have map : (s.updatePosition id center visRange).postOffice.clientMap =
      s.postOffice.clientMap := by
    unfold updatePosition
    dsimp only
    split <;> rfl
  have silent : (s.updatePosition id center visRange).events = s.events := by
    unfold updatePosition
    dsimp only
    split <;> rfl
  apply HandsOn.preceded silent
  have announced : HandsOn id packet (s.updatePosition id center visRange) _ _ :=
    handsOn_broadcastRangedWhere moved packet .anyone
  rw [box] at announced
  apply announced.congr
  intro other different
  refine at_congr ?_ map _ _
  rw [clients]
  exact s.modifyClient_other _ different

theorem handsOn_handlePilotPosition (settled : Settled s) (registered : s.Registered id)
    (now : Time) {packet : Bytes} (typed : getPacketType packet = .pilotPosition) :
    HandsOn id packet s (s.handlePilotPosition now id packet) fun other =>
      (storedPosition (s.clients id) packet).isSome = true ∧
        s.At ((s.clients id).soundingBox packet) (.inRange .anyone) other := by
  have stored : storedPosition (s.clients id) packet = storedPilotPosition packet := by
    unfold storedPosition
    rw [typed]
  unfold handlePilotPosition Client.soundingBox
  rw [stored, storedPilotPosition]
  cases (parseLatLon packet 4 5 : Option (F × F)) with
  | none =>
      apply handsOn_of_unheard (s.emits_ownError _ _)
      rintro other ⟨stores, _⟩
      cases stores
  | some center =>
      have announced := handsOn_updatePosition settled registered center pilotVisRange packet
      have reported : Emits (Unheard id)
          ((s.updatePosition id center pilotVisRange).broadcastRanged id packet)
          (((s.updatePosition id center pilotVisRange).broadcastRanged id packet).storePilotFields
            now id packet) := .silent rfl
      have followed := (announced.followed reported).followed (emits_ownSendFast _)
      exact followed.congr fun _ _ => (and_iff_right rfl).symm

theorem handsOn_atcPositionUpdate (settled : Settled s) (registered : s.Registered id)
    (now : Time) (packet : Bytes) :
    HandsOn id packet s (s.atcPositionUpdate now id packet) fun other =>
      match (parseLatLon packet 5 6).bind fun center =>
        (parseVisRange packet 3).map fun visRange => calculateBoundingBox center visRange with
      | none => False
      | some box => s.At box (.inRange .anyone) other := by
  unfold atcPositionUpdate
  cases (parseLatLon packet 5 6 : Option (F × F)) with
  | none => exact handsOn_of_unheard (s.emits_ownError _ _) fun _ impossible => impossible
  | some center =>
      rw [Option.bind_some]
      cases (parseVisRange packet 3 : Option F) with
      | none => exact handsOn_of_unheard (s.emits_ownError _ _) fun _ impossible => impossible
      | some visRange =>
          have announced := handsOn_updatePosition settled registered center visRange packet
          exact announced.followed (.silent rfl)

theorem handsOn_handleATCPosition (settled : Settled s) (registered : s.Registered id)
    (now : Time) {packet : Bytes} (typed : getPacketType packet = .atcPosition) :
    HandsOn id packet s (s.handleATCPosition now id packet) fun other =>
      (storedPosition (s.clients id) packet).isSome = true ∧
        s.At ((s.clients id).soundingBox packet) (.inRange .anyone) other := by
  have stored : storedPosition (s.clients id) packet = storedAtcPosition (s.clients id) packet := by
    unfold storedPosition
    rw [typed]
  unfold handleATCPosition Client.soundingBox
  rw [stored, storedAtcPosition, storedFacility]
  dsimp only
  by_cases failed : (parseInt (getField packet 2) 10 32).err.isSome = true
  · rw [if_pos failed, if_pos failed]
    apply handsOn_of_unheard (s.emits_ownError _ _)
    rintro other ⟨stores, _⟩
    cases stores
  · rw [if_neg failed, if_neg failed]
    cases allowed : isAllowedFacilityType (s.clients id).networkRating
        (parseInt (getField packet 2) 10 32).value with
    | false =>
        have cancelled : Emits (Unheard id) s ((s.sendError id InvalidPositionForRatingError
            (bytes "Invalid position for rating")).cancelCtx id) :=
          (s.emits_ownError _ _).trans (emits_cancelCtx _ (unheard_cancel id))
        apply handsOn_of_unheard cancelled
        rintro other ⟨stores, _⟩
        cases stores
    | true =>
        have placed : SamePost s (s.modifyClient id fun client =>
            { client with facilityType := (parseInt (getField packet 2) 10 32).value }) :=
          .modifyClient s id _ rfl rfl rfl
        have updated := handsOn_atcPositionUpdate (placed.settled settled)
          (placed.registered registered) now packet
        apply HandsOn.preceded rfl (updated.congr _)
        intro other different
        have same := s.modifyClient_other (fun client =>
          { client with facilityType := (parseInt (getField packet 2) 10 32).value }) different
        rw [if_pos rfl, Option.bind_some]
        cases (parseLatLon packet 5 6 : Option (F × F)) with
        | none => simp
        | some center =>
            rw [Option.bind_some, Option.bind_some]
            cases (parseVisRange packet 3 : Option F) with
            | none => simp
            | some visRange =>
                rw [Option.map_some, Option.map_some]
                exact (at_congr same rfl _ _).trans (and_iff_right rfl).symm

/-! ## One turn of the event loop -/

/-- The rule, for the packets of each type. -/
theorem handsOn_runHandler (settled : Settled s) (registered : s.Registered id)
    (md5 : Bytes -> List.Vector UInt8 16) (now : Time) {packet : Bytes} {packetType : PacketType}
    (typed : getPacketType packet = packetType) :
    HandsOn id (relayedPacket (s.clients id).callsign packet) s
      (s.runHandler md5 now packetType id packet) (s.Relayed id packet) := by
  have indexed := indexed_of_settled settled
  have box : packetType ≠ .atcPosition -> packetType ≠ .pilotPosition ->
      (s.clients id).soundingBox packet = s.currentBox id := by
    intro notAtc notPilot
    unfold Client.soundingBox storedPosition
    rw [typed]
    cases packetType <;> first | rfl | contradiction
  unfold Relayed relayedPacket destination requiredPrivilege
  rw [typed]
  cases packetType with
  | textMessage =>
      rw [box nofun nofun]
      exact (handsOn_handleTextMessage settled packet).privileged
  | atcPosition =>
      exact (handsOn_handleATCPosition settled registered now typed).congr
        fun _ _ => (and_iff_right True.intro).symm
  | pilotPosition =>
      exact (handsOn_handlePilotPosition settled registered now typed).congr
        fun _ _ => (and_iff_right True.intro).symm
  | pilotPositionFast =>
      rw [box nofun nofun]
      exact (handsOn_broadcastRangedWhere settled packet .velocity).free
  | pilotPositionSlow =>
      rw [box nofun nofun]
      exact (handsOn_broadcastRangedWhere settled packet .velocity).free
  | pilotPositionStopped =>
      rw [box nofun nofun]
      exact (handsOn_broadcastRangedWhere settled packet .velocity).free
  | deletePilot =>
      exact ((handsOn_broadcastAllWhere indexed packet .anyone _).followed
        (emits_cancelCtx _ (unheard_cancel id))).free
  | deleteATC =>
      exact ((handsOn_broadcastAllWhere indexed packet .anyone _).followed
        (emits_cancelCtx _ (unheard_cancel id))).free
  | squawkbox => exact (handsOn_sendDirectOrErr _ packet _).free
  | proController =>
      rw [box nofun nofun]
      exact (handsOn_handleProcontroller settled packet).privileged
  | clientQuery =>
      rw [box nofun nofun]
      exact (handsOn_handleClientQuery settled typed (Or.inl rfl)).privileged
  | clientQueryResponse =>
      rw [box nofun nofun]
      exact (handsOn_handleClientQuery settled typed (Or.inr rfl)).privileged
  | killRequest => exact (handsOn_nobody (s.emits_ownKill packet) _).free
  | authChallenge => exact (handsOn_nobody (s.emits_ownChallenge md5 packet) _).free
  | handoffRequest => exact (handsOn_handleHandoff packet _).congr fun _ _ => and_assoc
  | handoffAccept => exact (handsOn_handleHandoff packet _).congr fun _ _ => and_assoc
  | metarRequest => exact (handsOn_nobody (s.emits_ownMetar packet) _).free
  | flightPlan => exact (handsOn_handleFileFlightplan settled packet _).free
  | flightPlanAmendment => exact handsOn_handleAmendFlightplan settled packet _
  | unknown => exact (handsOn_nobody (.silent rfl) _).free

/-- What another client is sent in one turn. -/
theorem sentTo_turn (settled : Settled s) (registered : s.Registered id)
    (md5 : Bytes -> List.Vector UInt8 16) (now : Time) (packet : Bytes) {other : SessionId}
    (different : other ≠ id) :
    sentTo other (s.processPacket md5 now id packet).events =
      sentTo other s.events ++ s.heardOf id packet other := by
  have heard : Exists fun caused =>
      (s.processPacket md5 now id packet).events = s.events ++ caused ∧
        sentTo other caused = s.heardOf id packet other := by
    unfold processPacket heardOf
    cases verified : verifyPacket packet (s.clients id).callsign with
    | refused code message =>
        rcases s.emits_ownError code message with ⟨caused, grown, own⟩
        exact ⟨caused, grown, sentTo_of_unheard own different⟩
    | accepted packetType =>
        have typed := (verifyPacket_accepted verified).1.symm
        rcases handsOn_runHandler settled registered md5 now typed with ⟨caused, grown, each⟩
        refine ⟨caused, grown, ?_⟩
        dsimp only
        split
        · next relayed => exact (each other different).1 relayed
        · next withheld => exact (each other different).2 withheld
  rcases heard with ⟨caused, grown, sent⟩
  rw [grown, sentTo_append, sent]

end Handlers

end Server

/-! ## Runs -/

namespace System

/-- What an action makes the server send to a client, unless it is a packet of
that client. -/
def heard (other : SessionId) (system : System F) : Action -> List Bytes
  | .announce id =>
      if other ≠ id ∧ system.server.Registered other then
        [Server.addPacket (system.server.clients id)]
      else []
  | .packet _ id packet => system.server.heardOf id packet other
  | .depart id =>
      if other ≠ id ∧ system.server.Registered other then
        [Server.disconnectPacket (system.server.clients id)]
      else []
  | .connect _ _ _ _ => []
  | .release _ => []
  | .kick _ => []

variable {P : Platform} {system next : System F} {other : SessionId}

omit [GoFloat F] in
theorem sentTo_broadcastAll {s : Server F} (indexed : s.Indexed) (id : SessionId) (packet : Bytes) :
    sentTo other (s.broadcastAll id packet).events = sentTo other s.events ++
      if other ≠ id ∧ s.Registered other then [packet] else [] := by
  have nodup : (s.recipientsAll id fun _ => true).Nodup :=
    (Server.nodup_registeredClients indexed).filter _
  have listed : other ∈ s.recipientsAll id (fun _ => true) ↔
      other ≠ id ∧ s.Registered other := by
    rw [Server.mem_recipientsAll indexed, and_left_comm, and_iff_left rfl]
  have same := congrArg Server.events (s.broadcastAllWhere_eq id (fun _ => true) packet)
  have grown : (s.broadcastAll id packet).events = _ := same
  rw [grown, sentTo_append, sentTo_map_nodup nodup]
  simp only [listed]

/-- One step, seen by a client that does not speak in it. -/
theorem sentTo_step [LawfulGoFloat F] (settled : Settled system.server) {action : Action}
    (taken : System.step P system action = some next)
    (listens : forall now packet, action ≠ .packet now other packet) :
    sentTo other next.server.events =
      sentTo other system.server.events ++ heard other system action := by
  have indexed := Server.indexed_of_settled settled
  cases action with
  | connect env database idLine addLine =>
      have kept : next.server.events = system.server.events := by
        rcases step_connect_cases taken with same | ⟨server, connected, same⟩
        · rw [same]
        · rw [same]
          exact Server.events_connect connected
      rw [kept]
      exact (List.append_nil _).symm
  | announce id =>
      dsimp only [System.step] at taken
      split at taken
      · rw [← Option.some.inj taken]
        exact sentTo_broadcastAll indexed id _
      · cases taken
  | packet now id packet =>
      dsimp only [System.step] at taken
      split at taken
      · next registered =>
          have different : other ≠ id := by
            intro same
            rw [same] at listens
            exact listens now packet rfl
          rw [← Option.some.inj taken]
          exact Server.sentTo_turn settled registered P.md5 now packet different
      · cases taken
  | depart id =>
      dsimp only [System.step] at taken
      split at taken
      · have cancelled := Undisturbed.cancelCtx system.server id
        have still : (system.server.cancelCtx id).Indexed :=
          Server.indexed_of_settled (cancelled.samePost.settled settled)
        have leaves := (Connections.announcements_congr (cancelled.toLoginData id)).2
        have marked : sentTo other (system.server.cancelCtx id).events =
            sentTo other system.server.events := by
          exact (sentTo_append other _ [.cancel id]).trans (List.append_nil _)
        rw [← Option.some.inj taken]
        refine (sentTo_broadcastAll still id _).trans ?_
        simp only [marked, leaves, cancelled.registered_iff]
        rfl
      · cases taken
  | release id =>
      dsimp only [System.step] at taken
      split at taken
      · rw [← Option.some.inj taken]
        exact (List.append_nil _).symm
      · cases taken
  | kick callsign =>
      rcases Option.map_eq_some_iff.mp taken with ⟨server, kicked, same⟩
      rcases Option.map_eq_some_iff.mp kicked with ⟨victim, _, cancelled⟩
      rw [← same, ← cancelled]
      exact sentTo_append other system.server.events [.cancel victim]

/-- A client that only listens is sent, through any run, what it hears of the
steps, once each and in their order, and nothing else.  While its context is live,
all of it is queued. -/
theorem listener_hears [LawfulGoFloat F] {heap : SessionId -> Client F} {later : System F}
    {actions : List Action}
    (reached : Reaches (System.step P) (System.start heap) system)
    (executed : run (System.step P) system actions = some later)
    (listens : forall now packet, Action.packet now other packet ∉ actions) :
    sentTo other later.server.events = sentTo other system.server.events ++
        collected (System.step P) (heard other) system actions ∧
      (other < later.allocated -> (later.server.clients other).cancelled = false ->
        later.server.queued other = sentTo other later.server.events) := by
  have preserved : forall (state : System F) (action : Action) (next : System F),
      System.step P state action = some next -> (forall now packet,
        action ≠ .packet now other packet) -> Reaches (System.step P) (System.start heap) state ->
          Reaches (System.step P) (System.start heap) next :=
    fun _ _ _ taken _ earlier => earlier.tail taken
  have appended : forall (state : System F) (action : Action) (next : System F),
      System.step P state action = some next -> (forall now packet,
        action ≠ .packet now other packet) -> Reaches (System.step P) (System.start heap) state ->
          sentTo other next.server.events =
            sentTo other state.server.events ++ heard other state action :=
    fun _ _ _ taken silent earlier => sentTo_step (settled_of_reaches earlier) taken silent
  have silent : forall action, action ∈ actions ->
      forall now packet, action ≠ .packet now other packet := by
    intro action member now packet same
    rw [same] at member
    exact listens now packet member
  constructor
  · exact record_of_run preserved appended reached (along_of_forall silent system) executed
  · exact (tracked_of_reaches (reached.trans ⟨actions, executed⟩)).queued_eq_sentTo

/-- A message from `LON_TWR` to `LON_CTR`. -/
def towerMessage : Bytes := bytes "#TMLON_TWR:LON_CTR:hello" ++ crlf

theorem heardOf_towerMessage {s : Server Real} (named : (s.clients 1).callsign = bytes "LON_TWR")
    (found : s.find (bytes "LON_CTR") = some 0) : s.heardOf 1 towerMessage 0 = [towerMessage] := by
  have typed : getPacketType towerMessage = .textMessage := by decide +kernel
  have privilege : requiredPrivilege towerMessage = .none := by decide +kernel
  have place : destination towerMessage = .named (bytes "LON_CTR") := by decide +kernel
  have accepted : verifyPacket towerMessage (s.clients 1).callsign = .accepted .textMessage := by
    rw [named]
    decide +kernel
  have relayed : s.Relayed 1 towerMessage 0 := by
    unfold Server.Relayed
    rw [privilege, typed, place]
    exact ⟨True.intro, True.intro, found⟩
  unfold Server.heardOf relayedPacket
  rw [accepted, typed]
  exact if_pos relayed

/-- The two controllers log in, and the second one announces itself and speaks
to the first. -/
def towerCalls : List Action :=
  [.connect sampleLogin Symbolic.database sampleIdLine sampleAddLine,
   .connect sampleLogin Symbolic.database Connections.towerIdLine Connections.towerAddLine,
   .announce 1,
   .packet 0 1 towerMessage]

/-- The message leaves all records as they are. -/
theorem clients_towerMessage {s : Server Real} (named : (s.clients 1).callsign = bytes "LON_TWR")
    (found : s.find (bytes "LON_CTR") = some 0) :
    (s.processPacket Symbolic.platform.md5 0 1 towerMessage).clients = s.clients := by
  have accepted : verifyPacket towerMessage (s.clients 1).callsign = .accepted .textMessage := by
    rw [named]
    decide +kernel
  have recipient : getField towerMessage 1 = bytes "LON_CTR" := by decide +kernel
  rw [Server.processPacket_of_accepted accepted]
  dsimp only [Server.runHandler]
  unfold Server.handleTextMessage
  dsimp only
  rw [recipient, if_neg (by decide), if_neg (by decide), if_neg (by decide), if_neg (by decide),
    if_neg (by decide), if_neg (by decide), Server.sendDirectOrErr_of_find found]

theorem listener_hears_tower : Exists fun later : System Real =>
    run (System.step Symbolic.platform) (System.start fun _ => newClient [] sampleData) towerCalls =
      some later ∧
    later.server.queued 0 =
      [bytes "#AALON_TWR:SERVER:Name:1::12:100" ++ crlf, towerMessage] := by
  have readListener : (login Symbolic.platform sampleLogin Symbolic.database sampleIdLine
      sampleAddLine : LoginResult (Client Real)).toOption.map
        (fun client => (client.callsign, client.cancelled)) = some (bytes "LON_CTR", false) := by
    decide +kernel
  have readSpeaker : (login Symbolic.platform sampleLogin Symbolic.database
      Connections.towerIdLine Connections.towerAddLine : LoginResult (Client Real)).toOption.map
        (fun client => (client.callsign, Server.addPacket client)) =
        some (bytes "LON_TWR", bytes "#AALON_TWR:SERVER:Name:1::12:100" ++ crlf) := by
    decide +kernel
  rcases exists_loggedIn readListener with ⟨listener, listenerIn, listenerRead⟩
  rcases Prod.mk.inj listenerRead with ⟨listenerNamed, listenerLive⟩
  rcases exists_loggedIn readSpeaker with ⟨speaker, speakerIn, speakerRead⟩
  rcases Prod.mk.inj speakerRead with ⟨speakerNamed, announcement⟩
  have different : speaker.callsign ≠ listener.callsign := by
    rw [speakerNamed, listenerNamed]
    decide
  rcases exists_both_registered (fun _ => newClient [] sampleData) listenerIn speakerIn
    different with ⟨one, both, connectedFirst, connectedSecond, ⟨listenerRecord, speakerRecord⟩,
      registered, registeredSpeaker⟩
  have first : System.step Symbolic.platform (System.start fun _ => newClient [] sampleData)
      (.connect sampleLogin Symbolic.database sampleIdLine sampleAddLine) = some ⟨one, 1⟩ :=
    System.step_connect connectedFirst
  have second : System.step Symbolic.platform (⟨one, 1⟩ : System Real)
      (.connect sampleLogin Symbolic.database Connections.towerIdLine Connections.towerAddLine) =
        some ⟨both, 2⟩ :=
    System.step_connect connectedSecond
  have announced : System.step Symbolic.platform (⟨both, 2⟩ : System Real) (.announce 1) =
      some ⟨both.broadcastAddPacket 1, 2⟩ := if_pos registeredSpeaker
  let spokenTo : Server Real :=
    (both.broadcastAddPacket 1).processPacket Symbolic.platform.md5 0 1 towerMessage
  have spoken : System.step Symbolic.platform (⟨both.broadcastAddPacket 1, 2⟩ : System Real)
      (.packet 0 1 towerMessage) = some ⟨spokenTo, 2⟩ := if_pos registeredSpeaker
  have executed : run (System.step Symbolic.platform)
      (System.start fun _ => (newClient [] sampleData : Client Real)) towerCalls =
        some ⟨spokenTo, 2⟩ := by
    unfold towerCalls
    rw [run_cons_of_step first, run_cons_of_step second, run_cons_of_step announced,
      run_cons_of_step spoken]
    rfl
  have listens : forall now packet, Action.packet now 0 packet ∉ towerCalls := by
    intro now packet member
    simp [towerCalls] at member
  have greeting : heard 0 (⟨both, 2⟩ : System Real) (.announce 1) =
      [bytes "#AALON_TWR:SERVER:Name:1::12:100" ++ crlf] := by
    dsimp only [heard]
    rw [if_pos ⟨by decide, registered⟩, speakerRecord, announcement]
  have named : (both.clients 1).callsign = bytes "LON_TWR" := by
    rw [speakerRecord, speakerNamed]
  have found : both.find (bytes "LON_CTR") = some 0 := by
    unfold Server.Registered at registered
    rw [listenerRecord, listenerNamed] at registered
    exact registered
  have message : heard 0 (⟨both.broadcastAddPacket 1, 2⟩ : System Real)
      (.packet 0 1 towerMessage) = [towerMessage] :=
    heardOf_towerMessage (s := both.broadcastAddPacket 1) named found
  have live : (spokenTo.clients 0).cancelled = false := by
    have kept : spokenTo.clients = both.clients :=
      clients_towerMessage (s := both.broadcastAddPacket 1) named found
    rw [kept, listenerRecord, listenerLive]
  rcases listener_hears (.refl _) executed listens with ⟨hears, queues⟩
  refine ⟨_, executed, ((queues Nat.zero_lt_two live).trans hears).trans ?_⟩
  unfold towerCalls
  rw [collected_cons_of_step first, collected_cons_of_step second,
    collected_cons_of_step announced, collected_cons_of_step spoken, greeting, message]
  rfl

end System
end Fsd
end OpenFsd
