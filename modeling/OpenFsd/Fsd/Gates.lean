import OpenFsd.Fsd.Records
import OpenFsd.Fsd.Session

namespace OpenFsd
namespace Fsd

open Transition

/-!
# Who is an active controller

Five handlers ask whether a client is an ATC client above observer, each with
a comparison of its own.  They agree on every client whose facility type is
`Fitting`.  A pilot that has taken a facility is reported as an active ATC,
though no gate lets it act as one, and a flight service station, which has
facility type 1, passes every gate but that of the handoffs.

A facility type is stored by ATC positions alone, so the gates agree
throughout a run exactly if its ATC positions store fitting facility types.
-/

/-- What the handlers make of the facility type of an ATC client or pilot is
the same everywhere. -/
def FittingFacility (isAtc : Bool) (facilityType : Int) : Prop :=
  (isAtc = true -> facilityType ≠ 1) ∧ (isAtc = false -> facilityType ≤ 0)

/-- The step from `s` to `next` sends the packet to the target. -/
def Sends {F : Type} (s next : Server F) (target : SessionId) (packet : Bytes) : Prop :=
  Event.send target packet ∈ next.events.drop s.events.length

/-- The answer to the query whether the target is an active ATC. -/
def atcAnswer (asker target answer : Bytes) : Bytes :=
  bytes "$CRSERVER:" ++ asker ++ bytes ":ATC:" ++ answer ++ [colon] ++ target ++ crlf

/-- All gates agree that the client is an active ATC, or that it is not. -/
structure GatesAgree {F : Type} [GoFloat F] (md5 : Bytes -> List.Vector UInt8 16) (s : Server F)
    (id : SessionId) : Prop where
  query : forall now asker packet,
    verifyPacket packet (s.clients asker).callsign = .accepted .clientQuery ->
    getField packet 1 = bytes "SERVER" -> getField packet 2 = bytes "ATC" ->
    countFields packet = 4 -> s.find (getField packet 3) = some id ->
      (Sends s (s.processPacket md5 now asker packet) asker
        (atcAnswer (s.clients asker).callsign (getField packet 3) (bytes "Y")) ↔
          (s.clients id).IsActiveAtc)
  handoff : forall now packet packetType target,
    packetType ∈ [PacketType.handoffRequest, .handoffAccept] ->
    verifyPacket packet (s.clients id).callsign = .accepted packetType ->
    s.find (getField packet 1) = some target ->
      (Sends s (s.processPacket md5 now id packet) target packet ↔ (s.clients id).IsActiveAtc)
  message : forall now packet target,
    verifyPacket packet (s.clients id).callsign = .accepted .proController ->
    getField packet 3 ∈ privilegedProcontrollerTypes ->
    s.find (getField packet 1) = some target ->
      (Sends s (s.processPacket md5 now id packet) target packet ↔ (s.clients id).IsActiveAtc)
  request : forall now packet packetType target,
    packetType ∈ [PacketType.clientQuery, .clientQueryResponse] ->
    verifyPacket packet (s.clients id).callsign = .accepted packetType ->
    getField packet 2 ∈ privilegedAtcQueries -> s.find (getField packet 1) = some target ->
      (Sends s (s.processPacket md5 now id packet) target packet ↔ (s.clients id).IsActiveAtc)
  amendment : forall now packet target,
    verifyPacket packet (s.clients id).callsign = .accepted .flightPlanAmendment ->
    s.find (getField packet 2) = some target ->
      ((s.clients id).IsActiveAtc ->
        ((s.processPacket md5 now id packet).clients target).flightPlan =
            extractFlightplanInfoSection packet ∧
          forall other, other ∈ s.registeredClients -> other ≠ id ->
            (s.clients other).isAtc = true ->
              Sends s (s.processPacket md5 now id packet) other
                (buildAmendFlightplanPacket (s.clients id).callsign (bytes "*A")
                  (getField packet 2) (extractFlightplanInfoSection packet))) ∧
      (¬ (s.clients id).IsActiveAtc -> s.processPacket md5 now id packet = s)

section Sends

variable {F : Type} {s next : Server F} {target recipient : SessionId} {packet sent : Bytes}

theorem sends_of_append {caused : List Event} (appended : next.events = s.events ++ caused) :
    Sends s next target packet ↔ Event.send target packet ∈ caused := by
  unfold Sends
  rw [appended, List.drop_left]

@[simp] theorem sends_sendTo :
    Sends s (s.sendTo recipient sent) target packet ↔ target = recipient ∧ packet = sent := by
  rw [sends_of_append (rfl : (s.sendTo recipient sent).events = s.events ++ [.send recipient sent])]
  simp

@[simp] theorem not_sends_self : ¬ Sends s s target packet := by
  rw [sends_of_append (List.append_nil s.events).symm]
  exact List.not_mem_nil

/-- A packet that is accepted is no error packet. -/
theorem ne_errorPacket {callsign : Bytes} {packetType : PacketType}
    (accepted : verifyPacket packet callsign = .accepted packetType) (known : packetType ≠ .unknown)
    (code : Int) (message : Bytes) : packet ≠ errorPacket code message := by
  intro same
  have typed : getPacketType (errorPacket code message) = .unknown :=
    (getPacketType_dollar _ _ _).trans (by decide)
  rw [← same, ← (verifyPacket_accepted accepted).1] at typed
  exact known typed

/-- Only the sender is told that the recipient refuses a packet. -/
theorem sends_sendDirectOrErr {id : SessionId} {callsign : Bytes}
    (found : s.find callsign = some recipient)
    (notError : packet ≠ errorPacket NoSuchCallsignError (bytes "No such callsign")) :
    Sends s (s.sendDirectOrErr id callsign packet) target packet ↔ target = recipient := by
  rw [Server.sendDirectOrErr_of_find found, sends_of_append rfl, List.mem_cons]
  constructor
  · rintro (direct | told)
    · exact (Event.send.inj direct).1
    · exact absurd (Event.send.inj (Server.mem_refusal told)).2 notError
  · intro own
    rw [own]
    exact Or.inl rfl

end Sends

section Gates

variable {F : Type} [GoFloat F] {md5 : Bytes -> List.Vector UInt8 16} {s : Server F}
  {id target : SessionId} {packet : Bytes}

/-! ## One lemma for each gate -/

omit [GoFloat F] in
theorem atcAnswer_inj {asker callsign first second : Bytes} :
    atcAnswer asker callsign first = atcAnswer asker callsign second ↔ first = second := by
  unfold atcAnswer
  simp

/-- The gate of the ATC query asks for the facility type alone. -/
theorem query_iff {now : Time} {asker : SessionId}
    (accepted : verifyPacket packet (s.clients asker).callsign = .accepted .clientQuery)
    (server : getField packet 1 = bytes "SERVER") (atc : getField packet 2 = bytes "ATC")
    (fields : countFields packet = 4) (found : s.find (getField packet 3) = some id) :
    Sends s (s.processPacket md5 now asker packet) asker
      (atcAnswer (s.clients asker).callsign (getField packet 3) (bytes "Y")) ↔
        0 < (s.clients id).facilityType := by
  have answered : s.processPacket md5 now asker packet =
      s.sendTo asker (atcAnswer (s.clients asker).callsign (getField packet 3)
        (if 0 < (s.clients id).facilityType then bytes "Y" else bytes "N")) := by
    rw [Server.processPacket_of_accepted accepted]
    simp only [Server.runHandler, Server.handleClientQuery, server, if_true,
      Server.handleServerQuery, atc, Server.handleClientQueryATCRequest, fields, found]
    rfl
  rw [answered, sends_sendTo, atcAnswer_inj]
  by_cases active : 0 < (s.clients id).facilityType
  · simp [active]
  · have different : bytes "Y" ≠ bytes "N" := by decide
    simp [active, different]

/-- The gate of the handoffs asks for a facility type above 1. -/
theorem handoff_iff {now : Time} {packetType : PacketType}
    (handoff : packetType ∈ [PacketType.handoffRequest, .handoffAccept])
    (accepted : verifyPacket packet (s.clients id).callsign = .accepted packetType)
    (found : s.find (getField packet 1) = some target) :
    Sends s (s.processPacket md5 now id packet) target packet ↔
      (s.clients id).isAtc = true ∧ 1 < (s.clients id).facilityType := by
  have handled : s.processPacket md5 now id packet = s.handleHandoff id packet := by
    rw [Server.processPacket_of_accepted accepted]
    rcases List.mem_pair.mp handoff with request | accept
    · rw [request, Server.runHandler]
    · rw [accept, Server.runHandler]
  rw [handled, Server.handleHandoff]
  split
  · next guarded =>
      simp only [Bool.or_eq_true, Bool.not_eq_true', decide_eq_true_eq] at guarded
      apply iff_of_false not_sends_self
      rintro ⟨isAtc, above⟩
      rcases guarded with pilot | low
      · rw [isAtc] at pilot
        cases pilot
      · omega
  · next guarded =>
      have known : packetType ≠ .unknown := by
        intro unknown
        rw [unknown] at handoff
        revert handoff
        decide
      rw [sends_sendDirectOrErr found (ne_errorPacket accepted known _ _)]
      simpa using guarded

omit [GoFloat F] in
/-- Whoever is not an active ATC is told so, or nothing. -/
theorem not_sends_sendError {packetType : PacketType} {callsign : Bytes} (known : packetType ≠ .unknown)
    (accepted : verifyPacket packet callsign = .accepted packetType) (code : Int) (message : Bytes) :
    ¬ Sends s (s.sendError id code message) target packet := by
  unfold Server.sendError
  rw [sends_sendTo]
  exact fun sent => ne_errorPacket accepted known code message sent.2

theorem message_iff {now : Time}
    (accepted : verifyPacket packet (s.clients id).callsign = .accepted .proController)
    (privileged : getField packet 3 ∈ privilegedProcontrollerTypes)
    (found : s.find (getField packet 1) = some target) (valid : ValidCallsign (getField packet 1)) :
    Sends s (s.processPacket md5 now id packet) target packet ↔ (s.clients id).IsActiveAtc := by
  have unlisted : getField packet 3 ∉ unprivilegedProcontrollerTypes :=
    fun unprivileged => Server.not_privileged_of_unprivileged unprivileged privileged
  have direct : (getField packet 1).take 1 ≠ bytes "@" := by
    intro chat
    have marked : (64 : UInt8) ∈ (getField packet 1).take 1 := by
      rw [chat]
      exact List.mem_cons_self
    exact valid.not_mem (by decide) (List.mem_of_mem_take marked)
  have long : ¬ (getField packet 1).length < 2 := Nat.not_lt.mpr valid.lower
  rw [Server.processPacket_of_accepted accepted, Server.runHandler, Server.handleProcontroller]
  dsimp only
  rw [if_neg long, if_neg unlisted, if_pos privileged, if_neg direct]
  unfold Client.IsActiveAtc
  split
  · next pilot => exact iff_of_false not_sends_self fun active => by simp [active.1] at pilot
  · next isAtc =>
      split
      · next low =>
          refine iff_of_false (not_sends_sendError (by decide) accepted _ _) ?_
          exact fun active => absurd active.2 (Int.not_lt.mpr low)
      · next above =>
          rw [sends_sendDirectOrErr found (ne_errorPacket accepted (by decide) _ _)]
          simpa using ⟨by simpa using isAtc, by omega⟩

theorem request_iff {now : Time} {packetType : PacketType}
    (query : packetType ∈ [PacketType.clientQuery, .clientQueryResponse])
    (accepted : verifyPacket packet (s.clients id).callsign = .accepted packetType)
    (privileged : getField packet 2 ∈ privilegedAtcQueries)
    (found : s.find (getField packet 1) = some target) (valid : ValidCallsign (getField packet 1)) :
    Sends s (s.processPacket md5 now id packet) target packet ↔ (s.clients id).IsActiveAtc := by
  have known : packetType ≠ .unknown := by
    intro unknown
    rw [unknown] at query
    revert query
    decide
  have handled : s.processPacket md5 now id packet = s.handleClientQuery id packet := by
    rw [Server.processPacket_of_accepted accepted]
    rcases List.mem_pair.mp query with request | response
    · rw [request, Server.runHandler]
    · rw [response, Server.runHandler]
  have long : ¬ (getField packet 1).length < 2 := Nat.not_lt.mpr valid.lower
  have direct : s.forwardClientQuery id packet =
      s.sendDirectOrErr id (getField packet 1) packet := by
    unfold Server.forwardClientQuery
    dsimp only
    rw [if_neg long, if_neg (valid.ne_of_mem (by decide : (64 : UInt8) ∈ _) (by decide)),
      if_neg (valid.ne_of_mem (by decide : (64 : UInt8) ∈ _) (by decide))]
  rw [handled, Server.handleClientQuery]
  rw [if_neg valid.ne_server, if_neg (not_unprivileged_of_privileged privileged), if_pos privileged,
    direct]
  unfold Client.IsActiveAtc
  split
  · next guarded =>
      simp only [Bool.or_eq_true, Bool.not_eq_true', decide_eq_true_eq] at guarded
      refine iff_of_false (not_sends_sendError known accepted _ _) ?_
      rintro ⟨isAtc, above⟩
      rcases guarded with pilot | low
      · rw [isAtc] at pilot
        cases pilot
      · omega
  · next guarded =>
      rw [sends_sendDirectOrErr found (ne_errorPacket accepted known _ _)]
      simpa using guarded

/-- An active ATC client's amendment is stored and announced. -/
theorem amendment_of_active {now : Time} (active : (s.clients id).IsActiveAtc)
    (accepted : verifyPacket packet (s.clients id).callsign = .accepted .flightPlanAmendment)
    (found : s.find (getField packet 2) = some target) :
    s.processPacket md5 now id packet =
      (s.modifyClient target fun client =>
        { client with flightPlan := extractFlightplanInfoSection packet }).broadcastAllATC id
          (buildAmendFlightplanPacket (s.clients id).callsign (bytes "*A") (getField packet 2)
            (extractFlightplanInfoSection packet)) := by
  rw [Server.processPacket_of_accepted accepted, Server.runHandler, Server.handleAmendFlightplan,
    if_neg (by simp [active.1, active.2])]
  simp only [found]

/-- Anybody else's amendment has no effect. -/
theorem amendment_of_inactive {now : Time} (inactive : ¬ (s.clients id).IsActiveAtc)
    (accepted : verifyPacket packet (s.clients id).callsign = .accepted .flightPlanAmendment) :
    s.processPacket md5 now id packet = s := by
  rw [Server.processPacket_of_accepted accepted, Server.runHandler, Server.handleAmendFlightplan, if_pos]
  simp only [Bool.or_eq_true, Bool.not_eq_true', decide_eq_true_eq]
  by_cases isAtc : (s.clients id).isAtc = true
  · exact Or.inr (Int.not_lt.mp fun above => inactive ⟨isAtc, above⟩)
  · exact Or.inl (Bool.eq_false_of_not_eq_true isAtc)

theorem amendment_effect {now : Time}
    (accepted : verifyPacket packet (s.clients id).callsign = .accepted .flightPlanAmendment)
    (found : s.find (getField packet 2) = some target) (active : (s.clients id).IsActiveAtc) :
    ((s.processPacket md5 now id packet).clients target).flightPlan =
        extractFlightplanInfoSection packet ∧
      forall other, other ∈ s.registeredClients -> other ≠ id ->
        (s.clients other).isAtc = true ->
          Sends s (s.processPacket md5 now id packet) other
            (buildAmendFlightplanPacket (s.clients id).callsign (bytes "*A")
              (getField packet 2) (extractFlightplanInfoSection packet)) := by
  rw [amendment_of_active active accepted found, Server.broadcastAllATC, Server.broadcastAllWhere_eq]
  constructor
  · simp
  · intro other registered different otherAtc
    rw [sends_of_append rfl]
    apply List.mem_map_of_mem
    refine List.mem_filter.mpr ⟨registered, ?_⟩
    have same : ((s.modifyClient target fun client => { client with
        flightPlan := extractFlightplanInfoSection packet }).clients other).isAtc = true := by
      by_cases own : other = target
      · rw [own, Server.modifyClient_same, ← own]
        exact otherAtc
      · rw [Server.modifyClient_other _ _ own]
        exact otherAtc
    simp [different, same]

/-! ## Two packets of a client about itself -/

/-- The client hands off to itself. -/
def ownHandoff (callsign : Bytes) : Bytes :=
  packetOf [bytes "$HO" ++ callsign, callsign, callsign]

/-- The client asks whether it is an active ATC. -/
def ownQuery (callsign : Bytes) : Bytes :=
  packetOf [bytes "$CQ" ++ callsign, bytes "SERVER", bytes "ATC", callsign]

theorem plain_ownHandoff {callsign : Bytes} (valid : ValidCallsign callsign) :
    forall field, field ∈ [bytes "$HO" ++ callsign, callsign, callsign] -> PlainField field := by
  have plain := valid.plain
  have start : PlainField (bytes "$HO" ++ callsign) := PlainField.append (by decide) plain
  simp [plain, start]

theorem plain_ownQuery {callsign : Bytes} (valid : ValidCallsign callsign) :
    forall field, field ∈ [bytes "$CQ" ++ callsign, bytes "SERVER", bytes "ATC", callsign] ->
      PlainField field := by
  have plain := valid.plain
  have start : PlainField (bytes "$CQ" ++ callsign) := PlainField.append (by decide) plain
  have server : PlainField (bytes "SERVER") := by decide
  have atc : PlainField (bytes "ATC") := by decide
  simp [plain, start, server, atc]

theorem accepted_ownHandoff {callsign : Bytes} (valid : ValidCallsign callsign) :
    verifyPacket (ownHandoff callsign) callsign = .accepted .handoffRequest := by
  have typed : getPacketType (packetOf ((getPacketPrefix .handoffRequest ++ callsign) ::
      [callsign, callsign])) = .handoffRequest :=
    (getPacketType_dollar _ _ _).trans (by decide)
  refine verifyPacket_packetOf typed (by decide) rfl (plain_ownHandoff valid) ?_ ?_ ?_
  · have lower := valid.lower
    simp [packetOf, crlf, getPacketPrefix, bytes]
    omega
  · simp
  · simp [minFields]

theorem accepted_ownQuery {callsign : Bytes} (valid : ValidCallsign callsign) :
    verifyPacket (ownQuery callsign) callsign = .accepted .clientQuery := by
  have typed : getPacketType (packetOf ((getPacketPrefix .clientQuery ++ callsign) ::
      [bytes "SERVER", bytes "ATC", callsign])) = .clientQuery :=
    (getPacketType_dollar _ _ _).trans (by decide)
  refine verifyPacket_packetOf typed (by decide) rfl (plain_ownQuery valid) ?_ ?_ ?_
  · have lower := valid.lower
    simp [packetOf, crlf, getPacketPrefix, bytes]
    omega
  · simp
  · simp [minFields]

/-- Where the client can be found under its valid callsign, the gates agree
exactly on a fitting facility type. -/
theorem gatesAgree_iff_fitting
    (valid : forall callsign found, s.find callsign = some found -> ValidCallsign callsign)
    (registered : s.Registered id) :
    GatesAgree md5 s id ↔
      FittingFacility (s.clients id).isAtc (s.clients id).facilityType := by
  have own : s.find (s.clients id).callsign = some id := registered
  have named := valid _ _ own
  constructor
  · intro agree
    constructor
    · intro isAtc lowest
      have accepted := accepted_ownHandoff named
      have found : s.find (getField (ownHandoff (s.clients id).callsign) 1) = some id := by
        rw [show getField (ownHandoff (s.clients id).callsign) 1 = _ from
          getField_packetOf (plain_ownHandoff named) rfl]
        exact own
      have relayed := agree.handoff 0 _ _ id List.mem_cons_self accepted found
      have active := (handoff_iff List.mem_cons_self accepted found).mp
        (relayed.mpr ⟨isAtc, by omega⟩)
      omega
    · intro pilot
      apply Int.not_lt.mp
      intro above
      have accepted := accepted_ownQuery named
      have plain := plain_ownQuery named
      have target : getField (ownQuery (s.clients id).callsign) 3 = (s.clients id).callsign :=
        getField_packetOf plain rfl
      have found : s.find (getField (ownQuery (s.clients id).callsign) 3) = some id := by
        rw [target]
        exact own
      have server : getField (ownQuery (s.clients id).callsign) 1 = bytes "SERVER" :=
        getField_packetOf plain rfl
      have atc : getField (ownQuery (s.clients id).callsign) 2 = bytes "ATC" :=
        getField_packetOf plain rfl
      have fields : countFields (ownQuery (s.clients id).callsign) = 4 := countFields_packetOf plain
      have active := (agree.query 0 id _ accepted server atc fields found).mp
        ((query_iff accepted server atc fields found).mpr above)
      rw [active.1] at pilot
      cases pilot
  · intro fitting
    have active : (s.clients id).IsActiveAtc ↔ 0 < (s.clients id).facilityType := by
      constructor
      · exact fun both => both.2
      · intro above
        by_cases isAtc : (s.clients id).isAtc = true
        · exact ⟨isAtc, above⟩
        · have low := fitting.2 (Bool.eq_false_of_not_eq_true isAtc)
          omega
    constructor
    · intro now asker packet accepted server atc fields found
      rw [query_iff accepted server atc fields found, active]
    · intro now packet packetType target handoff accepted found
      rw [handoff_iff handoff accepted found]
      constructor
      · exact fun both => ⟨both.1, by omega⟩
      · intro both
        have notLowest := fitting.1 both.1
        have above := both.2
        exact ⟨both.1, by omega⟩
    · intro now packet target accepted privileged found
      exact message_iff accepted privileged found (valid _ _ found)
    · intro now packet packetType target query accepted privileged found
      exact request_iff query accepted privileged found (valid _ _ found)
    · intro now packet target accepted found
      exact ⟨amendment_effect accepted found, fun inactive => amendment_of_inactive inactive accepted⟩

/-! ## Where facility types come from -/

/-- A packet changes a facility type by an accepted ATC position only. -/
theorem facilityType_processPacket (s : Server F) (md5 : Bytes -> List.Vector UInt8 16) (now : Time)
    (id other : SessionId) (packet : Bytes) :
    ((s.processPacket md5 now id packet).clients other).facilityType =
        (s.clients other).facilityType ∨
      other = id ∧ verifyPacket packet (s.clients id).callsign = .accepted .atcPosition ∧
        storedFacility (s.clients id) packet =
          some ((s.processPacket md5 now id packet).clients other).facilityType := by
  have written : forall client next, Altered s id packet other client next ->
      next.facilityType = client.facilityType ∨
        other = id ∧ getPacketType packet = .atcPosition ∧
          storedFacility (s.clients id) packet = some next.facilityType := by
    intro client next altered
    induction altered with
    | andThen first second firstHypothesis secondHypothesis =>
        rcases secondHypothesis with kept | stored
        · rw [kept]
          exact firstHypothesis
        · exact Or.inr stored
    | placed client facilityType typed stored => exact Or.inr ⟨rfl, typed, stored⟩
    | _ => exact Or.inl rfl
  cases verified : verifyPacket packet (s.clients id).callsign with
  | refused code message =>
      left
      unfold Server.processPacket
      rw [verified]
      rfl
  | accepted packetType =>
      rcases written _ _ (s.alters_processPacket md5 now id packet other) with
        kept | ⟨own, typed, stored⟩
      · exact Or.inl kept
      · rw [(verifyPacket_accepted verified).1, typed]
        exact Or.inr ⟨own, rfl, stored⟩

/-- An accepted ATC position stores its facility type, if the client may have
it. -/
theorem facilityType_of_accepted {now : Time} {facilityType : Int}
    (accepted : verifyPacket packet (s.clients id).callsign = .accepted .atcPosition)
    (stored : storedFacility (s.clients id) packet = some facilityType) :
    ((s.processPacket md5 now id packet).clients id).facilityType = facilityType := by
  have typed := (verifyPacket_accepted accepted).1.symm
  have parsed : ¬ (parseInt (getField packet 2) 10 32).err.isSome = true := by
    intro failed
    rw [storedFacility, if_pos failed] at stored
    cases stored
  have allowed : isAllowedFacilityType (s.clients id).networkRating
      (parseInt (getField packet 2) 10 32).value = true := by
    by_contra refused
    rw [storedFacility, if_neg parsed, if_neg refused] at stored
    cases stored
  have value : (parseInt (getField packet 2) 10 32).value = facilityType := by
    rw [storedFacility, if_neg parsed, if_pos allowed] at stored
    exact Option.some.inj stored
  have placed : forall other client next, Altered s id packet other client next ->
      client.facilityType = facilityType -> next.facilityType = facilityType := by
    intro other client next altered
    induction altered with
    | andThen first second firstHypothesis secondHypothesis =>
        exact fun before => secondHypothesis (firstHypothesis before)
    | placed client other typed again =>
        intro _
        exact Option.some.inj (again.symm.trans stored)
    | _ => exact fun before => before
  rw [Server.processPacket_of_accepted accepted, Server.runHandler, Server.handleATCPosition]
  rw [if_neg parsed, if_neg (by simp [allowed])]
  apply placed _ _ _ (Server.alters_atcPositionUpdate _ now typed stored id)
  rw [Server.modifyClient_same, value]

end Gates

/-! ## Whole runs -/

section Runs

variable {F : Type} [GoFloat F] {P : Platform} {heap : SessionId -> Client F}

/-- A step stores no facility type but a fitting one. -/
def StoresFitting (system : System F) : Action -> Prop
  | .packet _ id packet =>
      system.server.Registered id ->
      verifyPacket packet (system.server.clients id).callsign = .accepted .atcPosition ->
      forall facilityType, storedFacility (system.server.clients id) packet = some facilityType ->
        FittingFacility (system.server.clients id).isAtc facilityType
  | _ => True

/-- Every registered client has a fitting facility type. -/
def AllFitting (system : System F) : Prop :=
  forall id, system.server.Registered id ->
    FittingFacility (system.server.clients id).isAtc (system.server.clients id).facilityType

/-- A step keeps to fitting facility types exactly if it stores none but those. -/
theorem storesFitting_keeps : System.Keeps P (StoresFitting (F := F)) fun client =>
    FittingFacility client.isAtc client.facilityType where
  fresh := by
    intro env database idLine addLine client loggedIn
    rcases login_eq_ok loggedIn with ⟨_, _, _, _, admitted⟩
    rw [admitted.facilityType]
    exact ⟨fun _ => by decide, fun _ => Int.le_refl 0⟩
  cancelled := fun _ _ fitting => fitting
  elsewhere := by
    intro system action noPacket
    cases action with
    | packet now id packet => exact absurd rfl (noPacket now id packet)
    | _ => exact True.intro
  unregistered := fun _ _ _ _ absent registered => absurd registered absent
  turn := by
    intro system fitting now id packet registered
    have isAtc : forall other,
        ((system.server.processPacket P.md5 now id packet).clients other).isAtc =
          (system.server.clients other).isAtc :=
      fun other => congrArg LoginData.isAtc
        (system.server.toLoginData_processPacket P.md5 now id packet other)
    constructor
    · intro stores other registeredOther
      have before := (system.server.registered_processPacket P.md5 now id packet).mp registeredOther
      rw [isAtc]
      rcases facilityType_processPacket system.server P.md5 now id other packet with
        kept | ⟨own, accepted, stored⟩
      · rw [kept]
        exact fitting other before
      · rw [own] at stored ⊢
        exact stores registered accepted _ stored
    · intro keeps _ accepted facilityType stored
      have after := keeps id
        ((system.server.registered_processPacket P.md5 now id packet).mpr registered)
      dsimp only at after
      rw [isAtc, facilityType_of_accepted accepted stored] at after
      exact after

/-- In every state of a run all gates agree about every registered client,
exactly if no step of the run gives an ATC client facility type 1 or a pilot
a facility. -/
theorem run_gatesAgree_iff (actions : List Action) :
    (forall system, Visits (System.step P) (System.start heap) actions system ->
      forall id, system.server.Registered id -> GatesAgree P.md5 system.server id) ↔
        Along (System.step P) StoresFitting (System.start heap) actions := by
  have gates : forall system, Visits (System.step P) (System.start heap) actions system ->
      ((forall id, system.server.Registered id -> GatesAgree P.md5 system.server id) ↔
        AllFitting system) := by
    rintro system ⟨before, _, executed⟩
    have reached : Reaches (System.step P) (System.start heap) system := ⟨before, executed⟩
    have valid := fun callsign found (here : system.server.find callsign = some found) =>
      (System.callsign_of_find reached here).2
    exact forall₂_congr fun id registered => gatesAgree_iff_fitting valid registered
  rw [← storesFitting_keeps.run]
  exact forall₂_congr gates

/-! ## An FSS controller -/

/-- A sample session is an administrator who logged in as ATC. -/
theorem exists_sampleController (heap : SessionId -> Client Real) :
    Exists fun server => (System.start heap).server.connect Symbolic.platform sampleLogin
        Symbolic.database 0 sampleIdLine sampleAddLine = .ok server ∧
      (server.clients 0).callsign = bytes "LON_CTR" ∧ (server.clients 0).isAtc = true ∧
        (server.clients 0).networkRating = 12 ∧ server.Registered 0 := by
  exact exists_registered heap (by decide +kernel)

/-- The ATC position of a flight service station. -/
def stationPosition : Bytes :=
  bytes "%LON_CTR:22800:1:100:12:51.5:-0.1:0" ++ crlf

/-- A flight service station may do what an active ATC may, except hand off. -/
theorem station_gates_disagree : ¬ forall (heap : SessionId -> Client Real) (system : System Real),
    Reaches (System.step Symbolic.platform) (System.start heap) system ->
      forall id, system.server.Registered id ->
        GatesAgree Symbolic.platform.md5 system.server id := by
  intro always
  let heap : SessionId -> Client Real := fun _ => newClient [] sampleData
  rcases exists_sampleController heap with
    ⟨server, connected, callsign, isAtc, networkRating, registered⟩
  have accepted : verifyPacket stationPosition (server.clients 0).callsign =
      .accepted .atcPosition := by
    rw [callsign]
    decide +kernel
  have stored : storedFacility (server.clients 0) stationPosition = some 1 := by
    unfold storedFacility
    rw [networkRating]
    decide +kernel
  have entered : System.step Symbolic.platform (System.start heap)
      (.connect sampleLogin Symbolic.database sampleIdLine sampleAddLine) = some ⟨server, 1⟩ := by
    dsimp only [System.step]
    rw [show (System.start heap).allocated = 0 from rfl, connected]
  let station := server.processPacket Symbolic.platform.md5 0 0 stationPosition
  have positioned : System.step Symbolic.platform ⟨server, 1⟩ (.packet 0 0 stationPosition) =
      some ⟨station, 1⟩ := if_pos registered
  have reached := (Reaches.single entered).tail positioned
  have there : station.Registered 0 :=
    (server.registered_processPacket _ 0 0 stationPosition).mpr registered
  have valid := fun callsign found (here : station.find callsign = some found) =>
    (System.callsign_of_find reached here).2
  have fitting := (gatesAgree_iff_fitting valid there).mp (always heap _ reached 0 there)
  have controller : (station.clients 0).isAtc = true := by
    rw [← isAtc]
    exact congrArg LoginData.isAtc
      (server.toLoginData_processPacket _ 0 0 stationPosition 0)
  exact fitting.1 controller (facilityType_of_accepted accepted stored)

end Runs
end Fsd
end OpenFsd
