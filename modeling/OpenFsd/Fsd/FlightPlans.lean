import OpenFsd.Fsd.Gates
import OpenFsd.Fsd.Deliveries

namespace OpenFsd
namespace Fsd

open Db Transition

/-!
# Flight plans

A plan is filed by its pilot or amended by an active controller.  Either way
the server cuts it out of the packet, keeps it with the session, and builds a
new packet around it for every controller who asks.  The two packets have a
different number of fields in front of the plan, and their minimum field
counts differ by the same one, so what is stored always makes a packet that
the server itself would accept.

For one session the stored plan is a register.  `Server.filing` says what a
packet writes to it, in terms of the bytes that were received.
-/

/-! ## What a packet says about a plan -/

/-- Everything after the given number of colons. -/
def afterColons : Nat -> Bytes -> Bytes
  | 0, packet => packet
  | count + 1, packet => afterColons count ((packet.dropWhile fun b => b != colon).drop 1)

/-- Everything after the given number of colons, without the final delimiter. -/
def planAfter (count : Nat) (packet : Bytes) : Bytes :=
  (cutSuffix (afterColons count packet) crlf).1

example : planAfter 2 (bytes "$FPAAL1:SERVER:I:B738:420\r\n") = bytes "I:B738:420" := by decide

theorem afterColons_append {first : Bytes} (absent : colon ∉ first) (rest : Bytes) (count : Nat) :
    afterColons (count + 1) (first ++ colon :: rest) = afterColons count rest := by
  have kept : forall b, b ∈ first -> (b != colon) = true := by
    intro b member
    exact bne_iff_ne.mpr fun same => absent (same ▸ member)
  have stopped : (colon :: rest).dropWhile (fun b => b != colon) = colon :: rest :=
    List.dropWhile_cons_of_neg (by decide)
  rw [afterColons, List.dropWhile_append_of_pos kept, stopped, List.drop_one, List.tail_cons]

/-- The loop of the source skips fields, as long as there are enough of them. -/
theorem rebaseFields_eq_afterColons {count : Nat} {packet : Bytes}
    (enough : count < countFields packet) : rebaseFields count packet = afterColons count packet := by
  induction count generalizing packet with
  | zero => rfl
  | succ count inductionHypothesis =>
      have several : 2 ≤ countFields packet := by omega
      rcases List.eq_append_cons_of_mem (colon_mem_of_countFields several) with
        ⟨first, rest, rfl, absent⟩
      have left : count < countFields rest := by
        rw [countFields_append absent] at enough
        omega
      rw [rebaseFields_succ_append absent, afterColons_append absent, inductionHypothesis left]

theorem countByte_rebaseFields {count : Nat} {packet : Bytes} (enough : count < countFields packet) :
    countByte (rebaseFields count packet) colon + count = countByte packet colon := by
  induction count generalizing packet with
  | zero => rfl
  | succ count inductionHypothesis =>
      have several : 2 ≤ countFields packet := by omega
      rcases List.eq_append_cons_of_mem (colon_mem_of_countFields several) with
        ⟨first, rest, rfl, absent⟩
      have counted := countFields_append absent rest
      have left : count < countFields rest := by omega
      have further := inductionHypothesis left
      rw [rebaseFields_succ_append absent]
      unfold countFields at counted
      omega

theorem countByte_append (first second : Bytes) (wanted : UInt8) :
    countByte (first ++ second) wanted = countByte first wanted + countByte second wanted :=
  List.count_append

/-- The delimiter has no colon. -/
theorem countByte_cutSuffix (text : Bytes) :
    countByte (cutSuffix text crlf).1 colon = countByte text colon := by
  by_cases ends : crlf <:+ text
  · rcases ends with ⟨line, rfl⟩
    rw [cutSuffix_append, countByte_append]
    rfl
  · have kept : ¬ crlf.isSuffixOf text = true := fun found =>
      ends (List.isSuffixOf_iff_suffix.mp found)
    unfold cutSuffix
    rw [if_neg kept]

/-! ## The packets that are built around a plan -/

/-- A packet with this start is accepted from the client of the callsign, if
it has the fields. -/
theorem verifyPacket_of_start {packetType : PacketType} {callsign rest : Bytes}
    (typed : getPacketType (getPacketPrefix packetType ++ callsign ++ colon :: rest) = packetType)
    (known : packetType ≠ .unknown) (index : sourceCallsignFieldIndex packetType = 0)
    (plain : PlainField (getPacketPrefix packetType ++ callsign))
    (long : 8 ≤ countByte rest colon) (enough : minFields packetType ≤ countByte rest colon + 2) :
    verifyPacket (getPacketPrefix packetType ++ callsign ++ colon :: rest) callsign =
      .accepted packetType := by
  have count : countFields (getPacketPrefix packetType ++ callsign ++ colon :: rest) =
      countByte rest colon + 2 := by
    rw [countFields_append plain.1]
    rfl
  have length : countByte rest colon ≤
      (getPacketPrefix packetType ++ callsign ++ colon :: rest).length := by
    have counted : countByte rest colon ≤ rest.length := List.count_le_length
    rw [List.length_append, List.length_cons]
    omega
  have source : getSourceCallsign (getPacketPrefix packetType ++ callsign ++ colon :: rest)
      packetType = callsign := by
    unfold getSourceCallsign
    rw [index, getField_zero_append plain.1, cutSuffix_of_not_mem plain.2, cutPrefix_append]
  have present : ¬ ((getPacketPrefix packetType ++ callsign ++ colon :: rest).length < 8 ∨
      countFields (getPacketPrefix packetType ++ callsign ++ colon :: rest) < 3) := by
    omega
  have fields : ¬ (countFields (getPacketPrefix packetType ++ callsign ++ colon :: rest) : Int) <
      minFields packetType := by
    omega
  unfold verifyPacket
  dsimp only
  rw [if_neg present, typed, if_neg known, verifySourceCallsign, source, decide_eq_true rfl,
    if_neg fields]
  rfl

variable {source recipient target fplInfo : Bytes}

theorem buildFileFlightplanPacket_eq (source recipient fplInfo : Bytes) :
    buildFileFlightplanPacket source recipient fplInfo =
      bytes "$FP" ++ source ++ colon :: (recipient ++ colon :: (fplInfo ++ crlf)) := by
  simp [buildFileFlightplanPacket, buildFlightplanPacket]

theorem buildAmendFlightplanPacket_eq (source recipient target fplInfo : Bytes) :
    buildAmendFlightplanPacket source recipient target fplInfo =
      bytes "$AM" ++ source ++
        colon :: (recipient ++ colon :: (target ++ colon :: (fplInfo ++ crlf))) := by
  simp [buildAmendFlightplanPacket, buildFlightplanPacket]

theorem getPacketType_buildFileFlightplanPacket (source recipient fplInfo : Bytes) :
    getPacketType (buildFileFlightplanPacket source recipient fplInfo) = .flightPlan :=
  (getPacketType_dollar _ _ _).trans (by decide)

theorem getPacketType_buildAmendFlightplanPacket (source recipient target fplInfo : Bytes) :
    getPacketType (buildAmendFlightplanPacket source recipient target fplInfo) =
      .flightPlanAmendment :=
  (getPacketType_dollar _ _ _).trans (by decide)

theorem extract_buildFileFlightplanPacket (named : colon ∉ source) (addressed : colon ∉ recipient)
    (fplInfo : Bytes) :
    extractFlightplanInfoSection (buildFileFlightplanPacket source recipient fplInfo) = fplInfo := by
  have start : colon ∉ bytes "$FP" ++ source := List.not_mem_append (by decide) named
  unfold extractFlightplanInfoSection
  rw [getPacketType_buildFileFlightplanPacket, buildFileFlightplanPacket_eq]
  dsimp only
  rw [rebaseFields_succ_append start, rebaseFields_succ_append addressed]
  exact cutSuffix_append fplInfo

theorem extract_buildAmendFlightplanPacket (named : colon ∉ source) (addressed : colon ∉ recipient)
    (targeted : colon ∉ target) (fplInfo : Bytes) :
    extractFlightplanInfoSection (buildAmendFlightplanPacket source recipient target fplInfo) =
      fplInfo := by
  have start : colon ∉ bytes "$AM" ++ source := List.not_mem_append (by decide) named
  unfold extractFlightplanInfoSection
  rw [getPacketType_buildAmendFlightplanPacket, buildAmendFlightplanPacket_eq]
  dsimp only
  rw [rebaseFields_succ_append start, rebaseFields_succ_append addressed,
    rebaseFields_succ_append targeted]
  exact cutSuffix_append fplInfo

/-- A plan with enough fields makes a packet that its source may send. -/
theorem verifyPacket_buildFileFlightplanPacket (named : PlainField source) (recipient : Bytes)
    (enough : 14 ≤ countByte fplInfo colon) :
    verifyPacket (buildFileFlightplanPacket source recipient fplInfo) source =
      .accepted .flightPlan := by
  have typed := getPacketType_buildFileFlightplanPacket source recipient fplInfo
  have counted : 15 ≤ countByte (recipient ++ colon :: (fplInfo ++ crlf)) colon := by
    rw [countByte_append, countByte, countByte, List.count_cons_self, List.count_append]
    unfold countByte at enough
    omega
  rw [buildFileFlightplanPacket_eq] at typed ⊢
  have least : minFields .flightPlan = 17 := rfl
  have plain : PlainField (getPacketPrefix .flightPlan ++ source) :=
    PlainField.append (by decide) named
  exact verifyPacket_of_start typed (by decide) rfl plain (by omega) (by omega)

theorem verifyPacket_buildAmendFlightplanPacket (named : PlainField source) (recipient target : Bytes)
    (enough : 14 ≤ countByte fplInfo colon) :
    verifyPacket (buildAmendFlightplanPacket source recipient target fplInfo) source =
      .accepted .flightPlanAmendment := by
  have typed := getPacketType_buildAmendFlightplanPacket source recipient target fplInfo
  have counted :
      16 ≤ countByte (recipient ++ colon :: (target ++ colon :: (fplInfo ++ crlf))) colon := by
    rw [countByte_append, countByte, countByte, List.count_cons_self, List.count_append,
      List.count_cons_self, List.count_append]
    unfold countByte at enough
    omega
  rw [buildAmendFlightplanPacket_eq] at typed ⊢
  have least : minFields .flightPlanAmendment = 18 := rfl
  have plain : PlainField (getPacketPrefix .flightPlanAmendment ++ source) :=
    PlainField.append (by decide) named
  exact verifyPacket_of_start typed (by decide) rfl plain (by omega) (by omega)

/-! ## What a packet writes -/

/-- A plan is what follows the fields before it, and it has the fields that
the packet is required to have beyond those. -/
theorem extract_of_filing {packet callsign : Bytes} {packetType : PacketType} {before : Nat}
    (accepted : verifyPacket packet callsign = .accepted packetType)
    (least : minFields packetType = before + 15)
    (skipped : extractFlightplanInfoSection packet = (cutSuffix (rebaseFields before packet) crlf).1) :
    extractFlightplanInfoSection packet = planAfter before packet ∧
      14 ≤ countByte (planAfter before packet) colon := by
  rcases verifyPacket_accepted accepted with ⟨_, _, _, fields⟩
  have enough : before < countFields packet := by omega
  have counted := countByte_rebaseFields enough
  have same : extractFlightplanInfoSection packet = planAfter before packet := by
    unfold planAfter
    rw [skipped, ← rebaseFields_eq_afterColons enough]
  refine ⟨same, ?_⟩
  unfold planAfter
  rw [← rebaseFields_eq_afterColons enough, countByte_cutSuffix]
  unfold countFields at fields
  omega

theorem extract_of_flightPlan {packet callsign : Bytes}
    (accepted : verifyPacket packet callsign = .accepted .flightPlan) :
    extractFlightplanInfoSection packet = planAfter 2 packet ∧
      14 ≤ countByte (planAfter 2 packet) colon := by
  apply extract_of_filing accepted rfl
  unfold extractFlightplanInfoSection
  rw [← (verifyPacket_accepted accepted).1]

theorem extract_of_flightPlanAmendment {packet callsign : Bytes}
    (accepted : verifyPacket packet callsign = .accepted .flightPlanAmendment) :
    extractFlightplanInfoSection packet = planAfter 3 packet ∧
      14 ≤ countByte (planAfter 3 packet) colon := by
  apply extract_of_filing accepted rfl
  unfold extractFlightplanInfoSection
  rw [← (verifyPacket_accepted accepted).1]

variable {F : Type}

instance (client : Client F) : Decidable client.IsActiveAtc :=
  inferInstanceAs (Decidable (_ ∧ _))

/-- Only the two kinds of filing change a stored plan. -/
theorem flightPlan_of_altered [GoFloat F] {s : Server F} {id other : SessionId} {packet : Bytes}
    {client next : Client F} (altered : Altered s id packet other client next)
    (notFiled : getPacketType packet ≠ .flightPlan)
    (notAmended : getPacketType packet ≠ .flightPlanAmendment) :
    next.flightPlan = client.flightPlan := by
  induction altered with
  | andThen first second firstHypothesis secondHypothesis =>
      exact secondHypothesis.trans firstHypothesis
  | filed client typed => exact absurd typed notFiled
  | amended target client typed => exact absurd typed notAmended
  | _ => rfl

namespace Server

/-- The plan that a packet of the client files for the target: an accepted
`$FP` for its own session, an accepted `$AM` of an active controller for the
session that it names. -/
def filing (s : Server F) (id : SessionId) (packet : Bytes) (target : SessionId) : Option Bytes :=
  match verifyPacket packet (s.clients id).callsign with
  | .accepted .flightPlan => if target = id then some (planAfter 2 packet) else none
  | .accepted .flightPlanAmendment =>
      if (s.clients id).IsActiveAtc ∧ s.find (getField packet 2) = some target then
        some (planAfter 3 packet)
      else none
  | _ => none

theorem filing_of_flightPlan {s : Server F} {id : SessionId} {packet : Bytes}
    (accepted : verifyPacket packet (s.clients id).callsign = .accepted .flightPlan)
    (target : SessionId) :
    s.filing id packet target = if target = id then some (planAfter 2 packet) else none := by
  unfold filing
  rw [accepted]

theorem filing_of_flightPlanAmendment {s : Server F} {id : SessionId} {packet : Bytes}
    (accepted : verifyPacket packet (s.clients id).callsign = .accepted .flightPlanAmendment)
    (target : SessionId) :
    s.filing id packet target =
      if (s.clients id).IsActiveAtc ∧ s.find (getField packet 2) = some target then
        some (planAfter 3 packet)
      else none := by
  unfold filing
  rw [accepted]

/-- A filed plan has the fields of a plan. -/
theorem countByte_of_filing {s : Server F} {id target : SessionId} {packet info : Bytes}
    (files : s.filing id packet target = some info) : 14 ≤ countByte info colon := by
  unfold filing at files
  split at files
  · next accepted =>
      rcases Option.ite_none_right_eq_some.mp files with ⟨_, same⟩
      rw [← Option.some.inj same]
      exact (extract_of_flightPlan accepted).2
  · next accepted =>
      rcases Option.ite_none_right_eq_some.mp files with ⟨_, same⟩
      rw [← Option.some.inj same]
      exact (extract_of_flightPlanAmendment accepted).2
  · cases files

theorem active_iff (client : Client F) :
    (!client.isAtc || decide (client.facilityType ≤ 0)) = true ↔ ¬ client.IsActiveAtc := by
  unfold Client.IsActiveAtc
  rw [Bool.or_eq_true, Bool.not_eq_true', decide_eq_true_eq, not_and_or, Bool.not_eq_true, not_lt]

theorem flightPlan_modifyClient (s : Server F) (named target : SessionId) (info : Bytes) :
    ((s.modifyClient named fun client => { client with flightPlan := info }).clients
      target).flightPlan = if named = target then info else (s.clients target).flightPlan := by
  by_cases own : named = target
  · rw [if_pos own, own, modifyClient_same]
  · rw [if_neg own, modifyClient_other _ _ (Ne.symm own)]

theorem handleAmendFlightplan_of_inactive {s : Server F} {id : SessionId} (packet : Bytes)
    (inactive : ¬ (s.clients id).IsActiveAtc) : s.handleAmendFlightplan id packet = s :=
  if_pos ((active_iff _).mpr inactive)

theorem handleAmendFlightplan_of_absent {s : Server F} {id : SessionId} {packet : Bytes}
    (active : (s.clients id).IsActiveAtc) (absent : s.find (getField packet 2) = none) :
    s.handleAmendFlightplan id packet = s.sendError id NoSuchCallsignError
      (bytes "No such callsign: " ++ getField packet 2) := by
  unfold handleAmendFlightplan
  rw [if_neg fun inactive => (active_iff _).mp inactive active]
  dsimp only
  rw [absent]

theorem handleAmendFlightplan_of_found {s : Server F} {id target : SessionId} {packet : Bytes}
    (active : (s.clients id).IsActiveAtc) (found : s.find (getField packet 2) = some target) :
    s.handleAmendFlightplan id packet =
      (s.modifyClient target fun client =>
        { client with flightPlan := extractFlightplanInfoSection packet }).broadcastAllATC id
          (buildAmendFlightplanPacket (s.clients id).callsign (bytes "*A") (getField packet 2)
            (extractFlightplanInfoSection packet)) := by
  unfold handleAmendFlightplan
  rw [if_neg fun inactive => (active_iff _).mp inactive active]
  dsimp only
  rw [found]

theorem flightPlan_handleFileFlightplan {s : Server F} {id : SessionId} {packet : Bytes}
    (accepted : verifyPacket packet (s.clients id).callsign = .accepted .flightPlan)
    (target : SessionId) :
    ((s.handleFileFlightplan id packet).clients target).flightPlan =
      (s.filing id packet target).getD (s.clients target).flightPlan := by
  have written : (s.handleFileFlightplan id packet).clients = (s.modifyClient id fun client =>
      { client with flightPlan := extractFlightplanInfoSection packet }).clients := rfl
  rw [written, flightPlan_modifyClient, filing_of_flightPlan accepted,
    (extract_of_flightPlan accepted).1]
  by_cases own : target = id
  · rw [if_pos own, if_pos own.symm]
    rfl
  · rw [if_neg own, if_neg (Ne.symm own)]
    rfl

theorem flightPlan_handleAmendFlightplan {s : Server F} {id : SessionId} {packet : Bytes}
    (accepted : verifyPacket packet (s.clients id).callsign = .accepted .flightPlanAmendment)
    (target : SessionId) :
    ((s.handleAmendFlightplan id packet).clients target).flightPlan =
      (s.filing id packet target).getD (s.clients target).flightPlan := by
  rw [filing_of_flightPlanAmendment accepted]
  by_cases active : (s.clients id).IsActiveAtc
  · cases found : s.find (getField packet 2) with
    | none =>
        rw [handleAmendFlightplan_of_absent active found, if_neg fun both => nomatch both.2]
        rfl
    | some named =>
        have written : (s.handleAmendFlightplan id packet).clients =
            (s.modifyClient named fun client =>
              { client with flightPlan := extractFlightplanInfoSection packet }).clients := by
          rw [handleAmendFlightplan_of_found active found]
          rfl
        rw [written, flightPlan_modifyClient, (extract_of_flightPlanAmendment accepted).1]
        by_cases own : named = target
        · rw [if_pos own, if_pos ⟨active, congrArg some own⟩]
          rfl
        · rw [if_neg own, if_neg fun both => own (Option.some.inj both.2)]
          rfl
  · rw [handleAmendFlightplan_of_inactive packet active, if_neg fun both => active both.1]
    rfl

/-- What an amendment makes the server send to other clients. -/
theorem sends_handleAmendFlightplan {s : Server F} {id target : SessionId} {packet : Bytes}
    (active : (s.clients id).IsActiveAtc) (found : s.find (getField packet 2) = some target) :
    Exists fun recipients : List SessionId => (s.handleAmendFlightplan id packet).events =
      s.events ++ recipients.map fun recipient => .send recipient
        (buildAmendFlightplanPacket (s.clients id).callsign (bytes "*A") (getField packet 2)
          (extractFlightplanInfoSection packet)) := by
  rw [handleAmendFlightplan_of_found active found, broadcastAllATC, broadcastAllWhere_eq]
  exact ⟨_, rfl⟩

variable [GoFloat F]

/-- The stored plan of a session is what the packet files for it, or else what
it was. -/
theorem flightPlan_processPacket (s : Server F) (md5 : Bytes -> List.Vector UInt8 16) (now : Time)
    (id : SessionId) (packet : Bytes) (target : SessionId) :
    ((s.processPacket md5 now id packet).clients target).flightPlan =
      (s.filing id packet target).getD (s.clients target).flightPlan := by
  cases verified : verifyPacket packet (s.clients id).callsign with
  | refused code message =>
      unfold processPacket filing
      rw [verified]
      rfl
  | accepted packetType =>
      have typed := (verifyPacket_accepted verified).1
      have altered := s.alters_processPacket md5 now id packet target
      by_cases filed : packetType = .flightPlan
      · subst filed
        rw [processPacket_of_accepted verified]
        exact flightPlan_handleFileFlightplan verified target
      · by_cases amended : packetType = .flightPlanAmendment
        · subst amended
          rw [processPacket_of_accepted verified]
          exact flightPlan_handleAmendFlightplan verified target
        · have nothing : s.filing id packet target = none := by
            unfold filing
            rw [verified]
            split
            · next same => exact absurd (Verified.accepted.inj same) filed
            · next same => exact absurd (Verified.accepted.inj same) amended
            · rfl
          rw [nothing]
          rw [typed] at filed amended
          exact flightPlan_of_altered altered filed amended

/-! ## What a query is answered -/

/-- An accepted query of an ATC client for a flight plan. -/
structure AsksForPlan (s : Server F) (id : SessionId) (query callsign : Bytes) : Prop where
  atc : (s.clients id).isAtc = true
  accepted : verifyPacket query (s.clients id).callsign = .accepted .clientQuery
  recipient : getField query 1 = bytes "SERVER"
  queryType : getField query 2 = bytes "FP"
  fields : countFields query = 4
  about : getField query 3 = callsign

theorem processPacket_of_query {s : Server F} {id target : SessionId} {query callsign : Bytes}
    (asks : s.AsksForPlan id query callsign) (found : s.find callsign = some target)
    (md5 : Bytes -> List.Vector UInt8 16) (now : Time) :
    s.processPacket md5 now id query =
      if (s.clients target).flightPlan = [] then s
      else
        (s.sendTo id (buildFileFlightplanPacket callsign (bytes "*A")
          (s.clients target).flightPlan)).sendTo id (buildBeaconCodePacket (bytes "server")
            (s.clients id).callsign callsign
              (if (s.clients target).assignedBeaconCode = [] then bytes "0"
              else (s.clients target).assignedBeaconCode)) := by
  have dispatched : s.runHandler md5 now .clientQuery id query = s.handleClientQuery id query := rfl
  have client : ¬ (!(s.clients id).isAtc) = true := by simp [asks.atc]
  have fields : ¬ countFields query ≠ 4 := fun different => different asks.fields
  have notAtc : ¬ getField query 2 = bytes "ATC" := by
    rw [asks.queryType]
    decide
  have notIp : ¬ getField query 2 = bytes "IP" := by
    rw [asks.queryType]
    decide
  rw [processPacket_of_accepted asks.accepted, dispatched]
  unfold handleClientQuery handleServerQuery handleClientQueryFlightplanRequest
  dsimp only
  rw [if_pos asks.recipient, if_neg notAtc, if_neg notIp, if_pos asks.queryType, if_neg client,
    if_neg fields, asks.about, found]

end Server

namespace System

variable [GoFloat F] {P : Platform}

/-- The plan that an action files for the target. -/
def filing (system : System F) (action : Action) (target : SessionId) : Option Bytes :=
  match action with
  | .packet _ id packet => system.server.filing id packet target
  | _ => none

/-- The stored plan of a session, which has none before it is allocated. -/
def storedPlan (target : SessionId) (system : System F) : Bytes :=
  if target < system.allocated then (system.server.clients target).flightPlan else []

omit [GoFloat F] in
theorem allocated_of_filing {system : System F} (wellFormed : WellFormed P system)
    {id target : SessionId} (registered : system.server.Registered id) {packet info : Bytes}
    (files : system.server.filing id packet target = some info) : target < system.allocated := by
  unfold Server.filing at files
  split at files
  · rcases Option.ite_none_right_eq_some.mp files with ⟨own, _⟩
    rw [own]
    exact wellFormed.allocated_of_registered registered
  · rcases Option.ite_none_right_eq_some.mp files with ⟨both, _⟩
    exact (wellFormed.mapped _ target both.2).2
  · cases files

/-- A stored plan is what the step files, or else what it was. -/
theorem storedPlan_step {system next : System F} {action : Action} (wellFormed : WellFormed P system)
    (taken : System.step P system action = some next) (target : SessionId) :
    storedPlan target next =
      (filing system action target).getD (storedPlan target system) := by
  cases recorded_of_step taken with
  | refused => rfl
  | connected env database idLine addLine client server loggedIn registered =>
      rcases login_fresh loggedIn with ⟨_, _, _, _, _, fresh⟩
      unfold storedPlan
      dsimp only
      by_cases own : target = system.allocated
      · have plan : client.flightPlan = [] := by
          rw [fresh]
          rfl
        rw [registered.clients, own, Function.update_self, plan, if_neg (lt_irrefl _)]
        exact ite_self _
      · have below : target < system.allocated + 1 ↔ target < system.allocated :=
          ⟨fun below => Nat.lt_of_le_of_ne (Nat.le_of_lt_succ below) own, Nat.lt_succ_of_lt⟩
        rw [registered.clients, Function.update_of_ne own]
        simp only [below]
        rfl
  | processed now id packet registered =>
      unfold storedPlan filing
      dsimp only
      by_cases below : target < system.allocated
      · rw [if_pos below, if_pos below]
        exact system.server.flightPlan_processPacket P.md5 now id packet target
      · cases files : system.server.filing id packet target with
        | none =>
            rw [if_neg below, if_neg below]
            rfl
        | some info => exact absurd (allocated_of_filing wellFormed registered files) below
  | undisturbed action server other undisturbed =>
      have nothing : filing system action target = none := by
        cases action with
        | packet now id packet => exact absurd rfl (other now id packet)
        | _ => rfl
      rcases undisturbed.clients target with ⟨_, record⟩
      rw [nothing]
      unfold storedPlan
      dsimp only
      rw [record]
      rfl
  | released id => rfl

/-- The stored plan is the one that was filed last. -/
theorem flightPlan_eq_lastWrite {heap : SessionId -> Client F} {actions : List Action}
    {system : System F} (executed : run (System.step P) (start heap) actions = some system)
    {target : SessionId} (below : target < system.allocated) :
    (system.server.clients target).flightPlan =
      (lastWrite (System.step P) (fun state action => filing state action target) (start heap)
        actions).getD [] := by
  have preserved : forall (state : System F) (action : Action) (next : System F),
      System.step P state action = some next -> WellFormed P state -> WellFormed P next :=
    fun _ _ _ taken wellFormed => wellFormed.step taken
  have stored : forall (state : System F) (action : Action) (next : System F),
      System.step P state action = some next -> WellFormed P state ->
        storedPlan target next = (filing state action target).getD (storedPlan target state) :=
    fun _ _ _ taken wellFormed => storedPlan_step wellFormed taken target
  have read := read_eq_lastWrite preserved stored (wellFormed_start heap) executed
  have initial : storedPlan target (start heap) = [] := if_neg (Nat.not_lt_zero _)
  rw [initial] at read
  rw [← read]
  exact (if_pos below).symm

/-- The latest plan that was filed for the session in the run. -/
def LatestPlan (P : Platform) (heap : SessionId -> Client F) (actions : List Action)
    (target : SessionId) (info : Bytes) : Prop :=
  Latest (System.step P) (fun state action => filing state action target) (start heap) actions info

theorem countByte_of_latestPlan {heap : SessionId -> Client F} {actions : List Action}
    {target : SessionId} {info : Bytes} (latest : LatestPlan P heap actions target info) :
    14 ≤ countByte info colon := by
  rcases latest with ⟨_, action, _, middle, _, _, _, files, _⟩
  cases action with
  | packet now id packet => exact Server.countByte_of_filing files
  | _ => cases files

/-- A stored plan is the latest one, and there is none if none was filed. -/
theorem flightPlan_of_run {heap : SessionId -> Client F} {actions : List Action}
    {system : System F} (executed : run (System.step P) (start heap) actions = some system)
    {target : SessionId} (below : target < system.allocated) :
    (forall info, LatestPlan P heap actions target info ->
        (system.server.clients target).flightPlan = info) ∧
      ((system.server.clients target).flightPlan ≠ [] ↔ Exists (LatestPlan P heap actions target)) := by
  have stored := flightPlan_eq_lastWrite executed below
  have latest : forall info, LatestPlan P heap actions target info ->
      (system.server.clients target).flightPlan = info := by
    intro info latest
    rw [stored, (lastWrite_eq_some_iff executed).mpr latest]
    rfl
  refine ⟨latest, ?_, ?_⟩
  · intro present
    cases written : lastWrite (System.step P) (fun state action => filing state action target)
        (start heap) actions with
    | none =>
        rw [written] at stored
        exact absurd stored present
    | some info => exact ⟨info, (lastWrite_eq_some_iff executed).mp written⟩
  · rintro ⟨info, last⟩ empty
    have fields := countByte_of_latestPlan last
    rw [← latest info last, empty] at fields
    exact absurd fields (by decide)

/-- The packet that replays a plan. -/
def planReply (callsign info : Bytes) : Bytes :=
  bytes "$FP" ++ callsign ++ bytes ":*A:" ++ info ++ crlf

/-- The packet that announces an amendment. -/
def amendmentNotice (source callsign info : Bytes) : Bytes :=
  bytes "$AM" ++ source ++ bytes ":*A:" ++ callsign ++ [colon] ++ info ++ crlf

theorem buildFileFlightplanPacket_all (callsign info : Bytes) :
    buildFileFlightplanPacket callsign (bytes "*A") info = planReply callsign info := by
  have star : bytes ":*A:" = [colon] ++ bytes "*A" ++ [colon] := by decide
  simp [buildFileFlightplanPacket, buildFlightplanPacket, planReply, star]

theorem buildAmendFlightplanPacket_all (source callsign info : Bytes) :
    buildAmendFlightplanPacket source (bytes "*A") callsign info =
      amendmentNotice source callsign info := by
  have star : bytes ":*A:" = [colon] ++ bytes "*A" ++ [colon] := by decide
  simp [buildAmendFlightplanPacket, buildFlightplanPacket, amendmentNotice, star]

/-- What a query for the plan of a session appends to the events. -/
theorem replies_of_query {heap : SessionId -> Client F} {actions : List Action} {system : System F}
    (executed : run (System.step P) (start heap) actions = some system) {callsign : Bytes}
    {id target : SessionId} (found : system.server.find callsign = some target) {query : Bytes}
    (registered : system.server.Registered id)
    (asks : system.server.AsksForPlan id query callsign) (now : Time) :
    Exists fun next => Exists fun replies =>
      System.step P system (.packet now id query) = some next ∧
        next.server.events = system.server.events ++ replies ∧
        ((¬ Exists (LatestPlan P heap actions target)) -> replies = []) ∧
        forall info, LatestPlan P heap actions target info ->
          Exists fun beaconCode => replies = [.send id (planReply callsign info),
            .send id (buildBeaconCodePacket (bytes "server") (system.server.clients id).callsign
              callsign beaconCode)] := by
  have below := ((wellFormed_of_reaches ⟨actions, executed⟩).mapped callsign target found).2
  rcases flightPlan_of_run executed below with ⟨latest, some_iff⟩
  have answered := Server.processPacket_of_query asks found P.md5 now
  generalize (if (system.server.clients target).assignedBeaconCode = [] then bytes "0"
    else (system.server.clients target).assignedBeaconCode) = beaconCode at answered
  by_cases empty : (system.server.clients target).flightPlan = []
  · rw [if_pos empty] at answered
    refine ⟨_, [], if_pos registered, ?_, fun _ => rfl, ?_⟩
    · dsimp only
      rw [answered, List.append_nil]
    · intro info last
      exact absurd empty (some_iff.mpr ⟨info, last⟩)
  · rw [if_neg empty] at answered
    refine ⟨_, [.send id (planReply callsign (system.server.clients target).flightPlan),
      .send id (buildBeaconCodePacket (bytes "server") (system.server.clients id).callsign callsign
        beaconCode)], if_pos registered, ?_, ?_, ?_⟩
    · dsimp only
      rw [answered, buildFileFlightplanPacket_all]
      exact List.append_assoc _ _ _
    · intro absent
      exact absurd (some_iff.mp empty) absent
    · intro info last
      exact ⟨beaconCode, by rw [latest info last]⟩

theorem getPacketType_buildBeaconCodePacket (source recipient target beaconCode : Bytes) :
    getPacketType (buildBeaconCodePacket source recipient target beaconCode) = .proController :=
  (getPacketType_hash _ _ _).trans (by decide)

/-- For a callsign with a live session, an ATC client that asks for its flight
plan is sent one exactly if one was filed or amended during that session, and
then it is the latest one, byte for byte, in a packet that the server would
accept from that callsign.  So is the packet that announces an amendment. -/
theorem flightPlan_replay {heap : SessionId -> Client F} {actions : List Action}
    {system : System F} (executed : run (System.step P) (start heap) actions = some system)
    {callsign : Bytes} {target : SessionId} (found : system.server.find callsign = some target) :
    (forall now id query, system.server.Registered id ->
      system.server.AsksForPlan id query callsign ->
        Exists fun next => Exists fun replies =>
          System.step P system (.packet now id query) = some next ∧
          next.server.events = system.server.events ++ replies ∧
          ((Exists fun reply => Event.send id reply ∈ replies ∧
              getPacketType reply = .flightPlan) ↔
            Exists fun info => LatestPlan P heap actions target info) ∧
          forall info, LatestPlan P heap actions target info ->
            ((sentTo id replies).filter fun reply => getPacketType reply = .flightPlan) =
                [planReply callsign info] ∧
              verifyPacket (planReply callsign info) callsign = .accepted .flightPlan ∧
              extractFlightplanInfoSection (planReply callsign info) = info) ∧
    forall now id packet, system.server.Registered id ->
      verifyPacket packet (system.server.clients id).callsign = .accepted .flightPlanAmendment ->
        (system.server.clients id).IsActiveAtc -> getField packet 2 = callsign ->
          Exists fun next => Exists fun recipients : List SessionId =>
            System.step P system (.packet now id packet) = some next ∧
            next.server.events = system.server.events ++ recipients.map (fun recipient =>
              .send recipient (amendmentNotice (system.server.clients id).callsign callsign
                (planAfter 3 packet))) ∧
            verifyPacket (amendmentNotice (system.server.clients id).callsign callsign
                (planAfter 3 packet)) (system.server.clients id).callsign =
              .accepted .flightPlanAmendment ∧
            extractFlightplanInfoSection (amendmentNotice (system.server.clients id).callsign
              callsign (planAfter 3 packet)) = planAfter 3 packet := by
  have reached : Reaches (System.step P) (start heap) system := ⟨actions, executed⟩
  have plain : PlainField callsign := (callsign_of_find reached found).2.plain
  constructor
  · intro now id query registered asks
    rcases replies_of_query executed found registered asks now with
      ⟨next, replies, taken, grown, silent, answered⟩
    have replied : forall info, LatestPlan P heap actions target info ->
        getPacketType (planReply callsign info) = .flightPlan := by
      intro info _
      rw [← buildFileFlightplanPacket_all]
      exact getPacketType_buildFileFlightplanPacket callsign (bytes "*A") info
    refine ⟨next, replies, taken, grown, ?_, ?_⟩
    · constructor
      · rintro ⟨reply, member, _⟩
        by_contra absent
        rw [silent absent] at member
        cases member
      · rintro ⟨info, last⟩
        rcases answered info last with ⟨beaconCode, same⟩
        exact ⟨planReply callsign info, by rw [same]; exact List.mem_cons_self, replied info last⟩
    · intro info last
      have fields := countByte_of_latestPlan last
      rcases answered info last with ⟨beaconCode, same⟩
      refine ⟨?_, ?_, ?_⟩
      · have heard : sentTo id replies = [planReply callsign info,
            buildBeaconCodePacket (bytes "server") (system.server.clients id).callsign callsign
              beaconCode] := by
          rw [same]
          simp [sentTo]
        rw [heard, List.filter_cons_of_pos (by simp [replied info last]),
          List.filter_cons_of_neg (by simp [getPacketType_buildBeaconCodePacket]), List.filter_nil]
      · rw [← buildFileFlightplanPacket_all]
        exact verifyPacket_buildFileFlightplanPacket plain (bytes "*A") fields
      · rw [← buildFileFlightplanPacket_all]
        exact extract_buildFileFlightplanPacket plain.1 (by decide) info
  · intro now id packet registered accepted active about
    have below := (wellFormed_of_reaches reached).allocated_of_registered registered
    have named : PlainField (system.server.clients id).callsign := (named_of_reaches reached id below).plain
    rcases extract_of_flightPlanAmendment accepted with ⟨extracted, fields⟩
    rw [← about] at found
    rcases Server.sends_handleAmendFlightplan active found with ⟨recipients, grown⟩
    rw [extracted, about, buildAmendFlightplanPacket_all] at grown
    refine ⟨_, recipients, if_pos registered, ?_, ?_, ?_⟩
    · dsimp only
      rw [Server.processPacket_of_accepted accepted]
      exact grown
    · rw [← buildAmendFlightplanPacket_all]
      exact verifyPacket_buildAmendFlightplanPacket named (bytes "*A") callsign fields
    · rw [← buildAmendFlightplanPacket_all]
      exact extract_buildAmendFlightplanPacket named.1 (by decide) plain.1 _

/-- A flight plan with all of its fields, and a query for it. -/
def samplePlan : Bytes :=
  bytes "$FPLON_CTR:SERVER:I:B738:420:EGLL:1200:0:350:KJFK:7:0:8:0:KBOS:/v/:DCT" ++ crlf

def samplePlanQuery : Bytes :=
  bytes "$CQLON_CTR:SERVER:FP:LON_CTR" ++ crlf

/-- A controller files a plan and asks for it. -/
theorem flightPlan_replay_sample : Exists fun system : System Real =>
    Exists fun next => Exists fun replies =>
      System.step Symbolic.platform system (.packet 0 0 samplePlanQuery) = some next ∧
      next.server.events = system.server.events ++ replies ∧
      ((sentTo 0 replies).filter fun reply => getPacketType reply = .flightPlan) =
        [planReply (bytes "LON_CTR")
          (bytes "I:B738:420:EGLL:1200:0:350:KJFK:7:0:8:0:KBOS:/v/:DCT")] := by
  let heap : SessionId -> Client Real := fun _ => newClient [] sampleData
  rcases exists_sampleController heap with ⟨server, connected, callsign, isAtc, _, registered⟩
  let filed := server.processPacket Symbolic.platform.md5 0 0 samplePlan
  have entered : System.step Symbolic.platform (start heap)
      (.connect sampleLogin Symbolic.database sampleIdLine sampleAddLine) = some ⟨server, 1⟩ :=
    step_connect connected
  have processed : System.step Symbolic.platform ⟨server, 1⟩ (.packet 0 0 samplePlan) =
      some ⟨filed, 1⟩ := if_pos registered
  have executed : run (System.step Symbolic.platform) (start heap)
      [.connect sampleLogin Symbolic.database sampleIdLine sampleAddLine,
        .packet 0 0 samplePlan] = some ⟨filed, 1⟩ := by
    rw [run_cons_of_step entered]
    exact run_cons_of_step processed []
  have record : (filed.clients 0).toLoginData = (server.clients 0).toLoginData :=
    server.toLoginData_processPacket _ _ 0 samplePlan 0
  have named : (filed.clients 0).callsign = bytes "LON_CTR" :=
    (congrArg LoginData.callsign record).trans callsign
  have remains : filed.Registered 0 :=
    (server.registered_processPacket _ _ 0 samplePlan).mpr registered
  have found : filed.find (bytes "LON_CTR") = some 0 := named ▸ remains
  have asks : filed.AsksForPlan 0 samplePlanQuery (bytes "LON_CTR") := {
    atc := (congrArg LoginData.isAtc record).trans isAtc
    accepted := by
      rw [named]
      decide +kernel
    recipient := by decide +kernel
    queryType := by decide +kernel
    fields := by decide +kernel
    about := by decide +kernel }
  have accepted : verifyPacket samplePlan (server.clients 0).callsign = .accepted .flightPlan := by
    rw [callsign]
    decide +kernel
  have info : planAfter 2 samplePlan =
      bytes "I:B738:420:EGLL:1200:0:350:KJFK:7:0:8:0:KBOS:/v/:DCT" := by decide +kernel
  have files : server.filing 0 samplePlan 0 =
      some (bytes "I:B738:420:EGLL:1200:0:350:KJFK:7:0:8:0:KBOS:/v/:DCT") := by
    rw [Server.filing_of_flightPlan accepted, if_pos rfl, info]
  have latest : LatestPlan Symbolic.platform heap
      [.connect sampleLogin Symbolic.database sampleIdLine sampleAddLine, .packet 0 0 samplePlan] 0
      (bytes "I:B738:420:EGLL:1200:0:350:KJFK:7:0:8:0:KBOS:/v/:DCT") :=
    ⟨[.connect sampleLogin Symbolic.database sampleIdLine sampleAddLine], .packet 0 0 samplePlan, [],
      _, _, rfl, run_cons_of_step entered [], files, processed, True.intro⟩
  rcases (flightPlan_replay executed found).1 0 0 samplePlanQuery remains asks with
    ⟨next, replies, taken, grown, _, answered⟩
  exact ⟨_, next, replies, taken, grown, (answered _ latest).1⟩

end System

end Fsd
end OpenFsd
