import OpenFsd.Fsd.Broadcast

namespace OpenFsd
namespace Fsd

/-!
# What one client is sent

The events are one list for everybody.  `sentTo` reads off what one client is
sent, in order, and `queuedFrom` what of it is put into the client's channel:
all of it while the context is live, and after `cancelCtx` what `send` does
not refuse.  A broadcast to the whole server sends the packet once to every
registered client that it is for, because no client has two entries in the
map.
-/

/-- The packets among the events that a client is sent, in order. -/
def sentTo (recipient : SessionId) (events : List Event) : List Bytes :=
  events.filterMap fun event =>
    match event with
    | .send target packet => if target = recipient then some packet else none
    | _ => none

@[simp] theorem sentTo_nil (recipient : SessionId) : sentTo recipient [] = [] :=
  rfl

@[simp] theorem sentTo_append (recipient : SessionId) (first second : List Event) :
    sentTo recipient (first ++ second) = sentTo recipient first ++ sentTo recipient second :=
  List.filterMap_append

@[simp] theorem sentTo_send_self (recipient : SessionId) (packet : Bytes) :
    sentTo recipient [.send recipient packet] = [packet] := by
  simp [sentTo]

theorem sentTo_send_other {recipient target : SessionId} (different : target ≠ recipient)
    (packet : Bytes) : sentTo recipient [.send target packet] = [] := by
  simp [sentTo, different]

@[simp] theorem sentTo_cancel (recipient victim : SessionId) :
    sentTo recipient [.cancel victim] = [] :=
  rfl

theorem mem_sentTo {recipient : SessionId} {events : List Event} {packet : Bytes} :
    packet ∈ sentTo recipient events ↔ Event.send recipient packet ∈ events := by
  unfold sentTo
  rw [List.mem_filterMap]
  constructor
  · rintro ⟨event, member, sent⟩
    cases event with
    | send target other =>
        dsimp only at sent
        split at sent
        · next same =>
            cases sent
            rw [← same]
            exact member
        · cases sent
    | cancel victim => cases sent
    | metarRequest client icaoCode => cases sent
  · intro member
    exact ⟨_, member, if_pos rfl⟩

/-- Each recipient gets a copy for each of its occurrences. -/
theorem sentTo_map (recipient : SessionId) (recipients : List SessionId) (packet : Bytes) :
    sentTo recipient (recipients.map fun target => Event.send target packet) =
      List.replicate (recipients.count recipient) packet := by
  induction recipients with
  | nil => rfl
  | cons target rest inductionHypothesis =>
      rw [List.map_cons, ← List.singleton_append, sentTo_append, inductionHypothesis]
      by_cases own : target = recipient
      · rw [own, sentTo_send_self, List.count_cons_self, List.replicate_succ]
        rfl
      · rw [sentTo_send_other own, List.count_cons_of_ne own]
        rfl

/-- Where the recipients are distinct, each gets one copy. -/
theorem sentTo_map_nodup {recipient : SessionId} {recipients : List SessionId}
    (nodup : recipients.Nodup) (packet : Bytes) :
    sentTo recipient (recipients.map fun target => Event.send target packet) =
      if recipient ∈ recipients then [packet] else [] := by
  rw [sentTo_map]
  by_cases member : recipient ∈ recipients
  · rw [if_pos member, List.count_eq_one_of_mem nodup member]
    rfl
  · rw [if_neg member, List.count_eq_zero_of_not_mem member]
    rfl

/-! ## What of it is queued -/

/-- What the event of this number puts into the channel of a client, whose
context is over by then or not. -/
def queuedAt (takesDone : Nat -> Bool) (id : SessionId) (number : Nat) (ended : Bool) :
    Event -> List Bytes
  | .send target packet => if target = id && !(ended && takesDone number) then [packet] else []
  | _ => []

/-- The packets that the events put into the channel of a client, in order. -/
def queuedFrom (takesDone : Nat -> Bool) (id : SessionId) : Nat -> Bool -> List Event -> List Bytes
  | _, _, [] => []
  | number, ended, event :: rest =>
      queuedAt takesDone id number ended event ++
        queuedFrom takesDone id (number + 1) (ended || decide (event = .cancel id)) rest

theorem queuedFrom_append (takesDone : Nat -> Bool) (id : SessionId) (number : Nat) (ended : Bool)
    (first second : List Event) :
    queuedFrom takesDone id number ended (first ++ second) =
      queuedFrom takesDone id number ended first ++
        queuedFrom takesDone id (number + first.length)
          (ended || decide (Event.cancel id ∈ first)) second := by
  induction first generalizing number ended with
  | nil => simp [queuedFrom]
  | cons event rest inductionHypothesis =>
      have shifted : number + (event :: rest).length = number + 1 + rest.length := by
        rw [List.length_cons, Nat.add_assoc, Nat.add_comm 1]
      have marked : decide (Event.cancel id ∈ event :: rest) =
          (decide (event = .cancel id) || decide (Event.cancel id ∈ rest)) := by
        simp only [List.mem_cons, Bool.decide_or, eq_comm]
      rw [List.cons_append, shifted, marked, ← Bool.or_assoc]
      simp only [queuedFrom, List.append_assoc, inductionHypothesis]

theorem queuedAt_sublist (takesDone : Nat -> Bool) (id : SessionId) (number : Nat) (ended : Bool)
    (event : Event) : (queuedAt takesDone id number ended event).Sublist (sentTo id [event]) := by
  cases event with
  | send target packet =>
      simp only [queuedAt]
      split
      · next taken =>
          rw [Bool.and_eq_true, decide_eq_true_eq] at taken
          rw [taken.1, sentTo_send_self]
      · exact List.nil_sublist _
  | cancel victim => exact List.nil_sublist _
  | metarRequest client icaoCode => exact List.nil_sublist _

/-- Nothing is queued that is not sent. -/
theorem queuedFrom_sublist (takesDone : Nat -> Bool) (id : SessionId) (number : Nat) (ended : Bool)
    (events : List Event) :
    (queuedFrom takesDone id number ended events).Sublist (sentTo id events) := by
  induction events generalizing number ended with
  | nil => exact List.Sublist.refl _
  | cons event rest inductionHypothesis =>
      rw [← List.singleton_append, sentTo_append]
      exact (queuedAt_sublist takesDone id number ended event).append (inductionHypothesis _ _)

theorem queuedAt_of_live (takesDone : Nat -> Bool) (id : SessionId) (number : Nat)
    (event : Event) : queuedAt takesDone id number false event = sentTo id [event] := by
  cases event with
  | send target packet =>
      simp only [queuedAt, Bool.false_and, Bool.not_false, Bool.and_true, decide_eq_true_eq]
      by_cases own : target = id
      · rw [if_pos own, own, sentTo_send_self]
      · rw [if_neg own, sentTo_send_other own]
  | cancel victim => rfl
  | metarRequest client icaoCode => rfl

/-- While the context is live, all that is sent is queued. -/
theorem queuedFrom_of_live (takesDone : Nat -> Bool) {id : SessionId} (number : Nat)
    {events : List Event} (live : Event.cancel id ∉ events) :
    queuedFrom takesDone id number false events = sentTo id events := by
  induction events generalizing number with
  | nil => rfl
  | cons event rest inductionHypothesis =>
      rw [List.mem_cons, not_or] at live
      have goes : decide (event = .cancel id) = false := decide_eq_false (Ne.symm live.1)
      rw [← List.singleton_append, sentTo_append]
      simp only [List.singleton_append, queuedFrom, goes, Bool.or_false]
      rw [queuedAt_of_live, inductionHypothesis (number + 1) live.2]

namespace Server

variable {F : Type}

/-- The packets that have been put into the channel of a client, in order. -/
def queued (s : Server F) (id : SessionId) : List Bytes :=
  queuedFrom (s.clients id).takesDone id 0 false s.events

/-- Every client that the map finds bears the callsign under which it is found. -/
def Indexed (s : Server F) : Prop :=
  forall callsign id, s.find callsign = some id -> (s.clients id).callsign = callsign

theorem mem_registeredClients {s : Server F} (indexed : s.Indexed) {id : SessionId} :
    id ∈ s.registeredClients ↔ s.Registered id := by
  unfold registeredClients
  rw [List.mem_map]
  constructor
  · rintro ⟨⟨callsign, other⟩, member, same⟩
    have found : s.find callsign = some other := AList.mem_lookup_iff.mpr member
    cases same
    unfold Registered
    rw [indexed callsign other found]
    exact found
  · intro registered
    exact ⟨⟨_, id⟩, AList.mem_lookup_iff.mp registered, rfl⟩

theorem nodup_registeredClients {s : Server F} (indexed : s.Indexed) :
    s.registeredClients.Nodup := by
  apply List.Nodup.of_map fun id => (s.clients id).callsign
  have keys : (s.registeredClients.map fun id => (s.clients id).callsign) =
      s.postOffice.clientMap.keys := by
    unfold registeredClients
    rw [List.map_map]
    apply List.map_congr_left
    rintro ⟨callsign, id⟩ member
    exact indexed callsign id (AList.mem_lookup_iff.mpr member)
  rw [keys]
  exact s.postOffice.clientMap.keys_nodup

/-- The recipients of a broadcast to the whole server are the registered
clients that it is for. -/
theorem mem_recipientsAll {s : Server F} (indexed : s.Indexed) {id recipient : SessionId}
    {accepts : Client F -> Bool} :
    recipient ∈ s.recipientsAll id accepts ↔
      s.Registered recipient ∧ recipient ≠ id ∧ accepts (s.clients recipient) = true := by
  unfold recipientsAll
  rw [List.mem_filter, mem_registeredClients indexed, Bool.and_eq_true, decide_eq_true_eq]

end Server
end Fsd
end OpenFsd
