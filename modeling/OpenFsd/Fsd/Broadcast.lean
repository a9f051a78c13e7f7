import OpenFsd.Fsd.Handler

namespace OpenFsd
namespace Fsd

/-!
# What the visits and broadcasts do

The spec lemmas of `search`, `all` and the broadcasts.  A search changes one
field of the searching client and hands its callback the clients that
`foundBy` lists; a broadcast appends one send for each recipient that it is
for.  Later modules use these equations and do not unfold the traversals.
-/

namespace Server

variable {F : Type}

/-- Overwrite the distance that `search` keeps. -/
def setClosest (s : Server F) (id : SessionId) (dist : F) : Server F :=
  s.modifyClient id fun client => { client with closestVelocityClientDistance := dist }

theorem setClosest_setClosest (s : Server F) (id : SessionId) (first second : F) :
    (s.setClosest id first).setClosest id second = s.setClosest id second := by
  unfold setClosest modifyClient
  simp only [Function.update_self, Function.update_idem]

theorem deliver_always (s : Server F) (accepts : Client F -> Bool) (packet : Bytes)
    (events : List Event) (recipient : SessionId) :
    (s.deliver accepts packet events recipient).2 = true := by
  unfold deliver
  split <;> rfl

theorem foldl_deliver (s : Server F) (accepts : Client F -> Bool) (packet : Bytes)
    (events : List Event) (recipients : List SessionId) :
    recipients.foldl (fun current recipient => (s.deliver accepts packet current recipient).1) events =
      events ++ (recipients.filter fun recipient => accepts (s.clients recipient)).map
        fun recipient => Event.send recipient packet := by
  rw [← Traversal.foldl_collect]
  congr 1
  funext current recipient
  unfold deliver
  split <;> rfl

/-- The recipients of a broadcast to everybody that it is for. -/
def recipientsAll (s : Server F) (id : SessionId) (accepts : Client F -> Bool) : List SessionId :=
  s.registeredClients.filter fun recipient =>
    decide (recipient ≠ id) && accepts (s.clients recipient)

theorem broadcastAllWhere_eq (s : Server F) (id : SessionId) (accepts : Client F -> Bool)
    (packet : Bytes) :
    s.broadcastAllWhere id accepts packet =
      { s with events := s.events ++
        (s.recipientsAll id accepts).map fun recipient => Event.send recipient packet } := by
  have visitAlways : forall (current : List Event) (recipient : SessionId),
      (if recipient = id then (current, true) else s.deliver accepts packet current recipient).2 =
        true := by
    intro current recipient
    split
    · rfl
    · exact s.deliver_always accepts packet current recipient
  have visited : (fun (current : List Event) (recipient : SessionId) =>
      (if recipient = id then (current, true) else s.deliver accepts packet current recipient).1) =
      fun current recipient =>
        if decide (recipient ≠ id) && accepts (s.clients recipient) then
          current ++ [Event.send recipient packet]
        else current := by
    funext current recipient
    by_cases self : recipient = id
    · simp [self]
    · cases accepted : accepts (s.clients recipient) <;> simp [self, deliver, accepted]
  unfold broadcastAllWhere all recipientsAll
  rw [Traversal.foldUntil_of_always visitAlways, visited, Traversal.foldl_collect]

/-- What the sender of a direct packet is told when its recipient refuses it. -/
def refusal (s : Server F) (id target : SessionId) : List Event :=
  if s.refuses target then
    [.send id (errorPacket NoSuchCallsignError (bytes "No such callsign"))]
  else []

theorem sendDirectOrErr_of_find {s : Server F} {recipient : Bytes} {target : SessionId}
    (found : s.find recipient = some target) (id : SessionId) (packet : Bytes) :
    s.sendDirectOrErr id recipient packet =
      { s with events := s.events ++ .send target packet :: s.refusal id target } := by
  unfold sendDirectOrErr refusal
  rw [found]
  dsimp only
  split
  · simp [sendError, sendTo]
  · rfl

theorem refusal_of_live {s : Server F} {target : SessionId}
    (live : (s.clients target).cancelled = false) (id : SessionId) : s.refusal id target = [] := by
  simp [refusal, refuses, live]

theorem mem_refusal {s : Server F} {id target : SessionId} {event : Event}
    (member : event ∈ s.refusal id target) :
    event = .send id (errorPacket NoSuchCallsignError (bytes "No such callsign")) := by
  unfold refusal at member
  split at member
  · exact List.mem_singleton.mp member
  · cases member

variable [GoFloat F]

/-- The clients that a search of this client reports, in visiting order. -/
def foundBy (s : Server F) (id : SessionId) : List SessionId :=
  ((s.treeSearch (s.currentBox id)).map fun entry => entry.client).filter fun found =>
    decide (found ≠ id)

/-- A search from this client to the found one keeps their distance. -/
def keepsDistance (s : Server F) (id found : SessionId) : Bool :=
  !(s.clients id).isAtc && decide ((s.clients id).protoRevision = 101) &&
    decide ((s.clients found).protoRevision = 101)

/-- `distance` between the positions of two clients. -/
def distanceTo (s : Server F) (id found : SessionId) : F :=
  distance (s.clients id).coords.1 (s.clients id).coords.2
    (s.clients found).coords.1 (s.clients found).coords.2

/-- The distance that is kept after one more client is found. -/
def nearer (s : Server F) (id : SessionId) (dist : F) (found : SessionId) : F :=
  if s.keepsDistance id found then Traversal.lesser GoFloat.lt dist (s.distanceTo id found) else dist

theorem noteDistance_setClosest (s : Server F) (id found : SessionId) (dist : F) :
    (s.setClosest id dist).noteDistance id found = s.setClosest id (s.nearer id dist found) := by
  by_cases self : found = id
  · subst self
    unfold noteDistance nearer keepsDistance distanceTo Traversal.lesser
    simp only [setClosest, modifyClient_same]
    split
    · split
      · exact setClosest_setClosest s found dist _
      · rfl
    · rfl
  · unfold noteDistance nearer keepsDistance distanceTo Traversal.lesser
    simp only [setClosest, modifyClient_same, modifyClient_other _ _ self]
    split
    · split
      · exact setClosest_setClosest s id dist _
      · rfl
    · rfl

/-- Whatever its callback does, a search changes nothing on the server but
the distance that it keeps. -/
theorem search_server {X : Type} (s : Server F) (id : SessionId)
    (callback : X -> SessionId -> X × Bool) (state : X) :
    Exists fun dist => (s.search id callback state).1 = s.setClosest id dist := by
  unfold search
  refine Traversal.foldUntil_induction
    (fun current : Server F × X => Exists fun dist => current.1 = s.setClosest id dist) ?_
    ⟨GoFloat.maxFloat64, rfl⟩
  rintro current entry _ ⟨dist, same⟩
  unfold searchVisit
  by_cases self : entry.client = id
  · rw [if_pos self]
    exact ⟨dist, same⟩
  · rw [if_neg self]
    dsimp only
    rw [same, noteDistance_setClosest]
    exact ⟨_, rfl⟩

theorem searchVisit_always {X : Type} {callback : X -> SessionId -> X × Bool}
    (always : forall state found, (callback state found).2 = true) (id : SessionId)
    (current : Server F × X) (entry : Entry F) : (searchVisit id callback current entry).2 = true := by
  unfold searchVisit
  split
  · rfl
  · exact always _ _

/-- With a callback that never stops, a search keeps the distances to the
found clients, each in turn. -/
theorem search_closest {X : Type} (s : Server F) (id : SessionId)
    {callback : X -> SessionId -> X × Bool}
    (always : forall state found, (callback state found).2 = true) (state : X) :
    (s.search id callback state).1 =
      s.setClosest id ((s.foundBy id).foldl (s.nearer id) GoFloat.maxFloat64) := by
  have folded : forall (entries : List (Entry F)) (dist : F) (current : X),
      (entries.foldl (fun current entry => (searchVisit id callback current entry).1)
          (s.setClosest id dist, current)).1 =
        s.setClosest id (((entries.map fun entry => entry.client).filter fun found =>
          decide (found ≠ id)).foldl (s.nearer id) dist) := by
    intro entries
    induction entries with
    | nil => exact fun _ _ => rfl
    | cons entry rest inductionHypothesis =>
        intro dist current
        rw [List.foldl_cons, List.map_cons]
        unfold searchVisit
        by_cases self : entry.client = id
        · rw [if_pos self, List.filter_cons_of_neg (by simpa using self)]
          exact inductionHypothesis dist current
        · rw [if_neg self, List.filter_cons_of_pos (by simpa using self), List.foldl_cons]
          dsimp only
          rw [noteDistance_setClosest]
          exact inductionHypothesis _ _
  unfold search
  rw [Traversal.foldUntil_of_always (searchVisit_always always id)]
  exact folded _ GoFloat.maxFloat64 state

/-- A search hands its callback exactly the found clients, each in turn, as
long as the callback does not stop it. -/
theorem search_state {X : Type} (s : Server F) (id : SessionId)
    {callback : X -> SessionId -> X × Bool}
    (always : forall state found, (callback state found).2 = true) (state : X) :
    (s.search id callback state).2 =
      (s.foundBy id).foldl (fun current found => (callback current found).1) state := by
  have folded : forall (entries : List (Entry F)) (current : Server F × X),
      (entries.foldl (fun current entry => (searchVisit id callback current entry).1) current).2 =
        ((entries.map fun entry => entry.client).filter fun found => decide (found ≠ id)).foldl
          (fun current found => (callback current found).1) current.2 := by
    intro entries
    induction entries with
    | nil => intro current; rfl
    | cons entry rest inductionHypothesis =>
        intro current
        rw [List.foldl_cons, inductionHypothesis, List.map_cons]
        unfold searchVisit
        by_cases self : entry.client = id
        · rw [if_pos self, List.filter_cons_of_neg (by simpa using self)]
        · rw [if_neg self, List.filter_cons_of_pos (by simpa using self), List.foldl_cons]
  unfold search
  rw [Traversal.foldUntil_of_always (searchVisit_always always id), folded]
  rfl

/-- The recipients of a broadcast to everybody in range that it is for. -/
def recipientsRanged (s : Server F) (id : SessionId) (accepts : Client F -> Bool) :
    List SessionId :=
  (s.foundBy id).filter fun recipient => accepts (s.clients recipient)

theorem broadcastRangedWhere_eq (s : Server F) (id : SessionId) (accepts : Client F -> Bool)
    (packet : Bytes) :
    Exists fun dist => s.broadcastRangedWhere id accepts packet =
      { s.setClosest id dist with events := s.events ++
        (s.recipientsRanged id accepts).map fun recipient => Event.send recipient packet } := by
  rcases s.search_server id (s.deliver accepts packet) s.events with ⟨dist, searched⟩
  refine ⟨dist, ?_⟩
  unfold broadcastRangedWhere
  dsimp only
  rw [searched, s.search_state id (s.deliver_always accepts packet), foldl_deliver]
  rfl

end Server
end Fsd
end OpenFsd
