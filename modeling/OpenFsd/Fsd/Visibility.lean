import OpenFsd.Fsd.Broadcast
import OpenFsd.Fsd.Office

namespace OpenFsd
namespace Fsd

open Transition

/-!
# The indexed search and the scan of all clients

`search` asks the tree, whose entries are as old as the last insertion.  In
the states in which no operation is in progress it reports the same clients
as a scan of the map that compares current boxes, and each of them once.
-/

variable {F : Type}

/-! ## The entries between operations -/

namespace Server

/-- The entries of a client are counted where clients are. -/
theorem count_client (s : Server F) (id : SessionId) :
    (s.postOffice.tree.map fun entry => entry.client).count id = (s.entriesOf id).length := by
  unfold entriesOf
  rw [List.count, List.countP_map, List.countP_eq_length_filter]
  rfl

theorem mem_entriesOf_iff {s : Server F} {other : SessionId} {entry : Entry F} :
    entry ∈ s.entriesOf other ↔ entry ∈ s.postOffice.tree ∧ entry.client = other := by
  unfold entriesOf
  rw [List.mem_filter, decide_eq_true_eq]

variable [GoFloat F]

theorem mem_foundBy {s : Server F} {id found : SessionId} :
    found ∈ s.foundBy id ↔ found ≠ id ∧ Exists fun entry => entry ∈ s.postOffice.tree ∧
      entry.client = found ∧ Box.intersects (s.currentBox id) entry.box = true := by
  unfold foundBy treeSearch
  rw [List.mem_filter, List.mem_map]
  constructor
  · rintro ⟨⟨entry, member, own⟩, other⟩
    rcases List.mem_filter.mp member with ⟨stored, meets⟩
    exact ⟨of_decide_eq_true other, entry, stored, own, meets⟩
  · rintro ⟨other, entry, stored, own, meets⟩
    exact ⟨⟨entry, List.mem_filter.mpr ⟨stored, meets⟩, own⟩, decide_eq_true other⟩

/-- A client that has moved finds by its new box the entries of the others, as
they were. -/
theorem mem_foundBy_updatePosition {s : Server F} {id other : SessionId} (different : other ≠ id)
    (center : F × F) (visRange : F) :
    other ∈ (s.updatePosition id center visRange).foundBy id ↔
      Exists fun entry => entry ∈ s.entriesOf other ∧
        Box.intersects (calculateBoundingBox center visRange) entry.box = true := by
  have box : (s.updatePosition id center visRange).currentBox id =
      calculateBoundingBox center visRange := by
    unfold updatePosition
    dsimp only
    split
    · exact Office.currentBox_storePosition s id center visRange
    · exact Office.currentBox_storePosition s id center visRange
  have entries : (s.updatePosition id center visRange).entriesOf other = s.entriesOf other := by
    unfold updatePosition
    dsimp only
    split
    · rfl
    · unfold reindex
      rw [entriesOf_treeInsert_other _ _ different, entriesOf_treeDelete_other _ _ different]
      rfl
  rw [mem_foundBy, box, ← entries]
  constructor
  · rintro ⟨_, entry, stored, own, meets⟩
    exact ⟨entry, mem_entriesOf_iff.mpr ⟨stored, own⟩, meets⟩
  · rintro ⟨entry, member, meets⟩
    rcases mem_entriesOf_iff.mp member with ⟨stored, own⟩
    exact ⟨different, entry, stored, own, meets⟩

/-- The found clients with which the searching client compares distances. -/
def velocityFound (s : Server F) (id : SessionId) : List SessionId :=
  (s.foundBy id).filter fun found => decide ((s.clients found).protoRevision = 101)

end Server

namespace Office

/-- No operation is in progress. -/
def Quiescent (office : Office F) : Prop :=
  forall id, (office.phase id).Idle

variable [GoFloat F]

theorem Consistent.nodup_clients {office : Office F} (consistent : Consistent office) :
    (office.server.postOffice.tree.map fun entry => entry.client).Nodup := by
  rw [List.nodup_iff_count_le_one]
  intro id
  rw [Server.count_client]
  by_cases occupied : office.server.entriesOf id = []
  · rw [occupied]
    exact Nat.zero_le 1
  · rcases ((consistent.holds id).only occupied).2 with ⟨entry, only⟩
    rw [only]
    exact Nat.le_refl 1

theorem Consistent.nodup_foundBy {office : Office F} (consistent : Consistent office)
    (id : SessionId) : (office.server.foundBy id).Nodup := by
  have searched : ((office.server.treeSearch (office.server.currentBox id)).map
      fun entry => entry.client).Sublist
        (office.server.postOffice.tree.map fun entry => entry.client) :=
    List.filter_sublist.map _
  exact (consistent.nodup_clients.sublist searched).filter _

theorem Consistent.not_registered_of_released {office : Office F} (consistent : Consistent office)
    {id : SessionId} (released : office.phase id = .released) : ¬ office.server.Registered id := by
  intro registered
  have live := consistent.live registered
  rw [released] at live
  cases live

variable [LawfulGoFloat F]

/-- Between operations the stored boxes can be replaced by the current ones. -/
theorem Consistent.exists_entry_iff {office : Office F} (consistent : Consistent office)
    (quiescent : office.Quiescent) (box : Box F) (other : SessionId) :
    (Exists fun entry => entry ∈ office.server.entriesOf other ∧
      Box.intersects box entry.box = true) ↔ office.server.Registered other ∧
        Box.intersects box (office.server.currentBox other) = true := by
  constructor
  · rintro ⟨entry, member, meets⟩
    have registered := ((consistent.holds other).only (List.ne_nil_of_mem member)).1
    rcases consistent.indexed (quiescent other) registered with ⟨single, only, same⟩
    rw [only] at member
    rw [← List.mem_singleton.mp member] at same
    exact ⟨registered, (Box.intersects_same same).symm.trans meets⟩
  · rintro ⟨registered, meets⟩
    rcases consistent.indexed (quiescent other) registered with ⟨entry, only, same⟩
    have member : entry ∈ office.server.entriesOf other := by
      rw [only]
      exact List.mem_singleton_self entry
    exact ⟨entry, member, (Box.intersects_same same).trans meets⟩

theorem Consistent.mem_foundBy {office : Office F} (consistent : Consistent office)
    (quiescent : office.Quiescent) (id other : SessionId) :
    other ∈ office.server.foundBy id ↔ other ≠ id ∧ office.server.Registered other ∧
      Box.intersects (office.server.currentBox id) (office.server.currentBox other) = true := by
  rw [Server.mem_foundBy, ← consistent.exists_entry_iff quiescent]
  simp only [Server.mem_entriesOf_iff, and_assoc]

/-- What a client finds as soon as it has moved. -/
theorem Consistent.mem_foundBy_updatePosition {office : Office F} (consistent : Consistent office)
    (quiescent : office.Quiescent) {id other : SessionId} (different : other ≠ id)
    (center : F × F) (visRange : F) :
    other ∈ (office.server.updatePosition id center visRange).foundBy id ↔
      office.server.Registered other ∧ Box.intersects (calculateBoundingBox center visRange)
        (office.server.currentBox other) = true := by
  rw [Server.mem_foundBy_updatePosition different]
  exact consistent.exists_entry_iff quiescent _ other

end Office

/-! ## The distance that is kept -/

namespace Server

variable [GoFloat F]

/-- The searching client is a pilot whose client program speaks revision 101. -/
def VelocityPilot (client : Client F) : Prop :=
  client.isAtc = false ∧ client.protoRevision = 101

theorem foldl_nearer_of_pilot {s : Server F} {id : SessionId}
    (pilot : VelocityPilot (s.clients id)) (found : List SessionId) (dist : F) :
    found.foldl (s.nearer id) dist =
      ((found.filter fun other => decide ((s.clients other).protoRevision = 101)).map
        (s.distanceTo id)).foldl (Traversal.lesser GoFloat.lt) dist := by
  induction found generalizing dist with
  | nil => rfl
  | cons other rest inductionHypothesis =>
      rw [List.foldl_cons, inductionHypothesis]
      unfold nearer keepsDistance
      rw [pilot.1, pilot.2]
      by_cases velocity : (s.clients other).protoRevision = 101
      · have kept : decide ((s.clients other).protoRevision = 101) = true := decide_eq_true velocity
        simp only [List.filter_cons, kept, if_true, List.map_cons, List.foldl_cons, decide_true,
          Bool.not_false, Bool.and_self]
      · have dropped : decide ((s.clients other).protoRevision = 101) = false :=
          decide_eq_false velocity
        simp only [List.filter_cons, dropped, Bool.and_false, Bool.false_eq_true, if_false]

theorem foldl_nearer_of_not_pilot {s : Server F} {id : SessionId}
    (other : ¬ VelocityPilot (s.clients id)) (found : List SessionId) (dist : F) :
    found.foldl (s.nearer id) dist = dist := by
  induction found with
  | nil => rfl
  | cons first rest inductionHypothesis =>
      have skipped : s.nearer id dist first = dist := by
        apply if_neg
        intro keeps
        simp only [keepsDistance, Bool.and_eq_true, Bool.not_eq_true', decide_eq_true_eq] at keeps
        exact other keeps.1
      rw [List.foldl_cons, skipped]
      exact inductionHypothesis

/-- The distance that a search leaves behind. -/
theorem closest_search {X : Type} (s : Server F) (id : SessionId)
    {callback : X -> SessionId -> X × Bool}
    (always : forall state found, (callback state found).2 = true) (state : X) :
    ((s.search id callback state).1.clients id).closestVelocityClientDistance =
      (s.foundBy id).foldl (s.nearer id) GoFloat.maxFloat64 := by
  rw [s.search_closest id always state]
  unfold setClosest
  rw [modifyClient_same]

/-- No two positions are further apart than the circumference of the globe. -/
theorem distanceTo_lt_maxFloat64 (s : Server Real) (id found : SessionId) :
    s.distanceTo id found < GoFloat.maxFloat64 := by
  have bounded : forall y x : Real,
      (earthRadius : Real) * (GoFloat.ofRat 2 * GoFloat.atan2 y x) < GoFloat.maxFloat64 := by
    intro y x
    have angle : Complex.arg ⟨x, y⟩ ≤ 4 := (Complex.arg_le_pi _).trans Real.pi_le_four
    have around : (earthRadius : Real) * (GoFloat.ofRat 2 * GoFloat.atan2 y x) =
        6371000 * (2 * Complex.arg ⟨x, y⟩) := by
      simp [earthRadius, GoFloat.ofRat, GoFloat.atan2]
    have large : (6371000 * 8 : Nat) < 2 ^ 1024 - 2 ^ 971 := by decide +kernel
    have limit : ((6371000 * 8 : Nat) : Real) < ((2 ^ 1024 - 2 ^ 971 : Nat) : Real) :=
      Nat.cast_lt.mpr large
    rw [around]
    refine lt_of_le_of_lt ?_ limit
    push_cast
    linarith
  exact bounded _ _

end Server

namespace Office

variable [GoFloat F] [LawfulGoFloat F]

/-- In every reachable state without an operation in progress, a search from a
registered client with a callback that never stops hands it, each once, the
other registered clients whose current box meets the client's, and no
released one; being found is mutual; and the distance kept afterwards is the
least of those to the found clients of revision 101 for a pilot of revision
101, and the maximal float otherwise. -/
theorem search_agrees {heap : SessionId -> Client F} {office : Office F}
    (reached : Reaches step (start heap) office) (quiescent : office.Quiescent) {id : SessionId}
    (registered : office.server.Registered id) :
    (office.server.foundBy id).Nodup ∧
    (forall other, other ∈ office.server.foundBy id ↔ other ≠ id ∧ office.server.Registered other ∧
      Box.intersects (office.server.currentBox id) (office.server.currentBox other) = true) ∧
    (forall other, office.phase other = .released -> other ∉ office.server.foundBy id) ∧
    (forall other, office.server.Registered other ->
      (other ∈ office.server.foundBy id ↔ id ∈ office.server.foundBy other)) ∧
    (forall (X : Type) (callback : X -> SessionId -> X × Bool) (state : X),
      (forall current found, (callback current found).2 = true) ->
      (office.server.search id callback state).2 =
          (office.server.foundBy id).foldl (fun current found => (callback current found).1) state ∧
        (Server.VelocityPilot (office.server.clients id) ->
          Traversal.Least GoFloat.lt GoFloat.maxFloat64
            ((office.server.velocityFound id).map (office.server.distanceTo id))
            ((office.server.search id callback state).1.clients id).closestVelocityClientDistance) ∧
        (¬ Server.VelocityPilot (office.server.clients id) ->
          ((office.server.search id callback state).1.clients id).closestVelocityClientDistance =
            GoFloat.maxFloat64)) := by
  have consistent := consistent_of_reaches reached
  have members := consistent.mem_foundBy quiescent
  refine ⟨consistent.nodup_foundBy id, members id, ?_, ?_, ?_⟩
  · intro other released found
    exact consistent.not_registered_of_released released ((members id other).mp found).2.1
  · intro other otherRegistered
    rw [members id other, members other id, Box.intersects_comm]
    constructor
    · rintro ⟨different, _, meets⟩
      exact ⟨different.symm, registered, meets⟩
    · rintro ⟨different, _, meets⟩
      exact ⟨different.symm, otherRegistered, meets⟩
  · intro X callback state always
    refine ⟨office.server.search_state id always state, ?_, ?_⟩
    · intro pilot
      rw [office.server.closest_search id always state, Server.foldl_nearer_of_pilot pilot]
      exact Traversal.least_foldl_lesser LawfulGoFloat.lt_irrefl LawfulGoFloat.lt_trans _ _
    · intro other
      rw [office.server.closest_search id always state]
      exact Server.foldl_nearer_of_not_pilot other _ _

/-! ## Clients on the equator -/

/-- On the equator the boxes of two clients meet if the sum of their ranges
bridges the difference of the longitudes. -/
theorem intersects_equator {west east range rangeOther : Real} (nonneg : 0 ≤ range)
    (nonnegOther : 0 ≤ rangeOther) :
    Box.intersects (calculateBoundingBox (0, west) range)
        (calculateBoundingBox (0, east) rangeOther) = true ↔
      |east - west| * (Real.pi * 6371000 / 180) ≤ range + rangeOther := by
  have positive : 0 < Real.pi * 6371000 / 180 := by
    have pi := Real.pi_pos
    positivity
  have level : (GoFloat.cos ((0 : Real) * GoFloat.degToRad) : Real) = 1 := by
    simp [GoFloat.cos]
  have scale : (GoFloat.metersPerDegreeLat : Real) = Real.pi * 6371000 / 180 := by
    simp [GoFloat.metersPerDegreeLat]
  have divided : forall value : Real, 0 ≤ value -> 0 ≤ value / (Real.pi * 6371000 / 180) :=
    fun value nonneg => div_nonneg nonneg positive.le
  have own := divided range nonneg
  have others := divided rangeOther nonnegOther
  unfold Box.intersects calculateBoundingBox
  simp only [level, scale, mul_one, GoFloat.gt, GoFloat.lt, Bool.not_eq_true',
    Bool.or_eq_false_iff, decide_eq_false_iff_not, not_lt]
  have widths : |east - west| * (Real.pi * 6371000 / 180) ≤ range + rangeOther ↔
      |east - west| ≤
        range / (Real.pi * 6371000 / 180) + rangeOther / (Real.pi * 6371000 / 180) := by
    rw [← add_div, le_div_iff₀ positive]
  rw [widths, abs_le]
  constructor
  · rintro ⟨_, low, high⟩
    constructor <;> linarith
  · rintro ⟨low, high⟩
    refine ⟨⟨?_, ?_⟩, ?_, ?_⟩ <;> linarith

theorem pilotVisRange_real : (pilotVisRange : Real) = 92600 := by
  have scaled : (pilotVisRange : Real) = ((50 * 1852 : Rat) : Real) := rfl
  rw [scaled]
  norm_num

/-- A client on the equator that sees as far as a pilot. -/
noncomputable def equatorClient (callsign : Bytes) (isAtc : Bool) (protoRevision : Int)
    (longitude : Rat) : Client Real :=
  { newClient [] ⟨[], callsign, 1, [], 1, 1, protoRevision, 0, 0, isAtc⟩ with
    coords := (0, longitude)
    visRange := pilotVisRange }

/-- Three pilots of revision 101, one of them far away, and a controller. -/
noncomputable def equatorClients : SessionId -> Client Real
  | 0 => equatorClient (bytes "N172SP") false 101 0
  | 1 => equatorClient (bytes "N51SP") false 101 (1 / 2)
  | 2 => equatorClient (bytes "N921SP") false 101 60
  | _ => equatorClient (bytes "LON_TWR") true 100 (1 / 4)

/-- All of them register. -/
def equatorSections : List (SessionId × Section Real) :=
  [(0, .registerMap), (0, .registerTree), (1, .registerMap), (1, .registerTree),
    (2, .registerMap), (2, .registerTree), (3, .registerMap), (3, .registerTree)]

theorem exists_equatorOffice : Exists fun office =>
    run step (start equatorClients) equatorSections = some office ∧ office.Quiescent ∧
      office.server.clients = equatorClients ∧
      forall id, office.server.Registered id ↔ id < 4 := by
  refine ⟨_, rfl, ?_, rfl, ?_⟩
  · intro id
    match id with
    | 0 => exact True.intro
    | 1 => exact True.intro
    | 2 => exact True.intro
    | 3 => exact True.intro
    | _ + 4 => exact True.intro
  · intro id
    match id with
    | 0 => exact iff_of_true rfl (by decide)
    | 1 => exact iff_of_true rfl (by decide)
    | 2 => exact iff_of_true rfl (by decide)
    | 3 => exact iff_of_true rfl (by decide)
    | other + 4 =>
        apply iff_of_false
        · -- The callsign belongs to the fourth client.
          intro registered
          have taken : (some 3 : Option SessionId) = some (other + 4) := registered
          have below : 3 < other + 4 := Nat.le_add_left 4 other
          exact absurd (Option.some.inj taken) (Nat.ne_of_lt below)
        · exact Nat.not_lt.mpr (Nat.le_add_left 4 other)

theorem intersects_equatorClients {office : Office Real}
    (clients : office.server.clients = equatorClients) (id other : SessionId) :
    Box.intersects (office.server.currentBox id) (office.server.currentBox other) = true ↔
      |(equatorClients other).coords.2 - (equatorClients id).coords.2| *
        (Real.pi * 6371000 / 180) ≤ 92600 + 92600 := by
  have placed : forall id, equatorClients id = { equatorClients id with
      coords := (0, (equatorClients id).coords.2), visRange := pilotVisRange } := by
    intro id
    match id with
    | 0 => rfl
    | 1 => rfl
    | 2 => rfl
    | _ + 3 => rfl
  unfold Server.currentBox
  rw [clients, placed id, placed other, pilotVisRange_real]
  exact intersects_equator (by norm_num) (by norm_num)

/-- The pilot in the west is in range of the other pilot nearby and of the
controller. -/
theorem near_equatorClients {office : Office Real}
    (clients : office.server.clients = equatorClients) {other : SessionId} (different : other ≠ 0)
    (below : other < 4) :
    Box.intersects (office.server.currentBox 0) (office.server.currentBox other) = true ↔
      other = 1 ∨ other = 3 := by
  have first : (equatorClients 0).coords.2 = 0 := Rat.cast_zero
  have second : (equatorClients 1).coords.2 = 1 / 2 := by
    show ((1 / 2 : Rat) : Real) = 1 / 2
    norm_num
  have third : (equatorClients 2).coords.2 = 60 := Rat.cast_ofNat 60
  have fourth : (equatorClients 3).coords.2 = 1 / 4 := by
    show ((1 / 4 : Rat) : Real) = 1 / 4
    norm_num
  have wide := Real.two_le_pi
  have narrow := Real.pi_le_four
  rw [intersects_equatorClients clients]
  match other with
  | 0 => exact absurd rfl different
  | 1 =>
      rw [first, second, abs_of_pos (by norm_num)]
      exact iff_of_true (by linarith) (Or.inl rfl)
  | 2 =>
      rw [first, third, abs_of_pos (by norm_num)]
      exact iff_of_false (by linarith) (by decide)
  | 3 =>
      rw [first, fourth, abs_of_pos (by norm_num)]
      exact iff_of_true (by linarith) (Or.inr rfl)
  | other + 4 => exact absurd below (Nat.not_lt.mpr (Nat.le_add_left 4 other))

/-- The pilot in the west finds the other pilot in range and the controller,
which finds it too, and keeps the distance to the pilot, though the controller
is nearer. -/
theorem search_agrees_equator : Exists fun office =>
    run step (start equatorClients) equatorSections = some office ∧
      office.server.clients = equatorClients ∧
      ((office.server.search 0 (fun found other => (found ++ [other], true)) []).2).Perm [1, 3] ∧
      0 ∈ office.server.foundBy 3 ∧
      ((office.server.search 0 (fun found other => (found ++ [other], true)) []).1.clients
        0).closestVelocityClientDistance = office.server.distanceTo 0 1 ∧
      ((office.server.search 3 (fun found other => (found ++ [other], true)) []).1.clients
        3).closestVelocityClientDistance = GoFloat.maxFloat64 := by
  rcases exists_equatorOffice with ⟨office, executed, quiescent, clients, registered⟩
  have pilot := search_agrees ⟨_, executed⟩ quiescent ((registered 0).mpr (by decide))
  have controller := search_agrees ⟨_, executed⟩ quiescent ((registered 3).mpr (by decide))
  have found : forall other, other ∈ office.server.foundBy 0 ↔ other = 1 ∨ other = 3 := by
    intro other
    rw [pilot.2.1 other, registered other]
    constructor
    · rintro ⟨different, below, near⟩
      exact (near_equatorClients clients different below).mp near
    · rintro (rfl | rfl)
      · exact ⟨by decide, by decide,
          (near_equatorClients clients (by decide) (by decide)).mpr (Or.inl rfl)⟩
      · exact ⟨by decide, by decide,
          (near_equatorClients clients (by decide) (by decide)).mpr (Or.inr rfl)⟩
  have searched := pilot.2.2.2.2 (List SessionId) (fun found other => (found ++ [other], true)) []
    fun _ _ => rfl
  have listed : (office.server.search 0 (fun found other => (found ++ [other], true)) []).2 =
      office.server.foundBy 0 := by
    rw [searched.1, List.foldl_append_eq_append, List.nil_append]
    exact List.flatMap_singleton' _
  refine ⟨office, executed, clients, ?_, ?_, ?_, ?_⟩
  · rw [listed]
    refine (List.perm_ext_iff_of_nodup pilot.1 (by decide)).mpr fun other => ?_
    rw [found other]
    simp
  · exact (pilot.2.2.2.1 3 ((registered 3).mpr (by decide))).mp ((found 3).mpr (Or.inr rfl))
  · have velocity : forall other, other ∈ office.server.velocityFound 0 ↔ other = 1 := by
      intro other
      unfold Server.velocityFound
      rw [List.mem_filter, found other, clients]
      constructor
      · rintro ⟨rfl | rfl, revision⟩
        · rfl
        · exact absurd revision (by decide)
      · rintro rfl
        exact ⟨Or.inl rfl, rfl⟩
    have least := searched.2.1 (clients ▸ ⟨rfl, rfl⟩)
    have measured : office.server.distanceTo 0 1 ∈
        (office.server.velocityFound 0).map (office.server.distanceTo 0) :=
      List.mem_map_of_mem ((velocity 1).mpr rfl)
    have kept := least.attained _ measured
      (decide_eq_true (office.server.distanceTo_lt_maxFloat64 0 1))
    rcases List.mem_map.mp kept with ⟨other, member, same⟩
    rw [← same, (velocity other).mp member]
  · refine (controller.2.2.2.2 (List SessionId) (fun found other => (found ++ [other], true)) []
      fun _ _ => rfl).2.2 ?_
    rw [clients]
    intro pilots
    cases pilots.1

end Office
end Fsd
end OpenFsd
