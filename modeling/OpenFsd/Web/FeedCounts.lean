import OpenFsd.Fsd.Presence
import OpenFsd.Web.Datafeed

namespace OpenFsd
namespace Web

open Db Fsd Transition

/-!
# Who the feed counts

A session is registered under its callsign, and one CID may hold several.  The
feed has a number of clients and a number of users, and it counts the sessions
for both.
-/

variable {F : Type} [GoFloat F]

/-- The CID of every session, with the pilots first. -/
def cids (onlineUsers : OnlineUsersResponseData F) : List Int :=
  (onlineUsers.pilots.map fun pilot => pilot.cid) ++ onlineUsers.atc.map fun atc => atc.cid

/-- The feed has every session once, in order and unchanged, and says how many
sessions there are and how many people hold them. -/
structure CountsPeople (onlineUsers : OnlineUsersResponseData F) (feed : Datafeed F) : Prop where
  connectedClients : feed.general.connectedClients =
    onlineUsers.pilots.length + onlineUsers.atc.length
  uniqueUsers : feed.general.uniqueUsers = (cids onlineUsers).toFinset.card
  pilots : feed.pilots.map DatafeedPilot.toOnlineUserPilot = onlineUsers.pilots
  atc : feed.atc.map DatafeedATC.toOnlineUserATC = onlineUsers.atc

omit [GoFloat F] in
theorem length_cids (onlineUsers : OnlineUsersResponseData F) :
    (cids onlineUsers).length = onlineUsers.pilots.length + onlineUsers.atc.length := by
  simp [cids]

/-- A list has as many distinct items as items exactly if none occurs twice. -/
theorem length_eq_card_toFinset_iff {A : Type} [DecidableEq A] (items : List A) :
    items.length = items.toFinset.card ↔ items.Nodup := by
  rw [eq_comm]
  exact Multiset.toFinset_card_eq_card_iff_nodup (m := (items : Multiset A))

/-- Nothing but the number of users can go wrong. -/
theorem countsPeople_datafeed_iff (now : Time) (onlineUsers : OnlineUsersResponseData F) :
    CountsPeople onlineUsers (datafeed now onlineUsers) ↔ (cids onlineUsers).Nodup := by
  rw [← length_eq_card_toFinset_iff, length_cids]
  constructor
  · intro counts
    have counted := counts.uniqueUsers
    simp only [datafeed] at counted
    omega
  · intro distinct
    constructor
    · rfl
    · simp only [datafeed, ← distinct, Nat.cast_add]
    · simp [datafeed, Function.comp_def]
    · simp [datafeed, Function.comp_def]

theorem generateDatafeed_of_decoded {response : ServiceResponse F}
    {onlineUsers : OnlineUsersResponseData F} (now : Time) (status : response.status = 200)
    (decoded : response.body.bind decodeOnlineUsers = some onlineUsers) :
    generateDatafeed now response = some (datafeed now onlineUsers) := by
  unfold generateDatafeed
  rw [if_neg (not_not_intro status), decoded]
  rfl

/-- Of every response that can be read a feed is made, and it counts people
exactly if no CID occurs twice. -/
theorem datafeed_counts_people_iff (now : Time) {response : ServiceResponse F}
    {onlineUsers : OnlineUsersResponseData F} (status : response.status = 200)
    (decoded : response.body.bind decodeOnlineUsers = some onlineUsers) :
    Exists fun feed => generateDatafeed now response = some feed ∧
      (CountsPeople onlineUsers feed ↔ (cids onlineUsers).Nodup) :=
  ⟨datafeed now onlineUsers, generateDatafeed_of_decoded now status decoded,
    countsPeople_datafeed_iff now onlineUsers⟩

/-- A pilot and a controller are one person. -/
theorem datafeed_counts_people_iff_pair : Exists fun response : ServiceResponse Real =>
    Exists fun onlineUsers => cids onlineUsers = [1, 1] ∧
      Exists fun feed => generateDatafeed 0 response = some feed ∧
        (CountsPeople onlineUsers feed ↔ (cids onlineUsers).Nodup) := by
  let client : Client Real := newClient [] { sampleData with cid := 1 }
  let pair : OnlineUsersResponseData Real := ⟨[onlineUserPilot client], [onlineUserATC client]⟩
  have written : (encodeOnlineUsers pair).isSome = true :=
    encodeOnlineUsers_isSome.mpr ⟨fun _ _ => ⟨rfl, rfl⟩, fun _ _ => ⟨rfl, rfl⟩⟩
  rcases Option.isSome_iff_exists.mp written with ⟨json, encoded⟩
  have decoded := decodeOnlineUsers_of_encoded encoded
  refine ⟨⟨200, some json⟩, _, ?_, datafeed_counts_people_iff 0 rfl decoded⟩
  rfl

/-! ## One state -/

/-- The CIDs of a response are those of the clients it lists. -/
theorem cids_perm {s : Server F} {order : List SessionId} {users : OnlineUsersResponseData F}
    (decoded : (handleGetOnlineUsers s order).body.bind decodeOnlineUsers = some users) :
    (cids users).Perm (order.map fun id => (s.clients id).cid) := by
  rcases Option.bind_eq_some_iff.mp decoded with ⟨json, body, read⟩
  have same := Option.some.inj (read.symm.trans (decodeOnlineUsers_of_encoded body))
  have sorted : cids users =
      ((order.filter fun id => !(s.clients id).isAtc) ++
        order.filter fun id => (s.clients id).isAtc).map fun id => (s.clients id).cid := by
    rw [same, onlineUsers_eq, List.map_append]
    simp only [cids, List.map_map]
    rfl
  rw [sorted]
  apply List.Perm.map
  exact List.perm_append_comm.trans (List.filter_append_perm (fun id => (s.clients id).isAtc) order)

/-- In a state, no CID occurs twice exactly if nobody holds two sessions. -/
theorem nodup_cids_iff {s : Server F} (indexed : s.Indexed) {order : List SessionId}
    (listed : order.Perm s.registeredClients) {users : OnlineUsersResponseData F}
    (decoded : (handleGetOnlineUsers s order).body.bind decodeOnlineUsers = some users) :
    (cids users).Nodup ↔ forall first second, s.Registered first -> s.Registered second ->
      (s.clients first).cid = (s.clients second).cid -> first = second := by
  have member : forall id, id ∈ order ↔ s.Registered id := fun id =>
    listed.mem_iff.trans (Server.mem_registeredClients indexed)
  have nodup : order.Nodup := listed.nodup_iff.mpr (Server.nodup_registeredClients indexed)
  rw [(cids_perm decoded).nodup_iff, List.nodup_map_iff_inj_on nodup]
  constructor
  · intro alone first second registeredFirst registeredSecond
    exact alone first ((member first).mpr registeredFirst) second
      ((member second).mpr registeredSecond)
  · intro alone first memberFirst second memberSecond
    exact alone first second ((member first).mp memberFirst) ((member second).mp memberSecond)

/-! ## Two sessions of one person -/

/-- Somebody controls as `LON_CTR` and as `LON_TWR`, and is counted twice. -/
theorem feed_counts_person_twice : ¬ forall (heap : SessionId -> Client Real)
    (system : System Real) (order : List SessionId) (now : Time)
    (users : OnlineUsersResponseData Real) (feed : Datafeed Real),
      Reaches (System.step Symbolic.platform) (System.start heap) system ->
      order.Perm system.server.registeredClients ->
      (handleGetOnlineUsers system.server order).body.bind decodeOnlineUsers = some users ->
      generateDatafeed now (handleGetOnlineUsers system.server order) = some feed ->
      CountsPeople users feed := by
  intro always
  let heap : SessionId -> Client Real := fun _ => newClient [] sampleData
  have readCenter : (login Symbolic.platform sampleLogin Symbolic.database sampleIdLine
      sampleAddLine : LoginResult (Client Real)).toOption.map (fun client =>
        (client.callsign, client.cid)) = some (bytes "LON_CTR", 1) := by
    decide +kernel
  have readTower : (login Symbolic.platform sampleLogin Symbolic.database
      Connections.towerIdLine Connections.towerAddLine : LoginResult (Client Real)).toOption.map
        (fun client => (client.callsign, client.cid)) = some (bytes "LON_TWR", 1) := by
    decide +kernel
  rcases exists_loggedIn readCenter with ⟨center, centerIn, centerRead⟩
  rcases exists_loggedIn readTower with ⟨tower, towerIn, towerRead⟩
  have different : tower.callsign ≠ center.callsign := by
    rw [(Prod.mk.inj centerRead).1, (Prod.mk.inj towerRead).1]
    decide
  rcases exists_both_registered heap centerIn towerIn different with
    ⟨one, both, connectedFirst, connectedSecond, ⟨centerRecord, towerRecord⟩, registered,
      registeredTower⟩
  have reached : Reaches (System.step Symbolic.platform) (System.start heap) ⟨both, 2⟩ :=
    (Reaches.single (System.step_connect connectedFirst)).tail (System.step_connect connectedSecond)
  have indexed : both.Indexed := fun callsign id found =>
    ((System.wellFormed_of_reaches reached).mapped callsign id found).1
  have listed := List.Perm.refl both.registeredClients
  have written : (handleGetOnlineUsers both both.registeredClients).body.isSome = true :=
    (body_isSome_iff both _).mpr fun _ _ => ⟨rfl, rfl⟩
  rcases Option.isSome_iff_exists.mp written with ⟨json, body⟩
  have decoded := (congrArg (fun body => Option.bind body decodeOnlineUsers) body).trans
    (decodeOnlineUsers_of_encoded body)
  have counts := always heap _ _ 0 _ _ reached listed decoded
    (generateDatafeed_of_decoded 0 rfl decoded)
  have alone := (nodup_cids_iff indexed listed decoded).mp
    ((countsPeople_datafeed_iff 0 _).mp counts)
  have same : (both.clients 0).cid = (both.clients 1).cid := by
    rw [centerRecord, towerRecord]
    exact (Prod.mk.inj centerRead).2.trans (Prod.mk.inj towerRead).2.symm
  exact absurd (alone 0 1 registered registeredTower same) (by decide)

end Web
end OpenFsd
