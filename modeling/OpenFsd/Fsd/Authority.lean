import OpenFsd.Fsd.Broadcast

namespace OpenFsd
namespace Fsd

/-!
# What one packet may do

The server's rules about who may cause what are spread over its handlers.
Here they are one table: `requiredPrivilege` says, for a packet that reaches
another client, which privilege its sender needs.  `Acts` describes a turn of
the event loop for one client in full: which state it leaves alone, which
fields it may change, and that everything it does to others is covered by the
table.

There is one lemma for each handler, and `acts_processPacket` collects them.
-/

/-- What a client must be to cause an effect on another client. -/
inductive Privilege
  | none
  | atc
  | activeAtc
  | supervisor
  deriving DecidableEq

/-- A client that logged in as ATC, took a facility, and may have it. -/
def Client.IsActiveAtc {F : Type} (client : Client F) : Prop :=
  client.isAtc = true ∧ 0 < client.facilityType

/-- The client has the privilege. -/
def Client.Holds {F : Type} (client : Client F) : Privilege -> Prop
  | .none => True
  | .atc => client.isAtc = true
  | .activeAtc => client.IsActiveAtc
  | .supervisor => NetworkRatingSupervisor ≤ client.networkRating

/-- The privilege for a client query or response of the given type. -/
def queryPrivilege (packetType : PacketType) (queryType : Bytes) : Privilege :=
  if queryType ∈ unprivilegedAtcQueries then .atc
  else if queryType ∈ privilegedAtcQueries then .activeAtc
  else if packetType = .clientQuery ∧ queryType = bytes "INF" then .supervisor
  else .none

/-- The privilege for a text message to the given recipient. -/
def textPrivilege (recipient : Bytes) : Privilege :=
  if recipient = bytes "@49999" then .atc
  else if recipient = bytes "*" then .supervisor
  else .none

/-- The privilege that the sender of a packet needs. -/
def requiredPrivilege (packet : Bytes) : Privilege :=
  match getPacketType packet with
  | .textMessage => textPrivilege (getField packet 1)
  | .proController =>
      if getField packet 3 ∈ privilegedProcontrollerTypes then .activeAtc else .atc
  | .clientQuery => queryPrivilege .clientQuery (getField packet 2)
  | .clientQueryResponse => queryPrivilege .clientQueryResponse (getField packet 2)
  | .handoffRequest => .activeAtc
  | .handoffAccept => .activeAtc
  | .flightPlanAmendment => .activeAtc
  | _ => .none

/-- An event that a client may cause: anything on itself, and on others what
its privileges cover. -/
def Client.MayCause {F : Type} (actor : Client F) (id : SessionId) : Event -> Prop
  | .send recipient packet => recipient = id ∨ actor.Holds (requiredPrivilege packet)
  | .cancel victim => victim = id ∨ actor.Holds .supervisor
  | .metarRequest client _ => client = id

/-- Everything that a turn of one client's event loop may change. -/
structure Acts {F : Type} (md5 : Bytes -> List.Vector UInt8 16) (actor : Client F) (id : SessionId)
    (s next : Server F) : Prop where
  clientMap : next.postOffice.clientMap = s.postOffice.clientMap
  loginData : forall other, (next.clients other).toLoginData = (s.clients other).toLoginData
  authState : forall other clientId challenge,
    (s.clients other).authState.InitializedFrom md5 clientId challenge ->
      (next.clients other).authState.InitializedFrom md5 clientId challenge
  facilityType : forall other, (next.clients other).facilityType = (s.clients other).facilityType ∨
    isAllowedFacilityType (s.clients other).networkRating (next.clients other).facilityType = true
  flightPlan : forall other, other ≠ id ->
    (next.clients other).flightPlan = (s.clients other).flightPlan ∨ actor.Holds .activeAtc
  events : Exists fun caused => next.events = s.events ++ caused ∧
    forall event, event ∈ caused -> actor.MayCause id event

variable {F : Type} {md5 : Bytes -> List.Vector UInt8 16} {actor : Client F} {id : SessionId}

namespace Acts

theorem refl (s : Server F) : Acts md5 actor id s s where
  clientMap := rfl
  loginData := fun _ => rfl
  authState := fun _ _ _ initialized => initialized
  facilityType := fun _ => Or.inl rfl
  flightPlan := fun _ _ => Or.inl rfl
  events := ⟨[], (List.append_nil _).symm, fun _ member => absurd member List.not_mem_nil⟩

theorem trans {s middle next : Server F} (left : Acts md5 actor id s middle)
    (right : Acts md5 actor id middle next) : Acts md5 actor id s next where
  clientMap := right.clientMap.trans left.clientMap
  loginData := fun other => (right.loginData other).trans (left.loginData other)
  authState := fun other clientId challenge initialized =>
    right.authState other clientId challenge (left.authState other clientId challenge initialized)
  facilityType := by
    intro other
    have rating : (middle.clients other).networkRating = (s.clients other).networkRating :=
      congrArg LoginData.networkRating (left.loginData other)
    rcases right.facilityType other with same | allowed
    · rw [same]
      exact left.facilityType other
    · rw [rating] at allowed
      exact Or.inr allowed
  flightPlan := by
    intro other different
    rcases right.flightPlan other different with same | held
    · rw [same]
      exact left.flightPlan other different
    · exact Or.inr held
  events := by
    rcases left.events with ⟨earlier, earlierSame, earlierAllowed⟩
    rcases right.events with ⟨later, laterSame, laterAllowed⟩
    refine ⟨earlier ++ later, by rw [laterSame, earlierSame, List.append_assoc], ?_⟩
    intro event member
    rcases List.mem_append.mp member with early | late
    · exact earlierAllowed event early
    · exact laterAllowed event late

end Acts

/-- A change of a client's own fields beside those that `Acts` protects. -/
structure Harmless (md5 : Bytes -> List.Vector UInt8 16) (client changed : Client F) : Prop where
  loginData : changed.toLoginData = client.toLoginData
  authState : forall clientId challenge, client.authState.InitializedFrom md5 clientId challenge ->
    changed.authState.InitializedFrom md5 clientId challenge
  facilityType : changed.facilityType = client.facilityType ∨
    isAllowedFacilityType client.networkRating changed.facilityType = true

namespace Server

/-- A harmless change of one client, which for another client's flight plan
needs the privilege to amend it. -/
theorem acts_modifyClient (s : Server F) {changedId : SessionId} {change : Client F -> Client F}
    (harmless : Harmless md5 (s.clients changedId) (change (s.clients changedId)))
    (flightPlan : changedId ≠ id ->
      (change (s.clients changedId)).flightPlan = (s.clients changedId).flightPlan ∨
        actor.Holds .activeAtc) :
    Acts md5 actor id s (s.modifyClient changedId change) where
  clientMap := rfl
  loginData := by
    intro other
    by_cases same : other = changedId
    · rw [same, modifyClient_same]
      exact harmless.loginData
    · rw [modifyClient_other s change same]
  authState := by
    intro other clientId challenge initialized
    by_cases same : other = changedId
    · rw [same] at initialized ⊢
      rw [modifyClient_same]
      exact harmless.authState clientId challenge initialized
    · rw [modifyClient_other s change same]
      exact initialized
  facilityType := by
    intro other
    by_cases same : other = changedId
    · rw [same, modifyClient_same]
      exact harmless.facilityType
    · rw [modifyClient_other s change same]
      exact Or.inl rfl
  flightPlan := by
    intro other different
    by_cases same : other = changedId
    · subst same
      rw [modifyClient_same]
      exact flightPlan different
    · rw [modifyClient_other s change same]
      exact Or.inl rfl
  events := ⟨[], (List.append_nil _).symm, fun _ member => absurd member List.not_mem_nil⟩

/-- A change of fields of the client itself that `Acts` does not mention. -/
theorem acts_modifySelf (s : Server F) {change : Client F -> Client F}
    (loginData : (change (s.clients id)).toLoginData = (s.clients id).toLoginData)
    (authState : (change (s.clients id)).authState = (s.clients id).authState)
    (facilityType : (change (s.clients id)).facilityType = (s.clients id).facilityType) :
    Acts md5 actor id s (s.modifyClient id change) := by
  refine s.acts_modifyClient ⟨loginData, ?_, Or.inl facilityType⟩
    (fun different => absurd rfl different)
  intro clientId challenge initialized
  rw [authState]
  exact initialized

/-- Only events are added, and they are allowed. -/
theorem acts_events (s : Server F) {caused : List Event}
    (allowed : forall event, event ∈ caused -> actor.MayCause id event) :
    Acts md5 actor id s { s with events := s.events ++ caused } where
  clientMap := rfl
  loginData := fun _ => rfl
  authState := fun _ _ _ initialized => initialized
  facilityType := fun _ => Or.inl rfl
  flightPlan := fun _ _ => Or.inl rfl
  events := ⟨caused, rfl, allowed⟩

/-- Only the tree is changed. -/
theorem acts_tree (s : Server F) (tree : List (Entry F)) :
    Acts md5 actor id s { s with postOffice := { s.postOffice with tree := tree } } where
  clientMap := rfl
  loginData := fun _ => rfl
  authState := fun _ _ _ initialized => initialized
  facilityType := fun _ => Or.inl rfl
  flightPlan := fun _ _ => Or.inl rfl
  events := ⟨[], (List.append_nil _).symm, fun _ member => absurd member List.not_mem_nil⟩

theorem acts_sendTo (s : Server F) {recipient : SessionId} {packet : Bytes}
    (allowed : recipient = id ∨ actor.Holds (requiredPrivilege packet)) :
    Acts md5 actor id s (s.sendTo recipient packet) := by
  refine s.acts_events ?_
  intro event member
  rw [List.mem_singleton.mp member]
  exact allowed

theorem acts_sendSelf (s : Server F) (packet : Bytes) :
    Acts md5 actor id s (s.sendTo id packet) :=
  s.acts_sendTo (Or.inl rfl)

theorem acts_sendError (s : Server F) (code : Int) (message : Bytes) :
    Acts md5 actor id s (s.sendError id code message) :=
  s.acts_sendSelf (errorPacket code message)

theorem acts_cancelCtx (s : Server F) {victim : SessionId}
    (allowed : victim = id ∨ actor.Holds .supervisor) :
    Acts md5 actor id s (s.cancelCtx victim) := by
  have marked : Acts md5 actor id s
      (s.modifyClient victim fun client => { client with cancelled := true }) :=
    s.acts_modifyClient ⟨rfl, fun _ _ initialized => initialized, Or.inl rfl⟩
      (fun _ => Or.inl rfl)
  refine marked.trans (acts_events _ ?_)
  intro event member
  rw [List.mem_singleton.mp member]
  exact allowed

theorem acts_sendDirectOrErr (s : Server F) (recipient : Bytes) {packet : Bytes}
    (held : actor.Holds (requiredPrivilege packet)) :
    Acts md5 actor id s (s.sendDirectOrErr id recipient packet) := by
  cases found : s.find recipient with
  | none =>
      unfold sendDirectOrErr
      rw [found]
      exact s.acts_sendError _ _
  | some target =>
      rw [sendDirectOrErr_of_find found]
      refine s.acts_events ?_
      intro event member
      rcases List.mem_cons.mp member with direct | told
      · rw [direct]
        exact Or.inr held
      · rw [mem_refusal told]
        exact Or.inl rfl

theorem acts_broadcastAllWhere (s : Server F) (accepts : Client F -> Bool) {packet : Bytes}
    (held : actor.Holds (requiredPrivilege packet)) :
    Acts md5 actor id s (s.broadcastAllWhere id accepts packet) := by
  rw [broadcastAllWhere_eq]
  refine s.acts_events ?_
  intro event member
  rcases List.mem_map.mp member with ⟨recipient, _, sent⟩
  rw [← sent]
  exact Or.inr held

variable [GoFloat F]

theorem acts_broadcastRangedWhere (s : Server F) (accepts : Client F -> Bool) {packet : Bytes}
    (held : actor.Holds (requiredPrivilege packet)) :
    Acts md5 actor id s (s.broadcastRangedWhere id accepts packet) := by
  rcases s.broadcastRangedWhere_eq id accepts packet with ⟨dist, same⟩
  rw [same]
  have searched : Acts md5 actor id s (s.setClosest id dist) :=
    s.acts_modifySelf rfl rfl rfl
  refine searched.trans (acts_events _ ?_)
  intro event member
  rcases List.mem_map.mp member with ⟨recipient, _, sent⟩
  rw [← sent]
  exact Or.inr held

theorem acts_updatePosition (s : Server F) (newCenter : F × F) (newVisRange : F) :
    Acts md5 actor id s (s.updatePosition id newCenter newVisRange) := by
  have stored : Acts md5 actor id s (s.storePosition id newCenter newVisRange) :=
    s.acts_modifySelf rfl rfl rfl
  unfold updatePosition
  dsimp only
  split
  · exact stored
  · exact stored.trans (acts_tree _ _)

end Server
end Fsd
end OpenFsd
