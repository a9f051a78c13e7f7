import OpenFsd.Fsd.Traffic

namespace OpenFsd
namespace Fsd

open Transition Traffic

/-!
# The login phase

From its registration on a session receives the add packets of the sessions
that log in after it, and of those that are not through with their broadcast.
It empties its queue only when its own broadcast is finished.

Every other session sends a session one add packet at most.  With 33 sessions
there are 32 others, and so the queues never overflow.  With one more, two
sessions can wait for each other.
-/

/-- So many sessions are about to log in, and nothing else happens. -/
def logins (count : Nat) : Traffic where
  registered := []
  queued := fun _ => 0
  cancelled := fun _ => false
  worker := fun _ => .absent
  ops := fun id => ⟨.login id, loginActs id⟩
  begun := count

/-- The steps of the logins, and of the workers that they have started. -/
def Label.isLogin : Label -> Bool
  | .advance _ _ => true
  | .receive _ => true
  | .flush _ => true
  | _ => false

def loginStep (callsign : SessionId -> Bytes) : Traffic -> Label -> Option Traffic :=
  restrict Label.isLogin (step callsign)

/-- The session has started its login, and has not reached its event loop. -/
def LoggingIn (traffic : Traffic) (id : SessionId) : Prop :=
  id < traffic.begun ∧ (traffic.ops id).todo ≠ loginActs id ∧ (traffic.ops id).todo ≠ []

/-- Whatever the callsigns, and in every interleaving: as long as some session
is logging in, some step is enabled. -/
def DeadlockFree (count : Nat) : Prop :=
  forall (callsign : SessionId -> Bytes) (traffic : Traffic),
    Reaches (loginStep callsign) (logins count) traffic ->
      (Exists fun id => LoggingIn traffic id) ->
        Exists fun label => Exists fun next => loginStep callsign traffic label = some next

/-! ## The invariant -/

/-- What a session still has to do in its login. -/
inductive LoginShape (count : Nat) (id : SessionId) : List Act -> Prop
  | starting : LoginShape count id (loginActs id)
  | waiting : LoginShape count id
      [.insert id, .call .tree, .reindex, .write, .visit .clientMap (fun _ => true), .work]
  | mapped : LoginShape count id
      [.call .tree, .reindex, .write, .visit .clientMap (fun _ => true), .work]
  | indexing : LoginShape count id [.reindex, .write, .visit .clientMap (fun _ => true), .work]
  | registered : LoginShape count id [.write, .visit .clientMap (fun _ => true), .work]
  | greeted : LoginShape count id [.visit .clientMap (fun _ => true), .work]
  | sending (order : List SessionId) (nodup : order.Nodup) (others : id ∉ order)
      (below : forall target, target ∈ order -> target < count) :
      LoginShape count id [.sending .clientMap order, .work]
  | sent : LoginShape count id [.work]
  | finished : LoginShape count id []

/-- How often an act may still send to a client. -/
def Act.maySendTo (target : SessionId) : Act -> Nat
  | .visit _ _ => 1
  | .sending _ order => order.count target
  | _ => 0

/-- The packets that a login may still send to another session. -/
def Op.maySendTo (target : SessionId) (op : Op) : Nat :=
  if op.request.owner = some target then 0 else (op.todo.map (Act.maySendTo target)).sum

/-- The invariant of the login phase.  The packets in a queue and those that
may still come are no more than there are other sessions. -/
structure LoginSound (count : Nat) (traffic : Traffic) : Prop where
  begun : traffic.begun = count
  request : forall id, (traffic.ops id).request = .login id
  shape : forall id, LoginShape count id (traffic.ops id).todo
  nodup : traffic.registered.Nodup
  below : forall id, id ∈ traffic.registered -> id < count
  bounded : forall target, target < count ->
    traffic.queued target +
      Finset.sum (Finset.range count) (fun id => (traffic.ops id).maySendTo target) + 1 ≤ count

theorem maySendTo_login (target id : SessionId) :
    (⟨.login id, loginActs id⟩ : Op).maySendTo target = if id = target then 0 else 1 := by
  unfold Op.maySendTo loginActs
  simp only [Request.owner, Option.some.injEq]
  rfl

theorem loginSound_logins (count : Nat) : LoginSound count (logins count) where
  begun := rfl
  request := fun _ => rfl
  shape := fun _ => .starting
  nodup := List.nodup_nil
  below := fun _ member => absurd member List.not_mem_nil
  bounded := by
    intro target below
    have member : target ∈ Finset.range count := Finset.mem_range.mpr below
    have others : Finset.sum ((Finset.range count).erase target)
        (fun id => ((logins count).ops id).maySendTo target) =
          ((Finset.range count).erase target).card * 1 := by
      apply Finset.sum_const_nat
      intro id other
      exact (maySendTo_login target id).trans (if_neg (Finset.ne_of_mem_erase other))
    have self : ((logins count).ops target).maySendTo target = 0 :=
      (maySendTo_login target target).trans (if_pos rfl)
    rw [← Finset.add_sum_erase _ _ member, others, self, Finset.card_erase_of_mem member,
      Finset.card_range]
    show 0 + (0 + (count - 1) * 1) + 1 ≤ count
    omega

/-! ## The steps -/

/-- What one act of a login does: the login goes on in its order, and no queue
gains more than the act may have sent to it. -/
structure LoginAdvanced (count : Nat) (traffic next : Traffic) (index : Nat) : Prop where
  begun : next.begun = traffic.begun
  ops : next.ops = Function.update traffic.ops index ⟨.login index, (next.ops index).todo⟩
  shape : LoginShape count index (next.ops index).todo
  nodup : next.registered.Nodup
  below : forall id, id ∈ next.registered -> id < count
  bounded : forall target, next.queued target + (next.ops index).maySendTo target ≤
    traffic.queued target + (traffic.ops index).maySendTo target

/-- An act that touches neither the map nor a queue. -/
theorem LoginSound.advanced_setTodo {count : Nat} {traffic : Traffic}
    (sound : LoginSound count traffic) (index : Nat) {todo : List Act}
    (shape : LoginShape count index todo)
    (fewer : forall target, (⟨.login index, todo⟩ : Op).maySendTo target ≤
      (traffic.ops index).maySendTo target) :
    LoginAdvanced count traffic (traffic.setTodo index todo) index := by
  have ops : (traffic.setTodo index todo).ops index = ⟨.login index, todo⟩ := by
    rw [setTodo_ops, Function.update_self, sound.request]
  constructor
  · rfl
  · rw [ops, setTodo_ops, sound.request]
  · rw [ops]
    exact shape
  · exact sound.nodup
  · exact sound.below
  · intro target
    rw [ops]
    exact Nat.add_le_add_left (fewer target) _

theorem maySendTo_mono {owner target : SessionId} {todo rest : List Act}
    (fewer : (rest.map (Act.maySendTo target)).sum ≤ (todo.map (Act.maySendTo target)).sum) :
    (⟨.login owner, rest⟩ : Op).maySendTo target ≤ (⟨.login owner, todo⟩ : Op).maySendTo target := by
  unfold Op.maySendTo
  dsimp only
  split
  · exact Nat.le_refl 0
  · exact fewer

theorem maySendTo_sending_of_nodup {order : List SessionId} (nodup : order.Nodup)
    (mutex : Mutex) (target : SessionId) : Act.maySendTo target (.sending mutex order) ≤ 1 :=
  List.nodup_iff_count_le_one.mp nodup target

theorem maySendTo_sending (id target : SessionId) (order : List SessionId) :
    (⟨.login id, [.sending .clientMap order, .work]⟩ : Op).maySendTo target =
      if id = target then 0 else order.count target := by
  unfold Op.maySendTo
  simp only [Request.owner, Option.some.injEq]
  rfl

/-- A packet that is queued is one that can no longer come. -/
theorem bounded_of_served {traffic : Traffic} {id target : SessionId} {later : List SessionId}
    (different : id ≠ target) (other : SessionId) :
    (traffic.enqueue target).queued other +
        (⟨.login id, [.sending .clientMap later, .work]⟩ : Op).maySendTo other ≤
      traffic.queued other +
        (⟨.login id, [.sending .clientMap (target :: later), .work]⟩ : Op).maySendTo other := by
  rw [maySendTo_sending, maySendTo_sending]
  unfold enqueue
  by_cases same : other = target
  · subst same
    rw [if_neg different, if_neg different, List.count_cons_self]
    dsimp only
    rw [Function.update_self]
    omega
  · dsimp only
    rw [Function.update_of_ne same, List.count_cons_of_ne (Ne.symm same)]

theorem LoginSound.advanced {count : Nat} {traffic next : Traffic} (sound : LoginSound count traffic)
    {callsign : SessionId -> Bytes} {index : Nat} {act : Act} {rest : List Act}
    (below : index < count) (todo : (traffic.ops index).todo = act :: rest)
    (outcome : Advanced callsign traffic index rest act next) :
    LoginAdvanced count traffic next index := by
  have op : traffic.ops index = ⟨.login index, act :: rest⟩ := by
    rw [← todo, ← sound.request index]
  have shape := sound.shape index
  rw [todo] at shape
  cases shape with
  | starting =>
      cases outcome with
      | called mutex =>
          refine sound.advanced_setTodo index .waiting ?_
          intro target
          rw [op]
          exact maySendTo_mono (Nat.le_refl 1)
  | waiting =>
      cases outcome with
      | inUse id other free member same =>
          refine sound.advanced_setTodo index .finished ?_
          intro target
          rw [op]
          exact maySendTo_mono (Nat.zero_le 1)
      | inserted id free unused =>
          have popped := sound.advanced_setTodo index .mapped (fun target => by
            rw [op]
            exact maySendTo_mono (Nat.le_refl 1))
          refine ⟨popped.begun, popped.ops, popped.shape, ?_, ?_, popped.bounded⟩
          · exact List.nodup_cons.mpr ⟨fun member => unused index member rfl, sound.nodup⟩
          · intro id member
            rcases List.mem_cons.mp member with same | inRest
            · rw [same]
              exact below
            · exact sound.below id inRest
  | mapped =>
      cases outcome with
      | called mutex =>
          refine sound.advanced_setTodo index .indexing ?_
          intro target
          rw [op]
          exact maySendTo_mono (Nat.le_refl 1)
  | indexing =>
      cases outcome with
      | reindexed free =>
          refine sound.advanced_setTodo index .registered ?_
          intro target
          rw [op]
          exact maySendTo_mono (Nat.le_refl 1)
  | registered =>
      cases outcome with
      | wrote =>
          refine sound.advanced_setTodo index .greeted ?_
          intro target
          rw [op]
          exact maySendTo_mono (Nat.le_refl 1)
  | greeted =>
      cases outcome with
      | visited mutex accepts order admitted listed =>
          have nodup : order.Nodup := listed.nodup_iff.mpr (sound.nodup.filter _)
          have member : forall id, id ∈ order -> id ≠ index ∧ id ∈ traffic.registered := by
            intro id inOrder
            rcases List.mem_filter.mp (listed.mem_iff.mp inOrder) with ⟨registered, accepted⟩
            rw [Bool.and_true, sound.request index, decide_eq_true_eq] at accepted
            exact ⟨fun same => accepted (congrArg some same.symm), registered⟩
          refine sound.advanced_setTodo index (.sending order nodup ?_ ?_) ?_
          · exact fun inOrder => (member index inOrder).1 rfl
          · exact fun id inOrder => sound.below id (member id inOrder).2
          · intro target
            rw [op]
            exact maySendTo_mono (maySendTo_sending_of_nodup nodup .clientMap target)
  | sending order nodup others inRange =>
      cases outcome with
      | finished mutex =>
          refine sound.advanced_setTodo index .sent ?_
          intro target
          rw [op]
          exact maySendTo_mono (Nat.le_refl 0)
      | served mutex target later room =>
          have different : index ≠ target := fun same => others (same ▸ List.mem_cons_self)
          have queued := sound.advanced_setTodo index
            (.sending later (List.nodup_cons.mp nodup).2
              (fun member => others (List.mem_cons_of_mem target member))
              (fun id member => inRange id (List.mem_cons_of_mem target member))) (fun other => by
            rw [op]
            exact maySendTo_mono (Nat.add_le_add_right (List.count_le_count_cons ..) 0))
          refine ⟨queued.begun, queued.ops, queued.shape, queued.nodup, queued.below, ?_⟩
          intro other
          have same : ((traffic.enqueue target).setTodo index
              [.sending .clientMap later, .work]).ops index =
                ⟨.login index, [.sending .clientMap later, .work]⟩ := by
            rw [setTodo_ops, Function.update_self]
            exact congrArg (fun request => (⟨request, _⟩ : Op)) (sound.request index)
          rw [same, op]
          exact bounded_of_served different other
      | skipped mutex target later ended =>
          refine sound.advanced_setTodo index (.sending later (List.nodup_cons.mp nodup).2
            (fun member => others (List.mem_cons_of_mem target member))
            (fun id member => inRange id (List.mem_cons_of_mem target member))) ?_
          intro other
          rw [op]
          exact maySendTo_mono (Nat.add_le_add_right (List.count_le_count_cons ..) 0)
  | sent =>
      cases outcome with
      | worked owner own =>
          have popped := sound.advanced_setTodo index .finished (fun target => by
            rw [op]
            exact maySendTo_mono (Nat.le_refl 0))
          exact ⟨popped.begun, popped.ops, popped.shape, popped.nodup, popped.below, popped.bounded⟩

theorem LoginSound.of_advanced {count : Nat} {traffic next : Traffic}
    (sound : LoginSound count traffic) {index : Nat} (inRange : index < count)
    (advanced : LoginAdvanced count traffic next index) : LoginSound count next := by
  have other : forall id, id ≠ index -> next.ops id = traffic.ops id := by
    intro id different
    rw [advanced.ops, Function.update_of_ne different]
  constructor
  · exact advanced.begun.trans sound.begun
  · intro id
    by_cases same : id = index
    · rw [same, advanced.ops, Function.update_self]
    · rw [other id same]
      exact sound.request id
  · intro id
    by_cases same : id = index
    · rw [same]
      exact advanced.shape
    · rw [other id same]
      exact sound.shape id
  · exact advanced.nodup
  · exact advanced.below
  · intro target below
    have before := sound.bounded target below
    have local_ := advanced.bounded target
    have total := sum_update_add (Op.maySendTo target) traffic.ops inRange (next.ops index)
    have ops : next.ops = Function.update traffic.ops index (next.ops index) := by
      conv_rhs => rw [advanced.ops, Function.update_self]
      exact advanced.ops
    rw [← ops] at total
    omega

theorem LoginSound.step {count : Nat} {callsign : SessionId -> Bytes} {traffic next : Traffic}
    {label : Label} (sound : LoginSound count traffic)
    (taken : loginStep callsign traffic label = some next) : LoginSound count next := by
  rcases restrict_eq_some.mp taken with ⟨allowed, stepped⟩
  cases moved_of_step stepped with
  | begun request permitted => cases allowed
  | hungUp id => cases allowed
  | advanced below todo outcome =>
      rw [sound.begun] at below
      exact sound.of_advanced below (sound.advanced below todo outcome)
  | received id idle waiting =>
      refine ⟨sound.begun, sound.request, sound.shape, sound.nodup, sound.below, ?_⟩
      intro target below
      have before := sound.bounded target below
      unfold received
      dsimp only
      by_cases same : target = id
      · subst same
        rw [Function.update_self]
        omega
      · rw [Function.update_of_ne same]
        exact before
  | flushed id writing =>
      exact ⟨sound.begun, sound.request, sound.shape, sound.nodup, sound.below, sound.bounded⟩

theorem loginSound_of_reaches {count : Nat} {callsign : SessionId -> Bytes} {traffic : Traffic}
    (reached : Reaches (loginStep callsign) (logins count) traffic) : LoginSound count traffic :=
  invariant_of_reaches (fun _ _ _ taken sound => sound.step taken) (loginSound_logins count) reached

/-! ## Up to 33 sessions -/

/-- Where there are at most 32 others, a session that is still to be sent to
has room in its queue. -/
theorem LoginSound.room {count : Nat} {traffic : Traffic} (sound : LoginSound count traffic)
    (few : count ≤ 33) {index : Nat} {act : Act} {rest : List Act} {target : SessionId}
    (current : At traffic index act rest) (sends : act.sendsTo = some target) :
    ¬ traffic.Full target := by
  have inRange : index < count := sound.begun ▸ current.below
  have op : traffic.ops index = ⟨.login index, act :: rest⟩ := by
    rw [← current.todo, ← sound.request index]
  have shape := sound.shape index
  rw [current.todo] at shape
  cases shape with
  | sending order nodup others below =>
      cases order with
      | nil => cases sends
      | cons first later =>
          cases sends
          have targetBelow := below target List.mem_cons_self
          have different : index ≠ target := fun same => others (same ▸ List.mem_cons_self)
          have bounded := sound.bounded target targetBelow
          have own : (traffic.ops index).maySendTo target ≤
              Finset.sum (Finset.range count) fun id => (traffic.ops id).maySendTo target :=
            Finset.single_le_sum (f := fun id => (traffic.ops id).maySendTo target)
              (fun _ _ => Nat.zero_le _) (Finset.mem_range.mpr inRange)
          have positive : 0 < (traffic.ops index).maySendTo target := by
            rw [op, maySendTo_sending, if_neg different, List.count_cons_self]
            exact Nat.succ_pos _
          intro full
          have capacity : 32 ≤ traffic.queued target := full.1
          omega
  | _ => cases sends

theorem deadlockFree_of_le {count : Nat} (few : count ≤ 33) : DeadlockFree count := by
  intro callsign traffic reached busy
  have sound := loginSound_of_reaches reached
  rcases busy with ⟨id, below, _, unfinished⟩
  rcases List.exists_cons_of_ne_nil unfinished with ⟨first, remaining, todo⟩
  rcases exists_unblocked ⟨id, first, remaining, below, todo⟩
    (fun index act rest target current sends => sound.room few current sends) with
    ⟨index, act, rest, current, free⟩
  rcases exists_advanced callsign rest (fun _ => congrArg Request.owner (sound.request index)) free
    with ⟨next, outcome⟩
  rcases exists_step_of_advanced current.below current.todo outcome with ⟨choice, taken⟩
  exact ⟨.advance index choice, next, restrict_eq_some.mpr ⟨rfl, taken⟩⟩

/-! ## From 34 sessions on -/

theorem reaches_of_advanced (callsign : SessionId -> Bytes) {traffic next : Traffic} {index : Nat}
    {act : Act} {rest : List Act} (current : At traffic index act rest)
    (outcome : Advanced callsign traffic index rest act next) :
    Reaches (loginStep callsign) traffic next :=
  current.reaches (fun _ _ => rfl) outcome

/-- One operation goes on, and the packets that it sends are queued. -/
structure Progressed (index : Nat) (todo : List Act) (sent : SessionId -> Nat)
    (traffic next : Traffic) : Prop where
  begun : next.begun = traffic.begun
  registered : next.registered = traffic.registered
  cancelled : next.cancelled = traffic.cancelled
  worker : next.worker = traffic.worker
  ops : next.ops = Function.update traffic.ops index ⟨(traffic.ops index).request, todo⟩
  queued : forall id, next.queued id = traffic.queued id + sent id

theorem Progressed.todo {index : Nat} {todo : List Act} {sent : SessionId -> Nat}
    {traffic next : Traffic} (progressed : Progressed index todo sent traffic next) :
    (next.ops index).todo = todo := by
  rw [progressed.ops, Function.update_self]

theorem progressed_setTodo (traffic : Traffic) (index : Nat) (todo : List Act) :
    Progressed index todo (fun _ => 0) traffic (traffic.setTodo index todo) :=
  ⟨rfl, rfl, rfl, rfl, rfl, fun _ => rfl⟩

theorem Progressed.trans {index : Nat} {first second : List Act} {sent more : SessionId -> Nat}
    {traffic middle next : Traffic} (left : Progressed index first sent traffic middle)
    (right : Progressed index second more middle next) :
    Progressed index second (fun id => sent id + more id) traffic next where
  begun := right.begun.trans left.begun
  registered := right.registered.trans left.registered
  cancelled := right.cancelled.trans left.cancelled
  worker := right.worker.trans left.worker
  ops := by
    rw [right.ops, left.ops, Function.update_self, Function.update_idem]
  queued := by
    intro id
    rw [right.queued, left.queued, Nat.add_assoc]

/-- A broadcast whose recipients all have room serves them. -/
theorem exists_served (callsign : SessionId -> Bytes) {traffic : Traffic} {index : Nat}
    {order : List SessionId} {rest : List Act}
    (current : At traffic index (.sending .clientMap order) rest)
    (room : forall id, id ∈ order -> traffic.queued id + order.count id ≤ sendChanCapacity) :
    Exists fun next => Reaches (loginStep callsign) traffic next ∧
      Progressed index (.sending .clientMap [] :: rest) (fun id => order.count id) traffic next := by
  induction order generalizing traffic with
  | nil =>
      refine ⟨traffic, Reaches.refl traffic, rfl, rfl, rfl, rfl, ?_, fun _ => rfl⟩
      rw [← current.todo]
      exact (Function.update_eq_self index traffic.ops).symm
  | cons target others inductionHypothesis =>
      have enough := room target List.mem_cons_self
      rw [List.count_cons_self] at enough
      have free : traffic.queued target < sendChanCapacity := by omega
      have first : Progressed index (.sending .clientMap others :: rest)
          (fun id => if target = id then 1 else 0) traffic
          ((traffic.enqueue target).setTodo index (.sending .clientMap others :: rest)) := by
        refine ⟨rfl, rfl, rfl, rfl, rfl, ?_⟩
        intro id
        show Function.update traffic.queued target (traffic.queued target + 1) id = _
        by_cases same : id = target
        · rw [same, Function.update_self, if_pos rfl]
        · rw [Function.update_of_ne same, if_neg (Ne.symm same), Nat.add_zero]
      have counted : forall id,
          (target :: others).count id = (if target = id then 1 else 0) + others.count id := by
        intro id
        rw [List.count_cons, Nat.add_comm]
        congr 1
        exact if_congr beq_iff_eq rfl rfl
      have laterRoom : forall id, id ∈ others ->
          ((traffic.enqueue target).setTodo index (.sending .clientMap others :: rest)).queued id +
            others.count id ≤ sendChanCapacity := by
        intro id member
        have before := room id (List.mem_cons_of_mem target member)
        rw [counted] at before
        rw [first.queued]
        omega
      have later : At ((traffic.enqueue target).setTodo index (.sending .clientMap others :: rest))
          index (.sending .clientMap others) rest := ⟨current.below, setTodo_todo _ _ _⟩
      rcases inductionHypothesis later laterRoom with ⟨next, reached, progressed⟩
      have served := reaches_of_advanced callsign current (.served .clientMap target others free)
      refine ⟨next, served.trans reached, ?_⟩
      have both := first.trans progressed
      rw [← funext counted] at both
      exact both

/-- An idle worker can empty its queue, and is idle again. -/
theorem reaches_emptied (callsign : SessionId -> Bytes) (waiting : Nat) {traffic : Traffic}
    {id : SessionId} (idle : traffic.worker id = .idle) (queued : traffic.queued id = waiting) :
    Reaches (loginStep callsign) traffic
      { traffic with queued := Function.update traffic.queued id 0 } := by
  induction waiting generalizing traffic with
  | zero =>
      rw [← queued, Function.update_eq_self]
      exact Reaches.refl _
  | succ waiting inductionHypothesis =>
      have taken := step_receive callsign idle (by omega)
      have writing : (traffic.received id).worker id = .writing := Function.update_self ..
      have written := step_flush callsign writing
      have idleAgain : ((traffic.received id).flushed id).worker id = .idle :=
        Function.update_self ..
      have fewer : ((traffic.received id).flushed id).queued id = waiting := by
        show Function.update traffic.queued id (traffic.queued id - 1) id = waiting
        rw [Function.update_self]
        omega
      have rest := inductionHypothesis idleAgain fewer
      have result : ({ (traffic.received id).flushed id with
          queued := Function.update ((traffic.received id).flushed id).queued id 0 } : Traffic) =
            { traffic with queued := Function.update traffic.queued id 0 } := by
        unfold flushed received
        dsimp only
        rw [Function.update_idem, Function.update_idem, ← idle, Function.update_eq_self]
      rw [result] at rest
      have once : Reaches (loginStep callsign) traffic ((traffic.received id).flushed id) :=
        (Reaches.single (restrict_eq_some.mpr ⟨rfl, taken⟩)).tail
          (restrict_eq_some.mpr ⟨rfl, written⟩)
      exact once.trans rest

/-- The workers can empty their queues. -/
theorem exists_drained (callsign : SessionId -> Bytes) (traffic : Traffic) (bound : Nat) :
    Exists fun queued => Reaches (loginStep callsign) traffic { traffic with queued := queued } ∧
      forall id, queued id =
        if traffic.worker id = .idle ∧ id < bound then 0 else traffic.queued id := by
  induction bound with
  | zero =>
      refine ⟨traffic.queued, Reaches.refl traffic, ?_⟩
      intro id
      exact (if_neg fun both => Nat.not_lt_zero id both.2).symm
  | succ bound inductionHypothesis =>
      rcases inductionHypothesis with ⟨queued, reached, drained⟩
      by_cases idle : traffic.worker bound = .idle
      · refine ⟨_, reached.trans (reaches_emptied callsign _ idle rfl), ?_⟩
        intro id
        by_cases same : id = bound
        · rw [same, Function.update_self, if_pos ⟨idle, Nat.lt_succ_self bound⟩]
        · rw [Function.update_of_ne same]
          refine (drained id).trans ?_
          exact if_congr ⟨fun both => ⟨both.1, Nat.lt_succ_of_lt both.2⟩,
            fun both => ⟨both.1, Nat.lt_of_le_of_ne (Nat.le_of_lt_succ both.2) same⟩⟩ rfl rfl
      · refine ⟨queued, reached, ?_⟩
        intro id
        rw [drained]
        refine if_congr ⟨fun both => ⟨both.1, Nat.lt_succ_of_lt both.2⟩,
          fun both => ⟨both.1, ?_⟩⟩ rfl rfl
        have different : id ≠ bound := fun same => idle (same ▸ both.1)
        exact Nat.lt_of_le_of_ne (Nat.le_of_lt_succ both.2) different

theorem not_held_setTodo {traffic : Traffic} {mutex : Mutex} (free : ¬ traffic.Held mutex)
    (index : Nat) {todo : List Act} (reads : todo.head?.bind Act.reads = none) :
    ¬ (traffic.setTodo index todo).Held mutex := by
  rintro ⟨other, below, holds⟩
  by_cases same : other = index
  · rw [same, setTodo_todo, reads] at holds
    cases holds
  · rw [setTodo_other traffic todo same] at holds
    exact free ⟨other, below, holds⟩

theorem setTodo_setTodo (traffic : Traffic) (index : Nat) (first second : List Act) :
    (traffic.setTodo index first).setTodo index second = traffic.setTodo index second := by
  unfold setTodo
  simp only [Function.update_self, Function.update_idem]

theorem setTodo_self {traffic : Traffic} {index : Nat} {todo : List Act}
    (current : (traffic.ops index).todo = todo) : traffic.setTodo index todo = traffic := by
  subst current
  unfold setTodo
  rw [Function.update_eq_self]

/-- An act whose only effect is that it is done. -/
theorem reaches_pop {callsign : SessionId -> Bytes} {traffic : Traffic} {index : Nat} {act : Act}
    {rest : List Act} (below : index < traffic.begun)
    (outcome : Advanced callsign (traffic.setTodo index (act :: rest)) index rest act
      ((traffic.setTodo index (act :: rest)).setTodo index rest)) :
    Reaches (loginStep callsign) (traffic.setTodo index (act :: rest)) (traffic.setTodo index rest) := by
  have current : At (traffic.setTodo index (act :: rest)) index act rest :=
    ⟨below, setTodo_todo traffic index (act :: rest)⟩
  have reached := reaches_of_advanced callsign current outcome
  rw [setTodo_setTodo] at reached
  exact reached

/-- Where no lock is held, a session registers, and stands before its broadcast. -/
theorem reaches_registered (callsign : SessionId -> Bytes) {traffic : Traffic} {id : SessionId}
    (free : forall mutex, ¬ traffic.Held mutex) (below : id < traffic.begun)
    (todo : (traffic.ops id).todo = loginActs id)
    (unused : forall other, other ∈ traffic.registered -> callsign other ≠ callsign id) :
    Reaches (loginStep callsign) traffic
      (setTodo { traffic with registered := id :: traffic.registered } id
        [.visit .clientMap (fun _ => true), .work]) := by
  have start : traffic.setTodo id (loginActs id) = traffic := setTodo_self todo
  have called : Reaches (loginStep callsign) (traffic.setTodo id (loginActs id))
      (traffic.setTodo id (loginActs id).tail) := reaches_pop below (.called .clientMap)
  rw [start] at called
  have waits : At (traffic.setTodo id (loginActs id).tail) id (.insert id) (loginActs id).tail.tail :=
    ⟨below, setTodo_todo traffic id (loginActs id).tail⟩
  have inserted := reaches_of_advanced callsign waits
    (.inserted id (not_held_setTodo (free .clientMap) id rfl) unused)
  rw [setTodo_setTodo] at inserted
  generalize mapped : ({ traffic with registered := id :: traffic.registered } : Traffic) = after
  have belowAfter : id < after.begun := mapped ▸ below
  have freeAfter : ¬ after.Held .tree := mapped ▸ free .tree
  have afterInsert : Reaches (loginStep callsign) (traffic.setTodo id (loginActs id).tail)
      (after.setTodo id (loginActs id).tail.tail) := by
    rw [← mapped]
    exact inserted
  have calledTree : Reaches (loginStep callsign) (after.setTodo id (loginActs id).tail.tail)
      (after.setTodo id (loginActs id).tail.tail.tail) := reaches_pop belowAfter (.called .tree)
  have indexed : Reaches (loginStep callsign) (after.setTodo id (loginActs id).tail.tail.tail)
      (after.setTodo id (loginActs id).tail.tail.tail.tail) :=
    reaches_pop belowAfter (.reindexed (not_held_setTodo freeAfter id rfl))
  have wrote : Reaches (loginStep callsign) (after.setTodo id (loginActs id).tail.tail.tail.tail)
      (after.setTodo id [.visit .clientMap (fun _ => true), .work]) := reaches_pop belowAfter .wrote
  exact called.trans (afterInsert.trans (calledTree.trans (indexed.trans wrote)))

/-- Every registered client has room, and the last session to register serves
them all and starts its worker. -/
theorem exists_broadcast (callsign : SessionId -> Bytes) {traffic : Traffic} {id : SessionId}
    (current : At traffic id (.visit .clientMap (fun _ => true)) [.work])
    (owner : (traffic.ops id).request.owner = some id) (admitted : ¬ traffic.Waiting .clientMap)
    (nodup : traffic.registered.Nodup)
    (room : forall other, other ∈ traffic.registered -> traffic.queued other < sendChanCapacity) :
    Exists fun queued => Reaches (loginStep callsign) traffic
        { traffic.setTodo id [] with
          queued := queued, worker := Function.update traffic.worker id .idle } ∧
      forall other, queued other =
        traffic.queued other + if other ∈ traffic.registered ∧ other ≠ id then 1 else 0 := by
  generalize listed : traffic.recipients (some id) (fun _ => true) = order
  have member : forall other, other ∈ order ↔ other ∈ traffic.registered ∧ other ≠ id := by
    intro other
    rw [← listed]
    unfold recipients
    rw [List.mem_filter, Bool.and_true, decide_eq_true_eq]
    constructor
    · exact fun both => ⟨both.1, fun same => both.2 (congrArg some same.symm)⟩
    · exact fun both => ⟨both.1, fun same => both.2 (Option.some.inj same).symm⟩
  have orderNodup : order.Nodup := listed ▸ nodup.filter _
  have visited := reaches_of_advanced callsign current
    (.visited .clientMap _ order admitted (by rw [owner, listed]))
  have sending : At (traffic.setTodo id [.sending .clientMap order, .work]) id
      (.sending .clientMap order) [.work] := ⟨current.below, setTodo_todo _ _ _⟩
  have enough : forall other, other ∈ order ->
      (traffic.setTodo id [.sending .clientMap order, .work]).queued other + order.count other ≤
        sendChanCapacity := by
    intro other inOrder
    have before := room other ((member other).mp inOrder).1
    have once := List.nodup_iff_count_le_one.mp orderNodup other
    show traffic.queued other + order.count other ≤ sendChanCapacity
    omega
  rcases exists_served callsign sending enough with ⟨served, reached, progressed⟩
  have before := (progressed_setTodo traffic id [.sending .clientMap order, .work]).trans progressed
  have servedBelow : id < served.begun := by
    rw [before.begun]
    exact current.below
  have finished := reaches_of_advanced callsign ⟨servedBelow, before.todo⟩
    (.finished .clientMap)
  have atWork : At (served.setTodo id [.work]) id .work [] := ⟨servedBelow, setTodo_todo _ _ _⟩
  have servedOwner : ((served.setTodo id [.work]).ops id).request.owner = some id := by
    rw [setTodo_request, before.ops, Function.update_self]
    exact owner
  have worked := reaches_of_advanced callsign atWork (.worked id servedOwner)
  rw [setTodo_setTodo] at worked
  have all := visited.trans (reached.trans (finished.trans worked))
  have result : ({ served.setTodo id [] with
      worker := Function.update served.worker id .idle } : Traffic) =
        { traffic.setTodo id [] with
          queued := served.queued, worker := Function.update traffic.worker id .idle } := by
    apply Traffic.ext
    · exact before.registered
    · rfl
    · exact before.cancelled
    · exact congrArg (fun worker => Function.update worker id .idle) before.worker
    · show (served.setTodo id []).ops = (traffic.setTodo id []).ops
      rw [setTodo_ops, setTodo_ops, before.ops, Function.update_self, Function.update_idem]
    · exact before.begun
  refine ⟨served.queued, result ▸ all, ?_⟩
  · intro other
    rw [before.queued, Nat.zero_add]
    congr 1
    by_cases inOrder : other ∈ order
    · rw [if_pos ((member other).mp inOrder), List.count_eq_one_of_mem orderNodup inOrder]
    · rw [if_neg fun both => inOrder ((member other).mpr both), List.count_eq_zero_of_not_mem inOrder]

/-- The sessions below the number stand before their broadcast, and the others
have not begun. -/
structure Registering (count number : Nat) (traffic : Traffic) : Prop where
  begun : traffic.begun = count
  request : forall id : Nat, (traffic.ops id).request = .login id
  greeted : forall id : Nat, id < number ->
    (traffic.ops id).todo = [.visit .clientMap (fun _ => true), .work]
  starting : forall id : Nat, number ≤ id -> (traffic.ops id).todo = loginActs id
  member : forall id : Nat, id ∈ traffic.registered ↔ id < number
  nodup : traffic.registered.Nodup
  queued : forall id : Nat, traffic.queued id = 0
  live : forall id : Nat, traffic.cancelled id = false
  absent : forall id : Nat, traffic.worker id = .absent

theorem Registering.not_held {count number : Nat} {traffic : Traffic}
    (registering : Registering count number traffic) (mutex : Mutex) : ¬ traffic.Held mutex := by
  rintro ⟨id, _, holds⟩
  by_cases below : id < number
  · rw [registering.greeted id below] at holds
    cases holds
  · rw [registering.starting id (Nat.not_lt.mp below)] at holds
    cases holds

theorem exists_registering {count number : Nat} (few : number ≤ count) :
    Exists fun traffic => Reaches (loginStep numbered) (logins count) traffic ∧
      Registering count number traffic := by
  induction number with
  | zero =>
      refine ⟨logins count, Reaches.refl _, rfl, fun _ => rfl, ?_, fun _ _ => rfl, ?_,
        List.nodup_nil, fun _ => rfl, fun _ => rfl, fun _ => rfl⟩
      · exact fun id below => absurd below (Nat.not_lt_zero id)
      · exact fun id => iff_of_false List.not_mem_nil (Nat.not_lt_zero id)
  | succ number inductionHypothesis =>
      rcases inductionHypothesis (Nat.le_of_succ_le few) with ⟨traffic, reached, registering⟩
      have below : number < traffic.begun := by
        rw [registering.begun]
        exact few
      have absent : number ∉ traffic.registered :=
        fun member => Nat.lt_irrefl number ((registering.member number).mp member)
      have step := reaches_registered numbered registering.not_held below
        (registering.starting number (Nat.le_refl number))
        (fun other member same => absent (numbered_injective same ▸ member))
      refine ⟨_, reached.trans step, registering.begun, ?_, ?_, ?_, ?_, ?_, registering.queued,
        registering.live, registering.absent⟩
      · intro id
        rw [setTodo_request]
        exact registering.request id
      · intro id idBelow
        by_cases same : id = number
        · rw [same, setTodo_todo]
        · rw [setTodo_other _ _ same]
          exact registering.greeted id (Nat.lt_of_le_of_ne (Nat.le_of_lt_succ idBelow) same)
      · intro id above
        rw [setTodo_other _ _ (Nat.ne_of_gt above)]
        exact registering.starting id (Nat.le_of_succ_le above)
      · intro id
        show id ∈ number :: traffic.registered ↔ id < number + 1
        rw [List.mem_cons, registering.member, Nat.lt_succ_iff_lt_or_eq, or_comm]
      · exact List.nodup_cons.mpr ⟨absent, registering.nodup⟩

/-- The sessions that will not get through their broadcast. -/
def HoldsOut (id : Nat) : Prop :=
  id < 2 ∨ 34 ≤ id

/-- All sessions are registered.  Two and so many after them have made their
broadcast, and the queues of the sessions that hold out have taken a packet
from each. -/
structure Crowd (count broadcasts : Nat) (traffic : Traffic) : Prop where
  begun : traffic.begun = count
  request : forall id : Nat, (traffic.ops id).request = .login id
  greeted : forall id : Nat, id < count -> id < 2 ∨ broadcasts + 2 ≤ id ->
    (traffic.ops id).todo = [.visit .clientMap (fun _ => true), .work]
  through : forall id : Nat, 2 ≤ id -> id < broadcasts + 2 -> (traffic.ops id).todo = []
  member : forall id : Nat, id ∈ traffic.registered ↔ id < count
  nodup : traffic.registered.Nodup
  queued : forall id : Nat, traffic.queued id ≤ broadcasts
  full : forall id : Nat, id < count -> HoldsOut id -> traffic.queued id = broadcasts
  live : forall id : Nat, traffic.cancelled id = false
  worker : forall id : Nat, traffic.worker id = .absent ∨
    (traffic.worker id = .idle ∧ ¬ HoldsOut id ∧ id < count)

theorem Crowd.not_waiting {count broadcasts : Nat} {traffic : Traffic}
    (crowd : Crowd count broadcasts traffic) (mutex : Mutex) : ¬ traffic.Waiting mutex := by
  rintro ⟨id, below, waits⟩
  rw [crowd.begun] at below
  by_cases through : 2 ≤ id ∧ id < broadcasts + 2
  · rw [crowd.through id through.1 through.2] at waits
    cases waits
  · rw [crowd.greeted id below (by omega)] at waits
    cases waits

theorem exists_crowd {count broadcasts : Nat} (many : 34 ≤ count) (few : broadcasts ≤ 32) :
    Exists fun traffic => Reaches (loginStep numbered) (logins count) traffic ∧
      Crowd count broadcasts traffic := by
  induction broadcasts with
  | zero =>
      rcases exists_registering (Nat.le_refl count) with ⟨traffic, reached, registering⟩
      refine ⟨traffic, reached, registering.begun, registering.request, ?_, ?_, registering.member,
        registering.nodup, ?_, ?_, registering.live, ?_⟩
      · exact fun id below _ => registering.greeted id below
      · exact fun id above below => by omega
      · exact fun id => Nat.le_of_eq (registering.queued id)
      · exact fun id _ _ => registering.queued id
      · exact fun id => Or.inl (registering.absent id)
  | succ broadcasts inductionHypothesis =>
      rcases inductionHypothesis (Nat.le_of_succ_le few) with ⟨traffic, reached, crowd⟩
      have below : broadcasts + 2 < traffic.begun := by
        rw [crowd.begun]
        omega
      have current : At traffic (broadcasts + 2) (.visit .clientMap (fun _ => true)) [.work] :=
        ⟨below, crowd.greeted _ (crowd.begun ▸ below) (Or.inr (Nat.le_refl _))⟩
      have room : forall other, other ∈ traffic.registered ->
          traffic.queued other < sendChanCapacity := by
        intro other _
        have atMost := crowd.queued other
        show traffic.queued other < 32
        omega
      have owner := congrArg Request.owner (crowd.request (broadcasts + 2))
      rcases exists_broadcast numbered current owner (crowd.not_waiting _) crowd.nodup room with
        ⟨queued, served, counted⟩
      refine ⟨_, reached.trans served, crowd.begun, ?_, ?_, ?_, crowd.member, crowd.nodup, ?_, ?_,
        crowd.live, ?_⟩
      · intro id
        show ((traffic.setTodo _ []).ops id).request = .login id
        rw [setTodo_request]
        exact crowd.request id
      · intro id inRange outside
        show ((traffic.setTodo _ []).ops id).todo = _
        rw [setTodo_other _ _ (by omega)]
        exact crowd.greeted id inRange (by omega)
      · intro id above inRange
        show ((traffic.setTodo _ []).ops id).todo = _
        by_cases same : id = broadcasts + 2
        · rw [same, setTodo_todo]
        · rw [setTodo_other _ _ same]
          exact crowd.through id above (by omega)
      · intro id
        have atMost := crowd.queued id
        show queued id ≤ broadcasts + 1
        rw [counted]
        split <;> omega
      · intro id inRange holdsOut
        have before := crowd.full id inRange holdsOut
        have different : id ≠ broadcasts + 2 := by
          intro same
          unfold HoldsOut at holdsOut
          rw [same] at holdsOut
          omega
        show queued id = broadcasts + 1
        rw [counted, if_pos ⟨(crowd.member id).mpr inRange, different⟩, before]
      · intro id
        show Function.update traffic.worker (broadcasts + 2) .idle id = .absent ∨
          (Function.update traffic.worker (broadcasts + 2) .idle id = .idle ∧ _)
        by_cases same : id = broadcasts + 2
        · rw [same, Function.update_self]
          unfold HoldsOut
          exact Or.inr ⟨rfl, by omega, crowd.begun ▸ below⟩
        · rw [Function.update_of_ne same]
          exact crowd.worker id

/-- Whom a session that holds out waits for. -/
def rival (id : Nat) : Nat :=
  if id = 0 then 1 else 0

theorem rival_holdsOut (id : Nat) : HoldsOut (rival id) := by
  unfold rival HoldsOut
  split <;> omega

theorem rival_ne (id : Nat) : rival id ≠ id := by
  unfold rival
  split <;> omega

theorem rival_lt {count : Nat} (many : 34 ≤ count) (id : Nat) : rival id < count := by
  unfold rival
  split <;> omega

/-- The queues of the sessions that hold out are full, and those below the
number wait for another one of them in their broadcast. -/
structure Entangled (count number : Nat) (traffic : Traffic) : Prop where
  begun : traffic.begun = count
  request : forall id, (traffic.ops id).request = .login id
  sending : forall id : Nat, id < number -> HoldsOut id -> Exists fun others =>
    (traffic.ops id).todo = [.sending .clientMap (rival id :: others), .work]
  greeted : forall id : Nat, number ≤ id -> id < count -> HoldsOut id ->
    (traffic.ops id).todo = [.visit .clientMap (fun _ => true), .work]
  through : forall id : Nat, id < count -> ¬ HoldsOut id -> (traffic.ops id).todo = []
  member : forall id : Nat, id ∈ traffic.registered ↔ id < count
  full : forall id : Nat, id < count -> HoldsOut id -> traffic.queued id = sendChanCapacity
  live : forall id : Nat, traffic.cancelled id = false
  worker : forall id : Nat, traffic.worker id = .absent ∨
    (traffic.worker id = .idle ∧ ¬ HoldsOut id ∧ id < count)

theorem Entangled.not_waiting {count number : Nat} {traffic : Traffic}
    (entangled : Entangled count number traffic) (mutex : Mutex) : ¬ traffic.Waiting mutex := by
  rintro ⟨id, below, waits⟩
  rw [entangled.begun] at below
  by_cases holdsOut : HoldsOut id
  · by_cases early : id < number
    · rcases entangled.sending id early holdsOut with ⟨others, todo⟩
      rw [todo] at waits
      cases waits
    · rw [entangled.greeted id (Nat.not_lt.mp early) below holdsOut] at waits
      cases waits
  · rw [entangled.through id below holdsOut] at waits
    cases waits

theorem Entangled.not_idle {count number : Nat} {traffic : Traffic}
    (entangled : Entangled count number traffic) {id : Nat} (holdsOut : HoldsOut id) :
    traffic.worker id ≠ .idle := by
  intro idle
  rcases entangled.worker id with absent | ⟨_, through, _⟩
  · cases absent.symm.trans idle
  · exact through holdsOut

theorem exists_entangled {count number : Nat} (many : 34 ≤ count) (few : number ≤ count) :
    Exists fun traffic => Reaches (loginStep numbered) (logins count) traffic ∧
      Entangled count number traffic := by
  induction number with
  | zero =>
      rcases exists_crowd many (Nat.le_refl 32) with ⟨traffic, reached, crowd⟩
      refine ⟨traffic, reached, crowd.begun, crowd.request, ?_, ?_, ?_, crowd.member, crowd.full,
        crowd.live, crowd.worker⟩
      · exact fun id below => absurd below (Nat.not_lt_zero id)
      · exact fun id _ below holdsOut => crowd.greeted id below holdsOut
      · intro id _ through
        unfold HoldsOut at through
        exact crowd.through id (by omega) (by omega)
  | succ number inductionHypothesis =>
      rcases inductionHypothesis (Nat.le_of_succ_le few) with ⟨traffic, reached, entangled⟩
      by_cases holdsOut : HoldsOut number
      · have current : At traffic number (.visit .clientMap (fun _ => true)) [.work] :=
          ⟨entangled.begun.symm ▸ few, entangled.greeted number (Nat.le_refl number) few holdsOut⟩
        have listed : rival number ∈
            traffic.recipients (traffic.ops number).request.owner (fun _ => true) := by
          unfold recipients
          rw [List.mem_filter, entangled.member, Bool.and_true, decide_eq_true_eq, entangled.request]
          exact ⟨rival_lt many number, fun same => rival_ne number (Option.some.inj same).symm⟩
        have visited := reaches_of_advanced numbered current
          (.visited .clientMap _ _ (entangled.not_waiting _) (List.perm_cons_erase listed).symm)
        refine ⟨_, reached.trans visited, entangled.begun, ?_, ?_, ?_, ?_, entangled.member,
          entangled.full, entangled.live, entangled.worker⟩
        · intro id
          rw [setTodo_request]
          exact entangled.request id
        · intro id below holds
          by_cases same : id = number
          · rw [same, setTodo_todo]
            exact ⟨_, rfl⟩
          · rw [setTodo_other _ _ same]
            exact entangled.sending id (by omega) holds
        · intro id above below holds
          rw [setTodo_other _ _ (by omega)]
          exact entangled.greeted id (by omega) below holds
        · intro id below through
          have different : id ≠ number := by
            intro same
            rw [same] at through
            exact through holdsOut
          rw [setTodo_other _ _ different]
          exact entangled.through id below through
      · refine ⟨traffic, reached, entangled.begun, entangled.request, ?_, ?_, entangled.through,
          entangled.member, entangled.full, entangled.live, entangled.worker⟩
        · intro id below holds
          have different : id ≠ number := fun same => holdsOut (same ▸ holds)
          exact entangled.sending id (by omega) holds
        · exact fun id above => entangled.greeted id (Nat.le_of_succ_le above)

/-- With 34 sessions or more the logins can come to a standstill. -/
theorem exists_standstill {count : Nat} (many : 34 ≤ count) :
    Exists fun traffic => Reaches (loginStep numbered) (logins count) traffic ∧
      LoggingIn traffic 0 ∧ forall label, loginStep numbered traffic label = none := by
  rcases exists_entangled many (Nat.le_refl count) with ⟨traffic, reached, entangled⟩
  rcases exists_drained numbered traffic count with ⟨queued, drained, emptied⟩
  have kept : forall id : Nat, id < count -> HoldsOut id -> queued id = sendChanCapacity := by
    intro id below holdsOut
    rw [emptied, if_neg fun both => entangled.not_idle holdsOut both.1]
    exact entangled.full id below holdsOut
  refine ⟨_, reached.trans drained, ?_, ?_⟩
  · have first : HoldsOut 0 := Or.inl (by omega)
    rcases entangled.sending 0 (by omega) first with ⟨others, todo⟩
    refine ⟨?_, ?_, ?_⟩
    · show 0 < traffic.begun
      rw [entangled.begun]
      omega
    · show (traffic.ops 0).todo ≠ loginActs 0
      rw [todo]
      intro same
      cases same
    · show (traffic.ops 0).todo ≠ []
      rw [todo]
      exact List.cons_ne_nil _ _
  · intro label
    rw [Option.eq_none_iff_forall_ne_some]
    intro next taken
    rcases restrict_eq_some.mp taken with ⟨allowed, stepped⟩
    cases moved_of_step stepped with
    | begun request permitted => cases allowed
    | hungUp id => cases allowed
    | @advanced index choice act rest next below todo outcome =>
        have inRange : index < count := entangled.begun ▸ below
        by_cases holdsOut : HoldsOut index
        · rcases entangled.sending index inRange holdsOut with ⟨others, sending⟩
          rcases List.cons.inj (todo.symm.trans sending) with ⟨same, _⟩
          apply outcome.not_blocked
          rw [same]
          exact ⟨Nat.le_of_eq (kept _ (rival_lt many index) (rival_holdsOut index)).symm,
            entangled.live _⟩
        · cases todo.symm.trans (entangled.through index inRange holdsOut)
    | received id idle waiting =>
        rcases entangled.worker id with absent | ⟨_, _, below⟩
        · cases absent.symm.trans idle
        · have empty := emptied id
          rw [if_pos ⟨idle, below⟩] at empty
          exact absurd waiting (Nat.not_lt.mpr (Nat.le_of_eq empty))
    | flushed id writing =>
        rcases entangled.worker id with absent | ⟨idle, _⟩
        · cases absent.symm.trans writing
        · cases idle.symm.trans writing

/-- The login phase is free of deadlocks exactly up to 33 sessions. -/
theorem deadlockFree_iff (count : Nat) : DeadlockFree count ↔ count ≤ 33 := by
  constructor
  · intro free
    by_contra many
    rcases exists_standstill (Nat.lt_of_not_le many) with ⟨traffic, reached, loggingIn, standstill⟩
    rcases free numbered traffic reached ⟨0, loggingIn⟩ with ⟨label, next, taken⟩
    rw [standstill label] at taken
    cases taken
  · exact deadlockFree_of_le

/-- Two sessions that wait for each other, and 32 that have filled their
queues. -/
theorem logins_deadlock : ¬ forall count, DeadlockFree count := by
  intro free
  rcases exists_standstill (Nat.le_refl 34) with ⟨traffic, reached, loggingIn, standstill⟩
  rcases free 34 numbered traffic reached ⟨0, loggingIn⟩ with ⟨label, next, taken⟩
  rw [standstill label] at taken
  cases taken

end Fsd
end OpenFsd
