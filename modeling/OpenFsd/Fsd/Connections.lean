import OpenFsd.Fsd.EventLoop
import OpenFsd.Fsd.Records
import OpenFsd.Fsd.Session

namespace OpenFsd
namespace Fsd

open Db Transition

/-!
# Connections

`System` lets every registered session do anything at any time.  Here a
session takes the steps of `handleConn` in their order: it is registered, is
greeted, announces itself, runs its event loop on what its scanner returns,
announces its departure, and is released.

The event loop and the sender are two goroutines.  The loop waits for its
scanner alone; the sender alone watches the context, and closes the connection
some time after it is cancelled.  The scanner is that of the framing, buffer
and all.  What the connection has to offer comes as one chunk for each read,
so the peer decides late what it has sent.

The journal records whose goroutine took a step on the server, which handler
ran, and which events followed.
-/

/-- How far `handleConn` has come with a session. -/
inductive Stage
  | unborn
  | greeting
  | running
  | departed
  | released
  | failed
  deriving DecidableEq

/-- A step on the server. -/
structure Turn where
  speaker : Option SessionId
  handler : Option PacketType
  caused : List Event

structure Connections (F : Type) where
  system : System F
  stage : SessionId -> Stage
  scanner : SessionId -> Scanner
  /-- The sender has closed the connection. -/
  closed : SessionId -> Bool
  journal : List Turn

inductive Move
  | connect (env : LoginEnv) (database : Database) (idLine addLine : Option Bytes)
      (scanner : Scanner)
  | fail (id : SessionId)
  | announce (id : SessionId)
  | read (id : SessionId) (chunk : Chunk)
  | hangUp (id : SessionId)
  | turn (now : Time) (id : SessionId)
  | leave (id : SessionId)
  | release (id : SessionId)
  | kick (callsign : Bytes)
  | stop (id : SessionId)
  | close (id : SessionId)

namespace Connections

variable {F : Type}

/-- Nobody is connected. -/
def start (heap : SessionId -> Client F) (scanner : Scanner) : Connections F where
  system := System.start heap
  stage := fun _ => .unborn
  scanner := fun _ => scanner
  closed := fun _ => false
  journal := []

/-- Enter a step on the server in the journal. -/
def acted (conn : Connections F) (speaker : Option SessionId) (handler : Option PacketType)
    (next : System F) : Connections F :=
  { conn with
    system := next
    journal := conn.journal ++
      [⟨speaker, handler, next.server.events.drop conn.system.server.events.length⟩] }

def enter (conn : Connections F) (id : SessionId) (stage : Stage) : Connections F :=
  { conn with stage := Function.update conn.stage id stage }

def scan (conn : Connections F) (id : SessionId) (scanner : Scanner) : Connections F :=
  { conn with scanner := Function.update conn.scanner id scanner }

/-- The handler that the event loop runs on a packet, if any. -/
def handlerOf (packet callsign : Bytes) : Option PacketType :=
  match verifyPacket packet callsign with
  | .accepted packetType => some packetType
  | .refused _ _ => none

@[simp] theorem enter_stage_self (conn : Connections F) (id : SessionId) (stage : Stage) :
    (conn.enter id stage).stage id = stage :=
  Function.update_self id _ conn.stage

@[simp] theorem enter_stage_other (conn : Connections F) {id other : SessionId}
    (different : other ≠ id) (stage : Stage) :
    (conn.enter id stage).stage other = conn.stage other :=
  Function.update_of_ne different _ conn.stage

@[simp] theorem scan_scanner_self (conn : Connections F) (id : SessionId) (scanner : Scanner) :
    (conn.scan id scanner).scanner id = scanner :=
  Function.update_self id _ conn.scanner

@[simp] theorem scan_scanner_other (conn : Connections F) {id other : SessionId}
    (different : other ≠ id) (scanner : Scanner) :
    (conn.scan id scanner).scanner other = conn.scanner other :=
  Function.update_of_ne different _ conn.scanner

variable [GoFloat F] (P : Platform)

/-- A step on the server by the goroutine of a session, if any. -/
def act (conn : Connections F) (speaker : Option SessionId) (handler : Option PacketType)
    (action : Action) : Option (Connections F) :=
  (System.step P conn.system action).map (conn.acted speaker handler)

/-- The transition function.  The buffer of every scanner has the length that
`handleConn` gives it. -/
def step (conn : Connections F) : Move -> Option (Connections F)
  | .connect env database idLine addLine scanner =>
      if scanner.buf.length = 4096 ∧ scanner.reads = [] then
        match conn.system.server.connect P env database conn.system.allocated idLine addLine with
        | .error _ => some conn
        | .ok registered =>
            let id := conn.system.allocated
            let accepted := conn.acted (some id) none ⟨registered, id + 1⟩
            some { (accepted.enter id .greeting).scan id scanner with
              closed := Function.update conn.closed id false }
      else none
  | .fail id =>
      if conn.stage id = .greeting then
        (conn.act P (some id) none (.release id)).map fun next => next.enter id .failed
      else none
  | .announce id =>
      if conn.stage id = .greeting then
        (conn.act P (some id) none (.announce id)).map fun next => next.enter id .running
      else none
  | .read id chunk =>
      if conn.stage id = .running ∧ conn.closed id = false ∧ (conn.scanner id).Waits ∧
          chunk.val.length ≤ (conn.scanner id).room then
        some (conn.scan id ((conn.scanner id).receive chunk))
      else none
  | .hangUp id =>
      if conn.stage id = .running ∧ (conn.scanner id).Waits then
        some (conn.scan id (conn.scanner id).hangUp)
      else none
  | .turn now id =>
      if conn.stage id = .running then
        match (conn.scanner id).next with
        | none => none
        | some (token, scanned) =>
            let (packet, rest) := appendDelimiter scanned token
            let handler := handlerOf packet (conn.system.server.clients id).callsign
            (conn.act P (some id) handler (.packet now id packet)).map fun next => next.scan id rest
      else none
  | .leave id =>
      if conn.stage id = .running ∧ (conn.scanner id).Done then
        (conn.act P (some id) none (.depart id)).map fun next => next.enter id .departed
      else none
  | .release id =>
      if conn.stage id = .departed then
        (conn.act P (some id) none (.release id)).map fun next => next.enter id .released
      else none
  | .kick callsign => conn.act P none none (.kick callsign)
  | .stop id =>
      -- A write of the sender has failed, and the sender cancels the context.
      if conn.stage id = .running then
        conn.act P none none (.kick (conn.system.server.clients id).callsign)
      else none
  | .close id =>
      if conn.stage id = .running ∧ (conn.system.server.clients id).cancelled = true then
        some { conn with closed := Function.update conn.closed id true }
      else none

/-! ## What one move does -/

/-- The goroutine of a session that takes a move. -/
def mover : Move -> Option SessionId
  | .fail id => some id
  | .announce id => some id
  | .turn _ id => some id
  | .leave id => some id
  | .release id => some id
  | _ => none

/-- What a move does, with the guard under which it is made. -/
inductive Stepped (conn : Connections F) : Move -> Connections F -> Prop
  | refused (env : LoginEnv) (database : Database) (idLine addLine : Option Bytes)
      (scanner : Scanner) : Stepped conn (.connect env database idLine addLine scanner) conn
  | connected (env : LoginEnv) (database : Database) (idLine addLine : Option Bytes)
      (scanner : Scanner) (registered : Server F) (length : scanner.buf.length = 4096)
      (nothing : scanner.reads = [])
      (accepted : conn.system.server.connect P env database conn.system.allocated idLine addLine =
        .ok registered) :
      Stepped conn (.connect env database idLine addLine scanner)
        { ((conn.acted (some conn.system.allocated) none
            ⟨registered, conn.system.allocated + 1⟩).enter conn.system.allocated .greeting).scan
              conn.system.allocated scanner with
          closed := Function.update conn.closed conn.system.allocated false }
  | failed (id : SessionId) (next : System F) (staged : conn.stage id = .greeting)
      (taken : System.step P conn.system (.release id) = some next) :
      Stepped conn (.fail id) ((conn.acted (some id) none next).enter id .failed)
  | announced (id : SessionId) (next : System F) (staged : conn.stage id = .greeting)
      (taken : System.step P conn.system (.announce id) = some next) :
      Stepped conn (.announce id) ((conn.acted (some id) none next).enter id .running)
  | read (id : SessionId) (chunk : Chunk) (staged : conn.stage id = .running)
      (notClosed : conn.closed id = false) (waits : (conn.scanner id).Waits)
      (fits : chunk.val.length ≤ (conn.scanner id).room) :
      Stepped conn (.read id chunk) (conn.scan id ((conn.scanner id).receive chunk))
  | hungUp (id : SessionId) (staged : conn.stage id = .running)
      (waits : (conn.scanner id).Waits) :
      Stepped conn (.hangUp id) (conn.scan id (conn.scanner id).hangUp)
  | turned (now : Time) (id : SessionId) (next : System F) (token : Token) (scanned : Scanner)
      (staged : conn.stage id = .running)
      (found : (conn.scanner id).next = some (token, scanned))
      (taken : System.step P conn.system (.packet now id (appendDelimiter scanned token).1) =
        some next) :
      Stepped conn (.turn now id)
        ((conn.acted (some id) (handlerOf (appendDelimiter scanned token).1
          (conn.system.server.clients id).callsign) next).scan id (appendDelimiter scanned token).2)
  | left (id : SessionId) (next : System F) (staged : conn.stage id = .running)
      (done : (conn.scanner id).Done)
      (taken : System.step P conn.system (.depart id) = some next) :
      Stepped conn (.leave id) ((conn.acted (some id) none next).enter id .departed)
  | released (id : SessionId) (next : System F) (staged : conn.stage id = .departed)
      (taken : System.step P conn.system (.release id) = some next) :
      Stepped conn (.release id) ((conn.acted (some id) none next).enter id .released)
  | kicked (move : Move) (callsign : Bytes) (next : System F)
      (named : move = .kick callsign ∨ Exists fun id => move = .stop id)
      (taken : System.step P conn.system (.kick callsign) = some next) :
      Stepped conn move (conn.acted none none next)
  | closed (id : SessionId) (staged : conn.stage id = .running)
      (cancelled : (conn.system.server.clients id).cancelled = true) :
      Stepped conn (.close id) { conn with closed := Function.update conn.closed id true }

variable {P}

theorem act_eq_some {conn next : Connections F} {speaker : Option SessionId}
    {handler : Option PacketType} {action : Action}
    (done : conn.act P speaker handler action = some next) :
    Exists fun system => System.step P conn.system action = some system ∧
      next = conn.acted speaker handler system := by
  rcases Option.map_eq_some_iff.mp done with ⟨system, taken, same⟩
  exact ⟨system, taken, same.symm⟩

/-- A guarded move by one goroutine. -/
theorem guarded_act {conn next : Connections F} {guard : Prop} [Decidable guard]
    {speaker : Option SessionId} {handler : Option PacketType} {action : Action}
    {change : Connections F -> Connections F}
    (done : (if guard then (conn.act P speaker handler action).map change else none) = some next) :
    guard ∧ Exists fun system => System.step P conn.system action = some system ∧
      next = change (conn.acted speaker handler system) := by
  rcases Option.ite_none_right_eq_some.mp done with ⟨guarded, mapped⟩
  rcases Option.map_eq_some_iff.mp mapped with ⟨middle, acted, same⟩
  rcases act_eq_some acted with ⟨system, taken, equal⟩
  refine ⟨guarded, system, taken, ?_⟩
  rw [← same, equal]

theorem stepped_of_step {conn next : Connections F} {move : Move}
    (done : step P conn move = some next) : Stepped P conn move next := by
  cases move with
  | connect env database idLine addLine scanner =>
      rcases Option.ite_none_right_eq_some.mp done with ⟨⟨length, nothing⟩, mapped⟩
      cases connected : conn.system.server.connect P env database conn.system.allocated idLine
          addLine with
      | error sent =>
          rw [connected] at mapped
          rw [← Option.some.inj mapped]
          exact .refused env database idLine addLine scanner
      | ok registered =>
          rw [connected] at mapped
          rw [← Option.some.inj mapped]
          exact .connected env database idLine addLine scanner registered length nothing connected
  | fail id =>
      rcases guarded_act done with ⟨staged, system, taken, same⟩
      rw [same]
      exact .failed id system staged taken
  | announce id =>
      rcases guarded_act done with ⟨staged, system, taken, same⟩
      rw [same]
      exact .announced id system staged taken
  | read id chunk =>
      rcases Option.ite_none_right_eq_some.mp done with ⟨⟨staged, notClosed, waits, fits⟩, same⟩
      rw [← Option.some.inj same]
      exact .read id chunk staged notClosed waits fits
  | hangUp id =>
      rcases Option.ite_none_right_eq_some.mp done with ⟨⟨staged, waits⟩, same⟩
      rw [← Option.some.inj same]
      exact .hungUp id staged waits
  | turn now id =>
      rcases Option.ite_none_right_eq_some.mp done with ⟨staged, mapped⟩
      cases found : (conn.scanner id).next with
      | none =>
          rw [found] at mapped
          cases mapped
      | some result =>
          rcases result with ⟨token, scanned⟩
          rw [found] at mapped
          rcases Option.map_eq_some_iff.mp mapped with ⟨middle, acted, same⟩
          rcases act_eq_some acted with ⟨system, taken, equal⟩
          rw [← same, equal]
          exact .turned now id system token scanned staged found taken
  | leave id =>
      rcases guarded_act done with ⟨⟨staged, finished⟩, system, taken, same⟩
      rw [same]
      exact .left id system staged finished taken
  | release id =>
      rcases guarded_act done with ⟨staged, system, taken, same⟩
      rw [same]
      exact .released id system staged taken
  | kick callsign =>
      rcases act_eq_some done with ⟨system, taken, same⟩
      rw [same]
      exact .kicked _ callsign system (Or.inl rfl) taken
  | stop id =>
      rcases Option.ite_none_right_eq_some.mp done with ⟨_, acted⟩
      rcases act_eq_some acted with ⟨system, taken, same⟩
      rw [same]
      exact .kicked _ _ system (Or.inr ⟨id, rfl⟩) taken
  | close id =>
      rcases Option.ite_none_right_eq_some.mp done with ⟨⟨staged, cancelled⟩, same⟩
      rw [← Option.some.inj same]
      exact .closed id staged cancelled

/-! ## The server under the connections -/

variable {heap : SessionId -> Client F} {scanner : Scanner}

theorem system_of_step {conn next : Connections F} {move : Move}
    (done : step P conn move = some next) :
    Reaches (System.step P) conn.system next.system := by
  cases stepped_of_step done with
  | refused => exact .refl _
  | connected env database idLine addLine scanner registered length nothing accepted =>
      exact .single (System.step_connect accepted)
  | failed id system staged taken => exact .single taken
  | announced id system staged taken => exact .single taken
  | read => exact .refl _
  | hungUp => exact .refl _
  | turned now id system token scanned staged found taken => exact .single taken
  | left id system staged done taken => exact .single taken
  | released id system staged taken => exact .single taken
  | kicked callsign system _ named taken => exact .single taken
  | closed => exact .refl _

theorem system_of_reaches {conn : Connections F}
    (reached : Reaches (step P) (start heap scanner) conn) :
    Reaches (System.step P) (System.start heap) conn.system :=
  invariant_of_reaches
    (fun current _ _ taken (held : Reaches (System.step P) (System.start heap) current.system) =>
      held.trans (system_of_step taken))
    (Reaches.refl (System.start heap)) reached

/-- The sessions are those that have been allocated, and a session is in the
registry from its greeting to its departure. -/
structure Seated (conn : Connections F) : Prop where
  unborn : forall id, conn.system.allocated ≤ id -> conn.stage id = .unborn
  registered : forall id, conn.stage id ∈ [Stage.greeting, .running, .departed] ->
    conn.system.server.Registered id

/-- A step on the server keeps the seats. -/
theorem Seated.acted {conn : Connections F} {next : System F} {action : Action}
    (seated : Seated conn) (wellFormed : System.WellFormed P conn.system)
    (taken : System.step P conn.system action = some next)
    (allocated : next.allocated = conn.system.allocated)
    (stays : forall id, conn.stage id ∈ [Stage.greeting, .running, .departed] ->
      action ≠ .release id)
    (speaker : Option SessionId) (handler : Option PacketType) :
    Seated (conn.acted speaker handler next) where
  unborn := by
    intro id above
    exact seated.unborn id (allocated ▸ above)
  registered := fun id staged =>
    System.registered_of_step taken wellFormed (seated.registered id staged) (stays id staged)

/-- A session that takes a step on the server, and enters a stage with it,
keeps its seat if the stage asks for one. -/
theorem Seated.entered {conn : Connections F} {next : System F} {action : Action}
    (seated : Seated conn) (wellFormed : System.WellFormed P conn.system)
    (taken : System.step P conn.system action = some next)
    (allocated : next.allocated = conn.system.allocated) {id : SessionId}
    (staged : conn.stage id ∈ [Stage.greeting, .running, .departed])
    (others : forall other, action = .release other -> other = id) {stage : Stage}
    (stays : stage ∈ [Stage.greeting, .running, .departed] -> action ≠ .release id)
    (speaker : Option SessionId) (handler : Option PacketType) :
    Seated ((conn.acted speaker handler next).enter id stage) where
  unborn := by
    intro other above
    have before := seated.unborn other (allocated ▸ above)
    have different : other ≠ id := by
      intro same
      rw [same] at before
      rw [before] at staged
      revert staged
      decide
    exact (enter_stage_other _ different stage).trans before
  registered := by
    intro other stagedAfter
    by_cases own : other = id
    · rw [own] at stagedAfter ⊢
      rw [enter_stage_self] at stagedAfter
      exact System.registered_of_step taken wellFormed (seated.registered id staged)
        (stays stagedAfter)
    · have same : ((conn.acted speaker handler next).enter id stage).stage other =
          conn.stage other := enter_stage_other _ own stage
      rw [same] at stagedAfter
      exact System.registered_of_step taken wellFormed (seated.registered other stagedAfter)
        fun released => own (others other released)

theorem Seated.step {conn next : Connections F} {move : Move} (seated : Seated conn)
    (wellFormed : System.WellFormed P conn.system) (done : step P conn move = some next) :
    Seated next := by
  have allocated : forall {system : System F} {action : Action},
      System.step P conn.system action = some system ->
      (forall env database idLine addLine, action ≠ .connect env database idLine addLine) ->
        system.allocated = conn.system.allocated := by
    intro system action taken other
    rcases System.allocated_of_step taken with same | ⟨_, env, database, idLine, addLine, connect⟩
    · exact same
    · exact absurd connect (other env database idLine addLine)
  cases stepped_of_step done with
  | refused => exact seated
  | connected env database idLine addLine scanner registered length nothing accepted =>
      have taken := System.step_connect accepted
      constructor
      · intro other above
        have different : other ≠ conn.system.allocated := Nat.ne_of_gt above
        exact (Function.update_of_ne different _ _).trans (seated.unborn other (Nat.le_of_succ_le above))
      · intro other staged
        by_cases own : other = conn.system.allocated
        · rw [own]
          rcases Server.connect_eq_ok accepted with ⟨_, _, registeredAs⟩
          exact registeredAs.registered
        · have same : (Function.update conn.stage conn.system.allocated Stage.greeting) other =
              conn.stage other := Function.update_of_ne own _ _
          have before : conn.stage other ∈ [Stage.greeting, .running, .departed] := same ▸ staged
          exact System.registered_of_step taken wellFormed (seated.registered other before) nofun
  | failed id system staged taken =>
      exact seated.entered wellFormed taken (allocated taken nofun) (by rw [staged]; decide)
        (fun other same => (Action.release.inj same).symm) (fun again => absurd again (by decide)) _ _
  | announced id system staged taken =>
      exact seated.entered wellFormed taken (allocated taken nofun) (by rw [staged]; decide)
        nofun (fun _ => nofun) _ _
  | read => exact ⟨seated.unborn, seated.registered⟩
  | hungUp => exact ⟨seated.unborn, seated.registered⟩
  | turned now id system token scanned staged found taken =>
      have acted := seated.acted wellFormed taken (allocated taken nofun) (fun _ _ => nofun)
        (some id) (handlerOf (appendDelimiter scanned token).1
          (conn.system.server.clients id).callsign)
      exact ⟨acted.unborn, acted.registered⟩
  | left id system staged finished taken =>
      exact seated.entered wellFormed taken (allocated taken nofun) (by rw [staged]; decide)
        nofun (fun _ => nofun) _ _
  | released id system staged taken =>
      exact seated.entered wellFormed taken (allocated taken nofun) (by rw [staged]; decide)
        (fun other same => (Action.release.inj same).symm) (fun again => absurd again (by decide)) _ _
  | kicked callsign system _ named taken =>
      exact seated.acted wellFormed taken (allocated taken nofun) (fun _ _ => nofun) _ _
  | closed => exact ⟨seated.unborn, seated.registered⟩

omit [GoFloat F] in
theorem seated_start (heap : SessionId -> Client F) (scanner : Scanner) :
    Seated (start heap scanner) where
  unborn := fun _ _ => rfl
  registered := by
    intro id staged
    have unborn : Stage.unborn ∈ [Stage.greeting, .running, .departed] := staged
    exact absurd unborn (by decide)

theorem seated_of_reaches {conn : Connections F}
    (reached : Reaches (step P) (start heap scanner) conn) : Seated conn := by
  have both := invariant_of_reaches
    (fun current _ next taken (held : Reaches (System.step P) (System.start heap) current.system ∧
        Seated current) => by
      have wellFormed := System.wellFormed_of_reaches held.1
      exact ⟨held.1.trans (system_of_step taken), held.2.step wellFormed taken⟩)
    ⟨Reaches.refl (System.start heap), seated_start heap scanner⟩ reached
  exact both.2

end Connections
end Fsd
end OpenFsd
