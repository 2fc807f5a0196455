import StagedEvents.Service
import StagedEvents.Stage.Blueprint

/-!
# Applications

An application owns stages and serves each of them with a pool. Two tables are kept:
the registry, which has the stages of the application by name, and the table of
served pools by stage name. Each has its own lock.

What callers do to an application is a list of chores. A chore is one critical
section; carrying it out changes the application and may put other chores in its
place. Several callers each have a list of their own, and any interleaving of their
chores is possible. A caller that makes a stage holds the registry until the stage is
in it, or the attempt has failed.

* `Application.doChore` — one chore of one caller.
* `Application.stepWorker?` — one step of one worker.
-/

namespace StagedEvents

/-- A pool, by the number of its stage and its number among the pools of that stage. -/
structure PoolRef where
  stage : Nat
  pool : Nat
deriving DecidableEq, Repr

/-- The stages of an application, with the pools that serve them. Model of `Runtime` with its
    `Scheduler`. -/
structure Application (ε : Type) where
  config : Config
  /-- All stages there have been, by number. -/
  services : List (Service ε)
  registry : List (String × Nat)
  /-- Whether a caller holds the registry. -/
  registryHeld : Bool
  served : List (String × PoolRef)

/-- One critical section of what a caller does. -/
inductive Chore (ε : Type) where
  /-- Builds a stage whose name is free, and goes on holding the registry. -/
  | build (blueprint : Blueprint ε)
  /-- Tells the handler that its stage is made. -/
  | introduce (stage : Nat)
  /-- Serves a new stage with a pool. -/
  | serve (stage : Nat)
  /-- Enters a stage into the registry and lets go of it. -/
  | enter (stage : Nat)
  /-- Lets go of the registry; the attempt to make a stage has failed. -/
  | giveUp (cause : StageError)
  /-- Takes a stage out of the registry, to be torn down. -/
  | remove (name : String)
  /-- Takes all stages out of the registry, to be torn down. -/
  | removeAll
  /-- Closes the queue of a stage. -/
  | close (stage : Nat)
  /-- Takes the pool that serves a name off the table, to be stopped. -/
  | unserve (name : String)
  /-- Takes all pools off the table, to be stopped. -/
  | unserveAll
  /-- Begins to stop a pool. -/
  | beginStop (ref : PoolRef)
  /-- Waits for the workers of a pool; without a deadline for as long as it takes. -/
  | awaitExits (ref : PoolRef) (deadline : Option Nat)
  /-- Ends the stop of a pool. -/
  | endStop (ref : PoolRef)
  /-- Tells the handler that its stage is torn down. -/
  | dismiss (stage : Nat)

/-- What became of a chore. -/
inductive ChoreOutcome (ε : Type) where
  /-- It is done; these chores take its place. -/
  | done (next : List (Chore ε))
  /-- It has to be tried again later. -/
  | blocked
  /-- The caller is told why it failed, and has no more chores. -/
  | failed (cause : StageError)
  /-- The caller has lost control, and has no more chores. -/
  | faulty (fault : Fault)

namespace Application

variable {ε : Type}

/-- An application without stages. -/
def new (config : Config) : Application ε :=
  { config, services := [], registry := [], registryHeld := false, served := [] }

/-- What follows when the handling of a batch fails. -/
def policy (a : Application ε) : FailurePolicy :=
  if a.config.crashOnException then .crash else .carryOn

/-- The stage with the given number. -/
def stage? (a : Application ε) (number : Nat) : Option (Stage ε) :=
  (a.services[number]?).map Service.stage

/-- The pool with the given numbers. -/
def pool? (a : Application ε) (ref : PoolRef) : Option (Pool ε) :=
  (a.services[ref.stage]?).bind fun s => s.pools[ref.pool]?

/-- The application with one service changed. -/
def mapService (number : Nat) (f : Service ε → Service ε) (a : Application ε) : Application ε :=
  { a with services := a.services.modify number f }

/-- The application with one stage changed. -/
def mapStage (number : Nat) (f : Stage ε → Stage ε) (a : Application ε) : Application ε :=
  a.mapService number fun s => { s with stage := f s.stage }

/-- The application with one pool changed. -/
def mapPool (ref : PoolRef) (f : Pool ε → Pool ε) (a : Application ε) : Application ε :=
  a.mapService ref.stage (Service.mapPool ref.pool f)

/-- A table without the entry of a name. -/
def without {β : Type} (name : String) (table : List (String × β)) : List (String × β) :=
  table.filter fun entry => entry.1 != name

/-! ## Stages and pools -/

/-- Adds a new stage. -/
def addStage (stage : Stage ε) (a : Application ε) : Application ε :=
  { a with services := a.services ++ [{ stage, pools := [] }] }

/-- Builds a stage that the application will not list, and answers its number. -/
def buildStage (blueprint : Blueprint ε) (a : Application ε) :
    Application ε × Except Fault Nat :=
  match blueprint.build? (a.config.resolve blueprint.name) with
  | .error fault => (a, .error fault)
  | .ok stage => (a.addStage stage, .ok a.services.length)

/-- Sets up a pool for a stage, and answers which it is. -/
def newPool (number : Nat) (a : Application ε) : Application ε × PoolRef :=
  (a.mapService number (Service.addPool a.policy),
    ⟨number, ((a.services[number]?).map fun s => s.pools.length).getD 0⟩)

/-- The name of a stage. -/
def nameOf (a : Application ε) (number : Nat) : String :=
  ((a.stage? number).map Stage.name).getD ""

/-- Starts a pool that has not been started. -/
def startPool (ref : PoolRef) (a : Application ε) (refusals : ThreadRefusals := noRefusals) :
    Application ε × Except Fault (Except StageError Unit) :=
  match (a.services[ref.stage]?).bind fun s => s.startPool? ref.pool refusals with
  | none => (a, .ok (.error (.alreadyRegistered (a.nameOf ref.stage))))
  | some (s, answer) => (a.mapService ref.stage fun _ => s, answer)

/-- Changes the number of workers of a pool and answers how many count from now on. -/
def resizePool (ref : PoolRef) (size : Nat) (a : Application ε)
    (refusals : ThreadRefusals := noRefusals) :
    Application ε × Except Fault (Except StageError Nat) :=
  match a.services[ref.stage]? with
  | none => (a, .ok (.ok 0))
  | some s =>
    let (s, answer) := s.resizePool ref.pool size refusals
    (a.mapService ref.stage fun _ => s, answer)

/-- Serves a stage with a new pool, unless its name is served already. A pool that does not
    get all the workers it is to start with is not entered in the table, and those that it
    got go on. Model of `Scheduler::register`. -/
def register (number : Nat) (a : Application ε) (refusals : ThreadRefusals := noRefusals) :
    Application ε × Except Fault (Except StageError PoolRef) :=
  let name := a.nameOf number
  match a.served.lookup name with
  | some _ => (a, .ok (.error (.alreadyRegistered name)))
  | none =>
    let (a, ref) := a.newPool number
    match a.startPool ref refusals with
    | (a, .error fault) => (a, .error fault)
    | (a, .ok (.error error)) => (a, .ok (.error error))
    | (a, .ok (.ok ())) => ({ a with served := a.served ++ [(name, ref)] }, .ok (.ok ref))

/-- The sink of a listed stage. Model of `Runtime::sink`. -/
def sink (a : Application ε) (name : String) : Except StageError (Sink Float ε) :=
  match (a.registry.lookup name).bind a.stage? with
  | none => .error (.unknownStage name)
  | some stage => .ok stage.sink

/-! ## Chores -/

/-- What has to be done to tear a stage down. Model of `Runtime::teardown`. -/
def tearDown (a : Application ε) (number : Nat) : List (Chore ε) :=
  [.close number, .unserve (a.nameOf number), .dismiss number]

/-- Builds a stage and goes on holding the registry. Model of the beginning of
    `Runtime::create_stage`. -/
def doBuild (blueprint : Blueprint ε) (a : Application ε) : Application ε × ChoreOutcome ε :=
  if a.registryHeld then (a, .blocked)
  else
    match a.registry.lookup blueprint.name with
    | some _ => (a, .failed (.duplicateStage blueprint.name))
    | none =>
      let number := a.services.length
      match a.buildStage blueprint with
      | (a, .error fault) => (a, .faulty fault)
      | (a, .ok _) =>
        ({ a with registryHeld := true }, .done [.introduce number, .serve number, .enter number])

/-- Tells the handler that its stage is made. Model of the call of `init` in
    `Runtime::create_stage`. -/
def introduce (number : Nat) (a : Application ε) : Application ε × ChoreOutcome ε :=
  let a := a.mapStage number fun s => { s with life := s.life ++ [.made] }
  match (a.stage? number).bind fun s => s.handler.refusal? with
  | none => (a, .done [])
  | some reason => ({ a with registryHeld := false }, .failed (.handlerFailure reason))

/-- Waits for the workers of a pool: attends to their reports until none is on the
    table, or the deadline has passed. Model of one round of the loop of `ThreadPool::shutdown`. -/
def awaitExits (ref : PoolRef) (deadline : Option Nat) (a : Application ε) :
    Application ε × ChoreOutcome ε :=
  let a := a.mapPool ref Pool.reapAll
  let manned := ((a.pool? ref).map Pool.isManned).getD false
  let clock := ((a.services[ref.stage]?).map Service.clock).getD 0
  let late :=
    match deadline with
    | none => false
    | some deadline => decide (deadline ≤ clock)
  if manned && !late then (a, .blocked) else (a, .done [])

/-- Begins to stop a pool. Model of the first section of `ThreadPool::shutdown`. -/
def beginStop (ref : PoolRef) (a : Application ε) : Application ε × ChoreOutcome ε :=
  match a.pool? ref with
  | none => (a, .done [])
  | some p =>
    let (stopped, wait) := p.beginStop
    let clock := ((a.services[ref.stage]?).map Service.clock).getD 0
    let termination := p.settings.termination
    let deadline := if termination = .longest then none else some (clock + termination.nanos)
    (a.mapPool ref fun _ => stopped,
      .done (if wait then [.awaitExits ref deadline, .endStop ref] else []))

/-- One chore of a caller. Model of the critical sections of `Runtime::create_stage`,
    `Runtime::destroy_stage`, `Runtime::shutdown` and `Scheduler::deregister`. -/
def doChore (chore : Chore ε) (a : Application ε) (refusals : ThreadRefusals := noRefusals) :
    Application ε × ChoreOutcome ε :=
  match chore with
  | .build blueprint => a.doBuild blueprint
  | .introduce number => a.introduce number
  | .serve number =>
    match a.register number refusals with
    | (a, .ok (.ok _)) => (a, .done [])
    | (a, .ok (.error cause)) => (a, .done [.close number, .dismiss number, .giveUp cause])
    | (a, .error fault) => ({ a with registryHeld := false }, .faulty fault)
  | .enter number =>
    ({ a with registry := a.registry ++ [(a.nameOf number, number)], registryHeld := false },
      .done [])
  | .giveUp cause => ({ a with registryHeld := false }, .failed cause)
  | .remove name =>
    if a.registryHeld then (a, .blocked)
    else
      match a.registry.lookup name with
      | none => (a, .failed (.unknownStage name))
      | some number =>
        ({ a with registry := without name a.registry }, .done (a.tearDown number))
  | .removeAll =>
    if a.registryHeld then (a, .blocked)
    else
      let numbers := a.registry.map (·.2)
      ({ a with registry := [] },
        .done (numbers.map .close ++ (numbers.map a.tearDown).flatten))
  | .close number =>
    (a.mapStage number fun s => s.mapExchange fun x => (x.atOnce .close).1, .done [])
  | .unserve name =>
    match a.served.lookup name with
    | none => (a, .done [])
    | some ref => ({ a with served := without name a.served }, .done [.beginStop ref])
  | .unserveAll => ({ a with served := [] }, .done (a.served.map fun entry => .beginStop entry.2))
  | .beginStop ref => a.beginStop ref
  | .awaitExits ref deadline => a.awaitExits ref deadline
  | .endStop ref => (a.mapPool ref Pool.endStop, .done [])
  | .dismiss number =>
    (a.mapStage number fun s => { s with life := s.life ++ [.tornDown] }, .done [])

/-! ## Workers -/

/-- The events that a worker is about to send, if it is. -/
def sending? (a : Application ε) (number pool worker : Nat) :
    Option (Batch ε × Nat × List ε × (Bool → Plan ε) × Nat) :=
  match (a.services[number]?).bind fun s => s.worker? pool worker with
  | none => none
  | some w =>
    match w.duty with
    | .handling batch (.send target events next) since => some (batch, target, events, next, since)
    | _ => none

/-- Offers events to the sink of a stage, and answers whether they were let in. -/
def offer (number : Nat) (events : List ε) (a : Application ε) : Application ε × Bool :=
  match a.services[number]? with
  | none => (a, false)
  | some s =>
    let (exchange, reply) := s.stage.exchange.atOnce (.enqueueMany true events)
    (a.mapStage number fun stage => { stage with exchange },
      match reply with
      | some (.enqueuedMany answer) => answer.isOk
      | _ => false)

/-- The next step of a worker, if it can take one. -/
def stepWorker? (number pool worker : Nat) (a : Application ε)
    (refusals : ThreadRefusals := noRefusals) : Option (Application ε) :=
  match a.sending? number pool worker with
  | some (batch, target, events, next, since) =>
    let (a, accepted) := a.offer target events
    some (a.mapService number (Service.setDuty pool worker (.handling batch (next accepted) since)))
  | none =>
    ((a.services[number]?).bind fun s => s.step? number pool worker refusals).map fun s =>
      a.mapService number fun _ => s

/-- Whether a worker has ended the program. -/
def hasCrashed (a : Application ε) : Bool :=
  a.services.any fun s => s.workers.any fun w => w.2.isCrashing

/-! ## Descriptions -/

/-- The description of an application. -/
def text (a : Application ε) : String :=
  let scheduler := recordText "Scheduler"
    [("stages", toString a.served.length), ("policy", a.policy.text)]
  recordText "Runtime"
    [("stages", listText quoted (a.registry.map (·.1))), ("scheduler", scheduler)]

end Application

end StagedEvents
