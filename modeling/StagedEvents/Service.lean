import StagedEvents.Pool
import StagedEvents.Stage

/-!
# Services: a stage and the pools that serve it

A service is a stage with every pool that has ever been set up for it. Its worker
step is one critical section, or one visible act, of one worker; all that workers do
is a sequence of such steps in some order.

A round of a worker: it looks whether it is to stop; it fetches a batch, or comes
back without one and may retire; it runs the handler; it records the batch, lets the
control loops observe it and completes it; it looks at the backlog and may add a
worker. An observation without a result takes the worker out of its round: the
batch is completed and the worker leaves.
-/

namespace StagedEvents

/-- A stage and all the pools there have been for it. -/
structure Service (ε : Type) where
  stage : Stage ε
  pools : List (Pool ε)

namespace Service

variable {ε : Type}

/-- The time of the stage. -/
def clock (s : Service ε) : Nat := s.stage.exchange.clock

/-- The service with one pool changed. -/
def mapPool (pool : Nat) (f : Pool ε → Pool ε) (s : Service ε) : Service ε :=
  { s with pools := s.pools.modify pool f }

/-- The service with one worker changed. -/
def mapWorker (pool worker : Nat) (f : Worker ε → Worker ε) (s : Service ε) : Service ε :=
  s.mapPool pool (Pool.mapWorker worker f)

/-- The service with a worker at another point of its round. -/
def setDuty (pool worker : Nat) (duty : Duty ε) (s : Service ε) : Service ε :=
  s.mapWorker pool worker fun w => { w with duty }

/-- A worker of the service. -/
def worker? (s : Service ε) (pool worker : Nat) : Option (Worker ε) :=
  (s.pools[pool]?).bind fun p => p.worker? worker

/-- All workers, each with the number of its pool. -/
def workers (s : Service ε) : List (Nat × Worker ε) :=
  (s.pools.mapIdx fun i p => p.workers.map fun w => (i, w)).flatten

/-- A worker begins to fetch. Model of the call of `next_batch` by `PoolShared::run_worker`. -/
def beginFetch (pool worker : Nat) (block : Span) (s : Service ε) : Service ε :=
  let client := s.stage.exchange.freshId
  { s with stage := s.stage.mapExchange fun x => x.enter client (.fetch .takeSlot false) block }
    |>.setDuty pool worker (.fetching client)

/-- A worker comes back from a fetch. A batch is entered in the journal as it is handed
    to the handler. Model of the match on what `next_batch` answers in
    `PoolShared::run_worker`. -/
def endFetch (number pool worker client : Nat) (reply : Reply ε) (s : Service ε) : Service ε :=
  let s := { s with stage := s.stage.mapExchange fun x => x.leave client }
  match reply with
  | .fetched (.ok (some batch)) =>
    let entry : JournalEntry ε := { pool, worker, events := batch.events }
    let own? := if s.stage.isIntroduced then some number else none
    let plan := s.stage.handler.plan own? batch.events
    { s with stage := s.stage.enter entry }
      |>.setDuty pool worker (.handling batch plan s.clock)
  | .fetched (.ok none) => s.setDuty pool worker .idling
  | _ => s.setDuty pool worker .leaving

/-- The next step of a fetch, if it can be taken. -/
def stepFetch? (number pool worker client : Nat) (s : Service ε) : Option (Service ε) :=
  match s.stage.exchange.client? client with
  | none => none
  | some c =>
    match c.reply? with
    | some reply => some (s.endFetch number pool worker client reply)
    | none =>
      (s.stage.exchange.stepClient? c).map fun x =>
        { s with stage := s.stage.mapExchange fun _ => x }

/-- A step inside the handler, if it can be taken. To send events is a step of the
    whole application, and not taken here. Model of the call of the handler in
    `PoolShared::run_batch`. -/
def stepPlan? (pool worker : Nat) (batch : Batch ε) (plan : Plan ε) (since : Nat)
    (s : Service ε) : Option (Service ε) :=
  match plan with
  | .finish verdict =>
    some (s.setDuty pool worker (.recording batch verdict ⟨s.clock - since⟩))
  | .hold next =>
    (s.stage.latch.pass?).map fun latch =>
      { s with stage := { s.stage with latch } }.setDuty pool worker (.handling batch next since)
  | .send _ _ _ => none

/-- Records a batch; a failed one ends the program if that is the policy. Model of the
    statistics that `PoolShared::run_batch` keeps. -/
def record (pool worker : Nat) (policy : FailurePolicy) (batch : Batch ε) (verdict : Verdict)
    (elapsed : Span) (s : Service ε) : Service ε :=
  let count (s : Service ε) := { s with
    stage := s.stage.mapStats (Stats.recordBatch batch.events.length elapsed) }
  if verdict = .handled then (count s).setDuty pool worker (.observing batch)
  else
    let s := { s with stage := s.stage.mapStats Stats.recordFailure }
    match policy with
    | .crash => s.setDuty pool worker .crashing
    | .carryOn => (count s).setDuty pool worker (.observing batch)

/-- Lets the control loops observe a batch. Model of the call of `observe` in
    `PoolShared::run_batch`. -/
def observe (pool worker : Nat) (batch : Batch ε) (s : Service ε) : Service ε :=
  let (stage, answer) := s.stage.observe
  { s with stage }.setDuty pool worker (.completing batch !answer.isOk)

/-- Completes a batch. Model of the end of `PoolShared::run_batch`. -/
def complete (pool worker : Nat) (batch : Batch ε) (leaves : Bool) (s : Service ε) : Service ε :=
  let s := { s with
    stage := s.stage.mapExchange fun x => (x.atOnce (.complete batch.completion .done)).1 }
  if leaves then s.setDuty pool worker .leaving
  else s.mapWorker pool worker fun w => { w with duty := .measuring, idleSince := s.clock }

/-- Whether more events wait than a pool puts up with. Model of the first test of
    `PoolShared::maybe_grow`. -/
def overloads (s : Service ε) (settings : PoolSettings) : Bool :=
  match settings.grow? with
  | none => false
  | some backlog => decide (backlog < s.stage.queue.events.length)

/-- An idle worker retires if it has been idle for long enough and can be done without. Model of the
    idle branch of `PoolShared::run_worker`. -/
def rest (pool : Nat) (p : Pool ε) (w : Worker ε) (s : Service ε) : Service ε :=
  if p.settings.idle.nanos ≤ s.clock - w.idleSince then
    match p.retire? w.id with
    | some p => (s.mapPool pool fun _ => p).setDuty pool w.id .leaving
    | none => s.setDuty pool w.id .checking
  else s.setDuty pool w.id .checking

/-- The next step of a worker of the given pool, if it can take one by itself. The first
    argument is the number of the stage, the last what the system says if the worker asks for
    a thread. Model of one step of `PoolShared::run_worker`. -/
def stepIn? (number pool : Nat) (p : Pool ε) (w : Worker ε) (s : Service ε)
    (refusals : ThreadRefusals := noRefusals) : Option (Service ε) :=
  match w.duty with
  | .checking =>
    some (if w.stop then s.setDuty pool w.id .leaving else s.beginFetch pool w.id p.settings.block)
  | .fetching client => s.stepFetch? number pool w.id client
  | .handling batch plan since => s.stepPlan? pool w.id batch plan since
  | .recording batch verdict elapsed => some (s.record pool w.id p.policy batch verdict elapsed)
  | .observing batch => some (s.observe pool w.id batch)
  | .completing batch leaves => some (s.complete pool w.id batch leaves)
  | .measuring => some (s.setDuty pool w.id (if s.overloads p.settings then .adding else .checking))
  | .adding => some ((s.mapPool pool (Pool.grow s.clock refusals)).setDuty pool w.id .checking)
  | .idling => some (s.rest pool p w)
  | .leaving => some (s.mapWorker pool w.id fun w => { w with stop := true, duty := .reporting })
  | .reporting =>
    some ((s.mapPool pool fun p => { p with exits := p.exits ++ [w.id] }).setDuty pool w.id .gone)
  | .gone => none
  | .crashing => none

/-- The next step of a worker, if it can take one by itself. -/
def step? (number pool worker : Nat) (s : Service ε) (refusals : ThreadRefusals := noRefusals) :
    Option (Service ε) :=
  match s.pools[pool]? with
  | none => none
  | some p => (p.worker? worker).bind fun w => s.stepIn? number pool p w refusals

/-- Whether the worker sleeps in a fetch. -/
def sleeps (s : Service ε) (w : Worker ε) : Bool :=
  match w.duty with
  | .fetching client =>
    match s.stage.exchange.client? client with
    | none => false
    | some c =>
      match c.phase with
      | .asleep _ _ => true
      | _ => false
  | _ => false

/-- How many workers wait at the latch. -/
def held (s : Service ε) : Nat := s.workers.countP fun w => w.2.isHeld

/-- Whether no event waits and no worker has a batch. -/
def isSettled (s : Service ε) : Bool :=
  s.stage.queue.events.isEmpty && s.workers.all fun w => !w.2.hasBatch

/-! ## Operations on pools -/

/-- Sets up a pool that has not started. Model of `ThreadPool::new`. -/
def addPool (policy : FailurePolicy) (s : Service ε) : Service ε :=
  let single := s.stage.capability == .singleThreaded
  { s with pools := s.pools ++ [.new s.stage.name s.stage.pool single policy] }

/-- Starts a pool, if it has not been started. Model of `ThreadPool::start`. -/
def startPool? (pool : Nat) (s : Service ε) (refusals : ThreadRefusals := noRefusals) :
    Option (Service ε × Except Fault (Except StageError Unit)) :=
  match s.pools[pool]? with
  | none => none
  | some p =>
    (p.start? s.clock refusals).map fun (started, answer) =>
      let stage := s.stage.mapChannel fun c =>
        { c with sorter := c.sorter.init p.settings.most }
      ({ s with stage }.mapPool pool fun _ => started, answer)

/-- Changes the number of workers of a pool and answers how many count from now on. Model of
    `ThreadPool::set_pool_size`. -/
def resizePool (pool size : Nat) (s : Service ε) (refusals : ThreadRefusals := noRefusals) :
    Service ε × Except Fault (Except StageError Nat) :=
  match s.pools[pool]? with
  | none => (s, .ok (.ok 0))
  | some p =>
    let (p, answer) := p.resize s.clock refusals size
    (s.mapPool pool fun _ => p, answer)

end Service

end StagedEvents
