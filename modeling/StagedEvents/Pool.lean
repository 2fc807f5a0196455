import StagedEvents.Batch
import StagedEvents.Failure
import StagedEvents.Handler
import StagedEvents.Pool.Settings
import StagedEvents.Text.Quoted

/-!
# Pools of workers

A pool has workers that fetch batches of one stage and hand them to its handler. It
keeps a table of its workers. A worker that is told to stop finishes what it is at,
reports its exit and is then taken off the table by whoever next attends to the
reports; a shutdown that has waited long enough takes all others off at once and
leaves them to themselves.

The functions of this module are the critical sections of a pool. What workers do
between them is in `Service`.

Each worker has a thread of its own, which the system may refuse to give. Whoever adds
workers then gives up: the workers added so far stay, and so does the state of the pool.
-/

namespace StagedEvents

/-- The life of a pool, in this order. -/
inductive PoolState where
  | notStarted
  | running
  | shuttingDown
  | terminated
deriving DecidableEq, Repr

/-- The name of a state. -/
def PoolState.text : PoolState → String
  | .notStarted => "NotStarted"
  | .running => "Running"
  | .shuttingDown => "ShuttingDown"
  | .terminated => "Terminated"

/-- What follows when the handling of a batch fails. -/
inductive FailurePolicy where
  /-- The batch counts as handled. -/
  | carryOn
  /-- The whole program ends. -/
  | crash
deriving DecidableEq, Repr

/-- The name of a policy. -/
def FailurePolicy.text : FailurePolicy → String
  | .carryOn => "Continue"
  | .crash => "Crash"

/-- Whether a worker is on the table of its pool, and how it came off. -/
inductive Membership where
  | listed
  /-- Taken off after it reported its exit. -/
  | joined
  /-- Taken off by a shutdown that no longer waited. -/
  | detached
deriving DecidableEq, Repr

/-- Where a worker is in its round. -/
inductive Duty (ε : Type) where
  /-- About to look whether it is to stop. -/
  | checking
  /-- Fetching a batch, as a client of the stage's channel. -/
  | fetching (client : Nat)
  /-- In the handler, since the given time. -/
  | handling (batch : Batch ε) (plan : Plan ε) (since : Nat)
  /-- Back from the handler; nothing is recorded yet. -/
  | recording (batch : Batch ε) (verdict : Verdict) (elapsed : Span)
  /-- About to let the control loops observe the batch. -/
  | observing (batch : Batch ε)
  /-- About to complete the batch; a worker whose observation had no result leaves. -/
  | completing (batch : Batch ε) (leaves : Bool)
  /-- Done with a batch, about to look at the backlog. -/
  | measuring
  /-- About to add a worker for the backlog. -/
  | adding
  /-- Back from a fetch without a batch. -/
  | idling
  | leaving
  | reporting
  | gone
  /-- The program ends here. -/
  | crashing

/-- A worker of a pool. -/
structure Worker (ε : Type) where
  id : Nat
  /-- Whether it is told to stop. -/
  stop : Bool
  membership : Membership
  duty : Duty ε
  /-- When it was done with its last batch, or began. -/
  idleSince : Nat

namespace Worker

variable {ε : Type}

/-- Whether the worker counts: it is on the table and not told to stop. Model of
    `Worker::is_active`. -/
def isActive (w : Worker ε) : Bool := w.membership == .listed && !w.stop

/-- Whether the worker is in the handler. -/
def isHandling (w : Worker ε) : Bool :=
  match w.duty with
  | .handling _ _ _ => true
  | _ => false

/-- Whether the worker waits at the latch. -/
def isHeld (w : Worker ε) : Bool :=
  match w.duty with
  | .handling _ (.hold _) _ => true
  | _ => false

/-- Whether the worker has a batch that is not done with. -/
def hasBatch (w : Worker ε) : Bool :=
  match w.duty with
  | .handling _ _ _ | .recording _ _ _ | .observing _ | .completing _ _ => true
  | _ => false

/-- Whether the worker ended the program. -/
def isCrashing (w : Worker ε) : Bool :=
  match w.duty with
  | .crashing => true
  | _ => false

end Worker

/-- The name of a worker of the named stage. -/
def workerName (stageName : String) (id : Nat) : String :=
  stageName ++ "-worker-" ++ toString id

/-- Whether the workers of a stage with this name can be named: a worker's name has no
    NUL character. -/
def namesWorkers (stageName : String) : Bool := !stageName.toList.contains '\x00'

/-- What the system says to a pool that asks for a thread for the worker with a number: why
    it gives none, or nothing if it gives one. -/
abbrev ThreadRefusals := Nat → Option String

/-- A system that gives a thread to every worker. -/
def noRefusals : ThreadRefusals := fun _ => none

/-- A pool of workers for one stage. Model of `ThreadPool`. -/
structure Pool (ε : Type) where
  /-- The name of the stage. -/
  stageName : String
  settings : PoolSettings
  policy : FailurePolicy
  state : PoolState
  /-- All workers there have been, by number. -/
  workers : List (Worker ε)
  /-- The number of the next worker. -/
  next : Nat
  /-- Most workers that counted at a time. -/
  largest : Nat
  /-- Reported exits that no one has attended to. -/
  exits : List Nat

namespace Pool

variable {ε : Type}

/-- A pool that has not started. A single-threaded stage has one worker at all times. Model of
    `ThreadPool::new`. -/
def new (stageName : String) (settings : PoolSettings) (single : Bool) (policy : FailurePolicy) :
    Pool ε :=
  { stageName, settings := (if single then settings.singleThreaded else settings).normalized
    policy, state := .notStarted, workers := [], next := 0, largest := 0, exits := [] }

/-- How many workers count. Model of `Workers::active`. -/
def active (p : Pool ε) : Nat := p.workers.countP Worker.isActive

/-- Whether any worker is on the table. -/
def isManned (p : Pool ε) : Bool := p.workers.any fun w => w.membership == .listed

/-- The worker with the given number. -/
def worker? (p : Pool ε) (id : Nat) : Option (Worker ε) := p.workers.find? (·.id == id)

/-- The pool with one worker changed. -/
def mapWorker (id : Nat) (f : Worker ε → Worker ε) (p : Pool ε) : Pool ε :=
  { p with workers := p.workers.map fun w => if w.id = id then f w else w }

/-- Takes a worker that has reported its exit off the table. Model of `reap`. -/
def reap (id : Nat) (p : Pool ε) : Pool ε :=
  p.mapWorker id fun w => if w.membership = .listed then { w with membership := .joined } else w

/-- Attends to all reported exits. Model of the loop over `exits_rx` before a worker
    is spawned and in a shutdown. -/
def reapAll (p : Pool ε) : Pool ε :=
  p.exits.foldl (fun p id => p.reap id) { p with exits := [] }

/-- Attends to all reported exits and takes the number of the next worker, which is used up
    whether or not there will be the worker. -/
def takeNumber (p : Pool ε) : Pool ε := { p.reapAll with next := p.next + 1 }

/-- Adds a worker that has its thread. -/
def spawn (clock : Nat) (p : Pool ε) : Pool ε :=
  let worker : Worker ε :=
    { id := p.next, stop := false, membership := .listed, duty := .checking, idleSince := clock }
  let p := p.takeNumber
  let p := { p with workers := p.workers ++ [worker] }
  { p with largest := max p.largest p.active }

/-- Adds a worker, if it can be named and the system gives it a thread. Model of
    `PoolShared::spawn_worker`. -/
def spawn? (clock : Nat) (refusals : ThreadRefusals) (p : Pool ε) :
    Pool ε × Except Fault (Except StageError Unit) :=
  if namesWorkers p.stageName = false then (p.takeNumber, .error .unusableName)
  else
    match refusals p.next with
    | some reason => (p.takeNumber, .ok (.error (.threadSpawn reason)))
    | none => (p.spawn clock, .ok (.ok ()))

/-- The first `count` workers that count, told to stop. -/
def stopSome : (count : Nat) → List (Worker ε) → List (Worker ε)
  | 0, workers => workers
  | _, [] => []
  | count + 1, w :: rest =>
    if w.isActive then { w with stop := true } :: stopSome count rest
    else w :: stopSome (count + 1) rest

/-- Adds `count` workers one after the other, until one cannot be added. -/
def spawnMany? (clock : Nat) (refusals : ThreadRefusals) :
    (count : Nat) → Pool ε → Pool ε × Except Fault (Except StageError Unit)
  | 0, p => (p, .ok (.ok ()))
  | count + 1, p =>
    match p.spawn? clock refusals with
    | (p, .ok (.ok ())) => spawnMany? clock refusals count p
    | failed => failed

/-- Starts a pool that has not been started. It runs even if it gets no workers, or not
    all that it is to start with. Model of `ThreadPool::start`. -/
def start? (clock : Nat) (refusals : ThreadRefusals) (p : Pool ε) :
    Option (Pool ε × Except Fault (Except StageError Unit)) :=
  if p.state = .notStarted then
    some ({ p with state := .running }.spawnMany? clock refusals p.settings.initial)
  else none

/-- Changes the number of workers and answers how many count from now on. A pool that
    does not run stays as it is. Model of `ThreadPool::set_pool_size`. -/
def resize (clock : Nat) (refusals : ThreadRefusals) (size : Nat) (p : Pool ε) :
    Pool ε × Except Fault (Except StageError Nat) :=
  let size := p.settings.clampSize size
  if p.state ≠ .running then (p, .ok (.ok p.active))
  else if p.active < size then
    let (p, answer) := p.spawnMany? clock refusals (size - p.active)
    (p, answer.map fun added => added.map fun _ => size)
  else ({ p with workers := stopSome (p.active - size) p.workers }, .ok (.ok size))

/-- Adds a worker for the backlog, if the pool runs and may have one more. It does not
    matter to anyone if that fails. Model of the section of `PoolShared::maybe_grow`. -/
def grow (clock : Nat) (refusals : ThreadRefusals) (p : Pool ε) : Pool ε :=
  if p.state ≠ .running ∨ p.settings.most ≤ p.active then p else (p.spawn? clock refusals).1

/-- Tells an idle worker to stop, if the pool can do without it. Model of
    `PoolShared::try_retire`. -/
def retire? (id : Nat) (p : Pool ε) : Option (Pool ε) :=
  if p.active ≤ p.settings.least then none
  else some (p.mapWorker id fun w => { w with stop := true })

/-- The first critical section of a shutdown: all workers are told to stop. The second
    component says whether there is anyone to wait for. -/
def beginStop (p : Pool ε) : Pool ε × Bool :=
  match p.state with
  | .notStarted => ({ p with state := .terminated }, false)
  | .running =>
    ({ p with
        state := .shuttingDown
        workers := p.workers.map fun w =>
          if w.membership = .listed then { w with stop := true } else w }, true)
  | .shuttingDown => (p, false)
  | .terminated => (p, false)

/-- The last critical section of a shutdown: workers still on the table are left to
    themselves. -/
def endStop (p : Pool ε) : Pool ε :=
  { p with
    state := .terminated
    workers := p.workers.map fun w =>
      if w.membership = .listed then { w with membership := .detached } else w }

/-- The description of a pool. -/
def text (p : Pool ε) : String :=
  recordText "ThreadPool"
    [("stage", quoted p.stageName), ("state", p.state.text), ("active", toString p.active),
     ("config", p.settings.text)]

theorem new_inOrder (stageName : String) (settings : PoolSettings) (single : Bool)
    (policy : FailurePolicy) : (new stageName settings single policy : Pool ε).settings.InOrder :=
  PoolSettings.inOrder_normalized _

end Pool

end StagedEvents
