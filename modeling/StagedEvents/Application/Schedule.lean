import StagedEvents.Application

/-!
# A schedule for applications

An application runs by itself under one schedule of its workers, on a system that refuses
no threads. What a caller does takes no time, and workers go on only while a caller waits:
the first worker that can take a step does, and time passes when none can. Time then passes
until the first worker wakes by itself, but at least for a millisecond. Of all that workers
do, only a handler takes time, a microsecond.

* `Application.settle` — lets all workers go on until none can.
* `Application.carryOut` — carries out chores, one after the other.
* `Application.waitUntil` — lets time pass until a condition holds.
-/

namespace StagedEvents

/-- How a caller came to the end of its chores. -/
inductive Ending where
  | finished
  | failed (cause : StageError)
  | faulty (fault : Fault)
  /-- A chore will never be possible. -/
  | stuck
deriving DecidableEq, Repr

namespace Application

variable {ε : Type}

/-- The application after some time in which no one does anything. -/
def pass (nanos : Nat) (a : Application ε) : Application ε :=
  { a with
    services := a.services.map fun s =>
      { s with stage := s.stage.mapExchange fun x => { x with clock := x.clock + nanos } } }

/-- The time that a handler takes. -/
def handlingTime : Nat := 1000

/-- The application when a worker takes its next step: time has passed if the worker comes
    back from the handler. -/
def untilStep (w : Worker ε) (a : Application ε) : Application ε :=
  match w.duty with
  | .handling _ (.finish _) _ => a.pass handlingTime
  | _ => a

/-- The next step of the first worker that can take one before it wakes. -/
def stepFirst? (a : Application ε) : Option (Application ε) :=
  (List.range a.services.length).findSome? fun number =>
    match a.services[number]? with
    | none => none
    | some s =>
      s.workers.findSome? fun (pool, w) =>
        if s.sleeps w then none else (a.untilStep w).stepWorker? number pool w.id

/-- Steps until no worker can take one before it wakes, at most `fuel` of them. A program
    that has crashed takes none. -/
def settleWithin : (fuel : Nat) → Application ε → Application ε
  | 0, a => a
  | fuel + 1, a =>
    if a.hasCrashed then a
    else
      match a.stepFirst? with
      | none => a
      | some a => settleWithin fuel a

/-- The most steps that the workers take before one of them has to wake. Handlers that send
    events in circles for ever are cut off here. -/
def settleFuel : Nat := 100000000

/-- Steps until no worker can take one before it wakes. -/
def settle (a : Application ε) : Application ε := a.settleWithin settleFuel

/-! ## Time -/

/-- How long it is until the first worker wakes by itself. -/
def nextAlarm? (a : Application ε) : Option Nat :=
  (a.services.filterMap fun s => (s.stage.exchange.nextAlarm?).map fun t => t - s.clock).min?

/-- Every worker that sleeps and whose time is over takes one step. -/
def wakeExpired (a : Application ε) : Application ε :=
  (List.range a.services.length).foldl (fun a number =>
    match a.services[number]? with
    | none => a
    | some s =>
      s.workers.foldl (fun a (pool, w) =>
        if s.sleeps w then (a.stepWorker? number pool w.id).getD a else a) a) a

/-- The least time that passes at once. -/
def leastWait : Nat := 1000000

/-- Lets time pass until the first worker wakes by itself, at most `limit`, and all
    workers go on. The result has the time that passed. -/
def tick (limit : Nat) (a : Application ε) : Application ε × Nat :=
  let nanos := min limit (max leastWait (a.nextAlarm?.getD limit))
  ((a.pass nanos).wakeExpired.settle, nanos)

/-- Lets time pass, at most `limit`, until a condition holds. -/
def waitWithin (condition : Application ε → Bool) :
    (fuel limit : Nat) → Application ε → Application ε × Bool
  | 0, _, a => (a, condition a)
  | fuel + 1, limit, a =>
    if condition a then (a, true)
    else if limit = 0 then (a, false)
    else
      let (a, nanos) := a.tick limit
      waitWithin condition fuel (limit - nanos) a

/-- Waits until a condition holds, if it does not yet: lets all workers go on, and then
    time pass, at most `limit`. -/
def waitUntil (condition : Application ε → Bool) (limit : Span) (a : Application ε) :
    Application ε × Bool :=
  if condition a then (a, true)
  else a.settle.waitWithin condition (limit.nanos / leastWait + 2) limit.nanos

/-! ## Chores -/

/-- The time that a blocked chore will wait, if it waits for a time. -/
def patience (chore : Chore ε) (a : Application ε) : Nat :=
  match chore with
  | .awaitExits ref (some deadline) =>
    deadline - ((a.services[ref.stage]?).map Service.clock).getD 0
  | _ => Span.longest.nanos

/-- Carries out chores one after the other. While one is blocked the workers go on, and
    time passes once they have `settled`. -/
def carryOutWithin : (fuel : Nat) → (settled : Bool) → List (Chore ε) → Application ε →
    Application ε × Ending
  | 0, _, _, a => (a, .stuck)
  | _, _, [], a => (a, .finished)
  | fuel + 1, settled, chore :: rest, a =>
    match a.doChore chore with
    | (a, .done next) => carryOutWithin fuel false (next ++ rest) a
    | (a, .failed cause) => (a, .failed cause)
    | (a, .faulty fault) => (a, .faulty fault)
    | (a, .blocked) =>
      if !settled then carryOutWithin fuel true (chore :: rest) a.settle
      else if (a.nextAlarm?).isNone && decide (a.patience chore = Span.longest.nanos) then
        (a, .stuck)
      else carryOutWithin fuel true (chore :: rest) (a.tick (a.patience chore)).1

/-- The most chores and waits of one caller. -/
def choreFuel : Nat := 1000000

/-- Carries out chores one after the other. -/
def carryOut (chores : List (Chore ε)) (a : Application ε) : Application ε × Ending :=
  a.carryOutWithin choreFuel false chores

/-- Makes a stage, tells its handler, serves it and enters it into the registry. The
    caller sets up a custom loop before it asks for the stage, and goes no further if
    the loop cannot start. Model of `Runtime::create_stage`. -/
def createStage (blueprint : Blueprint ε) (a : Application ε) : Application ε × Ending :=
  if blueprint.customLoop?.all (·.settings.canStart) then a.carryOut [.build blueprint]
  else (a, .faulty .disorderedBounds)

/-- Takes a stage out of the registry and tears it down. Model of `Runtime::destroy_stage`. -/
def destroyStage (name : String) (a : Application ε) : Application ε × Ending :=
  a.carryOut [.remove name]

/-- Tears all stages down. Model of `Runtime::shutdown`. -/
def shutdown (a : Application ε) : Application ε × Ending := a.carryOut [.removeAll]

/-- Stops the pool that serves a name, if there is one. Model of `Scheduler::deregister`. -/
def deregister (name : String) (a : Application ε) : Application ε × Ending :=
  a.carryOut [.unserve name]

/-- Stops all pools that serve a name. Model of `Scheduler::deregister_all`. -/
def deregisterAll (a : Application ε) : Application ε × Ending := a.carryOut [.unserveAll]

/-- Stops a pool. Model of `ThreadPool::shutdown`. -/
def stopPool (ref : PoolRef) (a : Application ε) : Application ε × Ending :=
  a.carryOut [.beginStop ref]

/-- Opens the latches of all stages. -/
def openLatches (a : Application ε) : Application ε :=
  { a with
    services := a.services.map fun s =>
      { s with stage := { s.stage with latch := s.stage.latch.release none } } }

end Application

end StagedEvents
