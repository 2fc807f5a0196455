import StagedEvents.Control.Console

/-!
# Many observers of one row of loops

Workers of a stage observe their batches at the same time. An observation goes down
the row of loops, and at each loop it takes up to three steps, between which others
may take theirs:

* it looks whether the loop is on, and ends if it is not;
* it counts the batch, which tells whether it completes a window of the loop;
* if it does, and there are measurements, it takes hold of the loop, looks again
  whether the loop is on, and adjusts it and switches its secondary.

`Observation.step` is one such step. `Observers.run` is one interleaving of many
observations, in which observers take their steps in turn. `Console.observe` is an
observation that no one interrupts.
-/

namespace StagedEvents

/-- What an observation does next. -/
inductive ObservationPhase where
  | checking
  | counting
  | adjusting
  | finished
deriving DecidableEq, Repr

/-- An observation under way: the loop it has come to, and what it has led to at the
    first loop. -/
structure Observation (α : Type) where
  loop : Nat
  phase : ObservationPhase
  answer : Except Fault (Option (Adjustment α))

namespace Observation

variable {α : Type} [Quantity α]

/-- An observation that begins at the first loop. -/
def start : Observation α := { loop := 0, phase := .checking, answer := .ok none }

/-- The observation at the next loop. -/
def goOn (o : Observation α) : Observation α := { o with loop := o.loop + 1, phase := .checking }

/-- The observation at its end. -/
def stop (o : Observation α) : Observation α := { o with phase := .finished }

/-- Adjusts the loop the observation has come to, if the loop is still on. Model of
    `ResponseTimeController::observe_window`. -/
def adjust (stats : Stats) (o : Observation α) (l : Loop α) (c : Console α) :
    Console α × Observation α :=
  if !l.enabled then (c, o.goOn)
  else
    match c.recalculate o.loop stats.ninetieth with
    | (c, some (.error fault)) => (c, { o with answer := .error fault }.stop)
    | (c, some (.ok adjustment)) =>
      (c, (if o.loop = 0 then { o with answer := .ok (some adjustment) } else o).goOn)
    | (c, none) => (c, o.stop)

/-- One step of an observation. -/
def step (stats : Stats) (o : Observation α) (c : Console α) : Console α × Observation α :=
  match c.loops[o.loop]? with
  | none => (c, o.stop)
  | some l =>
    match o.phase with
    | .checking => (c, if l.enabled then { o with phase := .counting } else o.stop)
    | .counting =>
      let l := l.count
      let c := { c with loops := c.loops.set o.loop l }
      if !l.endsWindow || stats.samples == 0 then (c, o.goOn)
      else (c, { o with phase := .adjusting })
    | .adjusting => o.adjust stats l c
    | .finished => (c, o)

end Observation

/-- Someone who observes batches: the observation under way, how many more there will
    be, and what those before have led to. -/
structure Observer (α : Type) where
  current? : Option (Observation α)
  remaining : Nat
  /-- What the observations have led to, the latest first. -/
  latest : List (Except Fault (Option (Adjustment α)))

/-- Observers of one row of loops. -/
structure Observers (α : Type) where
  console : Console α
  row : List (Observer α)

namespace Observer

variable {α : Type} [Quantity α]

/-- An observer of `count` batches. -/
def new (count : Nat) : Observer α :=
  { current? := none, remaining := count, latest := [] }

/-- What the observations have led to, in their order. -/
def answers (w : Observer α) : List (Except Fault (Option (Adjustment α))) := w.latest.reverse

/-- One step of an observer: the next observation begins, or the one under way goes on.
    There is no next one after one without a result. -/
def step (stats : Stats) (w : Observer α) (c : Console α) : Console α × Observer α :=
  match w.current?, w.remaining with
  | none, 0 => (c, w)
  | none, remaining + 1 => (c, { w with current? := some .start, remaining })
  | some o, _ =>
    let (c, o) := o.step stats c
    if o.phase = .finished then
      let remaining := if o.answer.isOk then w.remaining else 0
      (c, { current? := none, remaining, latest := o.answer :: w.latest })
    else (c, { w with current? := some o })

/-- Whether the observer has nothing left to do. -/
def isDone (w : Observer α) : Bool := w.current?.isNone && w.remaining == 0

end Observer

namespace Observers

variable {α : Type} [Quantity α]

/-- Observers of `each` batches apiece who have not begun. -/
def new (console : Console α) (count each : Nat) : Observers α :=
  { console, row := List.replicate count (.new each) }

/-- One step of each observer in turn. -/
def round (stats : Stats) (s : Observers α) : Observers α :=
  let (console, row) := s.row.foldl (fun acc w =>
    let (c, w) := w.step stats acc.1
    (c, acc.2 ++ [w])) (s.console, [])
  { console, row }

/-- Rounds until everyone is done, at most `fuel` of them. -/
def runWithin (stats : Stats) : (fuel : Nat) → Observers α → Observers α
  | 0, s => s
  | fuel + 1, s => if s.row.all Observer.isDone then s else runWithin stats fuel (s.round stats)

/-- Rounds until everyone is done. An observation takes at most three steps at a loop,
    one to begin and one to end. -/
def run (stats : Stats) (s : Observers α) : Observers α :=
  let batches := (s.row.map fun w => w.remaining + 1).foldl max 0
  s.runWithin stats (batches * (3 * s.console.loops.length + 2))

/-- The adjustments that observations have led to, provided all had a result. -/
def adjustments (s : Observers α) : Except Fault (List (Adjustment α)) := do
  let answers ← (s.row.map (·.answers)).flatten.mapM id
  return answers.filterMap id

end Observers

end StagedEvents
