import StagedEvents.Control.Console
import StagedEvents.Exchange
import StagedEvents.Handler
import StagedEvents.Text.Quoted

/-!
# Stages

A stage is a named channel with a handler, the control loops that follow its
response time, and the settings of the pools that serve it. It keeps a journal of
the batches its handler was given.

The gate of the sink may have a dial that a loop turns. That dial is kept in the
sink, and its place in the row of dials is only held open for it: `Stage.console` is
the row with the dial in its place, and `Stage.putConsole` puts both back.
-/

namespace StagedEvents

/-- Whether a handler may be given several batches at a time. Model of `HandlerCapability`. -/
inductive Capability where
  | concurrent
  | singleThreaded
deriving DecidableEq, Repr

/-- The description of a capability. -/
def Capability.text : Capability → String
  | .concurrent => "Concurrent"
  | .singleThreaded => "SingleThreaded"

/-- Where the handlers of a stage can be held: open, or with a number of passes. -/
structure Latch where
  isOpen : Bool
  passes : Nat
deriving DecidableEq, Repr

namespace Latch

/-- A latch that lets no one pass. -/
def shut : Latch := { isOpen := false, passes := 0 }

/-- Lets `count` more handlers pass, or all from now on. -/
def release (count : Option Nat) (l : Latch) : Latch :=
  match count with
  | some count => { l with passes := l.passes + count }
  | none => { l with isOpen := true }

/-- Lets one handler pass, if it may. -/
def pass? (l : Latch) : Option Latch :=
  if l.isOpen then some l
  else if l.passes = 0 then none
  else some { l with passes := l.passes - 1 }

end Latch

/-- A batch that the handler of a stage was given, and by whom. -/
structure JournalEntry (ε : Type) where
  pool : Nat
  worker : Nat
  events : List ε
deriving DecidableEq, Repr

/-- What a handler was told about its stage. -/
inductive LifeEvent where
  | made
  | tornDown
deriving DecidableEq, Repr

/-- A named channel, its handler, and what drives it. -/
structure Stage (ε : Type) where
  name : String
  capability : Capability
  exchange : Exchange Float ε
  /-- The first of these loops controls the stage, the others are its secondaries. -/
  loops : List (Loop Float)
  dials : Panel Float
  /-- The place of the gate's dial in the row, if the gate has a dial. -/
  gateDial? : Option Nat
  pool : PoolSettings
  handler : Handler ε
  latch : Latch
  /-- The batches the handler was given, the latest first. -/
  latest : List (JournalEntry ε)
  life : List LifeEvent

namespace Stage

variable {ε : Type}

/-- The sink that producers of the stage use. -/
def sink (s : Stage ε) : Sink Float ε := s.exchange.channel.sink

/-- The queue of the stage. -/
def queue (s : Stage ε) : Queue ε := s.sink.queue

/-- What has been measured of the stage. -/
def stats (s : Stage ε) : Stats := s.sink.stats

/-- The stage with its exchange changed. -/
def mapExchange (f : Exchange Float ε → Exchange Float ε) (s : Stage ε) : Stage ε :=
  { s with exchange := f s.exchange }

/-- The stage with its channel changed. -/
def mapChannel (f : Channel Float ε → Channel Float ε) (s : Stage ε) : Stage ε :=
  s.mapExchange fun x => { x with channel := f x.channel }

/-- The stage with its sink changed. -/
def mapSink (f : Sink Float ε → Sink Float ε) (s : Stage ε) : Stage ε :=
  s.mapChannel fun c => { c with sink := f c.sink }

/-- The stage with its measurements changed. -/
def mapStats (f : Stats → Stats) (s : Stage ε) : Stage ε :=
  s.mapSink fun sink => { sink with stats := f sink.stats }

/-- The batches the handler was given, in this order. -/
def journal (s : Stage ε) : List (JournalEntry ε) := s.latest.reverse

/-- The stage with one more batch in its journal. -/
def enter (entry : JournalEntry ε) (s : Stage ε) : Stage ε :=
  { s with latest := entry :: s.latest }

theorem journal_enter (entry : JournalEntry ε) (s : Stage ε) :
    (s.enter entry).journal = s.journal ++ [entry] := by
  simp [journal, enter]

/-- Whether the handler was told that the stage is made. -/
def isIntroduced (s : Stage ε) : Bool := s.life.contains .made

/-! ## Loops and dials -/

/-- The loops of the stage and all its dials, the gate's dial in its place. -/
def console (s : Stage ε) : Console Float :=
  { loops := s.loops
    panel :=
      match s.gateDial?, s.sink.gate with
      | some place, .guarded dial => s.dials.set place dial
      | _, _ => s.dials }

/-- The stage with the loops and dials of a console; the gate's dial goes to the sink. -/
def putConsole (s : Stage ε) (c : Console Float) : Stage ε :=
  let s := { s with loops := c.loops, dials := c.panel }
  match s.gateDial? with
  | none => s
  | some place => s.mapSink fun sink => { sink with gate := .guarded (dialAt c.panel place) }

/-- The stage behind another gate. Its loops go on turning the dials they turned. -/
def replaceGate (s : Stage ε) (gate : Gate Float) : Stage ε :=
  let dials := s.console.panel
  let s := s.mapSink fun sink => { sink with gate }
  match gate with
  | .openToAll => { s with dials, gateDial? := none }
  | .guarded dial => { s with dials := dials ++ [dial], gateDial? := some dials.length }

/-- Applies an operation to the controlling loop, if the stage has one. -/
def control {ρ : Type} (operation : Console Float → Console Float × ρ) (s : Stage ε) :
    Stage ε × Option ρ :=
  match s.loops with
  | [] => (s, none)
  | _ :: _ =>
    let (console, answer) := operation s.console
    (s.putConsole console, some answer)

/-- One handled batch for the controlling loop. The result says whether the loops
    could be adjusted. -/
def observe (s : Stage ε) : Stage ε × Except Fault (Option (Adjustment Float)) :=
  let (s, answer) := s.control (Console.observeFirst s.stats)
  (s, answer.getD (.ok none))

/-! ## Descriptions -/

/-- The description of a stage. -/
def text (s : Stage ε) : String :=
  recordText "Stage"
    [("name", quoted s.name), ("capability", s.capability.text),
     ("pending", toString s.queue.events.length), ("controlled", toString !s.loops.isEmpty),
     ("pool", s.pool.text)]

/-- The description of a stage as its handler sees it. -/
def contextText (s : Stage ε) : String :=
  recordText "StageContext"
    [("name", quoted s.name), ("pending", toString s.queue.events.length)]

end Stage

end StagedEvents
