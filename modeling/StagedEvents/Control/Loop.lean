import StagedEvents.Control.Settings
import StagedEvents.Dial
import StagedEvents.Failure

/-!
# Control loops

A loop turns one dial so that the response time of a stage goes towards its
target. Once per window of observed batches it smooths the response time, finds
the band of the load and moves the dial: it multiplies when the load is very low,
adds when it is low, divides when it is high, and always stays between its least
and greatest value.

A loop can be switched off. Its dial is then released, that is, turned to where
it holds nothing back, and it goes back to the starting value when the loop is
switched on again.

This module has one loop and its dial; `Control.Console` has loops that feed
secondary loops.
-/

namespace StagedEvents

/-- A control loop over the dial with the given number. Model of `ResponseTimeController`. -/
structure Loop (α : Type) where
  settings : LoopSettings α
  dial : Nat
  /-- The value the dial is turned to when the loop is switched on. -/
  start : α
  enabled : Bool
  /-- Batches observed so far. -/
  observations : UInt64
  /-- The smoothed response time in milliseconds, once there is one. -/
  smoothed? : Option α
  /-- High windows in a row that ended at the least value. -/
  highWindows : Nat

/-- What one adjustment did. -/
structure Adjustment (α : Type) where
  band : Band
  smoothed : Span
  previous : α
  value : α
  /-- The new state of the secondary loop, if it was switched. -/
  secondary : Option Bool

/-- What a loop has found out and done in one adjustment, before its secondary loop
    is switched. -/
structure Turn (α : Type) where
  loop : Loop α
  dial : Dial α
  band : Band
  previous : α
  smoothed : α
  /-- What the secondary loop should be: on, off, or as it is. -/
  wish : Option Bool
  fault? : Option Fault

namespace Loop

variable {α : Type} [Quantity α]

/-- A loop over a dial, switched on, and the dial at its starting value. Model of
    `ResponseTimeController::new`. -/
def new? (settings : LoopSettings α) (number : Nat) (dial : Dial α) :
    Except Fault (Loop α × Dial α) :=
  let settings := settings.normalized
  match Quantity.clamp? settings.least settings.greatest (settings.initial?.getD dial.value) with
  | none => .error .disorderedBounds
  | some start =>
    .ok ({ settings, dial := number, start, enabled := true, observations := 0,
           smoothed? := none, highWindows := 0 }, dial.turn start)

/-- Switches the loop on; one that is on stays as it is. Model of
    `ResponseTimeController::enable`. -/
def enable (l : Loop α) (dial : Dial α) : Loop α × Dial α :=
  if l.enabled then (l, dial)
  else ({ l with enabled := true, highWindows := 0 }, dial.turn l.start)

/-- The value the dial is turned to when the loop is switched off: where it holds
    nothing back, or the greatest value if it has no such place. -/
def releaseValue (l : Loop α) (dial : Dial α) : α :=
  dial.released?.getD l.settings.greatest

/-- Switches the loop off and releases the dial. Model of `ResponseTimeController::disable`. -/
def disable (l : Loop α) (dial : Dial α) : Loop α × Dial α :=
  ({ l with enabled := false }, dial.turn (l.releaseValue dial))

/-- Switches the loop as asked, if anything is asked. -/
def switch (l : Loop α) (dial : Dial α) : Option Bool → Loop α × Dial α
  | none => (l, dial)
  | some true => l.enable dial
  | some false => l.disable dial

/-- The loop with one more batch observed. -/
def count (l : Loop α) : Loop α := { l with observations := l.observations + 1 }

/-- Whether the batches observed end a window. -/
def endsWindow (l : Loop α) : Bool := l.observations.toNat % l.settings.window == 0

/-- The smoothed response time, in milliseconds, after one more. -/
def smooth (l : Loop α) (observed : Span) : α :=
  let sample := Quantity.seconds observed * 1000.0
  match l.smoothed? with
  | none => sample
  | some earlier => l.settings.smoothing * earlier + (1.0 - l.settings.smoothing) * sample

/-- The count of high windows and what the secondary loop should be, after a window
    in the given band that ended at `value`. -/
def escalate (l : Loop α) (band : Band) (load value : α) : Nat × Option Bool :=
  let released : Option Bool := if load < l.settings.bands.medium then some false else none
  match band with
  | .veryHigh => (0, some true)
  | .high =>
    if value ≤ l.settings.least then
      let windows := min (l.highWindows + 1) LoopSettings.endlessEscalation
      (windows, if l.settings.escalation ≤ windows then some true else none)
    else (0, released)
  | _ => (0, released)

/-- One adjustment of the loop and its dial to an observed response time. The dial
    is only turned when its value changes. Model of the first part of
    `ResponseTimeController::adjust`. -/
def turn (l : Loop α) (dial : Dial α) (observed : Span) : Turn α :=
  let smoothed := l.smooth observed
  let l := { l with smoothed? := some smoothed }
  let load := l.settings.load smoothed
  let band := l.settings.bands.classify load
  let previous := dial.value
  let proposed := l.settings.proposed band previous
  match Quantity.clamp? l.settings.least l.settings.greatest proposed with
  | none =>
    { loop := l, dial, band, previous, smoothed, wish := none, fault? := some .disorderedBounds }
  | some value =>
    let dial := if Quantity.same value previous then dial else dial.turn value
    let (highWindows, wish) := l.escalate band load value
    { loop := { l with highWindows }, dial, band, previous, smoothed, wish, fault? := none }

/-- A smoothed response time in milliseconds as a span. -/
def spanOfMillis (millis : α) : Except Fault Span :=
  match (Quantity.ofSeconds? (millis / 1000.0) : Option Span) with
  | none => .error .unrepresentableSpan
  | some span => .ok span

/-- The smoothed response time, once there is one. Model of
    `ResponseTimeController::smoothed_response_time`. -/
def smoothedSpan (l : Loop α) : Option (Except Fault Span) := l.smoothed?.map spanOfMillis

end Loop

/-- The account of an adjustment, given what became of the secondary loop and what the
    dial shows in the end. -/
def Turn.adjustment {α : Type} [Quantity α] (t : Turn α) (secondary : Option Bool)
    (value : α) : Except Fault (Adjustment α) :=
  match t.fault? with
  | some fault => .error fault
  | none =>
    (Loop.spanOfMillis t.smoothed).map fun smoothed =>
      { band := t.band, smoothed, previous := t.previous, value, secondary }

end StagedEvents
