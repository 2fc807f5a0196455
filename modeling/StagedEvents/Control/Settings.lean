import StagedEvents.Control.Band

/-!
# Settings of a control loop

What a loop steers towards, how fast it reacts and within which bounds. Settings
are put in order before a loop uses them (`normalized`): the smoothing weight into
`[0, 0.999]`, a window of at least one observation, a greatest value that is not
below the least, a factor above one and an increase that is not negative.
-/

namespace StagedEvents

/-- The settings of one loop. Model of `ControllerConfig`. -/
structure LoopSettings (α : Type) where
  /-- The response time to steer towards. -/
  target : Span
  /-- The weight of the earlier smoothed response time. -/
  smoothing : α
  /-- Observed batches from one adjustment to the next. -/
  window : Nat
  least : α
  greatest : α
  /-- The starting value; without one the loop starts from what the dial shows. -/
  initial? : Option α
  bands : Bands α
  /-- What is added while the load is low. -/
  increase : α
  /-- What the value is divided by when the load is too high, and multiplied by
      when it is very low. -/
  factor : α
  /-- High windows in a row at the least value before the secondary loop is
      switched on. -/
  escalation : Nat

namespace LoopSettings

variable {α : Type} [Quantity α]

/-- The largest count of high windows. -/
def endlessEscalation : Nat := UInt32.size - 1

/-- Settings for a loop that turns a queue threshold: it starts at the least value,
    adds two below the target and halves above it. Model of `ControllerConfig::queue_threshold`. -/
def queueThreshold (target : Span) : LoopSettings α :=
  { target, smoothing := 0.5, window := 200, least := 1.0, greatest := 1024.0,
    initial? := some 1.0, bands := .narrow, increase := 2.0, factor := 2.0,
    escalation := endlessEscalation }

/-- Settings for a loop that turns a quality between a hundredth and one, starting
    at full quality. Model of `ControllerConfig::quality`. -/
def quality (target : Span) : LoopSettings α :=
  { target, smoothing := 0.5, window := 100, least := 0.01, greatest := 1.0,
    initial? := some 1.0, bands := .graded, increase := 0.01, factor := 2.0,
    escalation := 10 }

/-- The settings put in order. Model of `ControllerConfig::normalized`. -/
def normalized (s : LoopSettings α) : LoopSettings α :=
  { s with
    smoothing := (Quantity.clamp? 0.0 0.999 s.smoothing).getD s.smoothing
    window := max s.window 1
    greatest := if s.greatest < s.least then s.least else s.greatest
    factor := if 1.0 < s.factor then s.factor else 2.0
    increase := Quantity.larger s.increase 0.0 }

/-- Whether a loop can start: the bounds are in order once the settings are, which
    fails only for bounds that are not numbers. -/
def canStart (s : LoopSettings α) : Bool := decide (s.normalized.least ≤ s.normalized.greatest)

/-- The target in milliseconds. Model of `ResponseTimeController::target_ms`. -/
def targetMillis (s : LoopSettings α) : α := Quantity.seconds s.target * 1000.0

/-- A smoothed response time over the target. Without a target any response time
    is infinitely far above it. -/
def load (s : LoopSettings α) (smoothed : α) : α :=
  if 0.0 < s.targetMillis then smoothed / s.targetMillis
  else if 0.0 < smoothed then Quantity.infinity
  else 0.0

/-- The value a load calls for, before it is moved between the bounds. -/
def proposed (s : LoopSettings α) (band : Band) (value : α) : α :=
  match band with
  | .veryLow => value * s.factor
  | .low => value + s.increase
  | .neutral => value
  | .high => value / s.factor
  | .veryHigh => value / s.factor

end LoopSettings

end StagedEvents
