import StagedEvents.Quantity

/-!
# Bands of the load

The load of a stage is its smoothed response time over the target. Four bounds
cut the loads into five bands; a fifth bound says when the load has gone down far
enough to let a secondary restriction go.
-/

namespace StagedEvents

/-- How a load compares with the target. -/
inductive Band where
  | veryLow
  | low
  | neutral
  | high
  | veryHigh
deriving DecidableEq, Repr

/-- The name of a band. -/
def Band.name : Band → String
  | .veryLow => "VeryLow"
  | .low => "Low"
  | .neutral => "Neutral"
  | .high => "High"
  | .veryHigh => "VeryHigh"

/-- The bounds between the bands, as multiples of the target. -/
structure Bands (α : Type) where
  veryLow : α
  /-- Below this load a secondary restriction is let go. -/
  medium : α
  low : α
  high : α
  /-- Above this load the band is very high; without it no load is. -/
  veryHigh? : Option α

namespace Bands

variable {α : Type} [Quantity α]

/-- A dead zone of a tenth around the target, without the outer bands. Model of `Bands::narrow`. -/
def narrow : Bands α :=
  { veryLow := 0.0, medium := 0.0, low := 0.9, high := 1.1, veryHigh? := none }

/-- Five bands, for control by quality. Model of `Bands::graded`. -/
def graded : Bands α :=
  { veryLow := 0.0001, medium := 0.5, low := 0.8, high := 1.1, veryHigh? := some 1.5 }

/-- Whether a load is above the bound of the very high band. -/
def isVeryHigh (b : Bands α) (load : α) : Bool :=
  match b.veryHigh? with
  | none => false
  | some bound => decide (bound < load)

/-- The band of a load. A load that is not a number is below no bound and above
    none, and so counts as high. Model of `Bands::classify`. -/
def classify (b : Bands α) (load : α) : Band :=
  if load < b.veryLow then .veryLow
  else if load < b.low then .low
  else if load ≤ b.high then .neutral
  else if b.isVeryHigh load then .veryHigh
  else .high

end Bands

end StagedEvents
