import StagedEvents.Dial.Bucket

/-!
# Dials

A dial is a value that can be read and turned while the library runs, and that
takes part in the decision whether events are let in:

* a threshold lets events in while the occupancy, the new events counted, does
  not exceed it, and lets everything in when it is zero or less;
* a rate limits events per second through a token bucket;
* a knob is a free value that some handler reads; it holds nothing back.
-/

namespace StagedEvents

/-- An adjustable value that may hold events back. Model of `QueueThresholdPredicate`,
    `RateLimitingPredicate` and `QualityKnob`. -/
inductive Dial (α : Type) where
  | threshold (limit : Int)
  | rate (bucket : Bucket α)
  | knob (value : α)

namespace Dial

variable {α : Type} [Quantity α]

/-- The least and the greatest limit of a threshold. -/
def lowestLimit : Int := -9_223_372_036_854_775_808

def highestLimit : Int := 9_223_372_036_854_775_807

/-- The value that the dial shows. Model of `ControlParameter::value`. -/
def value : Dial α → α
  | threshold limit => Quantity.ofInt limit
  | rate bucket => bucket.rate
  | knob value => value

/-- The dial turned to a value; a threshold takes the nearest whole limit. Model of
    `ControlParameter::set_value`. -/
def turn (x : α) : Dial α → Dial α
  | threshold _ => threshold (Quantity.roundInto lowestLimit highestLimit x)
  | rate bucket => rate { bucket with rate := x }
  | knob _ => knob x

/-- The value at which the dial holds nothing back, if it has one. Model of
    `ControlParameter::released_value`. -/
def released? : Dial α → Option α
  | threshold _ => some 0.0
  | rate _ => some 0.0
  | knob _ => none

/-- Whether a threshold lets `incoming` events into a queue that holds `occupancy`. Model of
    `QueueThresholdPredicate::accept`. -/
def withinLimit (limit : Int) (occupancy incoming : Nat) : Bool :=
  decide (limit ≤ 0) || decide (((occupancy + incoming : Nat) : Int) ≤ limit)

/-- Whether `incoming` events are let into a queue that holds `occupancy`, and the
    dial afterwards. Model of `EnqueuePredicate::accept`. -/
def accept (occupancy incoming : Nat) : Dial α → Bool × Dial α
  | threshold limit => (withinLimit limit occupancy incoming, threshold limit)
  | rate bucket =>
    let (accepted, bucket) := bucket.accept incoming
    (accepted, rate bucket)
  | knob value => (true, knob value)

end Dial

/-- What stands between a producer and a queue: nothing, or a dial. Model of `EnqueuePredicate`. -/
inductive Gate (α : Type) where
  | openToAll
  | guarded (dial : Dial α)

namespace Gate

variable {α : Type} [Quantity α]

/-- Whether `incoming` events are let into a queue that holds `occupancy`, and the
    gate afterwards. -/
def accept (occupancy incoming : Nat) : Gate α → Bool × Gate α
  | openToAll => (true, openToAll)
  | guarded dial =>
    let (accepted, dial) := dial.accept occupancy incoming
    (accepted, guarded dial)

/-- The value of the gate's dial, if it has one. -/
def value? : Gate α → Option α
  | openToAll => none
  | guarded dial => some dial.value

/-- The gate with its dial turned, if it has one. -/
def turn (x : α) : Gate α → Gate α
  | openToAll => openToAll
  | guarded dial => guarded (dial.turn x)

/-- The gate of an optional limit: a positive limit is a threshold, anything else
    leaves the queue open to all. Model of `threshold_predicate`. -/
def ofThreshold? : Option Int → Gate α
  | some limit => if 0 < limit then guarded (.threshold limit) else openToAll
  | none => openToAll

end Gate

end StagedEvents
