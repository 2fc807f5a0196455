import StagedEvents.Text.Record

/-!
# How events are made into batches

Either a fetch takes everything that waits, or it takes at most a number of events,
and at most a number of batches are out at a time.
-/

namespace StagedEvents

/-- How the events of a stage are made into batches. -/
inductive SorterPolicy where
  | drainAll
  /-- At most `maxBatch` events in a batch and `maxOutstanding` batches out; without
      the latter the number of workers decides. -/
  | throttled (maxBatch : Nat) (maxOutstanding : Option Nat)
deriving DecidableEq, Repr

/-- The description of a policy. -/
def SorterPolicy.text : SorterPolicy → String
  | .drainAll => "DrainAll"
  | .throttled maxBatch maxOutstanding =>
    recordText "Throttled"
      [("max_batch", toString maxBatch), ("max_outstanding", optionText toString maxOutstanding)]

end StagedEvents
