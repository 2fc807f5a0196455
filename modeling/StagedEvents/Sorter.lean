import StagedEvents.Pool.Settings
import StagedEvents.Sorter.Policy

/-!
# Sorters

A sorter makes batches from the events of a queue. A throttled one has slots: a
fetch takes a slot before it looks for events, and the slot is held until the
batch is done with, or is given back at once when there are no events.
-/

namespace StagedEvents

/-- The bounds of a throttled sorter and its slots in use. -/
structure Slots where
  maxBatch : Nat
  /-- Most slots in use at a time; zero for no limit. -/
  limit : Nat
  used : Nat
deriving DecidableEq, Repr

namespace Slots

/-- One more slot in use, if the limit allows it. Model of the test of
    `ThrottledSorter::acquire_slot`. -/
def take? (s : Slots) : Option Slots :=
  if s.limit ≠ 0 ∧ s.limit ≤ s.used then none else some { s with used := s.used + 1 }

/-- One slot fewer in use. Model of `Slots::release`. -/
def release (s : Slots) : Slots := { s with used := s.used - 1 }

theorem release_of_take? {s t : Slots} (h : s.take? = some t) : t.release = s := by
  unfold take? at h
  split at h
  · cases h
  · cases h; simp [release]

end Slots

/-- What makes batches from the events of a queue. -/
inductive Sorter where
  | drainAll
  | throttled (slots : Slots)
deriving DecidableEq, Repr

namespace Sorter

/-- The sorter of a policy: a batch has room for at least one event, and without a
    bound on the batches that are out there is none yet. Model of `SorterPolicy::build`. -/
def ofPolicy : SorterPolicy → Sorter
  | .drainAll => drainAll
  | .throttled maxBatch maxOutstanding =>
    throttled { maxBatch := max maxBatch 1, limit := maxOutstanding.getD 0, used := 0 }

/-- The sorter when its stage starts to be served by at most `workers` workers, whose
    number bounds the batches that are out if nothing else does. Model of `BatchSorter::init`. -/
def init (workers : Nat) : Sorter → Sorter
  | drainAll => drainAll
  | throttled slots =>
    if slots.limit = 0 ∧ workers ≠ largestCount then throttled { slots with limit := workers }
    else throttled slots

/-- The slots in use, if the sorter has slots. Model of `ThrottledSorter::outstanding`. -/
def outstanding? : Sorter → Option Nat
  | drainAll => none
  | throttled slots => some slots.used

/-- The most events in a batch, if there is a bound. Model of `ThrottledSorter::max_batch`. -/
def maxBatch? : Sorter → Option Nat
  | drainAll => none
  | throttled slots => some slots.maxBatch

end Sorter

end StagedEvents
