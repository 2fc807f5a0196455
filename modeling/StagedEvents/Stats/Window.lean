import StagedEvents.Failure
import StagedEvents.Quantity

/-!
# The latest measurements

A window keeps the latest measurements, at least one and at most its size, and
answers percentiles of them by the nearest-rank rule: of `n` held values the
percentile `p` is the one at rank `⌈n · p⌉` in ascending order, counted from one,
the rank moved into `1 … n`.
-/

namespace StagedEvents

/-- The latest measurements in nanoseconds, oldest first. Model of `PercentileTracker`. -/
structure Window where
  size : Nat
  held : List Nat
  size_pos : 0 < size
  held_le : held.length ≤ size
deriving DecidableEq, Repr

namespace Window

/-- An empty window; it keeps at least one measurement. -/
def empty (size : Nat) : Window :=
  { size := max size 1, held := [], size_pos := by omega, held_le := by simp }

/-- The largest size of a window: a measurement takes eight bytes, and room for all of
    them is made at once, out of fewer than `2^63` bytes. -/
def largestSize : Nat := (Nat.pow 2 63 - 1) / 8

/-- An empty window of the size that is asked for, unless that is too large. Model of
    `PercentileTracker::new`. -/
def new? (size : Nat) : Except Fault Window :=
  if largestSize < size then .error .oversizedWindow else .ok (empty size)

/-- The window with the latest of these measurements, as many as fit. -/
def keepLatest (values : List Nat) (w : Window) : Window :=
  { w with
    held := values.drop (values.length - w.size)
    held_le := by rw [List.length_drop]; omega }

/-- The window with one more measurement; a full window drops its oldest. Model of
    `PercentileTracker::record`. -/
def record (nanos : Nat) (w : Window) : Window := w.keepLatest (w.held ++ [nanos])

/-- The window with more measurements, one after the other. -/
def recordAll (values : List Nat) (w : Window) : Window := w.keepLatest (w.held ++ values)

/-- How many measurements are held. Model of `PercentileTracker::count`. -/
def count (w : Window) : Nat := w.held.length

/-- The held measurements in ascending order. -/
def sorted (w : Window) : List Nat := w.held.mergeSort (· ≤ ·)

/-- The place, counted from zero, of the percentile `p` among `count` values. A `p`
    outside `[0, 1]` counts as the nearer end, one that is not a number as zero. -/
def place {α : Type} [Quantity α] (count : Nat) (p : α) : Nat :=
  let share := (Quantity.clamp? 0.0 1.0 p).getD p
  min (Quantity.ceilUpTo (UInt64.size - 1) (Quantity.ofInt (count : Int) * share) - 1) (count - 1)

/-- The percentile `p` of the held measurements; zero when there are none. Model of
    `PercentileTracker::percentile`. -/
def percentile {α : Type} [Quantity α] (w : Window) (p : α) : Span :=
  ⟨(w.sorted[place w.count p]?).getD 0⟩

theorem count_record (nanos : Nat) (w : Window) :
    (w.record nanos).count = min (w.count + 1) w.size := by
  simp only [record, keepLatest, count, List.length_drop, List.length_append, List.length_singleton]
  omega

theorem recordAll_nil (w : Window) : w.recordAll [] = w := by
  have := w.held_le
  cases w
  simp_all [recordAll, keepLatest, Nat.sub_eq_zero_of_le]

theorem recordAll_cons (nanos : Nat) (values : List Nat) (w : Window) :
    w.recordAll (nanos :: values) = (w.record nanos).recordAll values := by
  have := w.held_le
  have := w.size_pos
  simp only [recordAll, record, keepLatest, mk.injEq, true_and]
  rw [← List.drop_append_of_le_length (by simp), List.drop_drop, List.append_assoc]
  simp only [List.length_drop, List.length_append, List.length_cons, List.length_nil,
    List.singleton_append]
  congr 1
  omega

end Window

end StagedEvents
