import Mathlib.Data.Rat.Floor
import Mathlib.Tactic.NormNum
import StagedEvents.Dial.Bucket
import StagedEvents.Number.Rounding

/-!
# Exact arithmetic as a quantity

The formulas read over the rational numbers. There is no rational number above all others;
the one that stands for infinity is above every finite double.

* `Bucket.refill_of_idle_zero`: when no time has passed, no tokens are added.
-/

namespace StagedEvents

/-- A number above every finite double. -/
def Quantity.beyondDoubles : ℚ := 2 ^ 1024

instance : Quantity ℚ where
  decidableLT := inferInstance
  decidableLE := inferInstance
  infinity := Quantity.beyondDoubles
  ofInt n := n
  roundInto lo hi x := clampInt lo hi (if 0 ≤ x then ⌊x + 1 / 2⌋ else ⌈x - 1 / 2⌉)
  ceilUpTo hi x := min hi ⌈x⌉.toNat
  truncUpTo hi x := min hi ⌊x⌋.toNat
  seconds s := (s.nanos : ℚ) / 1_000_000_000
  ofSeconds? x :=
    let nanos := divHalfEven (x.num.natAbs * 1_000_000_000) x.den
    if x < 0 ∧ nanos ≠ 0 then none
    else if UInt64.size * 1_000_000_000 ≤ nanos then none
    else some ⟨nanos⟩

theorem Bucket.refill_of_idle_zero {b : Bucket ℚ} (fresh : b.idle = .zero)
    (le : b.tokens ≤ (b.depth : ℤ)) : b.refill = b := by
  have nothing : Quantity.seconds b.idle * b.rate = 0 := by
    rw [fresh]
    show ((0 : ℕ) : ℚ) / 1_000_000_000 * b.rate = 0
    norm_num
  have least : Quantity.smaller b.tokens (Quantity.ofInt (b.depth : ℤ)) = b.tokens := by
    show (if decide _ = true then (if b.tokens < (b.depth : ℤ) then b.tokens else (b.depth : ℤ))
      else b.tokens) = b.tokens
    rcases le.lt_or_eq with lt | eq
    · rw [if_pos lt, ite_self]
    · rw [if_neg eq.not_lt, ← eq, ite_self]
  unfold refill
  rw [nothing, add_zero, least, ← fresh]

end StagedEvents
