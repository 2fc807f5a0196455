import Mathlib.Data.Nat.Log
import Mathlib.Tactic.NormNum

/-!
# The grid of doubles

The magnitude of a double is a whole number of units of `2 ^ -1074`. Its significand has at most
53 bits, so the doubles are a grid that becomes wider as the numbers grow. What an operation
computes is rounded to the grid: no number of the grid lies between the exact result and the
rounded one. That is all that is used of rounding.

* `OnGrid`: the magnitudes that doubles have.
* `Rounds`: a magnitude next to an exact one.
* `Shows`: what a significand and the bits shifted out of it say of the exact magnitude.
-/

namespace StagedEvents.Double

/-- The logarithm of the number of units in one. -/
@[irreducible] def places : ℕ := 1074

theorem places_eq : places = 1074 := by
  unfold places
  rfl

/-- The number of units in one. -/
def one : ℕ := 2 ^ places

theorem one_pos : 0 < one := Nat.two_pow_pos places

/-- The number of units in a half. -/
def half : ℕ := 2 ^ (places - 1)

theorem two_mul_half : 2 * half = one := by
  have pos : 0 < places := by
    rw [places_eq]
    decide
  unfold half one
  rw [Nat.mul_comm, ← Nat.pow_succ, Nat.succ_eq_add_one, Nat.sub_add_cancel pos]

/-- The logarithm of the magnitude of infinity. -/
@[irreducible] def reach : ℕ := 2098

theorem reach_eq : reach = 2098 := by
  unfold reach
  rfl

/-- The magnitude of infinity: one step beyond the greatest finite double. -/
def beyond : ℕ := 2 ^ reach

theorem beyond_pos : 0 < beyond := Nat.two_pow_pos reach

theorem pow_le_beyond {k : ℕ} (le : k ≤ 2098) : 2 ^ k ≤ beyond :=
  Nat.pow_le_pow_right (Nat.succ_pos 1) (reach_eq ▸ le)

theorem beyond_le_pow {k : ℕ} (le : 2098 ≤ k) : beyond ≤ 2 ^ k :=
  Nat.pow_le_pow_right (Nat.succ_pos 1) (reach_eq ▸ le)

/-- Whether a double has this magnitude. -/
def OnGrid (n : ℕ) : Prop := n ≤ beyond ∧ ∃ significand shift, significand < 2 ^ 53 ∧
  n = significand * 2 ^ shift

theorem onGrid_half : OnGrid half := by
  refine ⟨pow_le_beyond ?_, 1, places - 1, by decide, (Nat.one_mul _).symm⟩
  rw [places_eq]
  decide

/-- No number of the grid is strictly between `n / d` and `r`. -/
structure Rounds (n d r : ℕ) : Prop where
  below : ∀ z, OnGrid z → z * d ≤ n → z ≤ r
  above : ∀ z, OnGrid z → n ≤ z * d → r ≤ z

variable {n d r : ℕ}

theorem Rounds.unscale {c : ℕ} (h : Rounds (n * c) (d * c) r) : Rounds n d r where
  below z grid le := h.below z grid (by
    rw [← Nat.mul_assoc]
    exact Nat.mul_le_mul_right c le)
  above z grid le := h.above z grid (by
    rw [← Nat.mul_assoc]
    exact Nat.mul_le_mul_right c le)

/-- Beyond the greatest double, everything is infinity. -/
theorem Rounds.capped (h : Rounds n d r) : Rounds n d (min r beyond) where
  below z grid le := Nat.le_min.2 ⟨h.below z grid le, grid.1⟩
  above z grid le := Nat.le_trans (Nat.min_le_left _ _) (h.above z grid le)

/-- **Rounding to a multiple of `2 ^ k`**, up or down, keeps to the grid if the multiple is a
    significand of full length, or no finer multiples are there. -/
theorem rounds_floor {N D m M k : ℕ} (pos : 0 < D) (floor : m = N / D) (wide : k = 0 ∨ 2 ^ 52 ≤ m)
    (next : M = m ∨ M = m + 1 ∧ ¬ D ∣ N) : Rounds (N * 2 ^ k) D (M * 2 ^ k) := by
  have scale : 0 < 2 ^ k := Nat.two_pow_pos k
  have le : m * D ≤ N := by
    rw [floor]
    exact Nat.div_mul_le_self N D
  -- a number of the grid that is no multiple of `2 ^ k` is less than any significand here
  have finer {a j : ℕ} (small : a < 2 ^ 53) (lt : j < k) : a * 2 ^ j < m * 2 ^ k := by
    have full : 2 ^ 52 ≤ m := wide.resolve_left (by omega)
    calc a * 2 ^ j < 2 ^ 53 * 2 ^ j := Nat.mul_lt_mul_of_pos_right small (Nat.two_pow_pos j)
      _ = 2 ^ 52 * 2 ^ (j + 1) := by rw [Nat.pow_succ 2 j]; omega
      _ ≤ 2 ^ 52 * 2 ^ k := Nat.mul_le_mul_left _ (Nat.pow_le_pow_right (by omega) lt)
      _ ≤ m * 2 ^ k := Nat.mul_le_mul_right _ full
  have coarser {a j : ℕ} (le : k ≤ j) : a * 2 ^ j = a * 2 ^ (j - k) * 2 ^ k := by
    rw [Nat.mul_assoc, ← Nat.pow_add, Nat.sub_add_cancel le]
  constructor
  · rintro z ⟨-, a, j, small, rfl⟩ below
    have down : a * 2 ^ j ≤ m * 2 ^ k := by
      rcases Nat.lt_or_ge j k with lt | ge
      · exact Nat.le_of_lt (finer small lt)
      · rw [coarser ge] at below ⊢
        refine Nat.mul_le_mul_right _ ?_
        rw [floor, Nat.le_div_iff_mul_le pos]
        refine Nat.le_of_mul_le_mul_right ?_ scale
        calc a * 2 ^ (j - k) * D * 2 ^ k = a * 2 ^ (j - k) * 2 ^ k * D := Nat.mul_right_comm ..
          _ ≤ N * 2 ^ k := below
    refine Nat.le_trans down (Nat.mul_le_mul_right _ ?_)
    rcases next with rfl | ⟨rfl, -⟩
    · exact Nat.le_refl _
    · exact Nat.le_succ m
  · rintro z ⟨-, a, j, small, rfl⟩ above
    rcases Nat.lt_or_ge j k with lt | ge
    · have less := finer small lt
      have more : m * 2 ^ k * D ≤ a * 2 ^ j * D := by
        refine Nat.le_trans ?_ above
        rw [Nat.mul_right_comm]
        exact Nat.mul_le_mul_right _ le
      exact absurd (Nat.le_of_mul_le_mul_right more pos) (Nat.not_le_of_lt less)
    · rw [coarser ge] at above ⊢
      refine Nat.mul_le_mul_right _ ?_
      have enough : N ≤ a * 2 ^ (j - k) * D := by
        refine Nat.le_of_mul_le_mul_right ?_ scale
        rw [Nat.mul_right_comm _ D]
        exact above
      generalize a * 2 ^ (j - k) = q at enough
      rcases next with rfl | ⟨rfl, inexact⟩
      · exact Nat.le_of_mul_le_mul_right (Nat.le_trans le enough) pos
      · have ne : N ≠ q * D := fun same => inexact ⟨q, same.trans (Nat.mul_comm q D)⟩
        have lt : N < q * D := Nat.lt_of_le_of_ne enough ne
        rw [floor]
        exact (Nat.div_lt_iff_lt_mul pos).2 lt

/-! ## Significands and the bits shifted out of them -/

open Float.Model.UnpackedFloat

/-- The significand is `N / D` but for what was shifted out of it, and it is told whether that
    was nothing. -/
structure Shows (em : ExtendedMantissa) (N D : ℕ) : Prop where
  floor : em.mantissa = N / D
  exact : (em.roundBit || em.stickyBit) = false ↔ D ∣ N

variable {em : ExtendedMantissa} {N D : ℕ}

theorem shows_ofMantissaAndAccuracy {m : ℕ} {accuracy : Accuracy} (floor : m = N / D)
    (exact : accuracy = .exact ↔ D ∣ N) :
    Shows (ExtendedMantissa.ofMantissaAndAccuracy m accuracy) N D := by
  cases accuracy with
  | exact => exact ⟨floor, iff_of_true rfl (exact.1 rfl)⟩
  | inexact order =>
    have inexact : ¬ D ∣ N := fun divides => absurd (exact.2 divides) (by simp)
    cases order <;> exact ⟨floor, iff_of_false (by simp [ExtendedMantissa.ofMantissaAndAccuracy])
      inexact⟩

theorem Shows.shiftRightOne (h : Shows em N D) (pos : 0 < D) :
    Shows em.shiftRightOne N (D * 2) := by
  obtain ⟨floor, exact⟩ := h
  refine ⟨?_, ?_⟩
  · show em.mantissa / 2 = N / (D * 2)
    rw [floor, Nat.div_div_eq_div_mul]
  · show (em.mantissa % 2 != 0 || (em.roundBit || em.stickyBit)) = false ↔ D * 2 ∣ N
    rw [Bool.or_eq_false_iff, exact, floor]
    constructor
    · rintro ⟨even, divides⟩
      obtain ⟨q, rfl⟩ := divides
      rw [Nat.mul_div_cancel_left q pos] at even
      have even : q % 2 = 0 := by simpa using even
      exact Nat.mul_dvd_mul_left D (Nat.dvd_of_mod_eq_zero even)
    · rintro ⟨q, rfl⟩
      refine ⟨?_, D.dvd_mul_right 2 |>.mul_right q⟩
      rw [Nat.mul_assoc, Nat.mul_div_cancel_left _ pos, Nat.mul_mod_right]
      rfl

/-- What one shift keeps, with twice the denominator, many shifts keep. -/
theorem shiftRight_induction {P : ExtendedMantissa → ℕ → Prop}
    (step : ∀ em D, P em D → 0 < D → P em.shiftRightOne (D * 2)) (h : P em D) (pos : 0 < D)
    (count : ℕ) : P (em >>> count) (D * 2 ^ count) := by
  show P (count.repeat ExtendedMantissa.shiftRightOne em) (D * 2 ^ count)
  induction count with
  | zero =>
    rw [Nat.pow_zero, Nat.mul_one]
    exact h
  | succ count ih =>
    rw [Nat.pow_succ, ← Nat.mul_assoc]
    exact step _ _ ih (Nat.mul_pos pos (Nat.two_pow_pos count))

theorem Shows.shiftRight (h : Shows em N D) (pos : 0 < D) (count : ℕ) :
    Shows (em >>> count) N (D * 2 ^ count) :=
  shiftRight_induction (P := fun em D => Shows em N D) (fun _ _ h pos => h.shiftRightOne pos) h pos
    count

theorem Shows.rounded (h : Shows em N D) :
    em.roundedMantissa = N / D ∨ em.roundedMantissa = N / D + 1 ∧ ¬ D ∣ N := by
  obtain ⟨m, round, sticky⟩ := em
  obtain ⟨floor, exact⟩ := h
  change m = N / D at floor
  cases round with
  | false => cases sticky <;> exact .inl floor
  | true =>
    have inexact : ¬ D ∣ N := fun divides => absurd (exact.2 divides) (by simp)
    cases sticky with
    | true => exact .inr ⟨congrArg (· + 1) floor, inexact⟩
    | false =>
      -- a tie goes to the even neighbour
      show m + m % 2 = N / D ∨ m + m % 2 = N / D + 1 ∧ _
      rcases Nat.mod_two_eq_zero_or_one m with even | odd
      · exact .inl (by omega)
      · exact .inr ⟨by omega, inexact⟩

end StagedEvents.Double
