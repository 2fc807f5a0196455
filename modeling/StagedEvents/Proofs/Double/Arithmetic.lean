import StagedEvents.Proofs.Double.Order
import Mathlib.Tactic.Ring

/-!
# Sums, products and quotients of doubles

The sum, the product and the quotient of finite doubles are numbers, next to the exact result:
no double lies between the two. So a bound on the exact result that is itself a double is a bound
on what is computed.

* `Close`: a whole number of units next to an exact result.
* `add_close`, `mul_close`, `div_close`: the operations on finite doubles.
-/

namespace StagedEvents.Double

open Float.Model Float.Model.UnpackedFloat

/-- No double is strictly between `n / d` and `r`. -/
def Close (n : ℤ) (d : ℕ) (r : ℤ) : Prop :=
  ∀ z : ℤ, OnGrid z.natAbs → (z * d ≤ n → z ≤ r) ∧ (n ≤ z * d → r ≤ z)

variable {n : ℤ} {d : ℕ} {r : ℤ}

theorem Close.eq_of_onGrid (h : Close n d r) {z : ℤ} (grid : OnGrid z.natAbs) (exact : n = z * d) :
    r = z :=
  Int.le_antisymm ((h z grid).2 (Int.le_of_eq exact)) ((h z grid).1 (Int.le_of_eq exact.symm))

theorem close_self (n : ℤ) : Close n 1 n := fun z _ => by
  rw [Int.natCast_one, Int.mul_one]
  exact ⟨id, id⟩

theorem Close.neg (h : Close n d r) : Close (-n) d (-r) := fun z grid => by
  obtain ⟨below, above⟩ := h (-z) (by rwa [Int.natAbs_neg])
  rw [Int.neg_mul] at below above
  exact ⟨fun le => by have := above (by omega); omega, fun le => by have := below (by omega); omega⟩

/-- The same exact result, written as another fraction. -/
theorem Close.congr (h : Close n d r) (pos : 0 < d) {n' : ℤ} {d' : ℕ} (pos' : 0 < d')
    (same : n * d' = n' * d) : Close n' d' r := fun z grid => by
  have pos : (0 : ℤ) < d := Int.natCast_pos.2 pos
  have pos' : (0 : ℤ) < d' := Int.natCast_pos.2 pos'
  have swap : z * d * d' = z * d' * d := Int.mul_right_comm ..
  refine ⟨fun le => (h z grid).1 ?_, fun le => (h z grid).2 ?_⟩
  · refine Int.le_of_mul_le_mul_right ?_ pos'
    rw [swap, same]
    exact Int.mul_le_mul_of_nonneg_right le (Int.le_of_lt pos)
  · refine Int.le_of_mul_le_mul_right ?_ pos'
    rw [swap, same]
    exact Int.mul_le_mul_of_nonneg_right le (Int.le_of_lt pos)

theorem Rounds.close {n r : ℕ} (h : Rounds n d r) (pos : 0 < d) : Close n d r := fun z grid => by
  have pos' : (0 : ℤ) < d := Int.natCast_pos.2 pos
  rcases Int.lt_or_le z 0 with negative | natural
  · have less : z * d < 0 := Int.mul_neg_of_neg_of_pos negative pos'
    exact ⟨fun _ => by omega, fun le => by omega⟩
  · lift z to ℕ using natural
    rw [Int.natAbs_natCast] at grid
    exact ⟨fun le => by exact_mod_cast h.below z grid (by exact_mod_cast le),
      fun le => by exact_mod_cast h.above z grid (by exact_mod_cast le)⟩

theorem Rounds.close_apply {n r : ℕ} (h : Rounds n d r) (pos : 0 < d) (s : Sign) :
    Close (s.apply n) d (s.apply r) := by
  cases s
  · exact (h.close pos).neg
  · exact h.close pos

/-! ## What an operation makes of two numbers, packed -/

/-- A number next to the exact result `n / d`, once it is packed. -/
def Packs (n : ℤ) (d : ℕ) (u : UnpackedFloat) : Prop :=
  (Float.Model.pack u).unpack ≠ .notANumber ∧ Close n d (unitsOf (Float.Model.pack u).unpack)

theorem Rounded.packs {s : Sign} {n : ℕ} {u : UnpackedFloat} (h : Rounded s n d u) (pos : 0 < d) :
    Packs (s.apply n) d u := by
  obtain ⟨number, sign_eq, magnitude_eq⟩ := unpack_pack h.canonical
  refine ⟨number, ?_⟩
  unfold unitsOf
  rw [sign_eq, magnitude_eq, h.sign_eq]
  exact h.rounds.capped.close_apply pos s

theorem Packs.congr {u : UnpackedFloat} (h : Packs n d u) (pos : 0 < d) {n' : ℤ} {d' : ℕ}
    (pos' : 0 < d') (same : n * d' = n' * d) : Packs n' d' u := ⟨h.1, h.2.congr pos pos' same⟩

theorem packs_zero (s : Sign) (d : ℕ) (pos : 0 < d) : Packs 0 d (.zero s) := by
  have same : (Float.Model.pack (.zero s)).unpack = .zero s := unpack_pack_of_fits True.intro
  unfold Packs
  rw [same, unitsOf_zero]
  refine ⟨by rintro ⟨⟩, (close_self 0).congr Nat.one_pos pos ?_⟩
  rw [Int.zero_mul, Int.zero_mul]

/-- A number that fits is packed as it is. -/
theorem packs_self {u : UnpackedFloat} (fits : Fits u) (number : u ≠ .notANumber) :
    Packs (unitsOf u) 1 u := by
  unfold Packs
  rw [unpack_pack_of_fits fits]
  exact ⟨number, close_self _⟩

theorem apply_mul (s t : Sign) (a b : ℤ) : (s * t).apply (a * b) = s.apply a * t.apply b := by
  cases s <;> cases t
  · exact (Int.neg_mul_neg a b).symm
  · exact (Int.neg_mul a b).symm
  · exact (Int.mul_neg a b).symm
  · rfl

theorem apply_div (s t : Sign) (a : ℤ) : (s / t).apply a = t.apply (s.apply a) := by
  cases s <;> cases t
  · exact (Int.neg_neg a).symm
  · rfl
  · rfl
  · rfl

theorem apply_mul_right (s : Sign) (a b : ℤ) : s.apply a * b = s.apply (a * b) := by
  cases s
  · exact Int.neg_mul a b
  · rfl

/-- A signed significand with an exponent that is not less than the least. -/
theorem packs_normalize (M : ℤ) {e : ℤ} (least : -1074 ≤ e) :
    Packs (M * 2 ^ (e + 1074).toNat) 1 (normalize Format.binary64 M e .positive) := by
  have none : (-1074 - e).toNat = 0 := by omega
  have packs (s : Sign) {m : ℕ} (pos : 0 < m) :
      Packs (s.apply m * 2 ^ (e + 1074).toNat) 1 (round Format.binary64 s m e) := by
    have rounded := (rounded_round s pos e).packs (Nat.two_pow_pos _)
    rw [none, Nat.pow_zero] at rounded
    rw [apply_mul_right]
    exact_mod_cast rounded
  unfold UnpackedFloat.normalize
  rcases Int.lt_trichotomy M 0 with lt | rfl | gt
  · rw [compare_lt_iff_lt.2 lt]
    have back : M = Sign.negative.apply ((-M).toNat : ℕ) := by
      show M = -((-M).toNat : ℤ)
      omega
    have packs := packs .negative (m := (-M).toNat) (by omega)
    rw [← back] at packs
    exact packs
  · rw [Int.zero_mul]
    exact packs_zero .positive 1 Nat.one_pos
  · rw [compare_gt_iff_gt.2 gt]
    have back : M = Sign.positive.apply (M.toNat : ℕ) := by
      show M = (M.toNat : ℤ)
      omega
    have packs := packs .positive (m := M.toNat) (by omega)
    rw [← back] at packs
    exact packs

/-! ## The operations -/

variable {s t : Sign} {m k : ℕ} {e f : ℤ}

/-- The sum is found at the smaller of the exponents. -/
theorem packs_add {pos : 0 < m} {pos' : 0 < k} (fits : Fits (.finite s m e pos))
    (fits' : Fits (.finite t k f pos')) :
    Packs (unitsOf (.finite s m e pos) + unitsOf (.finite t k f pos')) 1
      (add Format.binary64 (.finite s m e pos) (.finite t k f pos')) := by
  have least : -1074 ≤ min e f := Int.le_min.2 ⟨fits.2.1, fits'.2.1⟩
  have shifted (s : Sign) (m : ℕ) {g : ℤ} (le : min e f ≤ g) :
      s.apply ((m <<< (g - min e f).toNat : ℕ) : ℤ) * 2 ^ (min e f + 1074).toNat =
        s.apply ((m * 2 ^ (g + 1074).toNat : ℕ) : ℤ) := by
    have same : (g + 1074).toNat = (g - min e f).toNat + (min e f + 1074).toNat := by omega
    rw [apply_mul_right, same, Nat.shiftLeft_eq, Nat.pow_add, ← Nat.mul_assoc]
    push_cast
    rfl
  have packs := packs_normalize (s.apply ((m <<< (e - min e f).toNat : ℕ) : ℤ) +
    t.apply ((k <<< (f - min e f).toNat : ℕ) : ℤ)) least
  rw [Int.add_mul, shifted s m (min_le_left e f), shifted t k (min_le_right e f)] at packs
  exact packs

/-- The significands of two numbers that fit are long enough for their product, or it is below the
    least exponent, as that of two subnormal numbers is. -/
theorem wide_product {pos : 0 < m} {pos' : 0 < k} (fits : Fits (.finite s m e pos))
    (fits' : Fits (.finite t k f pos')) : e + f ≤ -1074 ∨ 2 ^ 52 ≤ m * k := by
  obtain ⟨-, least, -, full⟩ := fits
  obtain ⟨-, least', -, full'⟩ := fits'
  rcases full with subnormal | full
  · rcases full' with subnormal' | full'
    · exact .inl (by omega)
    · exact .inr (Nat.le_trans full' (Nat.le_mul_of_pos_left k pos))
  · exact .inr (Nat.le_trans full (Nat.le_mul_of_pos_right m pos'))

/-- The product of two magnitudes, in terms of their significands. -/
theorem magnitude_product {pos : 0 < m} {pos' : 0 < k} (least : -1074 ≤ e) (least' : -1074 ≤ f) :
    m * k * 2 ^ (e + f + 1074).toNat * one =
      magnitude (.finite s m e pos) * magnitude (.finite t k f pos') *
        2 ^ (-1074 - (e + f)).toNat := by
  have same : (e + f + 1074).toNat + places =
      (e + 1074).toNat + (f + 1074).toNat + (-1074 - (e + f)).toNat := by
    rw [places_eq]
    omega
  calc m * k * 2 ^ (e + f + 1074).toNat * 2 ^ places
      = m * k * 2 ^ ((e + f + 1074).toNat + places) := by rw [Nat.mul_assoc, ← Nat.pow_add]
    _ = m * 2 ^ (e + 1074).toNat * (k * 2 ^ (f + 1074).toNat) * 2 ^ (-1074 - (e + f)).toNat := by
      rw [same, Nat.pow_add, Nat.pow_add]
      ring

/-- The product of significands that are long enough, if the exponent is not the least. -/
theorem packs_mul {pos : 0 < m} {pos' : 0 < k} (least : -1074 ≤ e) (least' : -1074 ≤ f)
    (wide : e + f ≤ -1074 ∨ 2 ^ 52 ≤ m * k) :
    Packs (unitsOf (.finite s m e pos) * unitsOf (.finite t k f pos')) one
      (mul Format.binary64 (.finite s m e pos) (.finite t k f pos')) := by
  have rounded := @rounded_roundWithAccuracy (s * t) _ _ _ _ .exact Nat.one_pos
    (Nat.div_one (m * k)).symm (iff_of_true rfl (Nat.one_dvd _)) wide
  rw [Nat.one_mul] at rounded
  have packs := rounded.packs (Nat.two_pow_pos _)
  refine packs.congr (Nat.two_pow_pos _) one_pos ?_
  have product := @magnitude_product s t m k e f pos pos' least least'
  rw [unitsOf_finite, unitsOf_finite, ← apply_mul, apply_mul_right, apply_mul_right]
  congr 1
  generalize magnitude (.finite s m e pos) = M, magnitude (.finite t k f pos') = N at product ⊢
  exact_mod_cast product

/-- Enough bits of a quotient are found before it is rounded. -/
theorem wide_quotient {target : ℤ} (pos : 0 < m) (pos' : 0 < k) (within : target ≤ e - f)
    (enough : target ≤ Format.binary64.targetExponent (totalExponent m e - totalExponent k f)) :
    target ≤ -1074 ∨ 2 ^ 52 ≤ m * 2 ^ (e - f - target).toNat / k := by
  have enough : target ≤ max ((m.log2 + 1 + e : ℤ) - (k.log2 + 1 + f) - 53) (-1074) := enough
  rcases Int.lt_or_le (-1074) target with coarse | fine
  · have length : 52 + (k.log2 + 1) ≤ m.log2 + (e - f - target).toNat := by omega
    refine .inr ((Nat.le_div_iff_mul_le pos').2 ?_)
    calc 2 ^ 52 * k ≤ 2 ^ 52 * 2 ^ (k.log2 + 1) := Nat.mul_le_mul_left _ (Nat.le_of_lt Nat.lt_log2_self)
      _ = 2 ^ (52 + (k.log2 + 1)) := (Nat.pow_add ..).symm
      _ ≤ 2 ^ (m.log2 + (e - f - target).toNat) := Nat.pow_le_pow_right (Nat.succ_pos 1) length
      _ = 2 ^ m.log2 * 2 ^ (e - f - target).toNat := Nat.pow_add ..
      _ ≤ m * 2 ^ (e - f - target).toNat :=
        Nat.mul_le_mul_right _ (Nat.log2_self_le (Nat.ne_of_gt pos))
  · exact .inl fine

theorem accuracyOfFraction_exact {num den : ℕ} :
    accuracyOfFraction (num % den) den = .exact ↔ den ∣ num := by
  rw [Nat.dvd_iff_mod_eq_zero]
  unfold accuracyOfFraction
  split
  · exact iff_of_true rfl ‹_›
  · exact iff_of_false (by rintro ⟨⟩) ‹_›

/-- The quotient of two numbers, the second of which is not zero. -/
theorem packs_div {pos : 0 < m} {pos' : 0 < k} (least : -1074 ≤ e) (least' : -1074 ≤ f) :
    Packs (t.apply (unitsOf (.finite s m e pos) * one)) (magnitude (.finite t k f pos'))
      (div Format.binary64 (.finite s m e pos) (.finite t k f pos')) := by
  obtain ⟨target, htarget⟩ : ∃ target, min (e - f) (Format.binary64.targetExponent
    (totalExponent m e - totalExponent k f)) = target := ⟨_, rfl⟩
  have within : target ≤ e - f := by omega
  have wide := wide_quotient pos pos' within (by omega)
  have rounded := rounded_roundWithAccuracy (s / t) pos' rfl accuracyOfFraction_exact wide
  have packs := rounded.packs (Nat.mul_pos pos' (Nat.two_pow_pos _))
  have quotient : div Format.binary64 (.finite s m e pos) (.finite t k f pos') =
      roundWithAccuracy Format.binary64 (s / t) (m * 2 ^ (e - f - target).toNat / k) target
        (accuracyOfFraction (m * 2 ^ (e - f - target).toNat % k) k) := by
    unfold UnpackedFloat.div divCore
    dsimp only
    rw [htarget, Nat.shiftLeft_eq]
  rw [quotient]
  refine packs.congr (Nat.mul_pos pos' (Nat.two_pow_pos _)) magnitude_pos ?_
  have same : (e - f - target).toNat + (target + 1074).toNat + (f + 1074).toNat =
      (e + 1074).toNat + places + (-1074 - target).toNat := by
    rw [places_eq]
    omega
  rw [unitsOf_finite, apply_div, magnitude_finite, magnitude_finite]
  simp only [apply_mul_right]
  congr 2
  norm_cast
  calc m * 2 ^ (e - f - target).toNat * 2 ^ (target + 1074).toNat * (k * 2 ^ (f + 1074).toNat)
      = m * k * 2 ^ ((e - f - target).toNat + (target + 1074).toNat + (f + 1074).toNat) := by
        rw [Nat.pow_add, Nat.pow_add]
        ring
    _ = m * 2 ^ (e + 1074).toNat * 2 ^ places * (k * 2 ^ (-1074 - target).toNat) := by
        rw [same, Nat.pow_add, Nat.pow_add]
        ring

/-! ## Sums, products and quotients -/

variable {x y : Float}

/-- The sum of finite doubles. -/
theorem add_close (hx : IsFinite x) (hy : IsFinite y) :
    IsNumber (x + y) ∧ Close (units x + units y) 1 (units (x + y)) := by
  suffices Packs (unitsOf x.toModel.unpack + unitsOf y.toModel.unpack) 1
    (UnpackedFloat.add Format.binary64 x.toModel.unpack y.toModel.unpack) from this
  have fits := fits_unpack x.toModel
  have fits' := fits_unpack y.toModel
  rcases hx.cases with ⟨s, hx⟩ | ⟨s, m, e, pos, hx⟩ <;>
    rcases hy.cases with ⟨t, hy⟩ | ⟨t, k, f, pos', hy⟩ <;>
    rw [hx] at fits ⊢ <;> rw [hy] at fits' ⊢
  · rw [unitsOf_zero, unitsOf_zero]
    cases s <;> cases t <;> exact packs_zero _ 1 Nat.one_pos
  · rw [unitsOf_zero, Int.zero_add]
    exact packs_self fits' (by rintro ⟨⟩)
  · rw [unitsOf_zero, Int.add_zero]
    exact packs_self fits (by rintro ⟨⟩)
  · exact packs_add fits fits'

/-- The product of finite doubles. -/
theorem mul_close (hx : IsFinite x) (hy : IsFinite y) :
    IsNumber (x * y) ∧ Close (units x * units y) one (units (x * y)) := by
  suffices Packs (unitsOf x.toModel.unpack * unitsOf y.toModel.unpack) one
    (UnpackedFloat.mul Format.binary64 x.toModel.unpack y.toModel.unpack) from this
  have fits := fits_unpack x.toModel
  have fits' := fits_unpack y.toModel
  rcases hx.cases with ⟨s, hx⟩ | ⟨s, m, e, pos, hx⟩ <;>
    rcases hy.cases with ⟨t, hy⟩ | ⟨t, k, f, pos', hy⟩ <;>
    rw [hx] at fits ⊢ <;> rw [hy] at fits' ⊢
  · rw [unitsOf_zero, Int.zero_mul]
    exact packs_zero _ one one_pos
  · rw [unitsOf_zero, Int.zero_mul]
    exact packs_zero _ one one_pos
  · rw [unitsOf_zero, Int.mul_zero]
    exact packs_zero _ one one_pos
  · exact packs_mul fits.2.1 fits'.2.1 (wide_product fits fits')

/-- The quotient of finite doubles, unless the second is zero. -/
theorem div_close (hx : IsFinite x) (hy : IsFinite y) (nonzero : units y ≠ 0) :
    IsNumber (x / y) ∧
      Close ((sign y.toModel.unpack).apply (units x * one)) (units y).natAbs (units (x / y)) := by
  suffices Packs ((sign y.toModel.unpack).apply (unitsOf x.toModel.unpack * one))
    (units y).natAbs (UnpackedFloat.div Format.binary64 x.toModel.unpack y.toModel.unpack) from this
  have fits := fits_unpack x.toModel
  have fits' := fits_unpack y.toModel
  unfold units at nonzero ⊢
  rcases hy.cases with ⟨t, hy⟩ | ⟨t, k, f, pos', hy⟩ <;> rw [hy] at fits' nonzero ⊢
  · exact absurd (unitsOf_zero t) nonzero
  rcases hx.cases with ⟨s, hx⟩ | ⟨s, m, e, pos, hx⟩ <;> rw [hx] at fits ⊢ <;> rw [natAbs_unitsOf]
  · rw [unitsOf_zero, Int.zero_mul]
    have same : (sign (.finite t k f pos')).apply 0 = 0 := by cases t <;> rfl
    rw [same]
    exact packs_zero _ _ magnitude_pos
  · exact packs_div fits.2.1 fits'.2.1

/-! ## Results compared with what they were computed from -/

/-- To add what is not negative leads no lower. -/
theorem units_le_add (hx : IsFinite x) (hy : IsFinite y) (natural : 0 ≤ units y) :
    units x ≤ units (x + y) := by
  refine ((add_close hx hy).2 _ (onGrid_units x)).1 ?_
  rw [Int.natCast_one, Int.mul_one]
  omega

/-- To multiply what is not negative by one or more leads no lower. -/
theorem units_le_mul (hx : IsFinite x) (hy : IsFinite y) (natural : 0 ≤ units x)
    (expands : one ≤ units y) : units x ≤ units (x * y) :=
  ((mul_close hx hy).2 _ (onGrid_units x)).1 (Int.mul_le_mul_of_nonneg_left expands natural)

theorem sign_of_pos (pos : 0 < units y) : sign y.toModel.unpack = .positive := by
  unfold units unitsOf at pos
  cases h : sign y.toModel.unpack with
  | positive => rfl
  | negative =>
    rw [h] at pos
    have pos : 0 < -(magnitude y.toModel.unpack : ℤ) := pos
    omega

/-- The quotient by a positive double. -/
theorem div_close_of_pos (hx : IsFinite x) (hy : IsFinite y) (pos : 0 < units y) :
    Close (units x * one) (units y).natAbs (units (x / y)) := by
  have close := (div_close hx hy (by omega)).2
  rw [sign_of_pos pos] at close
  exact close

/-- To divide what is not negative by one or more leads no higher. -/
theorem units_div_le (hx : IsFinite x) (hy : IsFinite y) (natural : 0 ≤ units x)
    (expands : one ≤ units y) : units (x / y) ≤ units x := by
  have pos := one_pos
  refine ((div_close_of_pos hx hy (by omega)) _ (onGrid_units x)).2 ?_
  rw [Int.natCast_natAbs, abs_of_nonneg (by omega)]
  exact Int.mul_le_mul_of_nonneg_left expands natural

/-- A quotient is at least any double that, multiplied by the divisor, is at most the dividend. -/
theorem le_units_div (hx : IsFinite x) (hy : IsFinite y) (pos : 0 < units y) {z : ℕ}
    (grid : OnGrid z) (le : z * units y ≤ units x * one) : z ≤ units (x / y) := by
  refine ((div_close_of_pos hx hy pos) z grid).1 ?_
  rw [Int.natCast_natAbs, abs_of_nonneg (by omega)]
  exact le

end StagedEvents.Double
