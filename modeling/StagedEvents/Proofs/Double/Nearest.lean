import StagedEvents.Proofs.Double.Spans
import Mathlib.Algebra.Order.Floor.Semiring
import Mathlib.Data.Rat.Floor

/-!
# Products are rounded to the nearest double

Of two neighbours on the grid, an exact product is rounded to the nearer one. So a greater product
is not rounded to a smaller double, and to multiply by a greater double leads no lower.

* `NearestOnGrid`: a magnitude that no other one is nearer than to an exact one.
* `NearestOnGrid.le`: what is greater is not rounded to less.
* `Halves`, `Halves.roundedMantissa_eq`: the bits shifted out of a significand, and what it is
  rounded to.
* `mul_nearest`, `units_mul_le_mul`: products of doubles.
* `ceilUpTo_eq`: the whole number that a double is rounded up to.
-/

namespace StagedEvents.Double

open Float.Model Float.Model.UnpackedFloat

/-! ## The nearest number of the grid -/

/-- No number of the grid is nearer to `n / d` than `r`: wherever it is, `n / d` is on the side of
    `r`, as seen from the middle between the two. -/
structure NearestOnGrid (n d r : ℕ) : Prop where
  below : ∀ z, OnGrid z → z < r → (z + r) * d ≤ 2 * n
  above : ∀ z, OnGrid z → r < z → 2 * n ≤ (z + r) * d

variable {n n' d d' r r' : ℕ}

/-- What is greater is not rounded to less: it would be on both sides of the middle. -/
theorem NearestOnGrid.le (h : NearestOnGrid n d r) (h' : NearestOnGrid n' d r') (grid : OnGrid r)
    (grid' : OnGrid r') (less : n < n') : r ≤ r' := by
  by_contra greater
  have greater := Nat.lt_of_not_le greater
  have right := h.below r' grid' greater
  have left := h'.above r grid greater
  rw [Nat.add_comm r r'] at left
  omega

/-- The same exact magnitude, written as another fraction. -/
theorem NearestOnGrid.congr (h : NearestOnGrid n d r) (pos : 0 < d) (same : n * d' = n' * d) :
    NearestOnGrid n' d' r where
  below z grid lt := by
    refine Nat.le_of_mul_le_mul_right ?_ pos
    calc (z + r) * d' * d = (z + r) * d * d' := Nat.mul_right_comm ..
      _ ≤ 2 * n * d' := Nat.mul_le_mul_right d' (h.below z grid lt)
      _ = 2 * n' * d := by rw [Nat.mul_assoc, same, Nat.mul_assoc]
  above z grid lt := by
    refine Nat.le_of_mul_le_mul_right ?_ pos
    calc 2 * n' * d = 2 * n * d' := by rw [Nat.mul_assoc, ← same, Nat.mul_assoc]
      _ ≤ (z + r) * d * d' := Nat.mul_le_mul_right d' (h.above z grid lt)
      _ = (z + r) * d' * d := Nat.mul_right_comm ..

/-- Nothing of the grid is beyond infinity, so that is the nearest for all that is beyond it. -/
theorem NearestOnGrid.capped (h : NearestOnGrid n d r) : NearestOnGrid n d (min r beyond) := by
  rcases Nat.lt_or_ge beyond r with lt | ge
  · have infinity : OnGrid beyond := ⟨Nat.le_refl _, 1, reach, by decide, (Nat.one_mul _).symm⟩
    have far : beyond * d ≤ n := by
      have := h.below beyond infinity lt
      have : 2 * beyond * d ≤ (beyond + r) * d := Nat.mul_le_mul_right d (by omega)
      rw [Nat.mul_assoc] at this
      omega
    rw [Nat.min_eq_right (Nat.le_of_lt lt)]
    refine ⟨fun z _ less => ?_, fun z grid greater => absurd grid.1 (Nat.not_le.2 greater)⟩
    calc (z + beyond) * d ≤ 2 * beyond * d := Nat.mul_le_mul_right d (by omega)
      _ = 2 * (beyond * d) := Nat.mul_assoc ..
      _ ≤ 2 * n := Nat.mul_le_mul_left 2 far
  · rwa [Nat.min_eq_left ge]

theorem divHalfEven_cases (N D : ℕ) :
    divHalfEven N D = N / D ∧ 2 * (N % D) ≤ D ∨
      divHalfEven N D = N / D + 1 ∧ D ≤ 2 * (N % D) := by
  unfold divHalfEven
  dsimp only
  split
  · exact .inl ⟨rfl, by omega⟩
  · split
    · exact .inr ⟨rfl, by omega⟩
    · split
      · exact .inl ⟨rfl, by omega⟩
      · exact .inr ⟨rfl, by omega⟩

/-- **Rounding to the nearest multiple of `2 ^ k`** is rounding to the nearest number of the grid,
    if the multiple is a significand of full length, or no finer multiples are there. -/
theorem nearestOnGrid_divHalfEven {N D k : ℕ} (pos : 0 < D) (wide : k = 0 ∨ 2 ^ 52 ≤ N / D) :
    NearestOnGrid (N * 2 ^ k) D (divHalfEven N D * 2 ^ k) := by
  -- the grid has no number strictly between the two multiples around `N / D`
  have down := (rounds_floor pos rfl wide (.inl rfl)).below
  have up (inexact : ¬ D ∣ N) := (rounds_floor pos rfl wide (.inr ⟨rfl, inexact⟩)).above
  have inexact (rest : N % D ≠ 0) : ¬ D ∣ N := fun divides => rest (Nat.mod_eq_zero_of_dvd divides)
  have rounding := divHalfEven_cases N D
  have small := Nat.mod_lt N pos
  have parts := Nat.div_add_mod N D
  generalize N / D = q, N % D = r, divHalfEven N D = M, 2 ^ k = c at *
  subst parts
  have exact : (D * q + r) * c = q * c * D + r * c := by ring
  have next : (q + 1) * c * D = q * c * D + D * c := by ring
  rcases rounding with ⟨eq, low⟩ | ⟨eq, high⟩ <;> rw [eq]
  · have low : 2 * (r * c) ≤ D * c := by
      rw [← Nat.mul_assoc]
      exact Nat.mul_le_mul_right c low
    refine ⟨fun z _ less => ?_, fun z grid greater => ?_⟩ <;> rw [Nat.add_mul z]
    · have := Nat.mul_le_mul_right D (Nat.le_of_lt less)
      omega
    · by_cases rest : r = 0
      · subst rest
        have := Nat.mul_le_mul_right D (Nat.le_of_lt greater)
        omega
      · have beyond : (D * q + r) * c ≤ z * D := by
          by_contra less
          exact absurd (down z grid (by omega)) (Nat.not_le.2 greater)
        have := Nat.mul_le_mul_right D (up (inexact rest) z grid beyond)
        omega
  · have rest : r ≠ 0 := by omega
    have high : D * c ≤ 2 * (r * c) := by
      rw [← Nat.mul_assoc]
      exact Nat.mul_le_mul_right c high
    refine ⟨fun z grid less => ?_, fun z _ greater => ?_⟩ <;> rw [Nat.add_mul z]
    · have short : z ≤ q * c := by
        refine down z grid (Nat.le_of_not_le fun enough => ?_)
        exact absurd (up (inexact rest) z grid enough) (Nat.not_le.2 less)
      have := Nat.mul_le_mul_right D short
      omega
    · have := Nat.mul_le_mul_right D (Nat.le_of_lt greater)
      have small := Nat.mul_le_mul_right c (Nat.le_of_lt small)
      omega

/-! ## The bits shifted out of a significand -/

/-- The significand is `N / D` but for what was shifted out of it, and it is told whether that was
    at least a half, and whether it was anything but nothing or a half. -/
structure Halves (em : ExtendedMantissa) (N D : ℕ) : Prop where
  floor : em.mantissa = N / D
  half : em.roundBit = true ↔ D ≤ 2 * (N % D)
  rest : em.stickyBit = true ↔ N % D ≠ 0 ∧ 2 * (N % D) ≠ D

variable {em : ExtendedMantissa} {N D : ℕ}

theorem halves_exact (m : ℕ) : Halves (ExtendedMantissa.ofMantissaAndAccuracy m .exact) m 1 where
  floor := (Nat.div_one m).symm
  half := iff_of_false Bool.false_ne_true (by omega)
  rest := iff_of_false Bool.false_ne_true (by omega)

theorem Halves.shiftRightOne (h : Halves em N D) (pos : 0 < D) :
    Halves em.shiftRightOne N (D * 2) := by
  obtain ⟨floor, half, rest⟩ := h
  have split : N % (D * 2) = N % D + D * (N / D % 2) := Nat.mod_mul
  have small := Nat.mod_lt N pos
  refine ⟨?_, ?_, ?_⟩
  · show em.mantissa / 2 = N / (D * 2)
    rw [floor, Nat.div_div_eq_div_mul]
  · show (em.mantissa % 2 != 0) = true ↔ _
    rw [bne_iff_ne, floor, split]
    rcases Nat.mod_two_eq_zero_or_one (N / D) with even | odd
    · rw [even]
      omega
    · rw [odd]
      omega
  · show (em.roundBit || em.stickyBit) = true ↔ _
    rw [Bool.or_eq_true, half, rest, split]
    rcases Nat.mod_two_eq_zero_or_one (N / D) with even | odd
    · rw [even]
      omega
    · rw [odd]
      omega

theorem Halves.shiftRight (h : Halves em N D) (pos : 0 < D) (count : ℕ) :
    Halves (em >>> count) N (D * 2 ^ count) :=
  shiftRight_induction (P := fun em D => Halves em N D) (fun _ _ h pos => h.shiftRightOne pos) h pos
    count

/-- The significand is rounded to the nearer neighbour, and if both are near, to the even one. -/
theorem Halves.roundedMantissa_eq (h : Halves em N D) : em.roundedMantissa = divHalfEven N D := by
  obtain ⟨m, round, sticky⟩ := em
  obtain ⟨floor, half, rest⟩ := h
  change m = N / D at floor
  change round = true ↔ _ at half
  change sticky = true ↔ _ at rest
  unfold divHalfEven
  dsimp only
  rw [← floor]
  cases round with
  | false =>
    have low : 2 * (N % D) < D := Nat.lt_of_not_le fun high => Bool.false_ne_true (half.2 high)
    rw [if_pos low]
    cases sticky <;> rfl
  | true =>
    have high := half.1 rfl
    rw [if_neg (Nat.not_lt.2 high)]
    cases sticky with
    | true =>
      have apart := (rest.1 rfl).2
      rw [if_pos (by omega)]
      rfl
    | false =>
      have same : ¬ D < 2 * (N % D) := fun more =>
        Bool.false_ne_true (rest.2 ⟨by omega, by omega⟩)
      rw [if_neg same]
      show m + m % 2 = _
      split <;> omega

/-! ## Products -/

/-- The rounding of a significand and an exponent that stand for an exact result. -/
theorem nearestOnGrid_roundWithAccuracy (s : Sign) {m : ℕ} {e : ℤ}
    (wide : e ≤ -1074 ∨ 2 ^ 52 ≤ m) :
    Canonical (roundWithAccuracy Format.binary64 s m e .exact) ∧
      NearestOnGrid (m * 2 ^ (e + 1074).toNat) (2 ^ (-1074 - e).toNat)
        (magnitude (roundWithAccuracy Format.binary64 s m e .exact)) := by
  obtain ⟨count, k, hk, first, short, full⟩ := first_shift .exact wide
  have scale : 0 < 2 ^ count := Nat.two_pow_pos count
  have halves := (halves_exact m).shiftRight Nat.one_pos count
  rw [Nat.one_mul] at halves
  have rounding := divHalfEven_cases m (2 ^ count)
  rw [← halves.roundedMantissa_eq] at rounding
  obtain ⟨canonical, -, magnitude_eq⟩ :=
    roundWithAccuracy_eq s first (by omega) (full.imp_right fun full => by omega)
  have nearest := nearestOnGrid_divHalfEven scale full
  rw [← halves.roundedMantissa_eq, ← magnitude_eq] at nearest
  refine ⟨canonical, nearest.congr scale ?_⟩
  have same : k + (-1074 - e).toNat = (e + 1074).toNat + count := by omega
  rw [Nat.mul_assoc, Nat.mul_assoc, ← Nat.pow_add, ← Nat.pow_add, same]

theorem nearestOnGrid_zero (s : Sign) (d : ℕ) :
    NearestOnGrid 0 d (magnitude (Float.Model.pack (.zero s)).unpack) := by
  have same : (Float.Model.pack (.zero s)).unpack = .zero s := unpack_pack_of_fits True.intro
  rw [same]
  exact ⟨fun _ _ less => absurd less (Nat.not_lt_zero _), fun _ _ _ => Nat.zero_le _⟩

variable {x y z : Float}

/-- **The product of finite doubles** is the exact product, rounded to the nearest. -/
theorem mul_nearest (hx : IsFinite x) (hy : IsFinite y) :
    NearestOnGrid ((units x).natAbs * (units y).natAbs) one (units (x * y)).natAbs := by
  unfold units
  rw [natAbs_unitsOf, natAbs_unitsOf, natAbs_unitsOf]
  suffices NearestOnGrid (magnitude x.toModel.unpack * magnitude y.toModel.unpack) one
    (magnitude (Float.Model.pack
      (UnpackedFloat.mul Format.binary64 x.toModel.unpack y.toModel.unpack)).unpack) from this
  have fits := fits_unpack x.toModel
  have fits' := fits_unpack y.toModel
  rcases hx.cases with ⟨s, hx⟩ | ⟨s, m, e, pos, hx⟩ <;>
    rcases hy.cases with ⟨t, hy⟩ | ⟨t, k, f, pos', hy⟩ <;>
    rw [hx] at fits ⊢ <;> rw [hy] at fits' ⊢
  · exact nearestOnGrid_zero (s * t) one
  · rw [show magnitude (.zero s) = 0 from rfl, Nat.zero_mul]
    exact nearestOnGrid_zero (s * t) one
  · exact nearestOnGrid_zero (s * t) one
  · have wide := wide_product fits fits'
    obtain ⟨canonical, nearest⟩ := nearestOnGrid_roundWithAccuracy (s * t) wide
    have product : UnpackedFloat.mul Format.binary64 (.finite s m e pos) (.finite t k f pos') =
        roundWithAccuracy Format.binary64 (s * t) (m * k) (e + f) .exact := rfl
    rw [product, (unpack_pack canonical).2.2]
    exact nearest.capped.congr (Nat.two_pow_pos _) (magnitude_product fits.2.1 fits'.2.1)

theorem units_mul_nonneg (hx : IsFinite x) (hy : IsFinite y) (natural : 0 ≤ units x)
    (natural' : 0 ≤ units y) : 0 ≤ units (x * y) := by
  refine ((mul_close hx hy).2 0 onGrid_zero).1 ?_
  rw [Int.zero_mul]
  exact Int.mul_nonneg natural natural'

theorem units_mul_eq_zero (hx : IsFinite x) (hy : IsFinite y)
    (zero : units x = 0 ∨ units y = 0) : units (x * y) = 0 := by
  refine (mul_close hx hy).2.eq_of_onGrid onGrid_zero ?_
  rw [Int.zero_mul]
  exact Int.mul_eq_zero.2 zero

/-- Only zero has two doubles. -/
theorem unpack_eq (hx : IsFinite x) (hy : IsFinite y) (same : units x = units y)
    (nonzero : units x ≠ 0) : x.toModel.unpack = y.toModel.unpack := by
  have fits := fits_unpack x.toModel
  have fits' := fits_unpack y.toModel
  unfold units at same nonzero
  rcases hx.cases with ⟨s, hx⟩ | ⟨s, m, e, pos, hx⟩
  · rw [hx] at nonzero
    exact absurd (unitsOf_zero s) nonzero
  rcases hy.cases with ⟨t, hy⟩ | ⟨t, k, f, pos', hy⟩
  · rw [same, hy] at nonzero
    exact absurd (unitsOf_zero t) nonzero
  rw [hx] at fits same ⊢
  rw [hy] at fits' same ⊢
  have ordered := compare_magnitude fits fits'
  rw [← natAbs_unitsOf, ← natAbs_unitsOf, same, compare_eq_iff_eq.2 rfl,
    Ordering.then_eq_eq, compare_eq_iff_eq, compare_eq_iff_eq] at ordered
  refine finite_congr ?_ ordered.2 ordered.1
  have below {m : ℕ} {e : ℤ} {pos : 0 < m} := @unitsOf_negative m e pos
  have above {m : ℕ} {e : ℤ} {pos : 0 < m} := @unitsOf_positive m e pos
  cases s <;> cases t
  · rfl
  · exact absurd (same ▸ below) (Int.not_lt.2 (Int.le_of_lt above))
  · exact absurd (same ▸ above) (Int.not_lt.2 (Int.le_of_lt below))
  · rfl

/-- **To multiply by what is greater leads no lower**, when nothing is negative. -/
theorem units_mul_le_mul (hx : IsFinite x) (hy : IsFinite y) (hz : IsFinite z)
    (natural : 0 ≤ units x) (natural' : 0 ≤ units y) (le : units y ≤ units z) :
    units (x * y) ≤ units (x * z) := by
  -- greater products are not rounded to less, and equal ones are of the same doubles, or zero
  rcases Int.lt_or_eq_of_le le with less | same
  · rcases Int.lt_or_eq_of_le natural with pos | zero
    · have product : (units x).natAbs * (units y).natAbs < (units x).natAbs * (units z).natAbs :=
        Nat.mul_lt_mul_of_pos_left (by omega) (by omega)
      have := (mul_nearest hx hy).le (mul_nearest hx hz) (onGrid_units _) (onGrid_units _) product
      have := units_mul_nonneg hx hy natural natural'
      have := units_mul_nonneg hx hz natural (by omega)
      omega
    · rw [units_mul_eq_zero hx hy (.inl zero.symm), units_mul_eq_zero hx hz (.inl zero.symm)]
  · by_cases zero : units y = 0
    · rw [units_mul_eq_zero hx hy (.inr zero), units_mul_eq_zero hx hz (.inr (same ▸ zero))]
    · refine Int.le_of_eq (congrArg (fun u => unitsOf (Float.Model.pack
        (UnpackedFloat.mul Format.binary64 x.toModel.unpack u)).unpack) ?_)
      exact unpack_eq hy hz same zero

/-! ## Up to a whole number -/

/-- The number that a finite double stands for. -/
def value (x : Float) : ℚ := units x / one

theorem value_mono {x y : Float} (le : units x ≤ units y) : value x ≤ value y :=
  div_le_div_of_nonneg_right (Int.cast_le.2 le) (Nat.cast_nonneg one)

theorem divCeil_le_iff {n d a : ℕ} (pos : 0 < d) : divCeil n d ≤ a ↔ n ≤ a * d := by
  unfold divCeil
  split
  · rename_i exact
    rw [← Nat.mul_le_mul_right_iff pos, Nat.div_mul_cancel (Nat.dvd_of_mod_eq_zero exact)]
  · rename_i rest
    rw [Nat.succ_le_iff, Nat.div_lt_iff_lt_mul pos]
    refine ⟨Nat.le_of_lt, fun le => Nat.lt_of_le_of_ne le fun same => rest ?_⟩
    rw [same, Nat.mul_mod_left]

theorem divCeil_fraction {m : ℕ} {e : ℤ} (least : -1074 ≤ e) :
    divCeil (Binary64.fraction m e).1 (Binary64.fraction m e).2 =
      ⌈((m * 2 ^ (e + 1074).toNat : ℕ) : ℚ) / one⌉₊ := by
  obtain ⟨pos, same⟩ := fraction_mul_one m least
  revert pos same
  generalize (Binary64.fraction m e).1 = n, (Binary64.fraction m e).2 = d,
    m * 2 ^ (e + 1074).toNat = M
  intro pos same
  have unit : (0 : ℚ) < one := Nat.cast_pos.2 one_pos
  refine eq_of_forall_ge_iff fun a => ?_
  rw [divCeil_le_iff pos, Nat.ceil_le, div_le_iff₀ unit, ← Nat.mul_le_mul_right_iff one_pos, same,
    Nat.mul_right_comm, Nat.mul_le_mul_right_iff pos]
  exact_mod_cast Iff.rfl

theorem ceilUpTo_finite (hi : ℕ) (s : Sign) (m : ℕ) {e : ℤ} (least : -1074 ≤ e) :
    (Binary64.finite (s == .negative) m e).ceilUpTo hi =
      min hi ⌈(s.apply ((m * 2 ^ (e + 1074).toNat : ℕ) : ℤ) : ℚ) / one⌉₊ := by
  cases s
  · have below : Sign.negative.apply ((m * 2 ^ (e + 1074).toNat : ℕ) : ℤ) ≤ 0 :=
      Int.neg_nonpos_of_nonneg (Int.natCast_nonneg _)
    rw [Nat.ceil_eq_zero.2
      (div_nonpos_of_nonpos_of_nonneg (Int.cast_nonpos.2 below) (Nat.cast_nonneg one)),
      Nat.min_zero]
    rfl
  · exact congrArg (min hi) (divCeil_fraction least)

/-- A finite double is rounded up to a whole number. -/
theorem ceilUpTo_eq (hi : ℕ) (hx : IsFinite x) :
    Quantity.ceilUpTo hi x = min hi ⌈value x⌉₊ := by
  have fits := fits_unpack x.toModel
  show (Binary64.ofFloat x).ceilUpTo hi = _
  unfold value units
  rw [ofFloat_eq]
  rcases hx.cases with ⟨s, eq⟩ | ⟨s, m, e, pos, eq⟩ <;> rw [eq] at fits ⊢
  · refine (ceilUpTo_finite hi s 0 (Int.le_refl _)).trans ?_
    rw [Nat.zero_mul]
    rfl
  · exact ceilUpTo_finite hi s m fits.2.1

end StagedEvents.Double
