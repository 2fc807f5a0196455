import StagedEvents.Proofs.Double.Arithmetic

/-!
# Doubles and whole numbers

The double nearest to a whole number, and the whole number nearest to a double.

* `ofInt_close`: a double for a whole number.
* `nearest`, `roundInto_eq`: rounding in terms of units.
-/

namespace StagedEvents.Double

open Float.Model Float.Model.UnpackedFloat

/-! ## From whole numbers -/

/-- The double one, as the powers of ten begin. -/
def oneDouble : Float := Float.ofBits 0x3FF0000000000000

theorem ofNat_of_lt {n : ℕ} (lt : n < 2 ^ 53) :
    Float.ofNat n = n.toUInt64.toFloat * oneDouble := dif_pos ⟨lt, by decide⟩

theorem ofNat_of_le {n : ℕ} (le : 2 ^ 53 ≤ n) :
    (Float.ofNat n).toModel = Float.Model.ofScientific n 0 :=
  congrArg Float.toModel (dif_neg fun small => absurd small.1 (Nat.not_lt.2 le))

/-- A significand that is `m` when its last bits are left out. -/
theorem magnitude_shifted {s : Sign} {m k : ℕ} {e : ℤ} {pos : 0 < m * 2 ^ k} (exponent : e = -k)
    (le : k ≤ 1074) : magnitude (.finite s (m * 2 ^ k) e pos) = m * one := by
  have same : k + (e + 1074).toNat = places := by
    rw [places_eq]
    omega
  show m * 2 ^ k * 2 ^ (e + 1074).toNat = m * 2 ^ places
  rw [Nat.mul_assoc, ← Nat.pow_add, same]

theorem lt_beyond {n : ℕ} (lt : n ≤ 2 ^ 64) : n * one < beyond := by
  have reach : 64 + places < reach := by
    rw [places_eq, reach_eq]
    decide
  calc n * one ≤ 2 ^ 64 * 2 ^ places := Nat.mul_le_mul_right one lt
    _ = 2 ^ (64 + places) := (Nat.pow_add ..).symm
    _ < beyond := Nat.pow_lt_pow_right (Nat.one_lt_two) reach

/-- A double that is taken apart into a natural number with bits left out. -/
theorem units_of_shifted {x : Float} {m k : ℕ} {pos : 0 < m * 2 ^ k}
    (unpacked : x.toModel.unpack = .finite .positive (m * 2 ^ k) (-k) pos) (le : k ≤ 1074)
    (small : m ≤ 2 ^ 64) : IsFinite x ∧ units x = (m * one : ℕ) := by
  have eq : units x = (m * one : ℕ) := by
    unfold units
    rw [unpacked, unitsOf_finite, magnitude_shifted rfl le]
    rfl
  refine ⟨⟨?_, ?_⟩, eq⟩
  · unfold IsNumber
    rw [unpacked]
    rintro ⟨⟩
  · rw [eq, Int.natAbs_natCast]
    exact lt_beyond small

theorem units_oneDouble : IsFinite oneDouble ∧ units oneDouble = (1 * one : ℕ) :=
  units_of_shifted (k := 52) rfl (by decide) (by decide)

theorem isFinite_one : IsFinite (1.0 : Float) ∧ units (1.0 : Float) = (1 * one : ℕ) :=
  units_of_shifted (k := 52) rfl (by decide) (by decide)

theorem isFinite_two : IsFinite (2.0 : Float) ∧ units (2.0 : Float) = (2 * one : ℕ) :=
  units_of_shifted (k := 51) rfl (by decide) (by decide)

theorem isFinite_zero : IsFinite (0.0 : Float) ∧ units (0.0 : Float) = 0 :=
  ⟨by decide +kernel, rfl⟩

theorem onGrid_whole {n : ℕ} (lt : n < 2 ^ 53) : OnGrid (n * one) :=
  ⟨Nat.le_of_lt (lt_beyond (by omega)), n, places, lt, rfl⟩

/-- The double nearest to a machine word. -/
theorem toFloat_close (w : UInt64) :
    IsNumber w.toFloat ∧ Close (w.toNat * one) 1 (units w.toFloat) := by
  have packs := packs_normalize w.toNat (show (-1074 : ℤ) ≤ 0 by decide)
  have same : ((0 : ℤ) + 1074).toNat = places := by
    rw [places_eq]
    rfl
  have scale : (2 : ℤ) ^ places = one := (Nat.cast_pow 2 places).symm
  rw [same, scale] at packs
  exact packs

/-- The double nearest to a natural number. -/
theorem ofNat_close (n : ℕ) :
    IsNumber (Float.ofNat n) ∧ Close (n * one) 1 (units (Float.ofNat n)) := by
  rcases Nat.lt_or_ge n (2 ^ 53) with lt | ge
  · have grid : OnGrid ((n * one : ℕ) : ℤ).natAbs := by
      rw [Int.natAbs_natCast]
      exact onGrid_whole lt
    obtain ⟨number, close⟩ := toFloat_close n.toUInt64
    rw [show n.toUInt64.toNat = n from Nat.mod_eq_of_lt (by omega)] at close
    have exact : units n.toUInt64.toFloat = (n * one : ℕ) := close.eq_of_onGrid grid (by simp)
    have finite : IsFinite n.toUInt64.toFloat := ⟨number, by
      rw [exact, Int.natAbs_natCast]
      exact lt_beyond (by omega)⟩
    obtain ⟨number, close⟩ := mul_close finite units_oneDouble.1
    rw [ofNat_of_lt lt]
    rw [exact, units_oneDouble.2, Nat.one_mul] at close
    exact ⟨number, close.congr one_pos Nat.one_pos (by push_cast; ring)⟩
  · have pos : 0 < n := by omega
    have unfolded : Float.Model.ofScientific n 0 = Float.Model.pack
        (UnpackedFloat.mul Format.binary64
          (.finite .positive (n * 2 ^ 53) (-53) (Nat.mul_pos pos (Nat.two_pow_pos 53)))
          (.finite .positive (1 * 2 ^ 0) 0 (by decide))) := by
      have small : ¬ (0 : ℤ) < -((2 ^ Format.binary64.exponentBits : ℤ) + n.log2) := by
        have : (0 : ℤ) ≤ 2 ^ Format.binary64.exponentBits := by decide
        omega
      unfold Float.Model.ofScientific UnpackedFloat.ofScientific
      rw [dif_neg (by omega), if_neg (by decide), if_neg small, if_pos (by decide)]
      exact congrArg Float.Model.pack (congrArg₂ (UnpackedFloat.mul Format.binary64)
        (finite_congr rfl (Nat.shiftLeft_eq n 53) rfl) (finite_congr rfl rfl rfl))
    have packs := @packs_mul .positive .positive (n * 2 ^ 53) (1 * 2 ^ 0) (-53) 0
      (Nat.mul_pos pos (Nat.two_pow_pos 53)) (by decide) (by decide) (by decide) (.inr (by omega))
    have left : magnitude (.finite .positive (n * 2 ^ 53) (-53)
        (Nat.mul_pos pos (Nat.two_pow_pos 53))) = n * one :=
      magnitude_shifted (k := 53) rfl (by decide)
    have right : magnitude (.finite .positive (1 * 2 ^ 0) 0 (by decide)) = 1 * one :=
      magnitude_shifted (k := 0) rfl (by decide)
    rw [unitsOf_finite, unitsOf_finite, left, right, Nat.one_mul] at packs
    unfold IsNumber units
    rw [ofNat_of_le ge, unfolded]
    refine packs.congr one_pos Nat.one_pos ?_
    show ((n * one : ℕ) : ℤ) * one * (1 : ℕ) = _
    push_cast
    ring

theorem apply_neg (s : Sign) (a : ℤ) : (-s).apply a = -s.apply a := by
  cases s
  · exact (Int.neg_neg a).symm
  · rfl

theorem unitsOf_neg (u : UnpackedFloat) : unitsOf u.neg = -unitsOf u := by
  cases u with
  | notANumber => rfl
  | infinity s => exact apply_neg s _
  | zero s => exact apply_neg s _
  | finite s m e pos => exact apply_neg s _

theorem unpack_neg (x : Float) : x.neg.toModel.unpack = x.toModel.unpack.neg := by
  have fits : Fits x.toModel.unpack.neg := by
    have fits := fits_unpack x.toModel
    revert fits
    cases x.toModel.unpack <;> exact id
  exact unpack_pack_of_fits fits

theorem units_neg {x : Float} (number : IsNumber x) :
    IsNumber x.neg ∧ units x.neg = -units x := by
  unfold IsNumber units at *
  rw [unpack_neg]
  refine ⟨fun none => number ?_, unitsOf_neg _⟩
  revert none
  cases x.toModel.unpack with
  | notANumber => exact id
  | infinity s => rintro ⟨⟩
  | zero s => rintro ⟨⟩
  | finite s m e pos => rintro ⟨⟩

/-- The double nearest to a whole number. -/
theorem ofInt_close (n : ℤ) :
    IsNumber (Float.ofInt n) ∧ Close (n * one) 1 (units (Float.ofInt n)) := by
  cases n with
  | ofNat n => exact ofNat_close n
  | negSucc n =>
    obtain ⟨number, close⟩ := ofNat_close (n + 1)
    obtain ⟨number', neg⟩ := units_neg number
    refine ⟨number', ?_⟩
    show Close (_ * _) 1 (units (Float.ofNat (n + 1)).neg)
    rw [neg, Int.negSucc_eq, Int.neg_mul]
    exact close.neg

/-! ## To whole numbers -/

/-- The natural number nearest to a number of units, a half going up. -/
def nearestNat (M : ℕ) : ℕ := (2 * M + one) / (2 * one)

/-- The whole number nearest to a number of units, a half going away from zero. -/
def nearest (u : ℤ) : ℤ := if u < 0 then -(nearestNat u.natAbs : ℤ) else nearestNat u.natAbs

theorem divHalfUp_eq {n d : ℕ} (pos : 0 < d) : divHalfUp n d = (2 * n + d) / (2 * d) := by
  have split : 2 * n + d = 2 * d * (n / d) + (2 * (n % d) + d) := by
    have := Nat.div_add_mod n d
    calc 2 * n + d = 2 * (d * (n / d) + n % d) + d := by rw [this]
      _ = 2 * d * (n / d) + (2 * (n % d) + d) := by ring
  have less : n % d < d := Nat.mod_lt n pos
  rw [split, Nat.mul_add_div (by omega)]
  unfold divHalfUp
  split
  · have up : (2 * (n % d) + d) / (2 * d) = 1 := Nat.div_eq_of_lt_le (by omega) (by omega)
    rw [up]
  · have down : (2 * (n % d) + d) / (2 * d) = 0 := Nat.div_eq_of_lt (by omega)
    rw [down, Nat.add_zero]

/-- The fraction that a significand and its exponent stand for, in units. -/
theorem fraction_mul_one (m : ℕ) {e : ℤ} (least : -1074 ≤ e) :
    0 < (Binary64.fraction m e).2 ∧ (Binary64.fraction m e).1 * one =
      m * 2 ^ (e + 1074).toNat * (Binary64.fraction m e).2 := by
  cases e with
  | ofNat e =>
    have same : ((e : ℤ) + 1074).toNat = e + places := by
      rw [places_eq]
      omega
    refine ⟨Nat.one_pos, ?_⟩
    show m * 2 ^ e * 2 ^ places = m * 2 ^ ((e : ℤ) + 1074).toNat * 1
    rw [same, Nat.pow_add, Nat.mul_one, Nat.mul_assoc]
  | negSucc e =>
    have same : (Int.negSucc e + 1074).toNat + (e + 1) = places := by
      rw [places_eq]
      omega
    refine ⟨Nat.two_pow_pos (e + 1), ?_⟩
    show m * 2 ^ places = m * 2 ^ (Int.negSucc e + 1074).toNat * 2 ^ (e + 1)
    rw [Nat.mul_assoc, ← Nat.pow_add, same]

theorem divHalfUp_fraction {m : ℕ} {e : ℤ} (least : -1074 ≤ e) :
    divHalfUp (Binary64.fraction m e).1 (Binary64.fraction m e).2 =
      nearestNat (m * 2 ^ (e + 1074).toNat) := by
  obtain ⟨pos, same⟩ := fraction_mul_one m least
  revert pos same
  generalize (Binary64.fraction m e).1 = n, (Binary64.fraction m e).2 = d,
    m * 2 ^ (e + 1074).toNat = M
  intro pos same
  rw [divHalfUp_eq pos]
  unfold nearestNat
  rw [← Nat.mul_div_mul_right (2 * n + d) (2 * d) one_pos,
    ← Nat.mul_div_mul_right (2 * M + one) (2 * one) pos, Nat.mul_right_comm 2 one d]
  congr 1
  calc (2 * n + d) * one = 2 * (n * one) + d * one := by ring
    _ = (2 * M + one) * d := by rw [same]; ring

/-- What a double stands for, when it has been taken apart. -/
def standsFor : UnpackedFloat → Binary64
  | .notANumber => .nan
  | .infinity s => .infinite (s == .negative)
  | .zero s => .finite (s == .negative) 0 (-1074)
  | .finite s m e _ => .finite (s == .negative) m e

theorem ofWord_eq (word : BitVec 64) :
    Binary64.ofWord word.toNat = standsFor (UnpackedFloat.unpack Format.binary64 word) := by
  have fraction : (@unpackMantissa Format.binary64 word).toNat = word.toNat % 2 ^ 52 := by
    simp [unpackMantissa]
  have biased : (@unpackExponent Format.binary64 word).toNat = word.toNat / 2 ^ 52 % 2 ^ 11 := by
    simp [unpackExponent, Nat.shiftRight_eq_div_pow]
  have bit : (@unpackSign Format.binary64 word).toNat = word.toNat / 2 ^ 63 % 2 := by
    unfold unpackSign
    simp [Nat.shiftRight_eq_div_pow]
  have negative : (Sign.ofBitVec (@unpackSign Format.binary64 word) == .negative) =
      decide (2 ^ 63 ≤ word.toNat) := by
    have width := word.isLt
    unfold Sign.ofBitVec
    split <;> rename_i positive
    · rw [positive] at bit
      have bit : 0 = word.toNat / 2 ^ 63 % 2 := bit
      exact (decide_eq_false (by omega)).symm
    · have bit' : (@unpackSign Format.binary64 word).toNat ≠ 0 := fun zero =>
        positive (BitVec.eq_of_toNat_eq zero)
      exact (decide_eq_true (by omega)).symm
  have left : Binary64.ofWord word.toNat =
      let fraction := (@unpackMantissa Format.binary64 word).toNat
      let biased := (@unpackExponent Format.binary64 word).toNat
      let negative := Sign.ofBitVec (@unpackSign Format.binary64 word) == .negative
      if biased = 2047 then if fraction = 0 then .infinite negative else .nan
      else if biased = 0 then .finite negative fraction (-1074)
      else .finite negative (2 ^ 52 + fraction) ((biased : ℤ) - 1075) := by
    rw [fraction, biased, negative]
    rfl
  rw [left]
  unfold UnpackedFloat.unpack
  have zero {n : ℕ} {v : BitVec n} : v = 0#n ↔ v.toNat = 0 := BitVec.toNat_eq
  have all {v : BitVec 11} : v = -1#11 ↔ v.toNat = 2047 := BitVec.toNat_eq
  dsimp only
  by_cases infinite : (@unpackExponent Format.binary64 word).toNat = 2047
  · rw [if_pos infinite, if_pos (all.2 infinite)]
    by_cases none : (@unpackMantissa Format.binary64 word).toNat = 0
    · rw [if_pos none, if_pos (zero.2 none)]
      rfl
    · rw [if_neg none, if_neg (none ∘ zero.1)]
      rfl
  rw [if_neg infinite, if_neg (infinite ∘ all.1)]
  by_cases least : (@unpackExponent Format.binary64 word).toNat = 0
  · rw [if_pos least, if_pos (zero.2 least), least]
    by_cases none : (@unpackMantissa Format.binary64 word).toNat = 0
    · rw [dif_pos (zero.2 none), none]
      rfl
    · rw [dif_neg (none ∘ zero.1)]
      rfl
  · rw [if_neg least, if_neg (least ∘ zero.1), ← toNat_append_one]
    rfl

theorem ofFloat_eq (x : Float) : Binary64.ofFloat x = standsFor x.toModel.unpack :=
  ofWord_eq x.toModel.toBits.toBitVec

theorem nearestNat_zero : nearestNat 0 = 0 := Nat.div_eq_of_lt (by have := one_pos; omega)

theorem nearestNat_mono {M N : ℕ} (le : M ≤ N) : nearestNat M ≤ nearestNat N :=
  Nat.div_le_div_right (by omega)

theorem nearestNat_whole (n : ℕ) : nearestNat (n * one) = n := by
  have pos := one_pos
  have double : n * (2 * one) = 2 * (n * one) := Nat.mul_left_comm ..
  refine Nat.div_eq_of_lt_le ?_ ?_
  · omega
  · rw [Nat.add_mul]
    omega

theorem nearest_natCast (n : ℕ) : nearest n = nearestNat n := if_neg (by omega)

theorem nearest_neg (n : ℕ) : nearest (-n) = -nearestNat n := by
  unfold nearest
  rw [Int.natAbs_neg, Int.natAbs_natCast]
  split
  · rfl
  · have : n = 0 := by omega
    rw [this, nearestNat_zero]
    rfl

theorem nearest_apply (s : Sign) (M : ℕ) : nearest (s.apply M) = s.apply (nearestNat M) := by
  cases s
  · exact nearest_neg M
  · exact nearest_natCast M

theorem nearest_mono {u v : ℤ} (le : u ≤ v) : nearest u ≤ nearest v := by
  unfold nearest
  split <;> split
  · have := nearestNat_mono (show v.natAbs ≤ u.natAbs by omega)
    omega
  · omega
  · omega
  · have := nearestNat_mono (show u.natAbs ≤ v.natAbs by omega)
    omega

theorem nearest_whole (t : ℤ) : nearest (t * one) = t := by
  obtain ⟨n, rfl | rfl⟩ := t.eq_nat_or_neg
  · exact_mod_cast (nearest_natCast (n * one)).trans (congrArg _ (nearestNat_whole n))
  · rw [Int.neg_mul]
    exact_mod_cast (nearest_neg (n * one)).trans (congrArg _ (congrArg _ (nearestNat_whole n)))

/-- What is rounded to a whole number is still on the grid: a double with a part behind the
    point is small. -/
theorem onGrid_nearestNat {M : ℕ} (grid : OnGrid M) : OnGrid (nearestNat M * one) := by
  obtain ⟨within, a, j, small, rfl⟩ := grid
  rcases Nat.lt_or_ge j places with fine | coarse
  · have below : a * 2 ^ j ≤ 2 ^ 52 * one := by
      calc a * 2 ^ j ≤ 2 ^ 53 * 2 ^ j := Nat.mul_le_mul_right _ (Nat.le_of_lt small)
        _ = 2 ^ 52 * 2 ^ (j + 1) := by rw [Nat.pow_succ 2 j]; omega
        _ ≤ 2 ^ 52 * 2 ^ places := Nat.mul_le_mul_left _ (Nat.pow_le_pow_right (by omega) fine)
    have le := nearestNat_mono below
    rw [nearestNat_whole] at le
    exact onGrid_whole (by omega)
  · have whole : a * 2 ^ j = a * 2 ^ (j - places) * one := by
      unfold one
      rw [Nat.mul_assoc, ← Nat.pow_add, Nat.sub_add_cancel coarse]
    rw [whole, nearestNat_whole, ← whole]
    exact ⟨within, a, j, small, rfl⟩

theorem roundInto_finite (lo hi : ℤ) (s : Sign) (m : ℕ) {e : ℤ} (least : -1074 ≤ e) :
    (Binary64.finite (s == .negative) m e).roundInto lo hi =
      clampInt lo hi (nearest (s.apply ((m * 2 ^ (e + 1074).toNat : ℕ) : ℤ))) := by
  rw [nearest_apply, ← divHalfUp_fraction least]
  cases s <;> rfl

/-- The whole number nearest to a finite double. -/
theorem roundInto_eq {x : Float} (finite : IsFinite x) (lo hi : ℤ) :
    Quantity.roundInto lo hi x = clampInt lo hi (nearest (units x)) := by
  have fits := fits_unpack x.toModel
  show (Binary64.ofFloat x).roundInto lo hi = _
  unfold units
  rw [ofFloat_eq]
  rcases finite.cases with ⟨s, eq⟩ | ⟨s, m, e, pos, eq⟩ <;> rw [eq] at fits ⊢
  · refine (roundInto_finite lo hi s 0 (Int.le_refl _)).trans ?_
    rw [Nat.zero_mul]
    rfl
  · exact roundInto_finite lo hi s m fits.2.1

end StagedEvents.Double
