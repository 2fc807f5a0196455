import StagedEvents.Proofs.Double.Grid

/-!
# Doubles taken apart

A double is packed from a sign, a significand and an exponent. What the operations make of these
is brought to the exponent that the format wants, rounded, and packed again.

* `magnitude`, `Canonical`: what a significand and an exponent stand for, and when they are those
  that the format wants.
* `Rounded`: the exact result of an operation, and what it is rounded to.
* `rounded_roundWithAccuracy`, `rounded_round`: the rounding of one significand and exponent.
* `unpack_pack`: what is packed comes out again, or as infinity.
-/

namespace StagedEvents.Double

open Float.Model Float.Model.UnpackedFloat

/-- The magnitude in units of `2 ^ -1074`. -/
def magnitude : UnpackedFloat → ℕ
  | .finite _ m e _ => m * 2 ^ (e + 1074).toNat
  | .infinity _ => beyond
  | .zero _ => 0
  | .notANumber => 0

/-- The sign, positive for what is not a number. -/
def sign : UnpackedFloat → Sign
  | .finite s _ _ _ => s
  | .infinity s => s
  | .zero s => s
  | .notANumber => .positive

/-- A number with the exponent that the format wants, though that may be too large for it. -/
def Canonical : UnpackedFloat → Prop
  | .finite _ m e _ => m < 2 ^ 53 ∧ -1074 ≤ e ∧ (e = -1074 ∨ 2 ^ 52 ≤ m)
  | .infinity _ => True
  | .zero _ => True
  | .notANumber => False

/-- A canonical number with the sign `s`, and the magnitude that `n / d` is rounded to. -/
structure Rounded (s : Sign) (n d : ℕ) (u : UnpackedFloat) : Prop where
  canonical : Canonical u
  sign_eq : sign u = s
  rounds : Rounds n d (magnitude u)

theorem targetExponent_eq (m : ℕ) (e : ℤ) :
    Format.binary64.targetExponent (totalExponent m e) = max (m.log2 + e - 52) (-1074) := by
  show max ((m.log2 : ℤ) + 1 + e - 53) (-1074) = _
  congr 1
  omega

/-! ## Rounding -/

/-- A significand of at most 53 bits keeps its exponent, or it is the next power of two and can do
    without its last bit. -/
theorem shift_of_le {m : ℕ} (le : m ≤ 2 ^ 53) {e : ℤ} (least : -1074 ≤ e) :
    (shiftToTargetExponent Format.binary64 m e .exact =
        (ExtendedMantissa.mk m false false, e) ∧ m < 2 ^ 53) ∨
      shiftToTargetExponent Format.binary64 m e .exact =
        (ExtendedMantissa.mk (2 ^ 52) false false, e + 1) ∧ m = 2 ^ 53 := by
  unfold shiftToTargetExponent
  rw [targetExponent_eq]
  rcases Nat.lt_or_eq_of_le le with lt | rfl
  · have short : m.log2 ≤ 52 := by
      by_cases zero : m = 0
      · rw [zero]
        decide
      · exact Nat.le_of_lt_succ ((Nat.log2_lt zero).2 lt)
    have still : (max ((m.log2 : ℤ) + e - 52) (-1074) - e).toNat = 0 := by omega
    refine .inl ⟨?_, lt⟩
    rw [shiftToExponent, still]
    exact congrArg _ (Int.add_zero e)
  · have once : (max (((2 ^ 53 : ℕ).log2 : ℤ) + e - 52) (-1074) - e).toNat = 1 := by
      rw [Nat.log2_two_pow]
      omega
    refine .inr ⟨?_, rfl⟩
    rw [shiftToExponent, once]
    rfl

/-- The first shift leads to the exponent `k - 1074`, and leaves a significand of full length
    unless the exponent is the least. -/
theorem first_shift {m : ℕ} {e : ℤ} (accuracy : Accuracy) (wide : e ≤ -1074 ∨ 2 ^ 52 ≤ m) :
    ∃ count k : ℕ, e + count = k - 1074 ∧
      shiftToTargetExponent Format.binary64 m e accuracy =
        (ExtendedMantissa.ofMantissaAndAccuracy m accuracy >>> count, (k : ℤ) - 1074) ∧
      m / 2 ^ count < 2 ^ 53 ∧ (k = 0 ∨ 2 ^ 52 ≤ m / 2 ^ count) := by
  obtain ⟨count, hcount⟩ : ∃ count : ℕ, (max ((m.log2 : ℤ) + e - 52) (-1074) - e).toNat = count :=
    ⟨_, rfl⟩
  obtain ⟨k, hk⟩ : ∃ k : ℕ, e + count = k - 1074 := ⟨(e + count + 1074).toNat, by omega⟩
  have scale : 0 < 2 ^ count := Nat.two_pow_pos count
  refine ⟨count, k, hk, ?_, ?_, ?_⟩
  · unfold shiftToTargetExponent shiftToExponent
    simp only [targetExponent_eq, hcount, hk]
  · rw [Nat.div_lt_iff_lt_mul scale, ← Nat.pow_add]
    by_cases zero : m = 0
    · rw [zero]
      exact Nat.two_pow_pos _
    · exact (Nat.log2_lt zero).1 (by omega)
  · by_cases finest : k = 0
    · exact .inl finest
    · have length : m.log2 = 52 + count := by
        have long : 2 ^ 52 ≤ m → 52 ≤ m.log2 := fun full => (Nat.le_log2 (by omega)).2 full
        rcases wide with small | full
        · omega
        · have := long full
          omega
      have nonzero : m ≠ 0 := by
        rintro rfl
        have none : Nat.log2 0 = 0 := by decide
        omega
      refine .inr ((Nat.le_div_iff_mul_le scale).2 ?_)
      rw [← Nat.pow_add]
      exact (Nat.le_log2 nonzero).1 (by omega)

/-- A shift by `count` to the exponent `k - 1074`, in terms of the exponent before. -/
theorem rounds_of_shift {N D r count k : ℕ} {e : ℤ} (shift : e + count = k - 1074)
    (rounds : Rounds (N * 2 ^ k) (D * 2 ^ count) r) :
    Rounds (N * 2 ^ (e + 1074).toNat) (D * 2 ^ (-1074 - e).toNat) r := by
  rcases Int.le_total (-1074) e with ge | le
  · have same : k = (e + 1074).toNat + count := by omega
    have none : (-1074 - e).toNat = 0 := by omega
    rw [none, Nat.pow_zero, Nat.mul_one]
    refine Rounds.unscale (c := 2 ^ count) ?_
    rw [Nat.mul_assoc, ← Nat.pow_add, ← same]
    exact rounds
  · have same : count = (-1074 - e).toNat + k := by omega
    have none : (e + 1074).toNat = 0 := by omega
    rw [none, Nat.pow_zero, Nat.mul_one]
    refine Rounds.unscale (c := 2 ^ k) ?_
    rw [Nat.mul_assoc, ← Nat.pow_add, ← same]
    exact rounds

/-- What a significand and an exponent are rounded to, when the first shift has led to the exponent
    `k - 1074`. -/
theorem roundWithAccuracy_eq (s : Sign) {m k : ℕ} {e : ℤ} {accuracy : Accuracy}
    {em : ExtendedMantissa}
    (first : shiftToTargetExponent Format.binary64 m e accuracy = (em, (k : ℤ) - 1074))
    (le : em.roundedMantissa ≤ 2 ^ 53) (full : k = 0 ∨ 2 ^ 52 ≤ em.roundedMantissa) :
    Canonical (roundWithAccuracy Format.binary64 s m e accuracy) ∧
      sign (roundWithAccuracy Format.binary64 s m e accuracy) = s ∧
      magnitude (roundWithAccuracy Format.binary64 s m e accuracy) =
        em.roundedMantissa * 2 ^ k := by
  have least : (-1074 : ℤ) ≤ (k : ℤ) - 1074 := by omega
  unfold roundWithAccuracy
  rw [first]
  dsimp only
  -- the second shift takes the last bit off a significand that has become too long
  rcases shift_of_le le least with ⟨second, lt⟩ | ⟨second, eq⟩
  · have back : ((k : ℤ) - 1074 + 1074).toNat = k := by omega
    rw [second]
    dsimp only
    by_cases zero : em.roundedMantissa = 0
    · rw [dif_pos zero, zero, Nat.zero_mul]
      exact ⟨True.intro, rfl, rfl⟩
    · rw [dif_neg zero]
      refine ⟨⟨lt, least, full.imp_left ?_⟩, rfl, ?_⟩
      · rintro rfl
        rfl
      · show em.roundedMantissa * 2 ^ ((k : ℤ) - 1074 + 1074).toNat = _
        rw [back]
  · have up : ((k : ℤ) - 1074 + 1 + 1074).toNat = k + 1 := by omega
    have nonzero : (2 : ℕ) ^ 52 ≠ 0 := by decide
    have half : (2 : ℕ) ^ 52 < 2 ^ 53 := by decide
    rw [second]
    dsimp only
    rw [dif_neg nonzero]
    refine ⟨⟨half, by omega, .inr (Nat.le_refl _)⟩, rfl, ?_⟩
    show 2 ^ 52 * 2 ^ ((k : ℤ) - 1074 + 1 + 1074).toNat = _
    rw [eq, up, Nat.pow_succ 2 k, Nat.mul_comm (2 ^ k), ← Nat.mul_assoc]
    rfl

/-- **The rounding of a significand and an exponent**: the significand is `N / D`, told whether
    exactly, and it is long enough. -/
theorem rounded_roundWithAccuracy (s : Sign) {m N D : ℕ} {e : ℤ} {accuracy : Accuracy}
    (pos : 0 < D) (floor : m = N / D) (exact : accuracy = .exact ↔ D ∣ N)
    (wide : e ≤ -1074 ∨ 2 ^ 52 ≤ m) :
    Rounded s (N * 2 ^ (e + 1074).toNat) (D * 2 ^ (-1074 - e).toNat)
      (roundWithAccuracy Format.binary64 s m e accuracy) := by
  obtain ⟨count, k, hk, first, short, full⟩ := first_shift accuracy wide
  have shows := (shows_ofMantissaAndAccuracy floor exact).shiftRight pos count
  generalize ExtendedMantissa.ofMantissaAndAccuracy m accuracy >>> count = em at first shows
  have quotient : N / (D * 2 ^ count) = m / 2 ^ count := by
    rw [floor, Nat.div_div_eq_div_mul]
  have next := shows.rounded
  rw [quotient] at next
  have rounds : Rounds (N * 2 ^ (e + 1074).toNat) (D * 2 ^ (-1074 - e).toNat)
      (em.roundedMantissa * 2 ^ k) := by
    refine rounds_of_shift hk (rounds_floor ?_ quotient.symm full next)
    exact Nat.mul_pos pos (Nat.two_pow_pos count)
  obtain ⟨canonical, sign_eq, magnitude_eq⟩ :=
    roundWithAccuracy_eq s first (by omega) (full.imp_right fun full => by omega)
  rw [← magnitude_eq] at rounds
  exact ⟨canonical, sign_eq, rounds⟩

/-- The rounding of any significand and exponent. -/
theorem rounded_round (s : Sign) {m : ℕ} (pos : 0 < m) (e : ℤ) :
    Rounded s (m * 2 ^ (e + 1074).toNat) (2 ^ (-1074 - e).toNat)
      (round Format.binary64 s m e) := by
  obtain ⟨count, hcount⟩ : ∃ count : ℕ, (e - max ((m.log2 : ℤ) + e - 52) (-1074)).toNat = count :=
    ⟨_, rfl⟩
  have wide : e - count ≤ -1074 ∨ 2 ^ 52 ≤ m * 2 ^ count := by
    rcases Int.lt_or_le (-1074) (e - count) with coarse | fine
    · have length : 52 ≤ m.log2 + count := by omega
      have full := Nat.mul_le_mul_right (2 ^ count) ((Nat.le_log2 (by omega)).1 (Nat.le_refl m.log2))
      rw [← Nat.pow_add] at full
      exact .inr (Nat.le_trans (Nat.pow_le_pow_right (by omega) length) full)
    · exact .inl fine
  have rounded := @rounded_roundWithAccuracy s _ _ _ _ .exact Nat.one_pos
    (Nat.div_one (m * 2 ^ count)).symm (iff_of_true rfl (Nat.one_dvd _)) wide
  have back : m * 2 ^ count * 2 ^ (e - count + 1074).toNat = m * 2 ^ (e + 1074).toNat := by
    rw [Nat.mul_assoc, ← Nat.pow_add]
    congr 2
    omega
  have same : (-1074 - (e - count)).toNat = (-1074 - e).toNat := by omega
  rw [back, same, Nat.one_mul] at rounded
  unfold UnpackedFloat.round decreaseExponent
  rw [targetExponent_eq]
  dsimp only
  rw [hcount, Nat.shiftLeft_eq]
  exact rounded

/-! ## Packing -/

/-- A number with an exponent that fits the format, or none. -/
def Fits : UnpackedFloat → Prop
  | .finite _ m e _ => m < 2 ^ 53 ∧ -1074 ≤ e ∧ e ≤ 971 ∧ (e = -1074 ∨ 2 ^ 52 ≤ m)
  | .infinity _ => True
  | .zero _ => True
  | .notANumber => True

theorem toNat_append_one (v : BitVec 52) : (1#1 ++ v).toNat = 2 ^ 52 + v.toNat := by
  rw [BitVec.toNat_append, ← Nat.shiftLeft_add_eq_or_of_lt v.isLt]
  rfl

/-- What is unpacked fits. -/
theorem fits_unpack (x : Float.Model) : Fits x.unpack := by
  let fraction : BitVec 52 := @unpackMantissa Format.binary64 x.toBits.toBitVec
  let biased : BitVec 11 := @unpackExponent Format.binary64 x.toBits.toBitVec
  have bias : ((Format.binary64.exponentBias : ℕ) : ℤ) + (52 : ℕ) = 1075 := rfl
  have short : fraction.toNat < 2 ^ 52 := fraction.isLt
  have width : biased.toNat < 2 ^ 11 := biased.isLt
  unfold Float.Model.unpack UnpackedFloat.unpack
  dsimp only
  by_cases greatest : biased = -1#11
  · rw [if_pos greatest]
    by_cases zero : fraction = 0#52
    · rw [if_pos zero]
      exact True.intro
    · rw [if_neg zero]
      exact True.intro
  · rw [if_neg greatest]
    have finite : biased.toNat ≠ 2047 := fun same => greatest (BitVec.eq_of_toNat_eq same)
    by_cases subnormal : biased = 0#11
    · rw [if_pos subnormal]
      by_cases zero : fraction = 0#52
      · rw [dif_pos zero]
        exact True.intro
      · rw [dif_neg zero]
        have least : biased.toNat = 0 := congrArg BitVec.toNat subnormal
        refine ⟨Nat.lt_trans short (by decide), ?_, ?_, .inl ?_⟩
        · show -1074 ≤ (biased.toNat : ℤ) - _ + 1
          omega
        · show (biased.toNat : ℤ) - _ + 1 ≤ 971
          omega
        · show (biased.toNat : ℤ) - _ + 1 = -1074
          omega
    · rw [if_neg subnormal]
      have normal : biased.toNat ≠ 0 := fun same => subnormal (BitVec.eq_of_toNat_eq same)
      have whole : (1#1 ++ fraction).toNat = 2 ^ 52 + fraction.toNat := toNat_append_one fraction
      refine ⟨?_, ?_, ?_, .inr ?_⟩
      · show (1#1 ++ fraction).toNat < 2 ^ 53
        omega
      · show -1074 ≤ (biased.toNat : ℤ) - _
        omega
      · show (biased.toNat : ℤ) - _ ≤ 971
        omega
      · show 2 ^ 52 ≤ (1#1 ++ fraction).toNat
        omega

theorem unpackSign_packComponents (s : Sign) (biased : BitVec 11) (fraction : BitVec 52) :
    Sign.ofBitVec (unpackSign (packComponents Format.binary64 s biased fraction)) = s := by
  unfold unpackSign packComponents
  simp only [BitVec.extractLsb]
  rw [BitVec.extractLsb'_append_eq_of_le (by decide),
    BitVec.extractLsb'_append_eq_of_le (by decide)]
  cases s <;> rfl

theorem finite_congr {s t : Sign} {m k : ℕ} {e f : ℤ} {pos : 0 < m} {pos' : 0 < k} (signs : s = t)
    (significands : m = k) (exponents : e = f) :
    UnpackedFloat.finite s m e pos = .finite t k f pos' := by
  subst signs significands exponents
  rfl

/-- A word whose significand has a leading bit that is not written. -/
theorem unpack_normal {s : Sign} {biased : BitVec 11} {fraction : BitVec 52} {m : ℕ} {e : ℤ}
    {pos : 0 < m} (finite : biased ≠ -1#11) (normal : biased ≠ 0#11)
    (significand : 2 ^ 52 + fraction.toNat = m) (exponent : (biased.toNat : ℤ) - 1075 = e) :
    UnpackedFloat.unpack Format.binary64 (packComponents Format.binary64 s biased fraction) =
      .finite s m e pos := by
  unfold UnpackedFloat.unpack
  dsimp only
  rw [if_neg (by rw [unpackExponent_packComponents]; exact finite),
    if_neg (by rw [unpackExponent_packComponents]; exact normal)]
  refine finite_congr (unpackSign_packComponents s biased fraction) ?_ ?_
  · rw [unpackMantissa_packComponents]
    exact (toNat_append_one fraction).trans significand
  · rw [unpackExponent_packComponents]
    exact exponent

/-- A word with the least exponent. -/
theorem unpack_subnormal {s : Sign} {fraction : BitVec 52} {m : ℕ} {pos : 0 < m}
    (significand : fraction.toNat = m) :
    UnpackedFloat.unpack Format.binary64 (packComponents Format.binary64 s 0#11 fraction) =
      .finite s m (-1074) pos := by
  have nonzero : fraction ≠ 0#52 := fun zero => by
    rw [zero] at significand
    exact absurd significand (Nat.ne_of_lt pos)
  unfold UnpackedFloat.unpack
  dsimp only
  rw [if_neg (by rw [unpackExponent_packComponents]; decide),
    if_pos (by rw [unpackExponent_packComponents]),
    dif_neg (by rw [unpackMantissa_packComponents]; exact nonzero)]
  refine finite_congr (unpackSign_packComponents s 0#11 fraction) ?_ ?_
  · rw [unpackMantissa_packComponents]
    exact significand
  · rw [unpackExponent_packComponents]
    rfl

/-- The word that a significand and an exponent are packed into. -/
theorem pack_finite {s : Sign} {m : ℕ} {e : ℤ} {pos : 0 < m} :
    UnpackedFloat.pack Format.binary64 (.finite s m e pos) =
      if 2 ^ 11 ≤ (e + 1075).toNat + 1 then packedInfinity Format.binary64 s
      else if m.log2 + 1 = 53 then
        packComponents Format.binary64 s (BitVec.ofNat 11 (e + 1075).toNat) (BitVec.ofNat 52 m)
      else packComponents Format.binary64 s 0#11 (BitVec.ofNat 52 m) := by
  have bias : (e + 1075).toNat = (e + (1023 : ℕ) + (52 : ℕ)).toNat := by omega
  rw [bias]
  rfl

theorem unpack_pack_finite {s : Sign} {m : ℕ} {e : ℤ} {pos : 0 < m}
    (fits : Fits (.finite s m e pos)) :
    (Float.Model.pack (.finite s m e pos)).unpack = .finite s m e pos := by
  obtain ⟨short, least, greatest, wide⟩ := fits
  show UnpackedFloat.unpack Format.binary64 (UnpackedFloat.pack Format.binary64 _) = _
  rw [pack_finite, if_neg (show ¬ 2 ^ 11 ≤ (e + 1075).toNat + 1 by omega)]
  by_cases normal : 2 ^ 52 ≤ m
  · have length : m.log2 + 1 = 53 := by
      have long := (Nat.le_log2 (by omega)).2 normal
      have := (Nat.log2_lt (by omega)).2 short
      omega
    have biased : (BitVec.ofNat 11 (e + 1075).toNat).toNat = (e + 1075).toNat := by
      rw [BitVec.toNat_ofNat]
      omega
    rw [if_pos length]
    refine unpack_normal (fun same => ?_) (fun same => ?_) ?_ ?_
    · have same : (BitVec.ofNat 11 (e + 1075).toNat).toNat = 2047 := congrArg BitVec.toNat same
      omega
    · have same : (BitVec.ofNat 11 (e + 1075).toNat).toNat = 0 := congrArg BitVec.toNat same
      omega
    · rw [BitVec.toNat_ofNat]
      omega
    · rw [biased]
      omega
  · obtain rfl : e = -1074 := wide.resolve_right normal
    have length : m.log2 + 1 ≠ 53 := by
      have := (Nat.log2_lt (Nat.ne_of_gt pos)).2 (Nat.lt_of_not_le normal)
      omega
    rw [if_neg length]
    refine unpack_subnormal ?_
    rw [BitVec.toNat_ofNat]
    omega

/-- What fits comes out as it was packed. -/
theorem unpack_pack_of_fits {u : UnpackedFloat} (fits : Fits u) :
    (Float.Model.pack u).unpack = u := by
  cases u with
  | notANumber => rfl
  | infinity s => cases s <;> rfl
  | zero s => cases s <;> rfl
  | finite s m e pos => exact unpack_pack_finite fits

theorem magnitude_finite {s : Sign} {m : ℕ} {e : ℤ} {pos : 0 < m} :
    magnitude (.finite s m e pos) = m * 2 ^ (e + 1074).toNat := rfl

theorem magnitude_lt {s : Sign} {m : ℕ} {e : ℤ} {pos : 0 < m}
    (fits : Fits (.finite s m e pos)) : magnitude (.finite s m e pos) < beyond := by
  obtain ⟨short, least, greatest, -⟩ := fits
  calc m * 2 ^ (e + 1074).toNat < 2 ^ 53 * 2 ^ (e + 1074).toNat :=
        Nat.mul_lt_mul_of_pos_right short (Nat.two_pow_pos _)
    _ = 2 ^ (53 + (e + 1074).toNat) := (Nat.pow_add ..).symm
    _ ≤ beyond := pow_le_beyond (by omega)

theorem Fits.onGrid {u : UnpackedFloat} (fits : Fits u) : OnGrid (magnitude u) := by
  cases u with
  | notANumber => exact ⟨Nat.zero_le _, 0, 0, by decide, rfl⟩
  | zero s => exact ⟨Nat.zero_le _, 0, 0, by decide, rfl⟩
  | infinity s => exact ⟨Nat.le_refl _, 1, reach, by decide, (Nat.one_mul _).symm⟩
  | finite s m e pos => exact ⟨Nat.le_of_lt (magnitude_lt fits), m, _, fits.1, rfl⟩

/-- **What is packed comes out again**, or as infinity. -/
theorem unpack_pack {u : UnpackedFloat} (canonical : Canonical u) :
    (Float.Model.pack u).unpack ≠ .notANumber ∧
      sign (Float.Model.pack u).unpack = sign u ∧
      magnitude (Float.Model.pack u).unpack = min (magnitude u) beyond := by
  have infinite (s : Sign) : (Float.Model.pack (.infinity s)).unpack = .infinity s :=
    unpack_pack_of_fits True.intro
  cases u with
  | notANumber => exact canonical.elim
  | zero s =>
    have same : (Float.Model.pack (.zero s)).unpack = .zero s := unpack_pack_of_fits True.intro
    rw [same]
    exact ⟨by rintro ⟨⟩, rfl, rfl⟩
  | infinity s =>
    rw [infinite]
    exact ⟨by rintro ⟨⟩, rfl, (Nat.min_self _).symm⟩
  | finite s m e pos =>
    obtain ⟨short, least, wide⟩ := canonical
    rcases Int.lt_or_le 971 e with large | within
    · have packed : Float.Model.pack (.finite s m e pos) = Float.Model.pack (.infinity s) := by
        have word : UnpackedFloat.pack Format.binary64 (.finite s m e pos) =
            UnpackedFloat.pack Format.binary64 (.infinity s) := by
          rw [pack_finite]
          exact if_pos (by omega)
        unfold Float.Model.pack
        congr 1
        exact congrArg UInt64.ofBitVec word
      have full : 2 ^ 52 ≤ m := wide.resolve_left (by omega)
      rw [packed, infinite]
      refine ⟨by rintro ⟨⟩, rfl, (Nat.min_eq_right ?_).symm⟩
      calc beyond ≤ 2 ^ (52 + (e + 1074).toNat) := beyond_le_pow (by omega)
        _ = 2 ^ 52 * 2 ^ (e + 1074).toNat := Nat.pow_add ..
        _ ≤ m * 2 ^ (e + 1074).toNat := Nat.mul_le_mul_right _ full
    · have fits : Fits (.finite s m e pos) := ⟨short, least, within, wide⟩
      rw [unpack_pack_of_fits fits]
      exact ⟨by rintro ⟨⟩, rfl, (Nat.min_eq_left (Nat.le_of_lt (magnitude_lt fits))).symm⟩

/-! ## Order -/

/-- The number of units, with its sign. -/
def unitsOf (u : UnpackedFloat) : ℤ := (sign u).apply (magnitude u)

theorem magnitude_pos {s : Sign} {m : ℕ} {e : ℤ} {pos : 0 < m} :
    0 < magnitude (.finite s m e pos) := Nat.mul_pos pos (Nat.two_pow_pos _)

/-- Among numbers that fit, the exponent comes before the significand. -/
theorem compare_magnitude {s t : Sign} {m n : ℕ} {e f : ℤ} {pos : 0 < m} {pos' : 0 < n}
    (fits : Fits (.finite s m e pos)) (fits' : Fits (.finite t n f pos')) :
    (compare e f).then (compare m n) =
      compare (magnitude (.finite s m e pos)) (magnitude (.finite t n f pos')) := by
  have smaller {s t : Sign} {m n : ℕ} {e f : ℤ} {pos : 0 < m} {pos' : 0 < n}
      (fits : Fits (.finite s m e pos)) (fits' : Fits (.finite t n f pos')) (lt : e < f) :
      magnitude (.finite s m e pos) < magnitude (.finite t n f pos') := by
    obtain ⟨short, least, -, -⟩ := fits
    obtain ⟨-, -, -, wide⟩ := fits'
    have full : 2 ^ 52 ≤ n := wide.resolve_left (by omega)
    show m * 2 ^ (e + 1074).toNat < n * 2 ^ (f + 1074).toNat
    calc m * 2 ^ (e + 1074).toNat < 2 ^ 53 * 2 ^ (e + 1074).toNat :=
          Nat.mul_lt_mul_of_pos_right short (Nat.two_pow_pos _)
      _ = 2 ^ (53 + (e + 1074).toNat) := (Nat.pow_add ..).symm
      _ ≤ 2 ^ (52 + (f + 1074).toNat) := Nat.pow_le_pow_right (by omega) (by omega)
      _ = 2 ^ 52 * 2 ^ (f + 1074).toNat := Nat.pow_add ..
      _ ≤ n * 2 ^ (f + 1074).toNat := Nat.mul_le_mul_right _ full
  rcases Int.lt_trichotomy e f with lt | rfl | gt
  · rw [compare_lt_iff_lt.2 lt, compare_lt_iff_lt.2 (smaller fits fits' lt)]
    rfl
  · rw [compare_eq_iff_eq.2 rfl]
    have scale : 0 < 2 ^ (e + 1074).toNat := Nat.two_pow_pos _
    show compare m n = compare (m * 2 ^ (e + 1074).toNat) (n * 2 ^ (e + 1074).toNat)
    rcases Nat.lt_trichotomy m n with lt | rfl | gt
    · rw [compare_lt_iff_lt.2 lt, compare_lt_iff_lt.2 (Nat.mul_lt_mul_of_pos_right lt scale)]
    · rw [compare_eq_iff_eq.2 rfl, compare_eq_iff_eq.2 rfl]
    · rw [compare_gt_iff_gt.2 gt, compare_gt_iff_gt.2 (Nat.mul_lt_mul_of_pos_right gt scale)]
  · rw [compare_gt_iff_gt.2 gt, compare_gt_iff_gt.2 (smaller fits' fits gt)]
    rfl

theorem unitsOf_zero (s : Sign) : unitsOf (.zero s) = 0 := by
  cases s <;> rfl

theorem unitsOf_finite {s : Sign} {m : ℕ} {e : ℤ} {pos : 0 < m} :
    unitsOf (.finite s m e pos) = s.apply (magnitude (.finite s m e pos)) := rfl

theorem unitsOf_infinity (s : Sign) : unitsOf (.infinity s) = s.apply beyond := rfl

theorem some_compare_of_lt {a b : ℤ} (h : a < b) : some .lt = some (compare a b) :=
  congrArg some (compare_lt_iff_lt.2 h).symm

theorem some_compare_of_gt {a b : ℤ} (h : b < a) : some .gt = some (compare a b) :=
  congrArg some (compare_gt_iff_gt.2 h).symm

theorem some_compare_of_eq {a b : ℤ} (h : a = b) : some .eq = some (compare a b) :=
  congrArg some (compare_eq_iff_eq.2 h).symm

theorem some_compare_natCast (M N : ℕ) :
    some (compare M N) = some (compare (M : ℤ) (N : ℤ)) := by
  rcases Nat.lt_trichotomy M N with less | rfl | more
  · rw [compare_lt_iff_lt.2 less]
    exact some_compare_of_lt (by omega)
  · rw [compare_eq_iff_eq.2 rfl]
    exact some_compare_of_eq rfl
  · rw [compare_gt_iff_gt.2 more]
    exact some_compare_of_gt (by omega)

/-- Negative numbers are in the opposite order of their magnitudes. -/
theorem some_compare_neg (M N : ℕ) :
    some (compare M N).swap = some (compare (-(M : ℤ)) (-(N : ℤ))) := by
  rcases Nat.lt_trichotomy M N with less | rfl | more
  · rw [compare_lt_iff_lt.2 less]
    exact some_compare_of_gt (by omega)
  · rw [compare_eq_iff_eq.2 rfl]
    exact some_compare_of_eq rfl
  · rw [compare_gt_iff_gt.2 more]
    exact some_compare_of_lt (by omega)

theorem compare_finite {s t : Sign} {m n : ℕ} {e f : ℤ} {pos : 0 < m} {pos' : 0 < n}
    (fits : Fits (.finite s m e pos)) (fits' : Fits (.finite t n f pos')) :
    (UnpackedFloat.finite s m e pos).compare (.finite t n f pos') =
      some (compare (unitsOf (.finite s m e pos)) (unitsOf (.finite t n f pos'))) := by
  have least : (0 : ℤ) < magnitude (.finite s m e pos) := Int.natCast_pos.2 magnitude_pos
  have least' : (0 : ℤ) < magnitude (.finite t n f pos') := Int.natCast_pos.2 magnitude_pos
  have ordered := compare_magnitude fits fits'
  rw [unitsOf_finite, unitsOf_finite]
  generalize magnitude (.finite s m e pos) = M at least ordered
  generalize magnitude (.finite t n f pos') = N at least' ordered
  cases s <;> cases t
  · show some ((compare e f).then (compare m n)).swap = _
    rw [ordered]
    exact some_compare_neg M N
  · exact some_compare_of_lt (show -(M : ℤ) < N by omega)
  · exact some_compare_of_gt (show -(N : ℤ) < M by omega)
  · show some ((compare e f).then (compare m n)) = _
    rw [ordered]
    exact some_compare_natCast M N

/-- A number that fits is between the infinities. -/
theorem unitsOf_finite_between {s : Sign} {m : ℕ} {e : ℤ} {pos : 0 < m}
    (fits : Fits (.finite s m e pos)) :
    -(beyond : ℤ) < unitsOf (.finite s m e pos) ∧ unitsOf (.finite s m e pos) < beyond := by
  have near : (magnitude (.finite s m e pos) : ℤ) < beyond := Int.ofNat_lt.2 (magnitude_lt fits)
  rw [unitsOf_finite]
  generalize magnitude (.finite s m e pos) = M at near
  cases s
  · exact ⟨show -(beyond : ℤ) < -(M : ℤ) by omega, show -(M : ℤ) < beyond by omega⟩
  · exact ⟨show -(beyond : ℤ) < (M : ℤ) by omega, near⟩

theorem unitsOf_negative {m : ℕ} {e : ℤ} {pos : 0 < m} :
    unitsOf (.finite .negative m e pos) < 0 :=
  Int.neg_neg_of_pos (Int.natCast_pos.2 magnitude_pos)

theorem unitsOf_positive {m : ℕ} {e : ℤ} {pos : 0 < m} :
    0 < unitsOf (.finite .positive m e pos) := Int.natCast_pos.2 magnitude_pos

/-- **The order of numbers is that of their units**; what is not a number is out of order. -/
theorem compare_unitsOf {u v : UnpackedFloat} (fits : Fits u) (fits' : Fits v)
    (number : u ≠ .notANumber) (number' : v ≠ .notANumber) :
    u.compare v = some (compare (unitsOf u) (unitsOf v)) := by
  have far : (0 : ℤ) < beyond := Int.natCast_pos.2 beyond_pos
  have wide : -(beyond : ℤ) < beyond := by omega
  have below : -(beyond : ℤ) < 0 := by omega
  cases u with
  | notANumber => exact absurd rfl number
  | infinity s =>
    rw [unitsOf_infinity]
    cases v with
    | notANumber => exact absurd rfl number'
    | infinity t =>
      rw [unitsOf_infinity]
      cases s <;> cases t
      · exact some_compare_of_eq rfl
      · exact some_compare_of_lt wide
      · exact some_compare_of_gt wide
      · exact some_compare_of_eq rfl
    | zero t =>
      rw [unitsOf_zero]
      cases s
      · exact some_compare_of_lt below
      · exact some_compare_of_gt far
    | finite t n f pos =>
      obtain ⟨above, beneath⟩ := unitsOf_finite_between fits'
      cases s
      · exact some_compare_of_lt above
      · exact some_compare_of_gt beneath
  | zero s =>
    rw [unitsOf_zero]
    cases v with
    | notANumber => exact absurd rfl number'
    | infinity t =>
      rw [unitsOf_infinity]
      cases t
      · exact some_compare_of_gt below
      · exact some_compare_of_lt far
    | zero t => exact some_compare_of_eq (unitsOf_zero t).symm
    | finite t n f pos =>
      cases t
      · exact some_compare_of_gt unitsOf_negative
      · exact some_compare_of_lt unitsOf_positive
  | finite s m e pos =>
    cases v with
    | notANumber => exact absurd rfl number'
    | infinity t =>
      obtain ⟨above, beneath⟩ := unitsOf_finite_between fits
      rw [unitsOf_infinity]
      cases t
      · exact some_compare_of_gt above
      · exact some_compare_of_lt beneath
    | zero t =>
      rw [unitsOf_zero]
      cases s
      · exact some_compare_of_lt unitsOf_negative
      · exact some_compare_of_gt unitsOf_positive
    | finite t n f pos' => exact compare_finite fits fits'

end StagedEvents.Double
