import StagedEvents.Proofs.Double.Whole
import StagedEvents.Span

/-!
# Doubles and spans of time

A span as a double, a weighted mean of such doubles, and a double as a span again. As long as the
weight of the earlier value is well below one, all of them stay below a bound, however often they
are rounded, so that the mean is always the double of some span. What is no number stays none.

* `UpTo`: doubles from zero to a whole number.
* `Weight`, `Weight.mean`: a weighted mean stays below the bound.
* `upTo_seconds`, `ofSeconds?_of_upTo`: from spans and to spans.
* `add_notNumber`, `mul_notNumber`, `div_notNumber`: operations on what is no number.
-/

namespace StagedEvents.Double

open Float.Model Float.Model.UnpackedFloat

/-- The double is a number, not below zero and not above `n`. -/
structure UpTo (x : Float) (n : ℕ) : Prop where
  number : IsNumber x
  natural : 0 ≤ units x
  le : units x ≤ (n * one : ℕ)

variable {x y : Float} {n m k : ℕ}

theorem UpTo.finite (hx : UpTo x n) (short : n ≤ 2 ^ 64) : IsFinite x := by
  obtain ⟨number, natural, le⟩ := hx
  have := lt_beyond short
  exact ⟨number, by omega⟩

theorem onGrid_zero : OnGrid 0 := ⟨Nat.zero_le _, 0, 0, by decide, rfl⟩

theorem UpTo.mono (hx : UpTo x n) (le : n ≤ m) : UpTo x m where
  number := hx.number
  natural := hx.natural
  le := Int.le_trans hx.le (by exact_mod_cast Nat.mul_le_mul_right one le)

/-- A whole number with a short significand is a double. -/
theorem onGrid_shifted {a j : ℕ} (small : a < 2 ^ 53) (short : a * 2 ^ j ≤ 2 ^ 64) :
    OnGrid (a * 2 ^ j * one) := by
  refine ⟨Nat.le_of_lt (lt_beyond short), a, j + places, small, ?_⟩
  unfold one
  rw [Nat.mul_assoc, ← Nat.pow_add]

/-- What is next to an exact result is below a double that the result is below. -/
theorem upTo_of_close {a : ℤ} {d : ℕ} (number : IsNumber x) (close : Close a d (units x))
    (natural : 0 ≤ a) (grid : OnGrid (k * one)) (le : a ≤ (k * one : ℕ) * d) : UpTo x k where
  number := number
  natural := (close 0 onGrid_zero).1 (by rwa [Int.zero_mul])
  le := (close (k * one : ℕ) (by rwa [Int.natAbs_natCast])).2 le

theorem upTo_ofNat (grid : OnGrid (k * one)) (le : n ≤ k) : UpTo (Float.ofNat n) k := by
  obtain ⟨number, close⟩ := ofNat_close n
  refine upTo_of_close number close (by positivity) grid ?_
  rw [Int.natCast_one, Int.mul_one]
  exact_mod_cast Nat.mul_le_mul_right one le

theorem UpTo.add (hx : UpTo x n) (hy : UpTo y m) (grid : OnGrid (k * one)) (short : k ≤ 2 ^ 64)
    (le : n + m ≤ k) : UpTo (x + y) k := by
  obtain ⟨number, close⟩ := add_close (hx.finite (by omega)) (hy.finite (by omega))
  have natural := Int.add_nonneg hx.natural hy.natural
  refine upTo_of_close number close natural grid ?_
  have sum : n * one + m * one ≤ k * one := by
    rw [← Nat.add_mul]
    exact Nat.mul_le_mul_right one le
  have := hx.le
  have := hy.le
  rw [Int.natCast_one, Int.mul_one]
  omega

theorem UpTo.mul (hx : UpTo x n) (hy : UpTo y m) (short : n ≤ 2 ^ 64) (short' : m ≤ 2 ^ 64)
    (grid : OnGrid (k * one)) (le : n * m ≤ k) : UpTo (x * y) k := by
  obtain ⟨number, close⟩ := mul_close (hx.finite short) (hy.finite short')
  refine upTo_of_close number close (Int.mul_nonneg hx.natural hy.natural) grid ?_
  calc units x * units y ≤ (n * one : ℕ) * (m * one : ℕ) :=
        mul_le_mul hx.le hy.le hy.natural (Int.natCast_nonneg _)
    _ = (n * m * one * one : ℕ) := by push_cast; ring
    _ ≤ (k * one * one : ℕ) := by
        exact_mod_cast Nat.mul_le_mul_right one (Nat.mul_le_mul_right one le)
    _ = (k * one : ℕ) * (one : ℕ) := Nat.cast_mul ..

theorem UpTo.div (hx : UpTo x n) (short : n ≤ 2 ^ 64) (hy : IsFinite y)
    (expands : one ≤ units y) : UpTo (x / y) n := by
  have pos := one_pos
  have finite := hx.finite short
  refine ⟨(div_close finite hy (by omega)).1, ?_, ?_⟩
  · refine le_units_div finite hy (by omega) onGrid_zero ?_
    rw [Int.natCast_zero, Int.zero_mul]
    exact Int.mul_nonneg hx.natural (Int.natCast_nonneg one)
  · exact Int.le_trans (units_div_le finite hy hx.natural expands) hx.le

/-! ## Differences -/

/-- To subtract is to add the negative. -/
theorem sub_eq_add (format : Format) (u v : UnpackedFloat) :
    UnpackedFloat.sub format u v = UnpackedFloat.add format u v.neg := by
  cases u with
  | notANumber => rfl
  | infinity s => cases v <;> rfl
  | zero s => cases v <;> rfl
  | finite s m e pos =>
    cases v with
    | notANumber => rfl
    | infinity t => rfl
    | zero t => rfl
    | finite t k f pos' =>
      show normalize format (s.apply _ - t.apply _) _ _ =
        normalize format (s.apply _ + (-t).apply _) _ _
      rw [apply_neg, Int.sub_eq_add_neg]

/-- The difference of finite doubles. -/
theorem sub_close (hx : IsFinite x) (hy : IsFinite y) :
    IsNumber (x - y) ∧ Close (units x - units y) 1 (units (x - y)) := by
  obtain ⟨number, opposite⟩ := units_neg hy.1
  have finite : IsFinite y.neg := ⟨number, by
    rw [opposite, Int.natAbs_neg]
    exact hy.2⟩
  have same : (x - y).toModel = (x + y.neg).toModel := by
    show pack (UnpackedFloat.sub _ _ _) = pack (UnpackedFloat.add _ _ _)
    rw [sub_eq_add, unpack_neg]
  have close := add_close hx finite
  unfold IsNumber units at *
  rw [opposite, ← same] at close
  exact close

/-! ## A weighted mean -/

theorem isFinite_thousand :
    IsFinite (1000.0 : Float) ∧ units (1000.0 : Float) = (1000 * one : ℕ) :=
  units_of_shifted (k := 43) rfl (by decide) (by decide)

theorem isFinite_billion :
    IsFinite (1000000000.0 : Float) ∧ units (1000000000.0 : Float) = (1000000000 * one : ℕ) :=
  units_of_shifted (k := 23) rfl (by decide) (by decide)

/-- A weight that is well below one. -/
structure Weight (w : Float) : Prop where
  number : IsNumber w
  natural : 0 ≤ units w
  le : 1024 * units w ≤ 1023 * (one : ℕ)

variable {w : Float}

theorem Weight.finite (hw : Weight w) : IsFinite w := by
  obtain ⟨number, natural, le⟩ := hw
  have := lt_beyond (Nat.one_le_two_pow (n := 64))
  exact ⟨number, by omega⟩

/-- The greatest weight that there is. -/
theorem units_greatestWeight :
    IsFinite (0.999 : Float) ∧ 1024 * units (0.999 : Float) ≤ 1023 * (one : ℕ) := by
  refine ⟨by decide +kernel, ?_⟩
  have unpacked : (0.999 : Float).toModel.unpack =
      .finite .positive 8998192055486251 (-53) (by decide) := by rfl
  have scale : places = 53 + ((-53 : ℤ) + 1074).toNat := by
    rw [places_eq]
    rfl
  unfold units one
  rw [unpacked, unitsOf_finite, magnitude_finite, scale, Nat.pow_add]
  generalize ((-53 : ℤ) + 1074).toNat = shift
  show 1024 * ((8998192055486251 * 2 ^ shift : ℕ) : ℤ) ≤ _
  generalize 2 ^ shift = scale
  omega

/-- A number that is moved between zero and the greatest weight is a weight. -/
theorem weight_clamp {x : Float} (number : IsNumber x) :
    Weight ((Quantity.clamp? 0.0 0.999 x).getD x) := by
  have zero := isFinite_zero.1
  obtain ⟨greatest, le⟩ := units_greatestWeight
  obtain ⟨v, clamped, finite, above, below, -⟩ :=
    clamp?_cases zero greatest (by decide +kernel) number
  rw [le_iff zero.1 finite.1] at above
  rw [le_iff finite.1 greatest.1] at below
  rw [isFinite_zero.2] at above
  rw [clamped, Option.getD_some]
  exact ⟨finite.1, above, by omega⟩

/-- Two parts of a mean: the earlier value has the weight, the next one the rest. -/
theorem Weight.mean (hw : Weight w) (hx : UpTo x (2 ^ 56)) (hy : UpTo y (2 ^ 46)) :
    UpTo (w * x + (1.0 - w) * y) (2 ^ 56) := by
  have earlier : UpTo (w * x) (1023 * 2 ^ 46) := by
    obtain ⟨number, close⟩ := mul_close hw.finite (hx.finite (by decide))
    have grid : OnGrid (1023 * 2 ^ 46 * one) := onGrid_shifted (by decide) (by decide)
    refine upTo_of_close number close (Int.mul_nonneg hw.natural hx.natural) grid ?_
    refine Int.le_of_mul_le_mul_left ?_ (show (0 : ℤ) < 1024 by decide)
    calc 1024 * (units w * units x) = 1024 * units w * units x := (Int.mul_assoc ..).symm
      _ ≤ 1023 * (one : ℕ) * (2 ^ 56 * one : ℕ) :=
        mul_le_mul hw.le hx.le hx.natural (by positivity)
      _ = 1024 * ((1023 * 2 ^ 46 * one : ℕ) * (one : ℕ)) := by push_cast; ring
  have rest : UpTo (1.0 - w) 1 := by
    obtain ⟨finite, exact⟩ := isFinite_one
    obtain ⟨number, close⟩ := sub_close finite hw.finite
    have := hw.natural
    have := hw.le
    rw [exact] at close
    refine upTo_of_close number close (by omega) (onGrid_whole (by decide)) ?_
    rw [Int.natCast_one, Int.mul_one]
    omega
  have later : UpTo ((1.0 - w) * y) (2 ^ 46) :=
    rest.mul hy (by decide) (by decide) (onGrid_whole (by decide)) (by decide)
  have grid : OnGrid (2 ^ 56 * one) := by
    rw [← Nat.one_mul (2 ^ 56)]
    exact onGrid_shifted (by decide) (by decide)
  exact earlier.add later grid (by decide) (by decide)

/-! ## Spans -/

/-- A span that a machine word of nanoseconds holds, in seconds. -/
theorem upTo_seconds {s : Span} (short : s.nanos < UInt64.size) : UpTo s.seconds (2 ^ 36) := by
  have short : s.nanos < 2 ^ 64 := short
  have whole : UpTo (Float.ofNat (s.nanos / 1000000000)) (2 ^ 35) :=
    upTo_ofNat (onGrid_whole (by decide)) (by omega)
  have rest : UpTo (Float.ofNat (s.nanos % 1000000000)) (2 ^ 30) :=
    upTo_ofNat (onGrid_whole (by decide)) (by omega)
  obtain ⟨finite, exact⟩ := isFinite_billion
  have part : UpTo (Float.ofNat (s.nanos % 1000000000) / 1000000000.0) (2 ^ 30) :=
    rest.div (by decide) finite (by omega)
  exact whole.add part (onGrid_whole (by decide)) (by decide) (by decide)


/-- The same span in milliseconds. -/
theorem upTo_millis {s : Span} (short : s.nanos < UInt64.size) :
    UpTo (s.seconds * 1000.0) (2 ^ 46) := by
  obtain ⟨finite, exact⟩ := isFinite_thousand
  have thousand : UpTo 1000.0 1000 := ⟨finite.1, by omega, by omega⟩
  exact (upTo_seconds short).mul thousand (by decide) (by decide) (onGrid_whole (by decide))
    (by decide)

theorem divHalfEven_le (n d : ℕ) : divHalfEven n d ≤ n / d + 1 := by
  unfold divHalfEven
  dsimp only
  split
  · exact Nat.le_succ _
  · split
    · exact Nat.le_refl _
    · split
      · exact Nat.le_succ _
      · exact Nat.le_refl _

theorem divHalfEven_zero {d : ℕ} (pos : 0 < d) : divHalfEven 0 d = 0 := by
  unfold divHalfEven
  rw [Nat.zero_div, Nat.zero_mod]
  exact if_pos pos

/-- A double taken apart, up to `2 ^ 56` seconds, has a span next to it. -/
theorem ofSeconds?_of_finite {negative : Bool} {m : ℕ} {e : ℤ}
    (stands : Binary64.ofFloat x = .finite negative m e) (least : -1074 ≤ e)
    (natural : negative = true → m = 0) (le : m * 2 ^ (e + 1074).toNat ≤ 2 ^ 56 * one) :
    ∃ s, Span.ofSeconds? x = some s := by
  obtain ⟨pos, same⟩ := fraction_mul_one m least
  unfold Span.ofSeconds?
  rw [stands]
  dsimp only
  revert pos same
  generalize (Binary64.fraction m e).1 = n, (Binary64.fraction m e).2 = d
  intro pos same
  have few : n ≤ 2 ^ 56 * d := by
    refine Nat.le_of_mul_le_mul_right ?_ one_pos
    calc n * one = m * 2 ^ (e + 1074).toNat * d := same
      _ ≤ 2 ^ 56 * one * d := Nat.mul_le_mul_right d le
      _ = 2 ^ 56 * d * one := Nat.mul_right_comm ..
  have below : divHalfEven (n * 1000000000) d < UInt64.size * 1000000000 := by
    have size : UInt64.size = 2 ^ 64 := rfl
    have whole : n * 1000000000 / d ≤ 2 ^ 56 * 1000000000 := by
      refine Nat.div_le_of_le_mul ?_
      calc n * 1000000000 ≤ 2 ^ 56 * d * 1000000000 := Nat.mul_le_mul_right _ few
        _ = d * (2 ^ 56 * 1000000000) := by ring
    have := divHalfEven_le (n * 1000000000) d
    omega
  have nothing : ¬(negative = true ∧ divHalfEven (n * 1000000000) d ≠ 0) := by
    rintro ⟨sign, some⟩
    have : n = 0 := by
      rw [natural sign, Nat.zero_mul, Nat.zero_mul] at same
      exact (Nat.mul_eq_zero.1 same).resolve_right (Nat.ne_of_gt one_pos)
    rw [this, Nat.zero_mul] at some
    exact some (divHalfEven_zero pos)
  rw [if_neg nothing, if_neg (Nat.not_le.2 below)]
  exact ⟨_, rfl⟩

theorem ofSeconds?_of_upTo (hx : UpTo x (2 ^ 56)) : ∃ s, Span.ofSeconds? x = some s := by
  have fits := fits_unpack x.toModel
  have stands := ofFloat_eq x
  rcases (hx.finite (by decide)).cases with ⟨s, unpacked⟩ | ⟨s, m, e, pos, unpacked⟩
  · rw [unpacked] at stands
    refine ofSeconds?_of_finite stands (Int.le_refl _) (fun _ => rfl) ?_
    rw [Nat.zero_mul]
    exact Nat.zero_le _
  · obtain ⟨-, natural, le⟩ := hx
    unfold units at natural le
    rw [unpacked] at stands fits natural le
    cases s with
    | negative =>
      have below := @unitsOf_negative m e pos
      omega
    | positive =>
      refine ofSeconds?_of_finite stands fits.2.1 (fun none => absurd none (by decide)) ?_
      exact Int.ofNat_le.1 le

/-- What is no number is next to no span. -/
theorem ofSeconds?_of_notNumber (none : ¬IsNumber x) : Span.ofSeconds? x = .none := by
  unfold IsNumber at none
  rw [ne_eq, not_not] at none
  unfold Span.ofSeconds?
  rw [ofFloat_eq, none]
  rfl

/-! ## What is no number -/

theorem notNumber_iff : ¬IsNumber x ↔ x.toModel.unpack = .notANumber := not_not

theorem pack_notANumber : (Float.Model.pack .notANumber).unpack = .notANumber :=
  unpack_pack_of_fits True.intro

theorem add_notNumber (hx : ¬IsNumber x) (y : Float) : ¬IsNumber (x + y) := by
  rw [notNumber_iff] at *
  show (pack (UnpackedFloat.add _ _ _)).unpack = _
  rw [hx]
  exact pack_notANumber

theorem mul_notNumber (hx : ¬IsNumber x) (y : Float) : ¬IsNumber (x * y) := by
  rw [notNumber_iff] at *
  show (pack (UnpackedFloat.mul _ _ _)).unpack = _
  rw [hx]
  exact pack_notANumber

theorem div_notNumber (hx : ¬IsNumber x) (y : Float) : ¬IsNumber (x / y) := by
  rw [notNumber_iff] at *
  show (pack (UnpackedFloat.div _ _ _)).unpack = _
  rw [hx]
  exact pack_notANumber

theorem compare_notANumber (u : UnpackedFloat) : u.compare .notANumber = none := by
  cases u <;> rfl

/-- What is no number is before nothing, and after nothing. -/
theorem compare_notNumber (none : ¬IsNumber x ∨ ¬IsNumber y) :
    x.toModel.unpack.compare y.toModel.unpack = .none := by
  rw [notNumber_iff, notNumber_iff] at none
  rcases none with none | none
  · rw [none]
    rfl
  · rw [none, compare_notANumber]

theorem not_lt_of_notNumber (none : ¬IsNumber x ∨ ¬IsNumber y) : ¬x < y := by
  rw [show x < y ↔ (x.toModel.unpack.compare y.toModel.unpack == some .lt) = true from
    decide_eq_true_iff, compare_notNumber none]
  exact Bool.false_ne_true

theorem not_le_of_notNumber (none : ¬IsNumber x ∨ ¬IsNumber y) : ¬x ≤ y := by
  rw [show x ≤ y ↔ (x.toModel.unpack.compare y.toModel.unpack).any (·.isLE) = true from
    decide_eq_true_iff, compare_notNumber none]
  exact Bool.false_ne_true

theorem isNumber_iff : IsNumber x ↔ x ≤ x := by
  constructor
  · exact fun number => (le_iff number number).2 (Int.le_refl _)
  · exact fun le => not_not.1 fun none => not_le_of_notNumber (.inl none) le

instance (x : Float) : Decidable (IsNumber x) := decidable_of_iff _ isNumber_iff.symm

end StagedEvents.Double
