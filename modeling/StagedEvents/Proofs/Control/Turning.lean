import StagedEvents.Proofs.Control.Touch
import StagedEvents.Proofs.Double.Whole

/-!
# Dials that are turned to doubles

A knob and a rate show what they are turned to. A threshold has a whole limit, and shows the double
nearest to it. It shows a whole number again when it is turned to one, and a greater number when it
is turned to a greater one.

* `Settled`: the limits that a threshold is turned to.
* `value_turn_mono`: a dial that is turned further shows no less.
* `limitOf_ofInt`: a threshold that is turned to what it shows stays as it is.
-/

namespace StagedEvents.Dial

open Double

/-! ## Limits -/

/-- A limit that a threshold has when it is turned to a double. -/
structure Settled (t : ℤ) : Prop where
  least : lowestLimit ≤ t
  greatest : t ≤ highestLimit
  grid : t = highestLimit ∨ OnGrid (t.natAbs * one)

/-- The limit of a threshold that is turned to a double. -/
def limitOf (x : Float) : ℤ := Quantity.roundInto lowestLimit highestLimit x

/-- The whole number that a threshold shows. The greatest limit is no double, but the next whole
    number is one. -/
def shown (t : ℤ) : ℤ := if t = highestLimit then t + 1 else t

variable {t t' : ℤ} {x y : Float}

theorem shown_mono (le : t ≤ t') : shown t ≤ shown t' := by
  unfold shown
  split <;> split <;> omega

theorem ofInt_highestLimit :
    IsFinite (Float.ofInt highestLimit) ∧
      units (Float.ofInt highestLimit) = shown highestLimit * one := by
  have unpacked : (Float.ofInt highestLimit).toModel.unpack =
      .finite .positive (2 ^ 52) 11 (by decide) := rfl
  have scale : 52 + ((11 : ℤ) + 1074).toNat = 63 + places := by
    rw [places_eq]
    rfl
  have magnitude : magnitude (.finite .positive (2 ^ 52) 11 (by decide)) = 2 ^ 63 * one := by
    show 2 ^ 52 * 2 ^ ((11 : ℤ) + 1074).toNat = 2 ^ 63 * 2 ^ places
    rw [← Nat.pow_add, ← Nat.pow_add, scale]
  have exact : units (Float.ofInt highestLimit) = (2 ^ 63 * one : ℕ) := by
    unfold units
    rw [unpacked, unitsOf_finite, magnitude]
    rfl
  refine ⟨⟨?_, ?_⟩, exact⟩
  · unfold IsNumber
    rw [unpacked]
    rintro ⟨⟩
  · rw [exact, Int.natAbs_natCast]
    exact lt_beyond (by decide)

/-- A threshold shows its limit. -/
theorem units_ofInt (settled : Settled t) :
    IsFinite (Float.ofInt t) ∧ units (Float.ofInt t) = shown t * one := by
  obtain ⟨least, greatest, grid⟩ := settled
  by_cases top : t = highestLimit
  · rw [top]
    exact ofInt_highestLimit
  · obtain ⟨number, close⟩ := ofInt_close t
    have grid : OnGrid (t * one).natAbs := by
      rw [Int.natAbs_mul, Int.natAbs_natCast]
      exact grid.resolve_left top
    have exact : units (Float.ofInt t) = t * one :=
      close.eq_of_onGrid grid (Int.mul_one _).symm
    refine ⟨⟨number, ?_⟩, ?_⟩
    · rw [exact, Int.natAbs_mul, Int.natAbs_natCast]
      unfold lowestLimit at least
      unfold highestLimit at greatest
      exact lt_beyond (by omega)
    · rw [exact]
      unfold shown
      rw [if_neg top]

/-- A threshold with a positive limit shows one or more. -/
theorem one_le_units_ofInt (settled : Settled t) (positive : 1 ≤ t) :
    one ≤ units (Float.ofInt t) := by
  have shows : 1 ≤ shown t := by
    unfold shown
    split <;> omega
  have le := Int.mul_le_mul_of_nonneg_right shows (Int.natCast_nonneg one)
  rw [Int.one_mul] at le
  rw [(units_ofInt settled).2]
  exact le

theorem settled_limitOf (finite : IsFinite x) : Settled (limitOf x) := by
  have grid : OnGrid ((nearest (units x)).natAbs * one) := by
    have natAbs : (nearest (units x)).natAbs = nearestNat (units x).natAbs := by
      unfold nearest
      split
      · exact (Int.natAbs_neg _).trans (Int.natAbs_natCast _)
      · exact Int.natAbs_natCast _
    rw [natAbs]
    exact onGrid_nearestNat (onGrid_units x)
  have low : OnGrid (lowestLimit.natAbs * one) := by
    refine ⟨Nat.le_of_lt (lt_beyond (by decide)), 1, 63 + places, by decide, ?_⟩
    rw [Nat.pow_add, Nat.one_mul]
    rfl
  unfold limitOf
  rw [roundInto_eq finite]
  generalize nearest (units x) = n at grid
  unfold clampInt
  have between : lowestLimit ≤ highestLimit := by decide
  refine ⟨le_max_left _ _, max_le between (min_le_left _ _), ?_⟩
  rcases Int.lt_or_le n lowestLimit with below | above
  · right
    rw [max_eq_left (by omega)]
    exact low
  · rw [max_eq_right (by omega)]
    rcases Int.lt_or_le highestLimit n with beyond | within
    · exact .inl (min_eq_left (by omega))
    · rw [min_eq_right within]
      exact .inr grid

theorem limitOf_mono (hx : IsFinite x) (hy : IsFinite y) (le : x ≤ y) :
    limitOf x ≤ limitOf y := by
  rw [le_iff hx.1 hy.1] at le
  unfold limitOf
  rw [roundInto_eq hx, roundInto_eq hy]
  have := nearest_mono le
  unfold clampInt
  omega

/-- A threshold that is turned to a half or more holds events back. -/
theorem one_le_limitOf (finite : IsFinite x) (half : one ≤ 2 * units x) : 1 ≤ limitOf x := by
  have pos := one_pos
  have up : nearest (units x) = nearestNat (units x).natAbs := if_neg (by omega)
  have near : 1 ≤ nearestNat (units x).natAbs := by
    refine (Nat.le_div_iff_mul_le (by omega)).2 ?_
    omega
  unfold limitOf
  rw [roundInto_eq finite, up]
  unfold clampInt highestLimit
  omega

/-- A threshold that is turned to what it shows stays as it is. -/
theorem limitOf_ofInt (settled : Settled t) : limitOf (Float.ofInt t) = t := by
  obtain ⟨finite, exact⟩ := units_ofInt settled
  obtain ⟨least, greatest, -⟩ := settled
  unfold limitOf
  rw [roundInto_eq finite, exact, nearest_whole]
  unfold clampInt shown
  split <;> omega

/-! ## Dials -/

/-- A dial that is turned to a finite double shows one. -/
theorem isFinite_value_turn (d : Dial Float) (hx : IsFinite x) : IsFinite (d.turn x).value := by
  cases d with
  | threshold limit => exact (units_ofInt (settled_limitOf hx)).1
  | rate bucket => exact hx
  | knob value => exact hx

/-- **A dial that is turned further shows no less.** -/
theorem value_turn_mono (d : Dial Float) (hx : IsFinite x) (hy : IsFinite y) (le : x ≤ y) :
    (d.turn x).value ≤ (d.turn y).value := by
  cases d with
  | threshold limit =>
    obtain ⟨finite, exact⟩ := units_ofInt (settled_limitOf hx)
    obtain ⟨finite', exact'⟩ := units_ofInt (settled_limitOf hy)
    show Float.ofInt (limitOf x) ≤ Float.ofInt (limitOf y)
    rw [le_iff finite.1 finite'.1, exact, exact']
    exact Int.mul_le_mul_of_nonneg_right (shown_mono (limitOf_mono hx hy le))
      (Int.natCast_nonneg one)
  | rate bucket => exact le
  | knob value => exact le

/-- A dial that is no threshold shows what it is turned to. -/
theorem value_turn_of_free {d : Dial Float} (free : ∀ limit, d ≠ .threshold limit) (x : Float) :
    (d.turn x).value = x := by
  cases d with
  | threshold limit => exact absurd rfl (free limit)
  | rate bucket => rfl
  | knob value => rfl

/-- The dial shows the double when it is turned to it. -/
def Holds (d : Dial Float) (x : Float) : Prop := Quantity.same (d.turn x).value x = true

instance (d : Dial Float) (x : Float) : Decidable (d.Holds x) :=
  inferInstanceAs (Decidable (_ = true))

theorem holds_iff {d : Dial Float} (hx : IsFinite x) :
    d.Holds x ↔ units (d.turn x).value = units x := by
  have shows := d.isFinite_value_turn hx
  unfold Holds Quantity.same
  rw [Bool.and_eq_true, decide_eq_true_iff, decide_eq_true_iff, le_iff shows.1 hx.1,
    le_iff hx.1 shows.1]
  exact (Int.le_antisymm_iff).symm

theorem holds_of_free {d : Dial Float} (free : ∀ limit, d ≠ .threshold limit) (hx : IsFinite x) :
    d.Holds x := by
  rw [holds_iff hx, value_turn_of_free free]

end StagedEvents.Dial
