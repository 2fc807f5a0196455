import StagedEvents.Proofs.Double.Unpacked
import StagedEvents.Quantity.Double

/-!
# The order of doubles

A double that is a number is known, but for the sign of zero, by its units of `2 ^ -1074`. The
order of doubles is the order of these whole numbers.

* `units`, `IsNumber`, `IsFinite`: what a double stands for.
* `le_iff`, `lt_iff`: the order.
* `clamp?_cases`: what moving a double between two bounds does.
-/

namespace StagedEvents.Double

open Float.Model.UnpackedFloat

/-- The value in units of `2 ^ -1074`. -/
def units (x : Float) : ℤ := unitsOf x.toModel.unpack

/-- Whether the double is a number, which may be an infinity. -/
def IsNumber (x : Float) : Prop := x.toModel.unpack ≠ .notANumber

/-- Whether the double is a number and no infinity. -/
def IsFinite (x : Float) : Prop := IsNumber x ∧ (units x).natAbs < beyond

variable {x y z : Float}

theorem natAbs_unitsOf (u : Float.Model.UnpackedFloat) : (unitsOf u).natAbs = magnitude u := by
  unfold unitsOf
  cases sign u
  · exact (Int.natAbs_neg _).trans (Int.natAbs_natCast _)
  · exact Int.natAbs_natCast _

theorem onGrid_units (x : Float) : OnGrid (units x).natAbs := by
  unfold units
  rw [natAbs_unitsOf]
  exact (fits_unpack x.toModel).onGrid

/-- A finite double taken apart. -/
theorem IsFinite.cases (h : IsFinite x) : (∃ s, x.toModel.unpack = .zero s) ∨
    ∃ s m e pos, x.toModel.unpack = .finite s m e pos := by
  obtain ⟨number, near⟩ := h
  unfold IsNumber at number
  unfold units at near
  generalize x.toModel.unpack = u at number near ⊢
  cases u with
  | notANumber => exact absurd rfl number
  | infinity s =>
    rw [natAbs_unitsOf] at near
    exact absurd near (Nat.lt_irrefl _)
  | zero s => exact .inl ⟨s, rfl⟩
  | finite s m e pos => exact .inr ⟨s, m, e, pos, rfl⟩

theorem isFinite_iff : IsFinite x ↔ x.isFinite = true := by
  show _ ↔ x.toModel.unpack.isFinite = true
  constructor
  · intro finite
    rcases finite.cases with ⟨s, eq⟩ | ⟨s, m, e, pos, eq⟩ <;> rw [eq] <;> rfl
  · intro finite
    have fits := fits_unpack x.toModel
    unfold IsFinite IsNumber units
    rw [natAbs_unitsOf]
    cases eq : x.toModel.unpack with
    | notANumber =>
      rw [eq] at finite
      exact absurd finite (by decide)
    | infinity s =>
      rw [eq] at finite
      exact absurd finite Bool.false_ne_true
    | zero s => exact ⟨by rintro ⟨⟩, beyond_pos⟩
    | finite s m e pos =>
      rw [eq] at fits
      exact ⟨by rintro ⟨⟩, magnitude_lt fits⟩

instance (x : Float) : Decidable (IsFinite x) := decidable_of_iff _ isFinite_iff.symm

theorem compare_units (hx : IsNumber x) (hy : IsNumber y) :
    x.toModel.unpack.compare y.toModel.unpack = some (compare (units x) (units y)) :=
  compare_unitsOf (fits_unpack x.toModel) (fits_unpack y.toModel) hx hy

theorem lt_iff (hx : IsNumber x) (hy : IsNumber y) : x < y ↔ units x < units y := by
  rw [show x < y ↔ (x.toModel.unpack.compare y.toModel.unpack == some .lt) = true from
    decide_eq_true_iff, compare_units hx hy, ← compare_lt_iff_lt]
  generalize compare (units x) (units y) = order
  cases order <;> decide

theorem le_iff (hx : IsNumber x) (hy : IsNumber y) : x ≤ y ↔ units x ≤ units y := by
  rw [show x ≤ y ↔ (x.toModel.unpack.compare y.toModel.unpack).any (·.isLE) = true from
    decide_eq_true_iff, compare_units hx hy, ← Int.not_lt, ← compare_gt_iff_gt]
  generalize compare (units x) (units y) = order
  cases order <;> decide

theorem le_of_not_lt (hx : IsNumber x) (hy : IsNumber y) (h : ¬x < y) : y ≤ x := by
  rw [le_iff hy hx]
  rw [lt_iff hx hy] at h
  exact Int.not_lt.mp h

theorem le_of_lt (hx : IsNumber x) (hy : IsNumber y) (h : x < y) : x ≤ y := by
  rw [le_iff hx hy]
  exact Int.le_of_lt ((lt_iff hx hy).1 h)

/-- What is between finite numbers is finite. -/
theorem isFinite_of_between (hx : IsFinite x) (hz : IsFinite z) (hy : IsNumber y) (le : x ≤ y)
    (le' : y ≤ z) : IsFinite y := by
  rw [le_iff hx.1 hy] at le
  rw [le_iff hy hz.1] at le'
  have near := hx.2
  have near' := hz.2
  exact ⟨hy, by omega⟩

/-- **A number moved between two bounds** is where it was, or at the bound that it was beyond. -/
theorem clamp?_cases {lo hi : Float} (least : IsFinite lo) (greatest : IsFinite hi)
    (ordered : lo ≤ hi) (hx : IsNumber x) :
    ∃ v, Quantity.clamp? lo hi x = some v ∧ IsFinite v ∧ lo ≤ v ∧ v ≤ hi ∧
      (v = x ∨ v = lo ∧ x ≤ lo ∨ v = hi ∧ hi ≤ x) := by
  have self {y : Float} (hy : IsFinite y) : y ≤ y := (le_iff hy.1 hy.1).2 (Int.le_refl _)
  unfold Quantity.clamp?
  rw [if_pos ordered]
  refine ⟨_, rfl, ?_⟩
  split
  · rename_i below
    exact ⟨least, self least, ordered, .inr (.inl ⟨rfl, le_of_lt hx least.1 below⟩)⟩
  · rename_i notBelow
    have above := le_of_not_lt hx least.1 notBelow
    split
    · rename_i beyond
      exact ⟨greatest, ordered, self greatest, .inr (.inr ⟨rfl, le_of_lt greatest.1 hx beyond⟩)⟩
    · rename_i notBeyond
      have within := le_of_not_lt greatest.1 hx notBeyond
      exact ⟨isFinite_of_between least greatest hx above within, above, within, .inl rfl⟩

end StagedEvents.Double
