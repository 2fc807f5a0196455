import StagedEvents.Proofs.Double.Nearest
import StagedEvents.Stats.Window
import Mathlib.Data.List.Sort

/-!
# Percentiles of the latest values

A window that values are recorded into, one after the other, holds the latest of them. Sorted, the
values up to a bound come first, so a percentile is up to a bound if enough of the held values are.
How many are enough depends on their number and on the percentile alone.

* `Window.recorded?_of_le`, `Window.recorded?_of_lt`: what is held.
* `getElem_le_iff`, `Window.percentile_le_iff`: sorted values, and a percentile of them.
* `HasRank`, `Window.hasRank_percentile`: the value of a rank.
* `Window.percentile_perm`, `Window.percentile_raised`: other values, and another order.
* `Window.rank`, `Window.place_eq`, `Window.rank_mono`: the rank of a percentile, in doubles.
* `Window.recorded_percentile`: the result.
-/

namespace StagedEvents

/-! ## Sorted values -/

/-- The values up to a bound come first. -/
theorem getElem_le_iff {values : List ℕ} (sorted : values.Pairwise (· ≤ ·)) {i : ℕ}
    (inside : i < values.length) (bound : ℕ) :
    values[i] ≤ bound ↔ i < values.countP (· ≤ bound) := by
  induction values generalizing i with
  | nil => exact absurd inside (Nat.not_lt_zero i)
  | cons first rest ih =>
    obtain ⟨least, sorted⟩ := List.pairwise_cons.1 sorted
    rw [List.countP_cons]
    by_cases up : first ≤ bound
    · rw [if_pos (decide_eq_true up)]
      cases i with
      | zero => exact iff_of_true up (Nat.succ_pos _)
      | succ i =>
        rw [List.getElem_cons_succ, ih sorted (Nat.lt_of_succ_lt_succ inside), Nat.succ_lt_succ_iff]
    · -- nothing is below the first, and that is beyond the bound
      have none : rest.countP (· ≤ bound) = 0 := by
        refine List.countP_eq_zero.2 fun value later le => up ?_
        exact Nat.le_trans (least value later) (of_decide_eq_true le)
      rw [none, if_neg (by simpa using up)]
      refine iff_of_false (fun le => up ?_) (Nat.not_lt_zero i)
      rcases List.mem_cons.1 (List.getElem_mem inside) with same | later
      · exact same ▸ le
      · exact Nat.le_trans (least _ later) le

/-- Among these values, `x` is the one of the rank `k`: at least `k` of them are up to it, and at
    least as many as are left with the `k`-th are not below it. -/
structure HasRank (values : List ℕ) (k x : ℕ) : Prop where
  held : x ∈ values
  below : k ≤ values.countP (· ≤ x)
  above : values.length - k + 1 ≤ values.countP (x ≤ ·)

/-- Where values are raised, no more of them are up to a bound. -/
theorem countP_le_of_forall₂ {values raised : List ℕ} (le : List.Forall₂ (· ≤ ·) values raised)
    (bound : ℕ) : raised.countP (· ≤ bound) ≤ values.countP (· ≤ bound) := by
  induction le with
  | nil => exact Nat.le_refl _
  | @cons value value' _ _ le _ ih =>
    rw [List.countP_cons, List.countP_cons]
    refine Nat.add_le_add ih ?_
    by_cases up : value' ≤ bound
    · rw [if_pos (decide_eq_true up), if_pos (decide_eq_true (Nat.le_trans le up))]
    · rw [if_neg (by simpa using up)]
      exact Nat.zero_le _

namespace Window

/-! ## The values that are held -/

/-- A new window of the size that is asked for, with values recorded one after the other. -/
def recorded? (size : ℕ) (values : List ℕ) : Except Fault Window :=
  (new? size).map fun w => values.foldl (fun w nanos => w.record nanos) w

theorem foldl_record (values : List ℕ) (w : Window) :
    values.foldl (fun w nanos => w.record nanos) w = w.recordAll values := by
  induction values generalizing w with
  | nil => exact (recordAll_nil w).symm
  | cons nanos values ih => exact (ih (w.record nanos)).trans (recordAll_cons nanos values w).symm

theorem recorded?_of_lt {size : ℕ} (large : largestSize < size) (values : List ℕ) :
    recorded? size values = .error .oversizedWindow := by
  unfold recorded? new?
  rw [if_pos large]
  rfl

/-- The latest values are held, as many as there is room for. -/
theorem recorded?_of_le {size : ℕ} (le : size ≤ largestSize) (values : List ℕ) :
    ∃ w, recorded? size values = .ok w ∧ w.held <:+ values ∧
      w.count = min values.length (max 1 size) := by
  refine ⟨(empty size).recordAll values, ?_, List.drop_suffix _ _, ?_⟩
  · unfold recorded? new?
    rw [if_neg (Nat.not_lt.2 le), ← foldl_record]
    rfl
  · show (List.drop (values.length - max size 1) values).length = _
    rw [List.length_drop]
    omega

/-! ## A percentile among them -/

section

variable {α : Type} [Quantity α] {w w' : Window}

theorem sorted_perm (w : Window) : w.sorted.Perm w.held := List.mergeSort_perm _ _

theorem pairwise_sorted (w : Window) : w.sorted.Pairwise (· ≤ ·) :=
  List.pairwise_mergeSort' (· ≤ ·) w.held

theorem place_lt {count : ℕ} (pos : 0 < count) (p : α) : place count p < count := by
  unfold place
  dsimp only
  omega

theorem percentile_eq (pos : 0 < w.count) (p : α) :
    ∃ inside : place w.count p < w.sorted.length,
      (w.percentile p).nanos = w.sorted[place w.count p] := by
  have inside : place w.count p < w.sorted.length := by
    rw [(sorted_perm w).length_eq]
    exact place_lt pos p
  refine ⟨inside, ?_⟩
  show (w.sorted[place w.count p]?).getD 0 = _
  rw [List.getElem?_eq_getElem inside, Option.getD_some]

theorem percentile_of_none (none : w.count = 0) (p : α) : (w.percentile p).nanos = 0 := by
  have empty : w.sorted = [] :=
    List.eq_nil_of_length_eq_zero ((sorted_perm w).length_eq.trans none)
  unfold percentile
  rw [empty]
  rfl

/-- **A percentile is up to a bound** if enough of the held values are. -/
theorem percentile_le_iff (pos : 0 < w.count) (p : α) (bound : ℕ) :
    (w.percentile p).nanos ≤ bound ↔ place w.count p < w.held.countP (· ≤ bound) := by
  obtain ⟨inside, eq⟩ := percentile_eq pos p
  rw [eq, getElem_le_iff (pairwise_sorted w) inside, (sorted_perm w).countP_eq]

/-- A percentile is the held value of the rank after its place. -/
theorem hasRank_percentile (pos : 0 < w.count) (p : α) :
    HasRank w.held (place w.count p + 1) (w.percentile p).nanos where
  held := by
    obtain ⟨inside, eq⟩ := percentile_eq pos p
    rw [eq]
    exact (sorted_perm w).mem_iff.1 (List.getElem_mem inside)
  below := (percentile_le_iff pos p _).1 (Nat.le_refl _)
  above := by
    have inside : place w.count p < w.held.length := place_lt pos p
    have bounds := percentile_le_iff pos p
    generalize (w.percentile p).nanos = x at bounds ⊢
    generalize place w.count p = i at bounds inside ⊢
    -- the percentile is not up to any bound below `x`, so no more than `i` values are
    have few : w.held.countP (¬ x ≤ ·) ≤ i := by
      cases x with
      | zero =>
        have none : w.held.countP (¬ 0 ≤ ·) = 0 :=
          List.countP_eq_zero.2 fun _ _ less => of_decide_eq_true less (Nat.zero_le _)
        omega
      | succ x =>
        have less := mt (bounds x).2 (by omega)
        simp only [Nat.not_le, Nat.lt_succ_iff]
        omega
    have all : w.held.length = w.held.countP (x ≤ ·) + w.held.countP (¬ x ≤ ·) := by
      simpa using w.held.length_eq_countP_add_countP (x ≤ ·)
    omega

/-- The order in which the values were recorded does not count. -/
theorem percentile_perm (same : w'.held.Perm w.held) (p : α) :
    w'.percentile p = w.percentile p := by
  have count : w'.count = w.count := same.length_eq
  have sorted : w'.sorted = w.sorted :=
    (((sorted_perm w').trans same).trans (sorted_perm w).symm).eq_of_pairwise'
      (pairwise_sorted w') (pairwise_sorted w)
  unfold percentile
  rw [count, sorted]

/-- Where values are raised, no percentile is lower. -/
theorem percentile_raised (raised : List.Forall₂ (· ≤ ·) w.held w'.held) (p : α) :
    (w.percentile p).nanos ≤ (w'.percentile p).nanos := by
  have count : w.count = w'.count := raised.length_eq
  rcases Nat.eq_zero_or_pos w.count with none | pos
  · rw [percentile_of_none none]
    exact Nat.zero_le _
  · refine (percentile_le_iff pos p _).2 ?_
    rw [count]
    exact Nat.lt_of_lt_of_le ((percentile_le_iff (count ▸ pos) p _).1 (Nat.le_refl _))
      (countP_le_of_forall₂ raised _)

/-- Where the place is further, a percentile is no lower. -/
theorem percentile_le_of_place {p q : α} (le : place w.count p ≤ place w.count q) :
    (w.percentile p).nanos ≤ (w.percentile q).nanos := by
  rcases Nat.eq_zero_or_pos w.count with none | pos
  · rw [percentile_of_none none]
    exact Nat.zero_le _
  · refine (percentile_le_iff pos p _).2 (Nat.lt_of_le_of_lt le ?_)
    exact (percentile_le_iff pos q _).1 (Nat.le_refl _)

end

/-! ## The rank of a percentile -/

section

open Double

variable {p q : Float} {count : ℕ}

/-- The share of the values, which is between none and all of them. -/
def share (p : Float) : Float := if p < 0.0 then 0.0 else if 1.0 < p then 1.0 else p

/-- The rank of a percentile: the product of the number of values and their share, in doubles,
    rounded up and moved into `1 … count`. -/
def rank (count : ℕ) (p : Float) : ℕ :=
  max 1 (min count ⌈value (Float.ofInt count * share p)⌉₊)

theorem units_share (number : IsNumber p) :
    IsNumber (share p) ∧ units (share p) = max 0 (min (one : ℤ) (units p)) := by
  obtain ⟨zero, units_zero⟩ := isFinite_zero
  obtain ⟨greatest, units_one⟩ := isFinite_one
  rw [Nat.one_mul] at units_one
  have pos := Double.one_pos
  have below := lt_iff number zero.1
  have above := lt_iff greatest.1 number
  unfold share
  split
  · rename_i less
    have less := below.1 less
    exact ⟨zero.1, by omega⟩
  · rename_i natural
    have natural := mt below.2 natural
    split
    · rename_i more
      have more := above.1 more
      exact ⟨greatest.1, by omega⟩
    · rename_i within
      have within := mt above.2 within
      exact ⟨number, by omega⟩

theorem upTo_share (number : IsNumber p) : UpTo (share p) 1 := by
  obtain ⟨number, eq⟩ := units_share number
  exact ⟨number, by omega, by omega⟩

theorem onGrid_greatest : OnGrid (2 ^ 60 * one) := by
  have grid := @onGrid_shifted 1 60 (by decide) (by decide)
  rwa [Nat.one_mul] at grid

/-- The number of values, which a double may not hold exactly. -/
theorem upTo_ofInt (few : count ≤ 2 ^ 60) : UpTo (Float.ofInt count) (2 ^ 60) :=
  upTo_ofNat onGrid_greatest few

theorem upTo_product (few : count ≤ 2 ^ 60) (number : IsNumber p) :
    UpTo (Float.ofInt count * share p) (2 ^ 60) :=
  (upTo_ofInt few).mul (upTo_share number) (by decide) (by decide)
    onGrid_greatest (Nat.le_refl _)

/-- The place counts from zero, the rank from one. -/
theorem place_eq (pos : 0 < count) (few : count ≤ 2 ^ 60) (number : IsNumber p) :
    place count p + 1 = rank count p := by
  have ordered : (0.0 : Float) ≤ 1.0 := by
    rw [le_iff isFinite_zero.1.1 isFinite_one.1.1, isFinite_zero.2]
    exact isFinite_one.2 ▸ Int.natCast_nonneg _
  have clamped : Quantity.clamp? 0.0 1.0 p = some (share p) := if_pos ordered
  have finite := (upTo_product few number).finite (by decide)
  have ceiling := ceilUpTo_eq (UInt64.size - 1) finite
  unfold place rank
  rw [clamped]
  show min (Quantity.ceilUpTo _ (Float.ofInt count * share p) - 1) _ + 1 = _
  rw [ceiling]
  generalize ⌈value (Float.ofInt count * share p)⌉₊ = c
  have room : UInt64.size = 2 ^ 64 := rfl
  omega

/-- A greater percentile is no lower in rank. -/
theorem rank_mono (few : count ≤ 2 ^ 60) (number : IsNumber p) (number' : IsNumber q)
    (le : p ≤ q) : rank count p ≤ rank count q := by
  have shares : units (share p) ≤ units (share q) := by
    rw [(units_share number).2, (units_share number').2]
    have := (le_iff number number').1 le
    omega
  have products := units_mul_le_mul ((upTo_ofInt few).finite (by decide))
    ((upTo_share number).finite (by decide)) ((upTo_share number').finite (by decide))
    (upTo_ofInt few).natural (upTo_share number).natural shares
  have := Nat.ceil_mono (value_mono products)
  unfold rank
  omega

/-- **Percentiles of the latest values.** Whatever values are recorded into a new window, it holds
    the latest of them, as many as its size, which is at least one. A percentile of them is the
    held value of its rank. So it is between the least and the greatest, it is the same in whatever
    order they were recorded, and it is no lower for a greater percentile or where values are
    raised. Only a window that no memory has room for is not made. -/
theorem recorded_percentile (size : ℕ) (values : List ℕ) :
    (largestSize < size → recorded? size values = .error .oversizedWindow) ∧
    (size ≤ largestSize → ∃ w, recorded? size values = .ok w ∧ w.held <:+ values ∧
      w.count = min values.length (max 1 size) ∧
      (∀ p : Float, IsNumber p → 0 < w.count →
        HasRank w.held (rank w.count p) (w.percentile p).nanos ∧
        ∃ some : w.held ≠ [], w.held.min some ≤ (w.percentile p).nanos ∧
          (w.percentile p).nanos ≤ w.held.max some) ∧
      (∀ p q : Float, IsNumber p → IsNumber q → p ≤ q →
        (w.percentile p).nanos ≤ (w.percentile q).nanos) ∧
      (∀ (p : Float) (w' : Window), w'.held.Perm w.held → w'.percentile p = w.percentile p) ∧
      (∀ (p : Float) (w' : Window), List.Forall₂ (· ≤ ·) w.held w'.held →
        (w.percentile p).nanos ≤ (w'.percentile p).nanos)) := by
  refine ⟨fun large => recorded?_of_lt large values, fun le => ?_⟩
  obtain ⟨w, recorded, latest, count⟩ := recorded?_of_le le values
  have few : w.count ≤ 2 ^ 60 := by
    have room : largestSize = 2 ^ 60 - 1 := by decide
    omega
  refine ⟨w, recorded, latest, count, fun p number pos => ?_, fun p q number number' le => ?_,
    fun p w' same => percentile_perm same p, fun p w' raised => percentile_raised raised p⟩
  · have ranked := hasRank_percentile pos p
    rw [place_eq pos few number] at ranked
    exact ⟨ranked, List.ne_nil_of_mem ranked.held, List.min_le_of_mem ranked.held,
      List.le_max_of_mem ranked.held⟩
  · rcases Nat.eq_zero_or_pos w.count with none | pos
    · rw [percentile_of_none none, percentile_of_none none]
    · refine percentile_le_of_place ?_
      have := place_eq pos few number
      have := place_eq pos few number'
      have := rank_mono few number number' le
      omega

/-- Of the values 3, 1 and 2, a window of two holds the last two. The lower of them is the median,
    and stays so in another order; it is below the greatest, and where values are raised. -/
theorem recorded_percentile_two :
    recorded? (2 ^ 60) [] = .error .oversizedWindow ∧
    ∃ w, recorded? 2 [3, 1, 2] = .ok w ∧ w.held = [1, 2] ∧
      (w.percentile (0.5 : Float)).nanos = 1 ∧
      (w.percentile (0.5 : Float)).nanos ≤ (w.percentile (1.0 : Float)).nanos ∧
      ((empty 2).recordAll [2, 1]).percentile (0.5 : Float) = w.percentile (0.5 : Float) ∧
      (w.percentile (0.5 : Float)).nanos ≤
        (((empty 2).recordAll [1, 5]).percentile (0.5 : Float)).nanos := by
  refine ⟨(recorded_percentile (2 ^ 60) []).1 (by decide), ?_⟩
  obtain ⟨w, recorded, latest, count, ranked, ascending, unordered, raised⟩ :=
    (recorded_percentile 2 [3, 1, 2]).2 (by decide)
  have count : w.count = 2 := count
  have held : w.held = [1, 2] := by
    have length : w.held.length = 2 := count
    have suffix := List.suffix_iff_eq_drop.1 latest
    rwa [length] at suffix
  have median : IsNumber 0.5 := (by decide +kernel : IsFinite 0.5).1
  have lower : rank 2 0.5 = 1 :=
    (place_eq (by decide) (by decide) median).symm.trans (by decide +kernel)
  refine ⟨w, recorded, held, ?_, ascending 0.5 1.0 median isFinite_one.1.1 (by decide +kernel),
    unordered 0.5 _ ?_, raised 0.5 _ ?_⟩
  · have ranked := (ranked 0.5 median (by omega)).1
    rw [count, held, lower] at ranked
    obtain ⟨member, -, above⟩ := ranked
    rcases List.mem_pair.1 member with one | two
    · exact one
    · rw [two] at above
      exact absurd above (by decide)
  · rw [held]
    exact List.Perm.swap 1 2 []
  · rw [held]
    exact .cons (by decide) (.cons (by decide) .nil)

/-- Into the smallest window that cannot be made, nothing is recorded. -/
theorem oversized_holds_none :
    recorded? (2 ^ 60) [3, 1, 2] = .error .oversizedWindow ∧
    ¬ ∃ w, recorded? (2 ^ 60) [3, 1, 2] = .ok w ∧ w.held <:+ [3, 1, 2] ∧
      w.count = min [3, 1, 2].length (max 1 (2 ^ 60)) := by
  have large : largestSize < 2 ^ 60 := by decide
  have none := recorded?_of_lt large [3, 1, 2]
  refine ⟨none, ?_⟩
  rintro ⟨w, recorded, -⟩
  rw [none] at recorded
  cases recorded

end

end Window

end StagedEvents
