import Mathlib.Algebra.Order.Archimedean.Basic
import Mathlib.Tactic.Linarith
import Mathlib.Tactic.FieldSimp
import StagedEvents.Config.Resolved
import StagedEvents.Proofs.Control.Adjusting
import StagedEvents.Proofs.Quantity.Exact

/-!
# A threshold under a steady signal

In exact arithmetic, a loop that a configuration makes for a threshold is adjusted again and again
to one response time. The load that the adjustments find goes to the ratio of the response time to
the target like a geometric sequence, and stays on one side of a tenth around the target once it
is there. From then on each adjustment lowers the threshold, or each raises it, until it is at its
bound.

A threshold has a limit of 64 bits. It never comes to a greatest value beyond those.

* `Loop.turn_exact`: what one adjustment makes of a limit.
* `Smooths.comes_above`, `Smooths.stays_above`: the loads.
* `Loop.Steers.falls`, `Loop.Steers.rises`: the limits under such loads.
* `Console.exists_course`: the limits and the loads of all adjustments.
* `Console.settles`: where the limit goes.
* `Console.settles_not`: a greatest value beyond all limits.
-/

namespace StagedEvents

namespace LoopSettings

/-- The settings that a configuration makes for a loop over a threshold. -/
def steering {α : Type} [Quantity α] (target : Span) (smoothing : α) (window : ℕ)
    (least greatest : α) : LoopSettings α :=
  { queueThreshold target with smoothing, window, least, greatest, initial? := some least }

end LoopSettings

theorem Resolved.controllerOf_eq (o : Options) :
    controllerOf o = (o.targetResponseTimeMillis.filter fun t => 0.0 < t).map fun target =>
      .steering (targetOf target) (o.smoothingConstant.getD defaultSmoothing)
        (o.recalculationWindow.getD defaultRecalculationWindow)
        (o.minThreshold.getD defaultMinThreshold) (o.maxThreshold.getD defaultMaxThreshold) := rfl

/-! ## Exact settings -/

namespace LoopSettings

variable {target : Span} {smoothing : ℚ} {window : ℕ} {least greatest : ℤ}

/-- Settings in exact arithmetic between whole numbers. -/
def exact (target : Span) (smoothing : ℚ) (window : ℕ) (least greatest : ℤ) : LoopSettings ℚ :=
  steering target smoothing window least greatest

/-- Such settings are in order, but for the window. -/
theorem normalized_exact (natural : 0 ≤ smoothing) (below : smoothing ≤ 0.999)
    (ordered : least ≤ greatest) :
    (exact target smoothing window least greatest).normalized =
      exact target smoothing (max window 1) least greatest := by
  have weight : (Quantity.clamp? 0.0 0.999 smoothing).getD smoothing = smoothing := by
    unfold Quantity.clamp?
    norm_num at below ⊢
    split
    · linarith
    · exact if_neg (by linarith)
  have bound : (if (greatest : ℚ) < least then (least : ℚ) else greatest) = greatest :=
    if_neg (by exact_mod_cast not_lt.2 ordered)
  have factor : (if (1.0 : ℚ) < 2.0 then (2.0 : ℚ) else 2.0) = 2.0 := ite_self _
  have increase : Quantity.larger (2.0 : ℚ) 0.0 = 2.0 := by
    unfold Quantity.larger Quantity.isNumber
    norm_num
  unfold normalized exact steering queueThreshold
  simp only [weight, bound, factor, increase]

/-- A span in milliseconds. -/
def millis (s : Span) : ℚ := s.nanos / 1_000_000

theorem seconds_eq (s : Span) : Quantity.seconds s * (1000.0 : ℚ) = millis s := by
  have thousand : (1000.0 : ℚ) = 1000 := by norm_num
  rw [thousand]
  show (s.nanos : ℚ) / 1_000_000_000 * 1000 = s.nanos / 1_000_000
  ring

theorem load_exact (aims : 0 < target.nanos) (smoothed : ℚ) :
    (exact target smoothing window least greatest).load smoothed = smoothed / millis target := by
  have pos : (0 : ℚ) < target.nanos := by exact_mod_cast aims
  have aim : (exact target smoothing window least greatest).targetMillis = millis target :=
    seconds_eq target
  have positive : (0.0 : ℚ) < millis target := by
    have zero : (0.0 : ℚ) = 0 := by norm_num
    rw [zero]
    exact div_pos pos (by norm_num)
  unfold load
  rw [aim]
  exact if_pos positive

/-- The ratio of two response times. -/
theorem ratio_eq (x target : Span) : millis x / millis target = (x.nanos : ℚ) / target.nanos := by
  unfold millis
  field_simp

theorem classify_narrow (load : ℚ) :
    (1.1 < load → (Bands.narrow : Bands ℚ).classify load = .high) ∧
      (load < 0.9 → (Bands.narrow : Bands ℚ).classify load = .low ∨
        (Bands.narrow : Bands ℚ).classify load = .veryLow) := by
  have zero : (0.0 : ℚ) = 0 := by norm_num
  unfold Bands.classify Bands.narrow Bands.isVeryHigh
  simp only [zero]
  refine ⟨fun high => ?_, fun low => ?_⟩
  · norm_num at high ⊢
    rw [if_neg (by linarith), if_neg (by linarith), if_neg (by linarith)]
  · by_cases negative : load < 0
    · exact .inr (if_pos negative)
    · exact .inl ((if_neg negative).trans (if_pos low))

end LoopSettings

/-! ## One adjustment -/

/-- In exact arithmetic a value is moved between bounds as one takes a maximum and a minimum. -/
theorem Quantity.clamp?_exact {lo hi : ℚ} (ordered : lo ≤ hi) (x : ℚ) :
    Quantity.clamp? lo hi x = some (max lo (min hi x)) := by
  unfold Quantity.clamp?
  rw [if_pos ordered]
  congr 1
  split
  · rename_i below
    rw [min_eq_right (below.le.trans ordered), max_eq_left below.le]
  · rename_i notBelow
    split
    · rename_i above
      rw [min_eq_left above.le, max_eq_right ordered]
    · rename_i notAbove
      rw [min_eq_right (not_lt.1 notAbove), max_eq_right (not_lt.1 notBelow)]

namespace Dial

/-- The whole number nearest to a value that is not negative. -/
def nearestLimit (x : ℚ) : ℤ := ⌊x + 1 / 2⌋

theorem nearestLimit_mono {x y : ℚ} (le : x ≤ y) : nearestLimit x ≤ nearestLimit y :=
  Int.floor_mono (add_le_add_left le _)

theorem nearestLimit_intCast (n : ℤ) : nearestLimit n = n := by
  unfold nearestLimit
  rw [Int.floor_intCast_add]
  norm_num

theorem nearestLimit_half (n : ℤ) : nearestLimit ((n : ℚ) / 2) = (n + 1) / 2 := by
  have sum : (n : ℚ) / 2 + 1 / 2 = ((n + 1 : ℤ) : ℚ) / (2 : ℕ) := by
    push_cast
    ring
  unfold nearestLimit
  rw [sum]
  exact Rat.floor_intCast_div_natCast (n + 1) 2

theorem turn_exact (t : ℤ) {x : ℚ} (natural : 0 ≤ x) :
    (threshold t : Dial ℚ).turn x =
      threshold (clampInt lowestLimit highestLimit (nearestLimit x)) := by
  show threshold (clampInt _ _ (if 0 ≤ x then _ else _)) = _
  rw [if_pos natural]
  rfl

end Dial

namespace Loop

/-- The limit that a band calls for. -/
def proposedLimit (band : Band) (t : ℤ) : ℤ :=
  match band with
  | .veryLow => 2 * t
  | .low => t + 2
  | .neutral => t
  | .high => (t + 1) / 2
  | .veryHigh => (t + 1) / 2

/-- A limit that an adjustment can leave between whole bounds. -/
structure Between (least greatest t : ℤ) : Prop where
  positive : 1 ≤ least
  notBelow : least ≤ t
  notAbove : t ≤ greatest
  fits : t ≤ Dial.highestLimit

/-- The next limit: the one that the band calls for, moved between the bounds as far as there are
    limits. -/
def nextLimit (least greatest : ℤ) (band : Band) (t : ℤ) : ℤ :=
  clampInt least (min greatest Dial.highestLimit) (proposedLimit band t)

variable {target : Span} {smoothing : ℚ} {window : ℕ} {least greatest t : ℤ}

open LoopSettings (exact)

theorem nearestLimit_proposed (band : Band) (t : ℤ) :
    Dial.nearestLimit ((exact target smoothing window least greatest).proposed band t) =
      proposedLimit band t := by
  cases band with
  | veryLow =>
    have twice : (t : ℚ) * 2.0 = (2 * t : ℤ) := by
      norm_num
      ring
    exact (congrArg Dial.nearestLimit twice).trans (Dial.nearestLimit_intCast _)
  | low =>
    have raised : (t : ℚ) + 2.0 = (t + 2 : ℤ) := by
      push_cast
      ring
    exact (congrArg Dial.nearestLimit raised).trans (Dial.nearestLimit_intCast _)
  | neutral => exact Dial.nearestLimit_intCast t
  | high =>
    have halved : (t : ℚ) / 2.0 = t / 2 := by norm_num
    exact (congrArg Dial.nearestLimit halved).trans (Dial.nearestLimit_half t)
  | veryHigh =>
    have halved : (t : ℚ) / 2.0 = t / 2 := by norm_num
    exact (congrArg Dial.nearestLimit halved).trans (Dial.nearestLimit_half t)

theorem Between.next (between : Between least greatest t) (band : Band) :
    Between least greatest (nextLimit least greatest band t) := by
  obtain ⟨positive, notBelow, notAbove, fits⟩ := between
  unfold nextLimit clampInt
  exact ⟨positive, by omega, by omega, by omega⟩

/-- The value that an adjustment finds, and the whole number nearest to it. -/
theorem value_finding {l : Loop ℚ}
    (settings : l.settings = exact target smoothing window least greatest)
    (ordered : (least : ℚ) ≤ greatest) (observed : Span) {band : Band}
    (called : l.settings.bands.classify (l.loadOf observed) = band) :
    (least : ℚ) ≤ (l.finding (.threshold t) observed).value ∧
      Dial.nearestLimit (l.finding (.threshold t) observed).value =
        max least (min greatest (proposedLimit band t)) := by
  have value : (l.finding (.threshold t) observed).value =
      max (least : ℚ) (min (greatest : ℚ) (l.settings.proposed band t)) := by
    unfold finding
    simp only [called]
    rw [settings]
    show (Quantity.clamp? (least : ℚ) greatest _).getD _ = _
    rw [Quantity.clamp?_exact ordered]
    rfl
  have mono : Monotone Dial.nearestLimit := fun _ _ le => Dial.nearestLimit_mono le
  rw [value]
  refine ⟨le_max_left _ _, ?_⟩
  rw [mono.map_max, mono.map_min, Dial.nearestLimit_intCast, Dial.nearestLimit_intCast, settings,
    nearestLimit_proposed]

/-- **What one adjustment makes of a limit.** -/
theorem turn_exact {l : Loop ℚ} (settings : l.settings = exact target smoothing window least greatest)
    (between : Between least greatest t) (observed : Span) :
    (l.turn (.threshold t) observed).dial =
      .threshold (nextLimit least greatest (l.settings.bands.classify (l.loadOf observed)) t) := by
  obtain ⟨positive, notBelow, notAbove, fits⟩ := between
  have ordered : (least : ℚ) ≤ greatest := by exact_mod_cast notBelow.trans notAbove
  generalize called : l.settings.bands.classify (l.loadOf observed) = band
  obtain ⟨above, nearest⟩ := value_finding (t := t) settings ordered observed called
  have natural : 0 ≤ (l.finding (.threshold t) observed).value :=
    le_trans (by exact_mod_cast (by omega : 0 ≤ least)) above
  have turned : (Dial.threshold t : Dial ℚ).turn (l.finding (.threshold t) observed).value =
      .threshold (nextLimit least greatest band t) := by
    rw [Dial.turn_exact t natural, nearest]
    unfold nextLimit clampInt Dial.lowestLimit
    congr 1
    omega
  rw [turn_eq (by rw [settings]; exact ordered)]
  show (if _ then _ else _) = _
  split
  · -- The dial shows the value, and would be turned to the limit that it has.
    rename_i same
    rw [Quantity.same, Bool.and_eq_true, decide_eq_true_iff, decide_eq_true_iff] at same
    have shown : (l.finding (.threshold t) observed).value = (t : ℚ) := le_antisymm same.1 same.2
    rw [← turned, shown, Dial.turn_exact t (shown ▸ natural),
      Dial.nearestLimit_intCast]
    unfold clampInt Dial.lowestLimit
    congr 1
    omega
  · exact turned

theorem nextLimit_high (between : Between least greatest t) :
    nextLimit least greatest .high t < t ∨
      t = least ∧ nextLimit least greatest .high t = least := by
  obtain ⟨positive, notBelow, notAbove, fits⟩ := between
  unfold nextLimit clampInt proposedLimit
  simp only
  omega

theorem nextLimit_low (between : Between least greatest t) {band : Band}
    (low : band = .low ∨ band = .veryLow) :
    t < nextLimit least greatest band t ∨
      t = min greatest Dial.highestLimit ∧
        nextLimit least greatest band t = min greatest Dial.highestLimit := by
  obtain ⟨positive, notBelow, notAbove, fits⟩ := between
  unfold nextLimit clampInt proposedLimit
  obtain rfl | rfl := low
  · simp only
    omega
  · simp only
    omega

/-- The next load is between this one and the ratio. -/
theorem loadOf_turn {l : Loop ℚ}
    (settings : l.settings = exact target smoothing window least greatest)
    (aims : 0 < target.nanos) (d : Dial ℚ) (observed : Span) :
    (l.turn d observed).loop.loadOf observed =
      smoothing * l.loadOf observed +
        (1 - smoothing) * ((observed.nanos : ℚ) / target.nanos) := by
  have one : (1.0 : ℚ) = 1 := by norm_num
  unfold loadOf
  rw [smooth_turn, settings_turn, settings, LoopSettings.load_exact aims,
    LoopSettings.load_exact aims, LoopSettings.seconds_eq, one, ← LoopSettings.ratio_eq]
  show (smoothing * _ + (1 - smoothing) * _) / _ = _
  ring

end Loop

/-! ## Sequences -/

/-- A sequence of whole numbers that falls as long as it is above its bound comes to its bound. -/
theorem eventually_of_falling {f : ℕ → ℤ} {b : ℤ} {first : ℕ} (above : ∀ n, b ≤ f n)
    (falls : ∀ n, first ≤ n → f (n + 1) < f n ∨ f n = b ∧ f (n + 1) = b) :
    ∃ last, ∀ n, last ≤ n → f n = b := by
  have descent : ∀ k : ℕ, f (first + k) ≤ max b (f first - k) := by
    intro k
    induction k with
    | zero => simp
    | succ k ih =>
      have step := falls (first + k) (Nat.le_add_right first k)
      rw [← Nat.add_assoc]
      push_cast
      omega
  refine ⟨first + (f first - b).toNat, fun n le => ?_⟩
  have fallen := descent (n - first)
  rw [Nat.add_sub_cancel' (by omega)] at fallen
  have := above n
  omega

/-- The loads of a loop that is adjusted to one response time. -/
structure Smooths (smoothing ratio : ℚ) (load : ℕ → ℚ) : Prop where
  natural : 0 ≤ smoothing
  below : smoothing < 1
  next : ∀ n, load (n + 1) = smoothing * load n + (1 - smoothing) * ratio

namespace Smooths

variable {smoothing ratio : ℚ} {load : ℕ → ℚ} {bound : ℚ}

/-- The distance of the load to the ratio is a geometric sequence. -/
theorem distance (smooths : Smooths smoothing ratio load) (n : ℕ) :
    load n - ratio = smoothing ^ n * (load 0 - ratio) := by
  induction n with
  | zero => ring
  | succ n ih =>
    calc load (n + 1) - ratio = smoothing * (load n - ratio) := by rw [smooths.next]; ring
      _ = smoothing ^ (n + 1) * (load 0 - ratio) := by rw [ih]; ring

/-- The opposite loads go to the opposite ratio. -/
theorem neg (smooths : Smooths smoothing ratio load) :
    Smooths smoothing (-ratio) fun n => -load n where
  natural := smooths.natural
  below := smooths.below
  next n := by
    rw [smooths.next]
    ring

/-- Loads stay above what the ratio is above. -/
theorem stays_above (smooths : Smooths smoothing ratio load) (high : bound < ratio) {first : ℕ}
    (above : bound < load first) {n : ℕ} (le : first ≤ n) : bound < load n := by
  induction n, le using Nat.le_induction with
  | base => exact above
  | succ n _ ih =>
    rw [smooths.next]
    have rest := mul_lt_mul_of_pos_left high (sub_pos.2 smooths.below)
    have old := mul_le_mul_of_nonneg_left ih.le smooths.natural
    linarith

/-- Loads come to be above what the ratio is above. -/
theorem comes_above (smooths : Smooths smoothing ratio load) (high : bound < ratio) :
    ∃ n, bound < load n := by
  -- Far enough along, the distance is less than the one between the ratio and the bound.
  have gap : 0 < (ratio - bound) / (|load 0 - ratio| + 1) :=
    div_pos (sub_pos.2 high) (by positivity)
  obtain ⟨n, small⟩ := exists_pow_lt_of_lt_one gap smooths.below
  refine ⟨n, ?_⟩
  have shrunk : smoothing ^ n * (|load 0 - ratio| + 1) < ratio - bound :=
    (lt_div_iff₀ (by positivity)).1 small
  have power := pow_nonneg smooths.natural n
  have away : -(smoothing ^ n * |load 0 - ratio|) ≤ load n - ratio := by
    rw [smooths.distance n, ← mul_neg]
    exact mul_le_mul_of_nonneg_left (neg_abs_le _) power
  linarith

theorem stays_below (smooths : Smooths smoothing ratio load) (low : ratio < bound) {first : ℕ}
    (below : load first < bound) {n : ℕ} (le : first ≤ n) : load n < bound :=
  neg_lt_neg_iff.1 (smooths.neg.stays_above (neg_lt_neg low) (neg_lt_neg below) le)

theorem comes_below (smooths : Smooths smoothing ratio load) (low : ratio < bound) :
    ∃ n, load n < bound := by
  obtain ⟨n, above⟩ := smooths.neg.comes_above (neg_lt_neg low)
  exact ⟨n, neg_lt_neg_iff.1 above⟩

end Smooths

/-! ## All adjustments -/

namespace Loop

/-- A loop and its limit, after one more adjustment. -/
def afterwards (least greatest : ℤ) (observed : Span) (state : Loop ℚ × ℤ) : Loop ℚ × ℤ :=
  ((state.1.turn (.threshold state.2) observed).loop,
    nextLimit least greatest (state.1.settings.bands.classify (state.1.loadOf observed)) state.2)

/-- Each limit is the one that the band of the load calls for after the one before. -/
structure Steers (least greatest : ℤ) (limit : ℕ → ℤ) (load : ℕ → ℚ) : Prop where
  between : ∀ n, Between least greatest (limit n)
  next : ∀ n, limit (n + 1) = nextLimit least greatest (Bands.narrow.classify (load n)) (limit n)

variable {least greatest : ℤ} {limit : ℕ → ℤ} {load : ℕ → ℚ} {smoothing ratio : ℚ}

/-- Under a high load the limits fall to the least value. -/
theorem Steers.falls (steers : Steers least greatest limit load)
    (smooths : Smooths smoothing ratio load) (high : 1.1 < ratio) :
    (∃ last, ∀ n, last ≤ n → limit n = least) ∧
      ∀ first, 1.1 < load first → ∀ n, first ≤ n → limit (n + 1) ≤ limit n := by
  have falls {first : ℕ} (above : 1.1 < load first) (n : ℕ) (le : first ≤ n) :
      limit (n + 1) < limit n ∨ limit n = least ∧ limit (n + 1) = least := by
    rw [steers.next,
      (LoopSettings.classify_narrow (load n)).1 (smooths.stays_above high above le)]
    exact nextLimit_high (steers.between n)
  obtain ⟨first, above⟩ := smooths.comes_above high
  refine ⟨eventually_of_falling (fun n => (steers.between n).notBelow) (falls above), ?_⟩
  intro first above n le
  have := falls above n le
  omega

/-- Under a low load the limits rise to the greatest value, as far as there are such limits. -/
theorem Steers.rises (steers : Steers least greatest limit load)
    (smooths : Smooths smoothing ratio load) (low : ratio < 0.9) :
    (∃ last, ∀ n, last ≤ n → limit n = min greatest Dial.highestLimit) ∧
      ∀ first, load first < 0.9 → ∀ n, first ≤ n → limit n ≤ limit (n + 1) := by
  have rises {first : ℕ} (below : load first < 0.9) (n : ℕ) (le : first ≤ n) :
      limit n < limit (n + 1) ∨ limit n = min greatest Dial.highestLimit ∧
        limit (n + 1) = min greatest Dial.highestLimit := by
    rw [steers.next]
    exact nextLimit_low (steers.between n)
      ((LoopSettings.classify_narrow (load n)).2 (smooths.stays_below low below le))
  obtain ⟨first, below⟩ := smooths.comes_below low
  constructor
  · -- The opposite limits fall to the opposite bound.
    have above (n : ℕ) : -min greatest Dial.highestLimit ≤ -limit n :=
      neg_le_neg (le_min (steers.between n).notAbove (steers.between n).fits)
    have falls (n : ℕ) (le : first ≤ n) : -limit (n + 1) < -limit n ∨
        -limit n = -min greatest Dial.highestLimit ∧
          -limit (n + 1) = -min greatest Dial.highestLimit := by
      have := rises below n le
      omega
    obtain ⟨last, settled⟩ := eventually_of_falling above falls
    exact ⟨last, fun n le => neg_inj.1 (settled n le)⟩
  · intro first below n le
    have := rises below n le
    omega

end Loop

namespace Console

open LoopSettings (exact)

/-- The row after loop `k` has been adjusted `n` times to one response time. -/
def adjusted {α : Type} [Quantity α] (k : ℕ) (observed : Span) (c : Console α) (n : ℕ) :
    Console α :=
  (fun c => (c.recalculate k observed).1)^[n] c

/-- Loop `k`, with settings that a configuration makes between whole bounds, turns a threshold of
    its own that is between them. -/
structure Governs (c : Console ℚ) (k : ℕ) (target : Span) (smoothing : ℚ) (window : ℕ)
    (least greatest t : ℤ) : Prop where
  loop : ∃ l, c.Owns k l ∧ dialAt c.panel l.dial = .threshold t ∧
    l.settings = (exact target smoothing window least greatest).normalized
  aims : 0 < target.nanos
  natural : 0 ≤ smoothing
  below : smoothing ≤ 0.999
  between : Loop.Between least greatest t

/-- As loop `k` is adjusted to one response time again and again, the limits of its threshold and
    the loads that it finds. -/
structure Course (c : Console ℚ) (k : ℕ) (observed : Span) (limit : ℕ → ℤ) (load : ℕ → ℚ) :
    Prop where
  shows : ∀ n, ∃ l, (c.adjusted k observed n).loops[k]? = some l ∧
    dialAt (c.adjusted k observed n).panel l.dial = .threshold (limit n) ∧
    l.loadOf observed = load n

variable {c : Console ℚ} {k : ℕ} {target observed : Span} {smoothing : ℚ} {window : ℕ}
variable {least greatest t : ℤ}

/-- What adjustments keep. -/
structure Follows (c : Console ℚ) (k : ℕ) (settings : LoopSettings ℚ) (least greatest : ℤ)
    (state : Loop ℚ × ℤ) : Prop where
  owns : c.Owns k state.1
  shows : dialAt c.panel state.1.dial = .threshold state.2
  settings : state.1.settings = settings
  between : Loop.Between least greatest state.2

theorem Follows.recalculate {state : Loop ℚ × ℤ}
    (follows : c.Follows k (exact target smoothing window least greatest) least greatest state) :
    (c.recalculate k observed).1.Follows k (exact target smoothing window least greatest) least
      greatest (Loop.afterwards least greatest observed state) := by
  obtain ⟨owns, shows, settings, between⟩ := follows
  obtain ⟨owns', shows'⟩ :=
    owns.recalculate_self (rfl : state.1.turn (dialAt c.panel state.1.dial) observed = _)
  rw [shows] at owns' shows'
  exact ⟨owns', shows'.trans (Loop.turn_exact settings between observed),
    (state.1.settings_turn _ observed).trans settings, between.next _⟩

/-- **The limits and the loads of all adjustments.** -/
theorem exists_course (governs : c.Governs k target smoothing window least greatest t)
    (observed : Span) :
    ∃ limit load, c.Course k observed limit load ∧ limit 0 = t ∧
      Smooths smoothing ((observed.nanos : ℚ) / target.nanos) load ∧
      Loop.Steers least greatest limit load := by
  obtain ⟨⟨l, owns, shows, settings⟩, aims, natural, below, between⟩ := governs
  rw [LoopSettings.normalized_exact natural below (between.notBelow.trans between.notAbove)]
    at settings
  let state (n : ℕ) := (Loop.afterwards least greatest observed)^[n] (l, t)
  have next (n : ℕ) : state (n + 1) = Loop.afterwards least greatest observed (state n) :=
    Function.iterate_succ_apply' _ _ _
  have follows (n : ℕ) : (c.adjusted k observed n).Follows k
      (exact target smoothing (max window 1) least greatest) least greatest (state n) := by
    induction n with
    | zero => exact ⟨owns, shows, settings, between⟩
    | succ n ih =>
      rw [next, adjusted, Function.iterate_succ_apply']
      exact ih.recalculate
  refine ⟨fun n => (state n).2, fun n => (state n).1.loadOf observed, ⟨fun n => ?_⟩, rfl,
    ⟨natural, ?_, fun n => ?_⟩, fun n => (follows n).between, fun n => ?_⟩
  · exact ⟨_, (follows n).owns.found, (follows n).shows, rfl⟩
  · norm_num at below
    linarith
  · simp only [next]
    exact Loop.loadOf_turn (follows n).settings aims _ observed
  · simp only [next]
    show Loop.nextLimit _ _ ((state n).1.settings.bands.classify _) _ = _
    rw [(follows n).settings]
    rfl

/-- **A threshold under a steady signal.** As the loop is adjusted to one response time again and
    again, its limit goes to the least value for good if the response time is more than a tenth
    above the target, and never rises once a load has been found as high. It goes to the greatest
    value for good, or to the greatest limit if that is less, if the response time is more than a
    tenth below the target, and never falls once a load has been found as low. -/
theorem settles (governs : c.Governs k target smoothing window least greatest t)
    (observed : Span) :
    ∃ limit load, c.Course k observed limit load ∧ limit 0 = t ∧
      (1.1 < (observed.nanos : ℚ) / target.nanos →
        (∃ last, ∀ n, last ≤ n → limit n = least) ∧
          ∀ first, 1.1 < load first → ∀ n, first ≤ n → limit (n + 1) ≤ limit n) ∧
      ((observed.nanos : ℚ) / target.nanos < 0.9 →
        (∃ last, ∀ n, last ≤ n → limit n = min greatest Dial.highestLimit) ∧
          ∀ first, load first < 0.9 → ∀ n, first ≤ n → limit n ≤ limit (n + 1)) := by
  obtain ⟨limit, load, course, start, smooths, steers⟩ := exists_course governs observed
  exact ⟨limit, load, course, start, steers.falls smooths, steers.rises smooths⟩

/-- A row of one loop with a target of 100 ms over a threshold. -/
def overLimit (greatest t : ℤ) : Console ℚ :=
  { loops := [{ settings := (exact (.ofMillis 100) 0.5 200 1 greatest).normalized, dial := 0,
                start := 1, enabled := true, observations := 0, smoothed? := none,
                highWindows := 0 }]
    panel := [.threshold t] }

theorem governs_overLimit {greatest t : ℤ} (between : Loop.Between 1 greatest t) :
    (overLimit greatest t).Governs 0 (.ofMillis 100) 0.5 200 1 greatest t := by
  have alone (j : ℕ) (m : Loop ℚ) (there : (overLimit greatest t).loops[j]? = some m) : j = 0 :=
    Nat.lt_one_iff.1 (List.getElem?_eq_some_iff.1 there).1
  exact ⟨⟨_, ⟨rfl, Nat.one_pos, fun j m there _ => alone j m there⟩, rfl, rfl⟩, by decide,
    by norm_num, by norm_num, between⟩

/-- From 64, the limit goes to 1 at five times the target and to 1024 at a tenth of it. -/
theorem settles_at_both_ends :
    (overLimit 1024 64).Governs 0 (.ofMillis 100) 0.5 200 1 1024 64 ∧
      (∃ limit load, (overLimit 1024 64).Course 0 (.ofMillis 500) limit load ∧
        ∃ last, ∀ n, last ≤ n → limit n = 1) ∧
      ∃ limit load, (overLimit 1024 64).Course 0 (.ofMillis 10) limit load ∧
        ∃ last, ∀ n, last ≤ n → limit n = 1024 := by
  have governs : (overLimit 1024 64).Governs 0 (.ofMillis 100) 0.5 200 1 1024 64 :=
    governs_overLimit ⟨by decide, by decide, by decide, by decide⟩
  obtain ⟨limit, load, course, -, high, -⟩ := settles governs (.ofMillis 500)
  obtain ⟨limit', load', course', -, -, low⟩ := settles governs (.ofMillis 10)
  refine ⟨governs, ⟨limit, load, course, (high ?_).1⟩, ⟨limit', load', course', (low ?_).1⟩⟩
  · show (1.1 : ℚ) < ((500 * 1_000_000 : ℕ) : ℚ) / ((100 * 1_000_000 : ℕ) : ℚ)
    norm_num
  · show ((10 * 1_000_000 : ℕ) : ℚ) / ((100 * 1_000_000 : ℕ) : ℚ) < 0.9
    norm_num

/-- There is one course of the limits. -/
theorem Course.limit_unique {limit limit' : ℕ → ℤ} {load load' : ℕ → ℚ}
    (course : c.Course k observed limit load) (course' : c.Course k observed limit' load') :
    limit = limit' := by
  funext n
  obtain ⟨l, found, shows, -⟩ := course.shows n
  obtain ⟨l', found', shows', -⟩ := course'.shows n
  obtain rfl : l = l' := Option.some.inj (found.symm.trans found')
  exact Dial.threshold.inj (shows.symm.trans shows')

/-- **A greatest value beyond all limits**: the limit never comes to it, though every load is low. -/
theorem settles_not :
    let c := overLimit (2 ^ 63) Dial.highestLimit
    c.Governs 0 (.ofMillis 100) 0.5 200 1 (2 ^ 63) Dial.highestLimit ∧
      (((Span.ofMillis 10).nanos : ℚ) / (Span.ofMillis 100).nanos < 0.9) ∧
      (∃ limit load, c.Course 0 (.ofMillis 10) limit load) ∧
      ∀ limit load, c.Course 0 (.ofMillis 10) limit load →
        ¬∃ last, ∀ n, last ≤ n → limit n = 2 ^ 63 := by
  intro c
  have governs : c.Governs 0 (.ofMillis 100) 0.5 200 1 (2 ^ 63) Dial.highestLimit :=
    governs_overLimit ⟨by decide, by decide, by decide, by decide⟩
  obtain ⟨limit, load, course, -, -, steers⟩ := exists_course governs (.ofMillis 10)
  refine ⟨governs, ?_, ⟨limit, load, course⟩, ?_⟩
  · show ((10 * 1_000_000 : ℕ) : ℚ) / ((100 * 1_000_000 : ℕ) : ℚ) < 0.9
    norm_num
  · rintro limit' load' course' ⟨last, settled⟩
    have fits := (steers.between last).fits
    rw [course.limit_unique course', settled last (Nat.le_refl last)] at fits
    exact absurd fits (by decide)

end Console

end StagedEvents
