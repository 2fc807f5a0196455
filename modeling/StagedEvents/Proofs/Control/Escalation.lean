import Mathlib.Data.List.TakeWhile
import StagedEvents.Proofs.Control.Answering
import StagedEvents.Proofs.Control.Feed

/-!
# When a loop brings its secondary on

A window calls for the secondary if its load is very high, or if it ends enough windows in a row
that were high and ended at the least value. It lets the secondary go if the load is low. After any
windows, the secondary is on if one has called for it and none has let it go since. What happens
beside the windows does not matter, as long as nothing else switches the secondary.

* `LoopSettings.Triggers`, `Finding.Releases`: the windows that count.
* `Console.Supervised`: the windows of a loop, and what happens beside them.
* `Console.secondary_follows_windows`: when the secondary is on, and what each window tells.
* `Console.secondary_untold`: a window that brings the secondary on and does not tell so.
-/

namespace StagedEvents

variable {α : Type} [Quantity α]

/-! ## Windows -/

namespace Finding

/-- The load is high and the window ends at the least value. -/
def HighAtLeast (s : LoopSettings α) (w : Finding α) : Prop := w.band = .high ∧ w.value ≤ s.least

instance (s : LoopSettings α) (w : Finding α) : Decidable (w.HighAtLeast s) :=
  inferInstanceAs (Decidable (_ ∧ _))

/-- The window lets the secondary go. -/
def Releases (s : LoopSettings α) (w : Finding α) : Prop :=
  w.band ≠ .veryHigh ∧ ¬w.HighAtLeast s ∧ w.load < s.bands.medium

end Finding

namespace LoopSettings

variable (s : LoopSettings α)

/-- The latest of the windows, which are told the latest first, calls for the secondary: its load
    is very high, or it ends a block of windows that were high and ended at the least value. -/
def Triggers (windows : List (Finding α)) : Prop :=
  (∃ w earlier, windows = w :: earlier ∧ w.band = .veryHigh) ∨
    ∃ block, block <+: windows ∧ max 1 s.escalation ≤ block.length ∧
      ∀ w ∈ block, w.HighAtLeast s

/-- One of the windows has called for the secondary, and none has let it go since. -/
def Engages (windows : List (Finding α)) : Prop :=
  ∃ later earlier, windows = later ++ earlier ∧ s.Triggers earlier ∧ ∀ w ∈ later, ¬w.Releases s

/-- The windows in a row, up to the latest, that were high and ended at the least value. -/
def highRun (windows : List (Finding α)) : ℕ :=
  (windows.takeWhile fun w => decide (w.HighAtLeast s)).length

variable {s} {w : Finding α} {windows : List (Finding α)}

theorem highRun_cons_of_high (high : w.HighAtLeast s) :
    s.highRun (w :: windows) = s.highRun windows + 1 := by
  unfold highRun
  rw [List.takeWhile_cons, if_pos (decide_eq_true high), List.length_cons]

theorem highRun_cons_of_not_high (high : ¬w.HighAtLeast s) : s.highRun (w :: windows) = 0 := by
  unfold highRun
  rw [List.takeWhile_cons, if_neg (by simpa using high), List.length_nil]

theorem le_highRun_iff (n : ℕ) :
    n ≤ s.highRun windows ↔
      ∃ block, block <+: windows ∧ n ≤ block.length ∧ ∀ w ∈ block, w.HighAtLeast s := by
  constructor
  · intro le
    refine ⟨_, List.takeWhile_prefix _, le, fun w mem => ?_⟩
    have high := List.mem_takeWhile_imp mem
    exact of_decide_eq_true high
  · rintro ⟨block, ⟨rest, rfl⟩, le, high⟩
    unfold highRun
    rw [List.takeWhile_append_of_pos fun w mem => decide_eq_true (high w mem), List.length_append]
    omega

theorem triggers_cons_iff :
    s.Triggers (w :: windows) ↔
      w.band = .veryHigh ∨ max 1 s.escalation ≤ s.highRun (w :: windows) := by
  unfold Triggers
  rw [← le_highRun_iff]
  refine or_congr_left ⟨?_, fun veryHigh => ⟨w, windows, rfl, veryHigh⟩⟩
  rintro ⟨_, _, ⟨⟩, veryHigh⟩
  exact veryHigh

theorem not_triggers_nil : ¬s.Triggers [] := by
  rintro (⟨w, earlier, ⟨⟩, -⟩ | ⟨block, initial, le, -⟩)
  rw [List.prefix_nil.1 initial, List.length_nil] at le
  omega

theorem not_engages_nil : ¬s.Engages [] := by
  rintro ⟨later, earlier, split, triggers, -⟩
  rw [(List.append_eq_nil_iff.1 split.symm).2] at triggers
  exact not_triggers_nil triggers

/-- **One more window.** -/
theorem engages_cons_iff :
    s.Engages (w :: windows) ↔
      s.Triggers (w :: windows) ∨ s.Engages windows ∧ ¬w.Releases s := by
  constructor
  · rintro ⟨_ | ⟨v, later⟩, earlier, split, triggers, kept⟩
    · rw [List.nil_append] at split
      exact .inl (split ▸ triggers)
    · obtain ⟨rfl, rfl⟩ := List.cons_eq_cons.1 split
      exact .inr ⟨⟨later, earlier, rfl, triggers, fun u mem => kept u (List.mem_cons_of_mem w mem)⟩,
        kept w List.mem_cons_self⟩
  · rintro (triggers | ⟨⟨later, earlier, rfl, triggers, kept⟩, keeps⟩)
    · exact ⟨[], _, rfl, triggers, fun u mem => absurd mem List.not_mem_nil⟩
    · exact ⟨w :: later, earlier, rfl, triggers, List.forall_mem_cons.2 ⟨keeps, kept⟩⟩

end LoopSettings

namespace Loop

variable {l : Loop α} {w : Finding α} {windows : List (Finding α)}

/-- The count of high windows is that of the windows in a row, as far as it counts. -/
def Counts (l : Loop α) (windows : List (Finding α)) : Prop :=
  l.highWindows = min (l.settings.highRun windows) LoopSettings.endlessEscalation

theorem escalate_of_high (high : w.HighAtLeast l.settings) :
    l.escalate w.band w.load w.value =
      let windows := min (l.highWindows + 1) LoopSettings.endlessEscalation
      (windows, if l.settings.escalation ≤ windows then some true else none) := by
  unfold escalate
  rw [high.1]
  exact if_pos high.2

theorem escalate_of_not_high (high : ¬w.HighAtLeast l.settings) :
    l.escalate w.band w.load w.value = (0, if w.band = .veryHigh then some true
      else if w.load < l.settings.bands.medium then some false else none) := by
  unfold escalate
  cases band : w.band with
  | veryHigh => rfl
  | high => exact if_neg fun le => high ⟨band, le⟩
  | neutral => rfl
  | low => rfl
  | veryLow => rfl

/-- **What a loop wishes of its secondary after a window**, by the windows so far. -/
theorem escalate_follows (sized : l.settings.escalation ≤ LoopSettings.endlessEscalation)
    (counts : l.Counts windows) (w : Finding α) :
    (l.escalate w.band w.load w.value).1 =
        min (l.settings.highRun (w :: windows)) LoopSettings.endlessEscalation ∧
      ((l.escalate w.band w.load w.value).2 = some true ↔ l.settings.Triggers (w :: windows)) ∧
      ((l.escalate w.band w.load w.value).2 = some false ↔ w.Releases l.settings) := by
  unfold Counts at counts
  rw [LoopSettings.triggers_cons_iff]
  by_cases high : w.HighAtLeast l.settings
  · have endless : 1 ≤ LoopSettings.endlessEscalation := by decide
    have released : ¬w.Releases l.settings := fun releases => releases.2.1 high
    have band : w.band ≠ .veryHigh := by
      rw [high.1]
      simp
    rw [escalate_of_high high, LoopSettings.highRun_cons_of_high high, counts]
    refine ⟨?_, ?_, ?_⟩
    · simp only
      omega
    · simp only [band, false_or, ite_eq_left_iff, reduceCtorEq, imp_false, not_not]
      omega
    · simp only [released, iff_false]
      split <;> simp
  · have none_ : ¬max 1 l.settings.escalation ≤ 0 := by omega
    rw [escalate_of_not_high high, LoopSettings.highRun_cons_of_not_high high]
    refine ⟨rfl, ?_, ?_⟩
    · simp only [none_, or_false]
      by_cases band : w.band = .veryHigh
      · simp [band]
      · simp only [band, if_false, iff_false]
        split <;> simp
    · unfold Finding.Releases
      by_cases band : w.band = .veryHigh
      · simp [band]
      · simp [band, high]

/-- A loop that is switched is as asked, and one that comes on begins at its starting value. -/
theorem enabled_switch (l : Loop α) (d : Dial α) (flip : Option Bool) :
    (l.switch d flip).1.enabled = flip.getD l.enabled := by
  obtain _ | _ | _ := flip
  · rfl
  · rfl
  · show (l.enable d).1.enabled = true
    unfold enable
    split
    · assumption
    · rfl

/-- A loop whose switch is thrown has its dial at its starting value or released. -/
theorem dial_switch (l : Loop α) (d : Dial α) {flip : Option Bool}
    (flips : ∀ on, flip = some on → l.enabled ≠ on) :
    (l.switch d flip).2 =
      if (l.switch d flip).1.enabled = l.enabled then d
      else d.turn (if (l.switch d flip).1.enabled then l.start else l.releaseValue d) := by
  obtain _ | _ | _ := flip
  · exact (if_pos rfl).symm
  · exact (if_neg (Ne.symm (flips false rfl))).symm
  · have on : (l.enable d).1.enabled = true := l.enabled_switch d (some true)
    have off : l.enabled = false := by simpa using flips true rfl
    show (l.enable d).2 = if (l.enable d).1.enabled = l.enabled then _ else
      d.turn (if (l.enable d).1.enabled then _ else _)
    rw [on, off]
    unfold enable
    rw [off]
    rfl

end Loop

namespace Console

variable {c c' : Console α} {k : ℕ} {l m : Loop α}

/-! ## The secondary -/

omit [Quantity α] in
theorem flip?_found (found : c.loops[k]? = some m) (wish : Option Bool) :
    flip? wish (c.loops.drop k) = wish.filter fun wanted => m.enabled != wanted := by
  obtain ⟨lt, here⟩ := List.getElem?_eq_some_iff.mp found
  rw [List.drop_eq_getElem_cons lt, here]
  cases wish with
  | none => rfl
  | some wanted =>
    unfold flip?
    rw [Option.filter_some]
    by_cases same : m.enabled = wanted
    · simp [same]
    · simp [same]

theorem getD_filter_ne (on : Bool) (wish : Option Bool) :
    (wish.filter fun wanted => on != wanted).getD on = wish.getD on := by
  cases on <;> obtain _ | _ | _ := wish <;> rfl

/-- A switch of the secondary is told as what it was switched to. -/
theorem filter_ne_eq_some_iff (on wanted : Bool) (wish : Option Bool) :
    (wish.filter fun wanted => on != wanted) = some wanted ↔
      on ≠ wanted ∧ wish.getD on = wanted := by
  cases on <;> cases wanted <;> obtain _ | _ | _ := wish <;> decide

/-- **What an adjustment makes of the next loop**: it is switched as wished, if it is not so
    already. -/
theorem Owns.recalculate_next (owns : c.Owns (k + 1) m) (found : c.loops[k]? = some l)
    {observed : Span} {turn : Turn α} (turns : l.turn (dialAt c.panel l.dial) observed = turn)
    {flip : Option Bool} (flips : (turn.wish.filter fun wanted => m.enabled != wanted) = flip) :
    (c.recalculate k observed).1.Owns (k + 1) (m.switch (dialAt c.panel m.dial) flip).1 ∧
      dialAt (c.recalculate k observed).1.panel m.dial =
        (m.switch (dialAt c.panel m.dial) flip).2 := by
  have same : turn.loop.dial = l.dial := by
    rw [← turns]
    exact Loop.dial_of_make (l.turn_keeps _ observed).1
  obtain ⟨owns', steady⟩ :=
    owns.put_other (Nat.ne_of_lt (Nat.lt_succ_self k)) found same turn.dial
  rw [recalculate_eq_put found turns, flip?_found owns.found, flips]
  cases flip with
  | none => exact ⟨owns', steady⟩
  | some on =>
    simp only
    rw [switch_eq_put owns'.found, steady]
    obtain ⟨switched, there⟩ : ∃ x, m.switch (dialAt c.panel m.dial) (some on) = x := ⟨_, rfl⟩
    have dial : switched.1.dial = m.dial := by
      rw [← there]
      exact Loop.dial_of_make (m.switch_keeps (dialAt c.panel m.dial) (some on)).1
    rw [there, ← dial]
    exact ⟨owns'.put_self dial _, dialAt_set_self (dial ▸ owns'.there)⟩

/-! ## Runs -/

/-- What happens beside the windows of loop `k`: nothing that matters to its count of them, and
    nothing that switches its secondary. -/
structure Beside (k : ℕ) (c c' : Console α) : Prop where
  dials : c.SameDials c'
  primary : ∀ l, c.loops[k]? = some l →
    ∃ l', c'.loops[k]? = some l' ∧ l'.settings = l.settings ∧ l'.highWindows = l.highWindows
  secondary : ∀ m, c.loops[k + 1]? = some m →
    ∃ m', c'.loops[k + 1]? = some m' ∧ m'.enabled = m.enabled

/-- The windows of loop `k` so far, the latest first. -/
inductive Supervised (k : ℕ) (c₀ : Console α) : List (Finding α) → Console α → Prop where
  | start : Supervised k c₀ [] c₀
  | window {windows : List (Finding α)} {c : Console α} {l : Loop α}
      (run : Supervised k c₀ windows c) (found : c.loops[k]? = some l) (observed : Span) :
      Supervised k c₀ (l.finding (dialAt c.panel l.dial) observed :: windows)
        (c.recalculate k observed).1
  | beside {windows : List (Finding α)} {c c' : Console α} (run : Supervised k c₀ windows c)
      (beside : c.Beside k c') : Supervised k c₀ windows c'

/-- Loop `k` has counted no window, and its secondary is off and has a dial of its own. -/
structure Begins (s : LoopSettings α) (k : ℕ) (c : Console α) : Prop where
  placed : c.Placed
  primary : ∃ l, c.loops[k]? = some l ∧ l.settings = s ∧ l.highWindows = 0
  secondary : ∃ m, c.Owns (k + 1) m ∧ m.enabled = false
  ordered : s.least ≤ s.greatest
  sized : s.escalation ≤ LoopSettings.endlessEscalation

/-- What holds of a loop and its secondary after some windows. -/
structure Heeds (s : LoopSettings α) (k : ℕ) (windows : List (Finding α)) (c : Console α)
    (l m : Loop α) : Prop where
  placed : c.Placed
  found : c.loops[k]? = some l
  settings : l.settings = s
  counts : l.Counts windows
  owns : c.Owns (k + 1) m
  engaged : m.enabled = true ↔ s.Engages windows

variable {s : LoopSettings α} {windows : List (Finding α)} {c₀ : Console α}

theorem Heeds.turn (heeds : Heeds s k windows c l m) (ordered : s.least ≤ s.greatest)
    (sized : s.escalation ≤ LoopSettings.endlessEscalation) {observed : Span} {turn : Turn α}
    (turns : l.turn (dialAt c.panel l.dial) observed = turn) {w : Finding α}
    (finds : l.finding (dialAt c.panel l.dial) observed = w) :
    turn.loop.Counts (w :: windows) ∧ turn.fault? = none ∧ turn.smoothed = l.smooth observed ∧
      (turn.wish = some true ↔ s.Triggers (w :: windows)) ∧
      (turn.wish = some false ↔ w.Releases s) := by
  obtain ⟨-, -, rfl, counts, -, -⟩ := heeds
  obtain ⟨counted, triggers, releases⟩ := Loop.escalate_follows sized counts w
  subst turns finds
  rw [Loop.turn_eq ordered]
  exact ⟨counted, rfl, rfl, triggers, releases⟩

/-- **One more window.** -/
theorem Heeds.window (heeds : Heeds s k windows c l m) (ordered : s.least ≤ s.greatest)
    (sized : s.escalation ≤ LoopSettings.endlessEscalation) (observed : Span) :
    ∃ l' m', Heeds s k (l.finding (dialAt c.panel l.dial) observed :: windows)
      (c.recalculate k observed).1 l' m' := by
  obtain ⟨w, finds⟩ : ∃ w, l.finding (dialAt c.panel l.dial) observed = w := ⟨_, rfl⟩
  obtain ⟨turn, turns⟩ : ∃ turn, l.turn (dialAt c.panel l.dial) observed = turn := ⟨_, rfl⟩
  obtain ⟨counts, -, -, triggers, releases⟩ := heeds.turn ordered sized turns finds
  have switched := (heeds.owns.recalculate_next heeds.found turns rfl).1
  have found := found_recalculate heeds.found observed
  have settings := (l.settings_turn (dialAt c.panel l.dial) observed).trans heeds.settings
  rw [turns] at found settings
  rw [finds]
  refine ⟨turn.loop, _, (sameDials_recalculate c k observed).placed heeds.placed, found, settings,
    counts, switched, ?_⟩
  rw [Loop.enabled_switch, getD_filter_ne, LoopSettings.engages_cons_iff, ← triggers, ← releases,
    ← heeds.engaged]
  generalize turn.wish = wish
  cases m.enabled <;> obtain _ | _ | _ := wish <;> simp

theorem Heeds.beside (heeds : Heeds s k windows c l m) (beside : c.Beside k c') :
    ∃ l' m', Heeds s k windows c' l' m' := by
  obtain ⟨l', found, settings, high⟩ := beside.primary l heeds.found
  obtain ⟨m', secondary, enabled⟩ := beside.secondary m heeds.owns.found
  have counts : l'.Counts windows := by
    unfold Loop.Counts
    rw [settings, high]
    exact heeds.counts
  exact ⟨l', m', beside.dials.placed heeds.placed, found, settings.trans heeds.settings, counts,
    beside.dials.owns heeds.owns secondary, enabled ▸ heeds.engaged⟩

theorem Supervised.heeds (begins : c₀.Begins s k) (run : Supervised k c₀ windows c) :
    ∃ l m, Heeds s k windows c l m := by
  induction run with
  | start =>
    obtain ⟨placed, ⟨l, found, settings, none_⟩, ⟨m, owns, off⟩, -, -⟩ := begins
    refine ⟨l, m, placed, found, settings, ?_, owns, ?_⟩
    · unfold Loop.Counts
      rw [none_]
      exact (Nat.min_eq_left (Nat.zero_le _)).symm
    · rw [off]
      simpa using LoopSettings.not_engages_nil
  | window _ found observed ih =>
    obtain ⟨l, m, heeds⟩ := ih
    obtain rfl := Option.some.inj (found.symm.trans heeds.found)
    exact heeds.window begins.ordered begins.sized observed
  | beside _ beside ih =>
    obtain ⟨l, m, heeds⟩ := ih
    exact heeds.beside beside

/-- A window by hand. -/
theorem Supervised.next (begins : c₀.Begins s k) (run : Supervised k c₀ windows c)
    (observed : Span) : ∃ w, Supervised k c₀ (w :: windows) (c.recalculate k observed).1 := by
  obtain ⟨l, m, heeds⟩ := run.heeds begins
  exact ⟨_, run.window heeds.found observed⟩

/-- **What a window does to the secondary, and what it tells of it.** -/
structure Tells (k : ℕ) (observed : Span) (c : Console α) (l m m' : Loop α)
    (answer : Except Fault (Adjustment α)) : Prop where
  secondary : (c.recalculate k observed).1.loops[k + 1]? = some m'
  told : (c.recalculate k observed).2 = some answer
  /-- There is an account unless the smoothed response time is no span. -/
  isOk : answer.isOk = (Loop.spanOfMillis (l.smooth observed)).isOk
  flips : ∀ adjustment, answer = .ok adjustment →
    ∀ on, adjustment.secondary = some on ↔ m.enabled ≠ on ∧ m'.enabled = on
  dial : dialAt (c.recalculate k observed).1.panel m.dial =
    if m'.enabled = m.enabled then dialAt c.panel m.dial
    else (dialAt c.panel m.dial).turn
      (if m'.enabled then m.start else m.releaseValue (dialAt c.panel m.dial))

theorem Heeds.tells (heeds : Heeds s k windows c l m) (ordered : s.least ≤ s.greatest)
    (sized : s.escalation ≤ LoopSettings.endlessEscalation) (observed : Span) :
    ∃ m' answer, Tells k observed c l m m' answer := by
  obtain ⟨turn, turns⟩ : ∃ turn, l.turn (dialAt c.panel l.dial) observed = turn := ⟨_, rfl⟩
  obtain ⟨-, fine, smoothed, -, -⟩ := heeds.turn ordered sized turns rfl
  have told := recalculate_answer heeds.found turns
  rw [flip?_found heeds.owns.found] at told
  generalize flips : (turn.wish.filter fun wanted => m.enabled != wanted) = flip at told
  obtain ⟨owns, turned⟩ := heeds.owns.recalculate_next heeds.found turns flips
  obtain ⟨isOk, secondary⟩ := isOk_adjustment turn flip
    (dialAt (c.recalculate k observed).1.panel l.dial).value fine
  have enabled : (m.switch (dialAt c.panel m.dial) flip).1.enabled = turn.wish.getD m.enabled := by
    rw [Loop.enabled_switch, ← flips, getD_filter_ne]
  refine ⟨_, _, owns.found, told, smoothed ▸ isOk, fun adjustment made on => ?_, ?_⟩
  · rw [secondary adjustment made, enabled, ← flips]
    exact filter_ne_eq_some_iff m.enabled on turn.wish
  · rw [turned]
    refine m.dial_switch _ fun on switched => ?_
    rw [← flips, filter_ne_eq_some_iff] at switched
    exact switched.1

/-- **The secondary follows the windows.** After any windows of a loop it is on if and only if one
    of them has called for it and none has let it go since. A window tells that the secondary has
    been switched if and only if it has, if there is an account of the window, as there always is
    in a row of tame loops; and a secondary that is switched has its dial at its starting value or
    released. -/
theorem secondary_follows_windows {s : LoopSettings Float} {windows : List (Finding Float)}
    {c₀ c : Console Float} (begins : c₀.Begins s k) (run : Supervised k c₀ windows c) :
    ∃ l m, c.loops[k]? = some l ∧ c.loops[k + 1]? = some m ∧
      (m.enabled = true ↔ s.Engages windows) ∧
      ∀ observed, ∃ m' answer, Tells k observed c l m m' answer ∧
        (c.Tame → observed.nanos < UInt64.size → answer.isOk = true) := by
  obtain ⟨l, m, heeds⟩ := run.heeds begins
  refine ⟨l, m, heeds.found, heeds.owns.found, heeds.engaged, fun observed => ?_⟩
  obtain ⟨m', answer, tells⟩ := heeds.tells begins.ordered begins.sized observed
  exact ⟨m', answer, tells, fun tame short => tame.adjustment k short answer tells.told⟩

/-! ## A loop with a secondary -/

/-- A loop that is put in front of another begins. -/
theorem attach?_begins {settings : LoopSettings α} {number : ℕ} (placed : c.Placed)
    (owns : c.Owns 0 m) (other : number ≠ m.dial) (there : number < c.panel.length)
    (sized : settings.escalation ≤ LoopSettings.endlessEscalation)
    (attached : c.attach? settings number = .ok c') : c'.Begins settings.normalized 0 := by
  obtain ⟨m', secondary, -⟩ := owns.attach other attached
  have placed' := placed.attach there attached
  have off : c'.isOn 1 = false := by
    obtain ⟨l, d, -, -, rfl⟩ := attached_cases attached
    exact isOn_switchFirst_off _
  unfold attach? Loop.new? Quantity.clamp? at attached
  by_cases ordered : settings.normalized.least ≤ settings.normalized.greatest
  · simp only [if_pos ordered] at attached
    obtain rfl := Except.ok.inj attached
    exact ⟨placed', ⟨_, rfl, rfl, rfl⟩, ⟨m', secondary, secondary.isOn.symm.trans off⟩, ordered,
      sized⟩
  · simp only [if_neg ordered] at attached
    cases attached

/-- Settings that escalate after two batches, with this weight of the earlier response times. -/
def escalating (smoothing : Float) : LoopSettings Float :=
  { everyBatch 100 with smoothing, initial? := some 0.01, escalation := 2 }

/-- A loop over a threshold, which is to be the secondary. -/
def lastOfPair : Console Float := (Console.mk [] [.knob 1.0, .threshold 0]).withLoop 100 1

/-- A loop with such settings over a knob, and its secondary. -/
def escalatingPair (smoothing : Float) : Console Float :=
  (lastOfPair.attach? (escalating smoothing) 0).toOption.getD lastOfPair

theorem built_lastOfPair : lastOfPair.Built :=
  .attach (.bare _) List.not_mem_nil (by decide) (attach?_everyBatch 100 1 _)

theorem attach?_escalatingPair (smoothing : Float) :
    lastOfPair.attach? (escalating smoothing) 0 = .ok (escalatingPair smoothing) := by
  have ordered : (escalating smoothing).normalized.least ≤
      (escalating smoothing).normalized.greatest := by
    show (0.01 : Float) ≤ if (1.0 : Float) < 0.01 then 0.01 else 1.0
    decide +kernel
  unfold escalatingPair attach? Loop.new? Quantity.clamp?
  simp only [if_pos ordered]
  rfl

theorem built_escalatingPair (smoothing : Float) : (escalatingPair smoothing).Built :=
  .attach built_lastOfPair (by decide) (by decide) (attach?_escalatingPair smoothing)

theorem begins_escalatingPair (smoothing : Float) :
    (escalatingPair smoothing).Begins (escalating smoothing).normalized 0 := by
  have sized : 2 ≤ LoopSettings.endlessEscalation := by decide
  have wired := built_lastOfPair.wired
  exact attach?_begins wired.there (wired.owns rfl) (by decide) (by decide) sized
    (attach?_escalatingPair smoothing)

theorem tame_lastOfPair : lastOfPair.Tame := by
  have bare : Tame ⟨[], [.knob 1.0, .threshold 0]⟩ := fun _ mem => absurd mem List.not_mem_nil
  have weight : Double.IsNumber (everyBatch 100).smoothing := by decide +kernel
  exact bare.attach weight (attach?_everyBatch 100 1 _)

theorem tame_escalatingPair {smoothing : Float} (weight : Double.IsNumber smoothing) :
    (escalatingPair smoothing).Tame := by
  have weight : Double.IsNumber (escalating smoothing).smoothing := weight
  exact tame_lastOfPair.attach weight (attach?_escalatingPair smoothing)

/-- The second of two windows a fifth above the target brings the secondary on, and there is an
    account of the next one. -/
theorem secondary_follows_windows_high :
    let c := (((escalatingPair 0.5).recalculate 0 (.ofMillis 120)).1.recalculate 0
      (.ofMillis 120)).1
    (escalatingPair 0.5).Begins (escalating 0.5).normalized 0 ∧ c.isOn 1 = true ∧
      (∃ windows, Supervised 0 (escalatingPair 0.5) windows c ∧
        (escalating 0.5).normalized.Engages windows) ∧
      ∃ adjustment, (c.recalculate 0 (.ofMillis 10)).2 = some (.ok adjustment) := by
  intro c
  have begins := begins_escalatingPair 0.5
  have tame : c.Tame := ((tame_escalatingPair (by decide +kernel)).recalculate 0
    (by decide)).recalculate 0 (by decide)
  obtain ⟨first, run⟩ := Supervised.start.next begins (.ofMillis 120)
  obtain ⟨second, run⟩ := run.next begins (.ofMillis 120)
  obtain ⟨l, m, -, found, engaged, tells⟩ := secondary_follows_windows begins run
  have on : c.isOn 1 = true := by decide +kernel
  have enabled : m.enabled = true := by
    unfold isOn at on
    rw [found] at on
    exact on
  obtain ⟨m', answer, told, ok⟩ := tells (.ofMillis 10)
  have ok := ok tame (by decide)
  refine ⟨begins, on, ⟨[second, first], run, engaged.1 enabled⟩, ?_⟩
  cases answer with
  | error fault => exact absurd ok Bool.false_ne_true
  | ok adjustment => exact ⟨adjustment, told.told⟩

/-- **A window that brings the secondary on and does not tell so.** With a weight that is not a
    number, the second window has no smoothed response time that could be told. -/
theorem secondary_untold :
    let c := ((escalatingPair (0.0 / 0.0)).recalculate 0 (.ofMillis 120)).1
    (escalatingPair (0.0 / 0.0)).Begins (escalating (0.0 / 0.0)).normalized 0 ∧
      (∃ windows, Supervised 0 (escalatingPair (0.0 / 0.0)) windows c) ∧
      c.isOn 1 = false ∧ (c.recalculate 0 (.ofMillis 120)).1.isOn 1 = true ∧
      (c.recalculate 0 (.ofMillis 120)).2.any Except.isOk = false := by
  intro c
  have begins := begins_escalatingPair (0.0 / 0.0)
  obtain ⟨w, run⟩ := Supervised.start.next begins (.ofMillis 120)
  refine ⟨begins, ⟨[w], run⟩, ?_, ?_, ?_⟩
  · decide +kernel
  · decide +kernel
  · decide +kernel

end Console

end StagedEvents
