import StagedEvents.Proofs.Control.Row
import StagedEvents.Quantity.Double

/-!
# A row of loops of which only the first is fed

A row is built from its last loop to its first. From then on only the first loop is told of
batches, and each of the others is switched and fed by the one before it.

To switch a loop off does not switch off the loop after it. Such a loop is stranded: it hears of no
batch any more, and keeps holding events back.

* `Console.Built`, `Console.Fed`: how rows are built, and what happens to them then.
* `Console.Strands`: a loop is switched off whose secondary is on.
* `off_beneath_off`: as long as no loop is stranded, all loops beneath one that is off are off and
  released.
* `on_beneath_off`: a row of three with a loop that is on beneath one that is off.
-/

namespace StagedEvents.Console

open Relation (ReflTransGen)

variable {α : Type} [Quantity α]

/-- A row built from its last loop to its first, each over a dial of its own. -/
inductive Built : Console α → Prop where
  | bare (panel : Panel α) : Built ⟨[], panel⟩
  | attach {c c' : Console α} {settings : LoopSettings α} {number : ℕ} (built : Built c)
      (own : number ∉ c.loops.map Loop.dial) (there : number < c.panel.length)
      (attached : c.attach? settings number = .ok c') : Built c'

/-- What happens to a row of which only the first loop is told of batches. -/
inductive Fed (c : Console α) : Console α → Prop where
  /-- The first loop observes a batch, whatever the measurements are by then. -/
  | observe (stats : Stats) : Fed c (c.observe 0 stats).1
  /-- A dial decides whether events are let in. -/
  | ask (number occupancy incoming : ℕ) : Fed c (c.asked number occupancy incoming)

/-- A loop is switched off whose secondary is on. -/
def Strands (before after : Console α) : Prop :=
  ∃ i < before.loops.length,
    before.isOn i = true ∧ after.isOn i = false ∧ before.isOn (i + 1) = true

instance (before after : Console α) : Decidable (before.Strands after) :=
  inferInstanceAs (Decidable (∃ i < before.loops.length, _))

/-- What has happened so far has left no loop stranded. -/
def Spared : Console α → Console α → Prop :=
  ReflTransGen fun before after => before.Fed after ∧ ¬before.Strands after

/-- A loop that is on is the secondary of one that is on. -/
def Nested (c : Console α) : Prop := ∀ i, c.isOn (i + 1) = true → c.isOn i = true

variable {c₀ c c' : Console α}

/-! ## How the row begins -/

/-- A new first loop is on, and the row beneath it has its first loop switched off. -/
theorem attached_cases {settings : LoopSettings α} {number : ℕ}
    (attached : c.attach? settings number = .ok c') :
    ∃ (l : Loop α) (d : Dial α), l.dial = number ∧ l.enabled = true ∧
      c' = (switchFirst (some false) ⟨c.loops, c.panel.set number d⟩).cons l := by
  unfold attach? Loop.new? at attached
  cases clamped : Quantity.clamp? settings.normalized.least settings.normalized.greatest
      (settings.normalized.initial?.getD (dialAt c.panel number).value) with
  | none => simp only [clamped] at attached; cases attached
  | some start =>
    simp only [clamped] at attached
    exact ⟨_, _, rfl, rfl, (Except.ok.inj attached).symm⟩

theorem attached_keeps {settings : LoopSettings α} {number : ℕ}
    (attached : c.attach? settings number = .ok c') :
    c'.loops.map Loop.dial = number :: c.loops.map Loop.dial ∧
      c'.panel.length = c.panel.length := by
  obtain ⟨l, d, here, -, rfl⟩ := attached_cases attached
  have heard := heard_switchFirst (some false) (⟨c.loops, c.panel.set number d⟩ : Console α)
  refine ⟨?_, heard.length_eq.trans List.length_set⟩
  show l.dial :: List.map Loop.dial _ = _
  rw [heard.dials, here]

theorem isOn_switchFirst_off (c : Console α) : (c.switchFirst (some false)).isOn 0 = false := by
  obtain ⟨loops, panel⟩ := c
  cases loops with
  | nil => rfl
  | cons l rest => rfl

theorem isOn_switchFirst_succ (flip : Option Bool) (c : Console α) (i : ℕ) :
    (c.switchFirst flip).isOn (i + 1) = c.isOn (i + 1) := by
  obtain ⟨loops, panel⟩ := c
  cases loops with
  | nil => rfl
  | cons l rest => rfl

/-- Only the first loop of a new row is on. -/
theorem Built.secondaries_off (built : c.Built) (i : ℕ) : c.isOn (i + 1) = false := by
  induction built generalizing i with
  | bare panel => rfl
  | attach earlier own there attached ih =>
    obtain ⟨l, d, -, -, rfl⟩ := attached_cases attached
    cases i with
    | zero => exact isOn_switchFirst_off _
    | succ i => exact (isOn_switchFirst_succ _ _ i).trans (ih i)

theorem Built.wired (built : c.Built) : c.Wired := by
  induction built with
  | bare panel => exact ⟨List.nodup_nil, fun number mem => absurd mem List.not_mem_nil⟩
  | attach earlier own there attached ih =>
    obtain ⟨dials, length⟩ := attached_keeps attached
    constructor
    · rw [dials]
      exact List.nodup_cons.mpr ⟨own, ih.own⟩
    · rw [dials, length]
      intro n mem
      obtain first | later := List.mem_cons.mp mem
      · rw [first]
        exact there
      · exact ih.there n later

theorem Built.atRest (built : c.Built) : c.AtRest := by
  induction built with
  | bare panel => exact fun l mem => absurd mem List.not_mem_nil
  | @attach c c' settings number earlier own there attached ih =>
    obtain ⟨l, d, here, on, rfl⟩ := attached_cases attached
    have below := (heard_switchFirst (some false) _)
      |>.atRest (earlier.wired.set number d) (ih.set own d)
    intro m mem
    obtain first | later := List.mem_cons.mp mem
    · subst first
      intro off
      exact absurd (off.symm.trans on) (by simp)
    · exact below m later

/-! ## What happens to it -/

omit [Quantity α] in
theorem lt_of_isOn {i : ℕ} (on : c.isOn i = true) : i < c.loops.length := by
  by_contra beyond
  unfold isOn at on
  rw [List.getElem?_eq_none (Nat.le_of_not_lt beyond)] at on
  exact absurd on (by simp)

/-- What the first loop observes is all that can switch loops. -/
theorem Fed.cases (fed : c.Fed c') (wired : c.Wired) :
    c.Heard c' ∨ ∃ number occupancy incoming, c' = c.asked number occupancy incoming := by
  cases fed with
  | observe stats =>
    exact .inl (heard_observeRow stats Option.none c.loops c.panel wired.there)
  | ask number occupancy incoming => exact .inr ⟨number, occupancy, incoming, rfl⟩

theorem Fed.wired (fed : c.Fed c') (wired : c.Wired) : c'.Wired := by
  obtain heard | ⟨number, occupancy, incoming, rfl⟩ := fed.cases wired
  · exact heard.wired wired
  · exact wired.set number _

theorem Fed.atRest (fed : c.Fed c') (wired : c.Wired) (atRest : c.AtRest) : c'.AtRest := by
  obtain heard | ⟨number, occupancy, incoming, rfl⟩ := fed.cases wired
  · exact heard.atRest wired atRest
  · intro l mem
    show l.Idle (dialAt (c.panel.set number _) l.dial)
    by_cases here : number = l.dial
    · rw [here, dialAt_set_self (wired.there l.dial (List.mem_map_of_mem mem))]
      exact (Loop.Touch.ask occupancy incoming).idle (atRest l mem)
    · rw [dialAt_set_of_ne here]
      exact atRest l mem

/-- A loop that goes on beneath one that goes off was on before. -/
theorem Fed.nested (fed : c.Fed c') (wired : c.Wired) (nested : c.Nested)
    (spared : ¬c.Strands c') : c'.Nested := by
  intro i below
  obtain heard | ⟨number, occupancy, incoming, rfl⟩ := fed.cases wired
  · by_contra off
    have off : c'.isOn i = false := by simpa using off
    by_cases was : c.isOn (i + 1) = true
    · have on := nested i was
      exact spared ⟨i, lt_of_isOn on, on, off, was⟩
    · have on := heard.beneath (by simpa using was) below
      exact absurd (off.symm.trans on) (by simp)
  · exact nested i below

omit [Quantity α] in
theorem Nested.off_below (nested : c.Nested) {i j : ℕ} (lt : i < j) (off : c.isOn i = false) :
    c.isOn j = false := by
  induction lt with
  | refl =>
    by_contra on
    have above := nested i (by simpa using on)
    exact absurd (off.symm.trans above) (by simp)
  | @step j lt ih =>
    by_contra on
    have above := nested j (by simpa using on)
    exact absurd (ih.symm.trans above) (by simp)

theorem kept_of_fed (built : c₀.Built) (fed : ReflTransGen Fed c₀ c) : c.Wired ∧ c.AtRest := by
  induction fed with
  | refl => exact ⟨built.wired, built.atRest⟩
  | tail _ last ih => exact ⟨last.wired ih.1, last.atRest ih.1 ih.2⟩

theorem nested_of_spared (built : c₀.Built) (spared : c₀.Spared c) : c.Nested := by
  induction spared with
  | refl =>
    intro i below
    exact absurd ((built.secondaries_off i).symm.trans below) (by simp)
  | tail earlier last ih =>
    have fed := ReflTransGen.mono (fun _ _ step => step.1) _ _ earlier
    exact last.1.nested (kept_of_fed built fed).1 ih last.2

/-- **A row never holds events back by a loop that is off**, and as long as no loop is stranded,
    all loops beneath one that is off are off and have released their dials. -/
theorem off_beneath_off (built : c₀.Built) (fed : ReflTransGen Fed c₀ c) :
    (∀ l ∈ c.loops, l.enabled = false → l.Released (dialAt c.panel l.dial)) ∧
    (c₀.Spared c → ∀ i j l, i < j → c.isOn i = false → c.loops[j]? = some l →
      l.enabled = false ∧ l.Released (dialAt c.panel l.dial)) := by
  have atRest := (kept_of_fed built fed).2
  refine ⟨atRest, fun spared i j l lt off found => ?_⟩
  have below := (nested_of_spared built spared).off_below lt off
  have off : l.enabled = false := by
    unfold isOn at below
    rw [found] at below
    exact below
  exact ⟨off, atRest l (List.mem_of_getElem? found) off⟩

/-! ## Rows of three -/

/-- Settings that adjust a loop with every batch, to the response time of that batch. -/
def everyBatch (target : ℕ) : LoopSettings Float :=
  { LoopSettings.quality (.ofMillis target) with smoothing := 0.0, window := 1 }

/-- The row with such a loop in front. -/
def withLoop (target number : ℕ) (c : Console Float) : Console Float :=
  (c.attach? (everyBatch target) number).toOption.getD c

theorem attach?_everyBatch (target number : ℕ) (c : Console Float) :
    c.attach? (everyBatch target) number = .ok (c.withLoop target number) := by
  have ordered : (everyBatch target).normalized.least ≤ (everyBatch target).normalized.greatest := by
    show (0.01 : Float) ≤ if (1.0 : Float) < 0.01 then 0.01 else 1.0
    decide +kernel
  unfold withLoop attach? Loop.new? Quantity.clamp?
  simp only [if_pos ordered]
  rfl

/-- Three loops, each over a threshold of its own, the first with a target of 100 ms. -/
def threesome (second third : ℕ) : Console Float :=
  (Console.mk [] (List.replicate 3 (.threshold 0))).withLoop third 2
    |>.withLoop second 1 |>.withLoop 100 0

theorem built_threesome (second third : ℕ) : (threesome second third).Built := by
  have keeps (target number : ℕ) (c : Console Float) :=
    attached_keeps (attach?_everyBatch target number c)
  refine .attach (.attach (.attach (.bare _) ?_ ?_ (attach?_everyBatch third 2 _)) ?_ ?_
    (attach?_everyBatch second 1 _)) ?_ ?_ (attach?_everyBatch 100 0 _)
  all_goals simp [keeps]

/-- The row after a batch that took this long. -/
def after (millis : ℕ) (c : Console Float) : Console Float :=
  (c.observe 0 (Stats.new.recordBatch 1 (.ofMillis millis))).1

theorem fed_after (millis : ℕ) (c : Console Float) : c.Fed (c.after millis) := .observe _

/-- A slow batch brings the second loop on, which has a greater target, and a quick one sends it
    off again. The third has been off and released all the while. -/
theorem off_beneath_off_spared :
    let c := ((threesome 300 300).after 200).after 1
    (threesome 300 300).Spared c ∧ c.isOn 1 = false ∧
      ∀ l, c.loops[2]? = some l → l.enabled = false ∧ l.Released (dialAt c.panel l.dial) := by
  intro c
  have spared : (threesome 300 300).Spared c :=
    .tail (.single ⟨fed_after 200 _, by decide +kernel⟩) ⟨fed_after 1 _, by decide +kernel⟩
  have fed : ReflTransGen Fed (threesome 300 300) c := .tail (.single (fed_after 200 _)) (fed_after 1 _)
  have off : c.isOn 1 = false := by decide +kernel
  exact ⟨spared, off, fun l =>
    (off_beneath_off (built_threesome 300 300) fed).2 spared 1 2 l (by decide) off⟩

/-- **A loop that is switched off leaves its secondary on.** A slow batch brings all three loops on.
    The quick one after it sends the second off, and the third goes on holding events back. -/
theorem on_beneath_off :
    let c := ((threesome 100 100).after 200).after 1
    (threesome 100 100).Built ∧ ReflTransGen Fed (threesome 100 100) c ∧
      c.isOn 1 = false ∧ c.isOn 2 = true ∧ ((dialAt c.panel 2).accept 1 1).1 = false := by
  refine ⟨built_threesome 100 100, .tail (.single (fed_after 200 _)) (fed_after 1 _), ?_, ?_, ?_⟩
  · decide +kernel
  · decide +kernel
  · decide +kernel

end StagedEvents.Console
