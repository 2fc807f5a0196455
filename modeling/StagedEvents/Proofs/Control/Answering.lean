import StagedEvents.Proofs.Control.Descent
import StagedEvents.Proofs.Double.Spans

/-!
# Rows that always answer

A loop cannot adjust itself if its bounds are out of order, and it cannot tell a smoothed response
time that is next to no span. A loop whose bounds are in order, and whose weight for smoothing is
well below one, is never in such a state: whatever it is told, about response times that a machine
word of nanoseconds holds, it has an answer. So does a row of such loops.

* `Stats.Measured`: batch times that a word of nanoseconds holds.
* `Loop.Tame`: loops that always answer.
* `Console.Tame.recalculate`, `Console.Tame.adjustment`: an adjustment by hand in a row of such loops.
* `Console.Tame.observe`: an observation of such a row.
* `Loop.adjustment_lost`: a weight that is no number, after which no adjustment has a result.
-/

namespace StagedEvents

open Double

/-! ## Measurements -/

theorem Window.percentile_lt {α : Type} [Quantity α] {w : Window} {bound : ℕ} (pos : 0 < bound)
    (all : ∀ nanos ∈ w.held, nanos < bound) (p : α) : (w.percentile p).nanos < bound := by
  show (w.sorted[Window.place w.count p]?).getD 0 < bound
  cases found : w.sorted[Window.place w.count p]? with
  | none => exact pos
  | some nanos => exact all nanos (List.mem_mergeSort.mp (List.mem_of_getElem? found))

namespace Stats

/-- Every batch time is a machine word of nanoseconds, as they are recorded. -/
def Measured (s : Stats) : Prop := ∀ nanos ∈ s.times.held, nanos < UInt64.size

theorem measured_empty (size : ℕ) : (withTimes (.empty size)).Measured :=
  fun _ held => absurd held List.not_mem_nil

theorem Measured.recordBatch {s : Stats} (measured : s.Measured) (count : ℕ) (elapsed : Span) :
    (s.recordBatch count elapsed).Measured := by
  intro nanos held
  have held : nanos ∈ s.times.held ++ [elapsed.nanos % UInt64.size] := List.mem_of_mem_drop held
  rcases List.mem_append.mp held with earlier | latest
  · exact measured nanos earlier
  · rw [List.mem_singleton.mp latest]
    exact Nat.mod_lt _ (by decide)

theorem Measured.ninetieth {s : Stats} (measured : s.Measured) :
    s.ninetieth.nanos < UInt64.size := Window.percentile_lt (by decide) measured _

end Stats

/-! ## One loop -/

namespace Loop

variable {l : Loop Float} {observed : Span}

theorem spanOfMillis_of_upTo {x : Float} (hx : UpTo x (2 ^ 56)) :
    (spanOfMillis x).isOk = true := by
  obtain ⟨finite, exact⟩ := isFinite_thousand
  obtain ⟨span, near⟩ := ofSeconds?_of_upTo (hx.div (by decide) finite (by omega))
  have near : (Quantity.ofSeconds? (x / 1000.0) : Option Span) = some span := near
  unfold spanOfMillis
  rw [near]
  rfl

/-- The bounds of the loop are in order, and what it smooths stays below a bound. -/
structure Tame (l : Loop Float) : Prop where
  ordered : l.settings.least ≤ l.settings.greatest
  weight : Weight l.settings.smoothing
  smoothed : ∀ x, l.smoothed? = some x → UpTo x (2 ^ 56)

/-- What such a loop smooths next is below the bound again. -/
theorem Tame.smooth (tame : l.Tame) (short : observed.nanos < UInt64.size) :
    UpTo (l.smooth observed) (2 ^ 56) := by
  have sample := upTo_millis short
  unfold Loop.smooth
  cases earlier : l.smoothed? with
  | none => exact sample.mono (by decide)
  | some x => exact tame.weight.mean (tame.smoothed x earlier) sample

/-- **An adjustment of such a loop has a result**, and leaves such a loop. -/
theorem Tame.turn (tame : l.Tame) (d : Dial Float) (short : observed.nanos < UInt64.size) :
    (l.turn d observed).loop.Tame ∧ (l.turn d observed).fault? = none ∧
      UpTo (l.turn d observed).smoothed (2 ^ 56) := by
  have smoothed := tame.smooth short
  rw [turn_eq tame.ordered]
  refine ⟨⟨tame.ordered, tame.weight, fun x same => ?_⟩, rfl, smoothed⟩
  obtain rfl := Option.some.inj same
  exact smoothed

/-- A new loop starts if its bounds are in order. -/
theorem new?_cases (s : LoopSettings Float) (number : ℕ) (d : Dial Float) :
    (s.normalized.least ≤ s.normalized.greatest ∧ ∃ l d', Loop.new? s number d = .ok (l, d') ∧
      l.settings = s.normalized ∧ l.smoothed? = none) ∨
    (¬s.normalized.least ≤ s.normalized.greatest ∧
      Loop.new? s number d = .error .disorderedBounds) := by
  unfold Loop.new? Quantity.clamp?
  by_cases ordered : s.normalized.least ≤ s.normalized.greatest
  · refine .inl ⟨ordered, ?_⟩
    simp only [if_pos ordered]
    exact ⟨_, _, rfl, rfl, rfl⟩
  · refine .inr ⟨ordered, ?_⟩
    simp only [if_neg ordered]

/-- A new loop is such a loop, if it has come to be and its weight is a number. -/
theorem tame_of_fresh {s : LoopSettings Float} (same : l.settings = s.normalized)
    (ordered : s.normalized.least ≤ s.normalized.greatest) (weight : IsNumber s.smoothing)
    (fresh : l.smoothed? = none) : l.Tame := by
  refine ⟨same ▸ ordered, ?_, fun x earlier => absurd (fresh.symm.trans earlier) (by simp)⟩
  rw [same]
  exact weight_clamp weight

theorem Tame.count (tame : l.Tame) : l.count.Tame := ⟨tame.ordered, tame.weight, tame.smoothed⟩

theorem Tame.switch (tame : l.Tame) (d : Dial Float) (flip : Option Bool) :
    (l.switch d flip).1.Tame := by
  obtain _ | _ | _ := flip
  · exact tame
  · exact ⟨tame.ordered, tame.weight, tame.smoothed⟩
  · show (l.enable d).1.Tame
    unfold enable
    split
    · exact tame
    · exact ⟨tame.ordered, tame.weight, tame.smoothed⟩

/-- **Such a loop can tell its smoothed response time**, once it has one. -/
theorem Tame.smoothedSpan (tame : l.Tame) :
    ∀ answer ∈ l.smoothedSpan, answer.isOk = true := by
  intro answer told
  unfold Loop.smoothedSpan at told
  obtain ⟨x, smoothed, rfl⟩ := Option.map_eq_some_iff.mp told
  exact spanOfMillis_of_upTo (tame.smoothed x smoothed)

theorem smoothed_turn (l : Loop Float) (d : Dial Float) (observed : Span) :
    (l.turn d observed).smoothed = l.smooth observed := by
  unfold Loop.turn
  simp only
  split <;> rfl

/-- **A weight that is no number** makes what is smoothed no number, once there is an earlier
    response time, and then no adjustment has a result. -/
theorem adjustment_lost (weight : ¬IsNumber l.settings.smoothing) {x : Float}
    (earlier : l.smoothed? = some x) (d : Dial Float) (secondary : Option Bool) (value : Float) :
    ((l.turn d observed).adjustment secondary value).isOk = false := by
  have lost : ¬IsNumber (l.turn d observed).smoothed := by
    rw [smoothed_turn]
    unfold Loop.smooth
    rw [earlier]
    exact add_notNumber (mul_notNumber weight x) _
  have nowhere : spanOfMillis (l.turn d observed).smoothed = .error .unrepresentableSpan := by
    have none : (Quantity.ofSeconds? ((l.turn d observed).smoothed / 1000.0) : Option Span) =
        none := ofSeconds?_of_notNumber (div_notNumber lost _)
    unfold spanOfMillis
    rw [none]
  unfold Turn.adjustment
  rw [nowhere]
  split <;> rfl

end Loop

/-! ## A row of loops -/

namespace Console

section Answers

variable {α : Type} [Quantity α]

theorem isOk_map {ρ σ : Type} (f : ρ → σ) (outcome : Except Fault ρ) :
    (outcome.map f).isOk = outcome.isOk := by
  cases outcome <;> rfl

variable {c : Console α} {k : ℕ}

theorem recalculate_beyond_answer (beyond : c.loops[k]? = none) (observed : Span) :
    (c.recalculate k observed).2 = none := by
  unfold recalculate atLoop recalculateFirst
  rw [List.drop_eq_nil_of_le (List.getElem?_eq_none_iff.mp beyond)]

theorem length_recalculate (c : Console α) (k : ℕ) (observed : Span) :
    (c.recalculate k observed).1.loops.length = c.loops.length := by
  have same := congrArg List.length (sameDials_recalculate c k observed).1
  rwa [List.length_map, List.length_map] at same

end Answers

/-- All loops of the row are tame. -/
def Tame (c : Console Float) : Prop := ∀ l ∈ c.loops, l.Tame

variable {c : Console Float} {k : ℕ} {l : Loop Float} {observed : Span} {stats : Stats}

theorem Tame.found (tame : c.Tame) (found : c.loops[k]? = some l) : l.Tame :=
  tame l (List.mem_of_getElem? found)

theorem Tame.put (tame : c.Tame) (hl : l.Tame) (d : Dial Float) : (c.put k l d).Tame := by
  intro m mem
  rcases List.mem_or_eq_of_mem_set mem with there | rfl
  · exact tame m there
  · exact hl

theorem Tame.switch (tame : c.Tame) (k : ℕ) (on : Bool) : (c.switch k on).Tame := by
  cases found : c.loops[k]? with
  | none =>
    rw [switch_beyond found]
    exact tame
  | some l =>
    rw [switch_eq_put found]
    exact tame.put ((tame.found found).switch _ _) _

theorem Tame.switchFirst (tame : c.Tame) (flip : Option Bool) : (c.switchFirst flip).Tame := by
  obtain ⟨loops, panel⟩ := c
  cases loops with
  | nil => exact tame
  | cons l rest =>
    intro m mem
    rcases List.mem_cons.mp mem with rfl | later
    · exact (tame l List.mem_cons_self).switch _ _
    · exact tame m (List.mem_cons_of_mem l later)

/-- A row stays tame when a loop whose weight is a number is put in front of it. -/
theorem Tame.attach (tame : c.Tame) {settings : LoopSettings Float} {number : ℕ}
    (weight : IsNumber settings.smoothing) {c' : Console Float}
    (attached : c.attach? settings number = .ok c') : c'.Tame := by
  unfold attach? at attached
  rcases Loop.new?_cases settings number (dialAt c.panel number) with
    ⟨ordered, l, d, new, same, fresh⟩ | ⟨-, failed⟩
  · simp only [new] at attached
    obtain rfl := Except.ok.inj attached
    have below : Tame ⟨c.loops, c.panel.set number d⟩ := tame
    intro m mem
    rcases List.mem_cons.mp mem with rfl | later
    · exact Loop.tame_of_fresh same ordered weight fresh
    · exact below.switchFirst (some false) m later
  · simp only [failed] at attached
    cases attached

theorem Tame.recalculate (tame : c.Tame) (k : ℕ) (short : observed.nanos < UInt64.size) :
    (c.recalculate k observed).1.Tame := by
  cases found : c.loops[k]? with
  | none =>
    rw [recalculate_beyond found]
    exact tame
  | some l =>
    have turned := ((tame.found found).turn (dialAt c.panel l.dial) short).1
    rw [recalculate_eq_put found rfl]
    split
    · exact tame.put turned _
    · exact (tame.put turned _).switch _ _

/-- An adjustment of a loop in such a row has a result. -/
theorem Tame.adjustment (tame : c.Tame) (k : ℕ) (short : observed.nanos < UInt64.size) :
    ∀ adjustment ∈ (c.recalculate k observed).2, adjustment.isOk = true := by
  intro adjustment answered
  cases found : c.loops[k]? with
  | none =>
    rw [recalculate_beyond_answer found] at answered
    cases answered
  | some l =>
    obtain ⟨-, fine, smoothed⟩ := (tame.found found).turn (dialAt c.panel l.dial) short
    rw [recalculate_answer found rfl] at answered
    obtain rfl := Option.some.inj answered
    rw [(isOk_adjustment _ _ _ fine).1]
    exact Loop.spanOfMillis_of_upTo smoothed

theorem Tame.counted (tame : c.Tame) (found : c.loops[k]? = some l) : (c.counted k l).Tame := by
  intro m mem
  rcases List.mem_or_eq_of_mem_set mem with there | rfl
  · exact tame m there
  · exact (tame.found found).count

/-- **Every loop that a batch comes to can adjust itself.** The induction is on the loops that
    follow in the row. -/
theorem Tame.observe (tame : c.Tame) (k : ℕ) (measured : stats.Measured) :
    (c.observe k stats).1.Tame ∧ (c.observe k stats).2.isOk = true := by
  induction ahead : c.loops.length - k generalizing c k with
  | zero =>
    rw [observe_beyond (List.getElem?_eq_none (by omega))]
    exact ⟨tame, rfl⟩
  | succ n ih =>
    obtain ⟨l, found⟩ : ∃ l, c.loops[k]? = some l :=
      ⟨c.loops[k], List.getElem?_eq_getElem (by omega)⟩
    cases on : l.enabled with
    | false =>
      rw [observe_off found on]
      exact ⟨tame, rfl⟩
    | true =>
      have counted := tame.counted found
      have length : (c.counted k l).loops.length = c.loops.length := List.length_set
      rw [observe_on found on]
      split
      · obtain ⟨below, ok⟩ := ih counted (k + 1) (by omega)
        exact ⟨below, (isOk_map _ _).trans ok⟩
      · have adjusted := counted.recalculate k measured.ninetieth
        have adjustment := counted.adjustment k measured.ninetieth
        have same := length_recalculate (c.counted k l) k stats.ninetieth
        revert adjusted adjustment same
        generalize (c.counted k l).recalculate k stats.ninetieth = outcome
        obtain ⟨after, _ | _ | adjustment⟩ := outcome <;> intro adjusted answers same
        · exact ⟨adjusted, rfl⟩
        · exact absurd (answers _ rfl) Bool.false_ne_true
        · obtain ⟨below, ok⟩ := ih adjusted (k + 1) (by omega)
          exact ⟨below, (isOk_map _ _).trans ok⟩

end Console

end StagedEvents
