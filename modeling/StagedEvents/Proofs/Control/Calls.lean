import StagedEvents.Control.Observers
import StagedEvents.Proofs.Control.Feed

/-!
# Loops that are observed and switched at the same time

Observations of a row of loops go on side by side, and in between loops are switched on and off by
hand. An observation may have found a loop on and completed a window of it, and reach for the loop
only after the loop has been switched off, or off and on again.

* `Calls.Step`: one step of an observation, or one call that switches a loop.
* `Console.Owns.step`: such a step touches a loop and its dial at most once.
* `Calls.released_while_off`: a loop that is off has released its dial and is not adjusted.
-/

namespace StagedEvents

open Relation (ReflTransGen)

variable {α : Type} [Quantity α]

namespace Console

/-- The row with this loop as number `i`, and its dial turned. -/
def put (i : ℕ) (l : Loop α) (d : Dial α) (c : Console α) : Console α :=
  ⟨c.loops.set i l, c.panel.set l.dial d⟩

variable {c : Console α} {i k : ℕ} {l m : Loop α}

theorem switch_eq_put (found : c.loops[i]? = some l) (on : Bool) :
    c.switch i on =
      c.put i (l.switch (dialAt c.panel l.dial) (some on)).1
        (l.switch (dialAt c.panel l.dial) (some on)).2 := by
  obtain ⟨lt, here⟩ := List.getElem?_eq_some_iff.mp found
  unfold switch atLoop switchFirst put
  rw [List.drop_eq_getElem_cons lt, here, List.set_eq_take_append_cons_drop, if_pos lt]

theorem switch_beyond (beyond : c.loops[i]? = none) (on : Bool) : c.switch i on = c := by
  have le := List.getElem?_eq_none_iff.mp beyond
  unfold switch atLoop switchFirst
  rw [List.drop_eq_nil_of_le le, List.take_of_length_le le]
  simp

theorem switchFirst_none (c : Console α) : c.switchFirst none = c := by
  obtain ⟨loops, panel⟩ := c
  cases loops with
  | nil => rfl
  | cons l rest =>
    show Console.mk (l :: rest) (panel.set l.dial (dialAt panel l.dial)) = _
    rw [set_dialAt]

theorem recalculate_eq_put (found : c.loops[i]? = some l) {observed : Span} {turn : Turn α}
    (turns : l.turn (dialAt c.panel l.dial) observed = turn) :
    (c.recalculate i observed).1 =
      match flip? turn.wish (c.loops.drop (i + 1)) with
      | none => c.put i turn.loop turn.dial
      | some on => (c.put i turn.loop turn.dial).switch (i + 1) on := by
  obtain ⟨lt, here⟩ := List.getElem?_eq_some_iff.mp found
  have number : turn.loop.dial = l.dial := by
    rw [← turns]
    exact Loop.dial_of_make (l.turn_keeps _ observed).1
  unfold recalculate atLoop recalculateFirst put
  rw [List.drop_eq_getElem_cons lt, here, number]
  simp only [turns]
  cases flips : flip? turn.wish (c.loops.drop (i + 1)) with
  | none =>
    have placed : c.loops.set i turn.loop =
        c.loops.take i ++ turn.loop :: c.loops.drop (i + 1) := by
      rw [List.set_eq_take_append_cons_drop, if_pos lt]
    rw [switchFirst_none, placed]
    rfl
  | some on =>
    have taken : (c.loops.set i turn.loop).take (i + 1) = c.loops.take i ++ [turn.loop] := by
      rw [List.take_add_one, List.take_set_of_le (Nat.le_refl i), List.getElem?_set_self lt]
      rfl
    unfold switch atLoop
    simp only
    rw [taken, List.drop_set_of_lt (Nat.lt_succ_self i), List.append_assoc]
    rfl

/-! ## One loop and its dial -/

/-- Loop `k` is `l`, its dial is on the panel and no other loop turns it. -/
structure Owns (c : Console α) (k : ℕ) (l : Loop α) : Prop where
  found : c.loops[k]? = some l
  there : l.dial < c.panel.length
  alone : ∀ j m, c.loops[j]? = some m → m.dial = l.dial → j = k

omit [Quantity α] in
theorem Wired.owns (wired : c.Wired) (found : c.loops[k]? = some l) : c.Owns k l := by
  refine ⟨found, wired.there l.dial (List.mem_map_of_mem (List.mem_of_getElem? found)), ?_⟩
  intro j m there same
  have dials : (c.loops.map Loop.dial)[j]? = (c.loops.map Loop.dial)[k]? := by
    rw [List.getElem?_map, List.getElem?_map, there, found, Option.map_some, same]
    rfl
  have lt := (List.getElem?_eq_some_iff.mp there).1
  exact (List.getElem?_inj (by rwa [List.length_map]) wired.own).mp dials

omit [Quantity α] in
theorem Owns.isOn (owns : c.Owns k l) : c.isOn k = l.enabled := by
  unfold Console.isOn
  rw [owns.found]
  rfl

/-- Loop `k` and its dial are in `c'` as they are in `c`. -/
def Steady (k : ℕ) (l : Loop α) (c c' : Console α) : Prop :=
  c'.Owns k l ∧ dialAt c'.panel l.dial = dialAt c.panel l.dial

/-- Loop `k` and its dial are in `c'` what one touch makes of them. -/
def Touched (k : ℕ) (l : Loop α) (c c' : Console α) : Prop :=
  ∃ l', c'.Owns k l' ∧ l.Touch (dialAt c.panel l.dial) l' (dialAt c'.panel l'.dial)

variable {c' c'' : Console α} {l' m' : Loop α} {d : Dial α}

theorem Steady.touched (steady : Steady k l c c') : Touched k l c c' := by
  refine ⟨l, steady.1, ?_⟩
  rw [steady.2]
  exact .switch none

theorem Steady.then (steady : Steady k l c c') (touched : Touched k l c' c'') :
    Touched k l c c'' := by
  obtain ⟨l', owns, touch⟩ := touched
  rw [steady.2] at touch
  exact ⟨l', owns, touch⟩

omit [Quantity α] in
theorem Owns.put_self (owns : c.Owns k l) (same : l'.dial = l.dial) (d : Dial α) :
    (c.put k l' d).Owns k l' := by
  refine ⟨?_, ?_, ?_⟩
  · have here := (List.getElem?_eq_some_iff.mp owns.found).1
    exact List.getElem?_set_self here
  · show l'.dial < (c.panel.set l'.dial d).length
    rw [List.length_set, same]
    exact owns.there
  · intro j m found turns
    by_contra ne
    have was : c.loops[j]? = some m := by
      rw [← found]
      exact (List.getElem?_set_ne (Ne.symm ne)).symm
    exact ne (owns.alone j m was (turns.trans same))

theorem Owns.put_other (owns : c.Owns k l) (ne : i ≠ k) (found : c.loops[i]? = some m)
    (same : m'.dial = m.dial) (d : Dial α) : Steady k l c (c.put i m' d) := by
  have apart : m'.dial ≠ l.dial := by
    intro shared
    exact ne (owns.alone i m found (same.symm.trans shared))
  refine ⟨⟨?_, ?_, ?_⟩, dialAt_set_of_ne apart⟩
  · rw [← owns.found]
    exact List.getElem?_set_ne ne
  · show l.dial < (c.panel.set m'.dial d).length
    rw [List.length_set]
    exact owns.there
  · intro j x there turns
    by_cases here : i = j
    · subst here
      have lt := (List.getElem?_eq_some_iff.mp found).1
      have x_eq : m' = x := Option.some.inj ((List.getElem?_set_self lt).symm.trans there)
      rw [x_eq] at apart
      exact absurd turns apart
    · have was : c.loops[j]? = some x := by
        rw [← there]
        exact (List.getElem?_set_ne here).symm
      exact owns.alone j x was turns

theorem Owns.put (owns : c.Owns k l) (found : c.loops[i]? = some m)
    (touch : m.Touch (dialAt c.panel m.dial) m' d) : Touched k l c (c.put i m' d) := by
  have same := Loop.dial_of_make touch.make_eq
  by_cases here : i = k
  · subst here
    have m_eq : m = l := Option.some.inj (found.symm.trans owns.found)
    subst m_eq
    have turned : dialAt (c.put i m' d).panel m'.dial = d :=
      dialAt_set_self (same ▸ owns.there)
    refine ⟨m', owns.put_self same d, ?_⟩
    rw [turned]
    exact touch
  · exact (owns.put_other here found same d).touched

theorem Owns.switch_other (owns : c.Owns k l) (ne : i ≠ k) (on : Bool) :
    Steady k l c (c.switch i on) := by
  cases found : c.loops[i]? with
  | none =>
    rw [switch_beyond found]
    exact ⟨owns, rfl⟩
  | some m =>
    rw [switch_eq_put found]
    have same := Loop.dial_of_make (m.switch_keeps (dialAt c.panel m.dial) (some on)).1
    exact owns.put_other ne found same _

theorem Owns.switch (owns : c.Owns k l) (i : ℕ) (on : Bool) :
    Touched k l c (c.switch i on) := by
  cases found : c.loops[i]? with
  | none =>
    rw [switch_beyond found]
    exact Steady.touched ⟨owns, rfl⟩
  | some m =>
    rw [switch_eq_put found]
    exact owns.put found (.switch (some on))

theorem Owns.count (owns : c.Owns k l) (found : c.loops[i]? = some m) :
    Touched k l c ⟨c.loops.set i m.count, c.panel⟩ := by
  have counted : c.put i m.count (dialAt c.panel m.dial) = ⟨c.loops.set i m.count, c.panel⟩ := by
    show Console.mk _ (c.panel.set m.dial (dialAt c.panel m.dial)) = _
    rw [set_dialAt]
  rw [← counted]
  exact owns.put found .count

theorem Owns.recalculate (owns : c.Owns k l) (found : c.loops[i]? = some m)
    (on : m.enabled = true) (observed : Span) :
    Touched k l c (c.recalculate i observed).1 := by
  obtain ⟨turn, turns⟩ : ∃ turn, m.turn (dialAt c.panel m.dial) observed = turn := ⟨_, rfl⟩
  have touch : m.Touch (dialAt c.panel m.dial) turn.loop turn.dial := by
    rw [← turns]
    exact .turn on observed
  rw [recalculate_eq_put found turns]
  cases flip? turn.wish (c.loops.drop (i + 1)) with
  | none => exact owns.put found touch
  | some wanted =>
    by_cases here : i = k
    · -- The secondary is switched after it, and turns another dial.
      subst here
      obtain ⟨l', owns', touch'⟩ := owns.put found touch
      have steady := owns'.switch_other (Nat.succ_ne_self i) wanted
      refine ⟨l', steady.1, ?_⟩
      rw [steady.2]
      exact touch'
    · have steady := owns.put_other here found (Loop.dial_of_make touch.make_eq) turn.dial
      exact steady.then (steady.1.switch (i + 1) wanted)

theorem Owns.asked (owns : c.Owns k l) (number occupancy incoming : ℕ) :
    Touched k l c (c.asked number occupancy incoming) := by
  have stays : (c.asked number occupancy incoming).Owns k l := by
    refine ⟨owns.found, ?_, owns.alone⟩
    show l.dial < (c.panel.set number _).length
    rw [List.length_set]
    exact owns.there
  by_cases here : number = l.dial
  · subst here
    have turned : dialAt (c.asked l.dial occupancy incoming).panel l.dial =
        ((dialAt c.panel l.dial).accept occupancy incoming).2 := dialAt_set_self owns.there
    refine ⟨l, stays, ?_⟩
    rw [turned]
    exact .ask occupancy incoming
  · exact Steady.touched ⟨stays, dialAt_set_of_ne here⟩

end Console

/-! ## One step of an observation -/

namespace Observation

variable {c : Console α} {l : Loop α} {o : Observation α}

/-- A step of an observation leaves the row alone, or counts the batch, or adjusts a loop that is
    on. -/
theorem step_cases (o : Observation α) (stats : Stats) (c : Console α) :
    (o.step stats c).1 = c ∨ ∃ l, c.loops[o.loop]? = some l ∧
      ((o.step stats c).1 = ⟨c.loops.set o.loop l.count, c.panel⟩ ∨
        l.enabled = true ∧ (o.step stats c).1 = (c.recalculate o.loop stats.ninetieth).1) := by
  unfold step
  cases found : c.loops[o.loop]? with
  | none => exact .inl rfl
  | some l =>
    cases o.phase with
    | checking => exact .inl rfl
    | counting =>
      refine .inr ⟨l, rfl, .inl ?_⟩
      simp only
      split
      · rfl
      · rfl
    | adjusting =>
      simp only [adjust]
      split
      · exact .inl rfl
      · rename_i on
        refine .inr ⟨l, rfl, .inr ⟨by simpa using on, ?_⟩⟩
        split
        all_goals
          rename_i adjusted
          rw [adjusted]
    | finished => exact .inl rfl

/-- **An observation that comes to a loop that is off at most counts the batch.** -/
theorem step_off (found : c.loops[o.loop]? = some l) (off : l.enabled = false) (stats : Stats) :
    (o.step stats c).2.answer = o.answer ∧
      ((o.step stats c).1 = c ∨ (o.step stats c).1 = ⟨c.loops.set o.loop l.count, c.panel⟩) := by
  constructor
  · unfold step
    rw [found]
    cases o.phase with
    | checking =>
      simp only [off]
      rfl
    | counting =>
      simp only
      split
      · rfl
      · rfl
    | adjusting =>
      simp only [adjust, off]
      rfl
    | finished => rfl
  · obtain still | ⟨m, here, counted | ⟨on, -⟩⟩ := o.step_cases stats c
    · exact .inl still
    · have m_eq : m = l := Option.some.inj (here.symm.trans found)
      rw [m_eq] at counted
      exact .inr counted
    · have m_eq : m = l := Option.some.inj (here.symm.trans found)
      rw [m_eq, off] at on
      exact absurd on (by simp)

end Observation

/-! ## Calls under way -/

/-- A row of loops, and the observations of it that are under way. -/
structure Calls (α : Type) where
  console : Console α
  observing : List (Observation α)

namespace Calls

/-- One step of someone who observes a batch, switches a loop or asks a dial. -/
inductive Step : Calls α → Calls α → Prop where
  /-- An observation of a loop begins. -/
  | begin (c : Console α) (observing : List (Observation α)) (i : ℕ) :
      Step ⟨c, observing⟩ ⟨c, observing ++ [{ Observation.start with loop := i }]⟩
  /-- An observation goes on, whatever the measurements are by then. -/
  | observe (stats : Stats) (c : Console α) (before : List (Observation α)) (o : Observation α)
      (after : List (Observation α)) :
      Step ⟨c, before ++ o :: after⟩ ⟨(o.step stats c).1, before ++ (o.step stats c).2 :: after⟩
  | switch (c : Console α) (observing : List (Observation α)) (i : ℕ) (on : Bool) :
      Step ⟨c, observing⟩ ⟨c.switch i on, observing⟩
  /-- A dial decides whether events are let in. -/
  | ask (c : Console α) (observing : List (Observation α)) (number occupancy incoming : ℕ) :
      Step ⟨c, observing⟩ ⟨c.asked number occupancy incoming, observing⟩

variable {s₀ s s' : Calls α} {k : ℕ} {l₀ l : Loop α}

/-- **One step touches a loop at most once.** -/
theorem Step.touched (step : s.Step s') (owns : s.console.Owns k l) :
    Console.Touched k l s.console s'.console := by
  cases step with
  | begin c observing i => exact Console.Steady.touched ⟨owns, rfl⟩
  | observe stats c before o after =>
    have owns : c.Owns k l := owns
    show Console.Touched k l c (o.step stats c).1
    obtain still | ⟨m, found, counted | ⟨on, adjusted⟩⟩ := o.step_cases stats c
    · rw [still]
      exact Console.Steady.touched ⟨owns, rfl⟩
    · rw [counted]
      exact owns.count found
    · rw [adjusted]
      exact owns.recalculate found on stats.ninetieth
  | switch c observing i on => exact owns.switch i on
  | ask c observing number occupancy incoming => exact owns.asked number occupancy incoming

/-- What holds of a loop and its dial between any two steps. -/
theorem kept_of_steps (owns : s₀.console.Owns k l₀)
    (idle : l₀.Idle (dialAt s₀.console.panel l₀.dial)) (run : ReflTransGen Step s₀ s) :
    ∃ l, s.console.Owns k l ∧ l.make = l₀.make ∧ l.Idle (dialAt s.console.panel l.dial) := by
  induction run with
  | refl => exact ⟨l₀, owns, rfl, idle⟩
  | tail _ last ih =>
    obtain ⟨l, owns, same, idle⟩ := ih
    obtain ⟨l', owns', touch⟩ := last.touched owns
    exact ⟨l', owns', touch.make_eq.trans same, touch.idle idle⟩

/-- Whatever is done while the loop stays off leaves its findings as they are. -/
theorem findings_of_off (owns : s.console.Owns k l) (off : l.enabled = false)
    (run : ReflTransGen (fun x y => x.Step y ∧ y.console.isOn k = false) s s') :
    ∃ l', s'.console.Owns k l' ∧ l'.enabled = false ∧ l'.findings = l.findings := by
  induction run with
  | refl => exact ⟨l, owns, off, rfl⟩
  | tail _ last ih =>
    obtain ⟨l₁, owns₁, off₁, same⟩ := ih
    obtain ⟨l₂, owns₂, touch⟩ := last.1.touched owns₁
    have still : l₂.enabled = false := owns₂.isOn.symm.trans last.2
    exact ⟨l₂, owns₂, still, (touch.off off₁ still).trans same⟩

/-- **A loop that is off has released its dial, and no observation adjusts it**, however early the
    observation began. A step that switches the loop on turns its dial to the starting value and
    forgets the high windows. -/
theorem released_while_off (owns : s₀.console.Owns k l₀)
    (idle : l₀.Idle (dialAt s₀.console.panel l₀.dial)) (run : ReflTransGen Step s₀ s) :
    ∃ l, s.console.Owns k l ∧ l.make = l₀.make ∧
      (l.enabled = false → l.Released (dialAt s.console.panel l.dial)) ∧
      (∀ s', s.Step s' → ∃ l', s'.console.Owns k l' ∧
        (l.enabled = false → l'.enabled = true → l'.highWindows = 0 ∧
          dialAt s'.console.panel l'.dial = (dialAt s.console.panel l.dial).turn l.start)) ∧
      (l.enabled = false → ∀ (o : Observation α) (stats : Stats), o.loop = k →
        (o.step stats s.console).2.answer = o.answer ∧
          ((o.step stats s.console).1 = s.console ∨
            (o.step stats s.console).1 = ⟨s.console.loops.set k l.count, s.console.panel⟩)) ∧
      (l.enabled = false →
        ∀ s', ReflTransGen (fun x y => x.Step y ∧ y.console.isOn k = false) s s' →
          ∃ l', s'.console.Owns k l' ∧ l'.enabled = false ∧ l'.findings = l.findings) := by
  obtain ⟨l, owns, same, idle⟩ := kept_of_steps owns idle run
  refine ⟨l, owns, same, idle, fun s' step => ?_, fun off o stats here => ?_, fun off s' rest => ?_⟩
  · obtain ⟨l', owns', touch⟩ := step.touched owns
    refine ⟨l', owns', fun off on => ?_⟩
    have anew := touch.on_of_off off on
    exact ⟨anew.2, anew.1⟩
  · have found := owns.found
    rw [← here] at found ⊢
    exact o.step_off found off stats
  · exact findings_of_off owns off rest

/-! ## An observation that is overtaken -/

/-- One loop over a threshold. -/
def lone : Console Float := (Console.mk [] [.threshold 0]).withLoop 100 0

/-- An observation of a slow batch has completed a window of the loop when the loop is switched
    off. -/
def overtaken : Calls Float :=
  let batch := Stats.new.recordBatch 1 (.ofMillis 200)
  let checked := Observation.start.step batch lone
  let counted := checked.2.step batch checked.1
  ⟨counted.1.switch 0 false, [counted.2]⟩

theorem released_while_off_overtaken :
    overtaken.observing.map Observation.phase = [.adjusting] ∧
    overtaken.console.isOn 0 = false ∧
    ∃ l, overtaken.console.Owns 0 l ∧ l.Released (dialAt overtaken.console.panel l.dial) := by
  have built : lone.Built :=
    .attach (.bare [.threshold 0]) List.not_mem_nil Nat.one_pos (Console.attach?_everyBatch 100 0 _)
  obtain ⟨l₀, found⟩ : ∃ l₀, lone.loops[0]? = some l₀ :=
    Option.isSome_iff_exists.mp (by decide +kernel)
  have run : ReflTransGen Step ⟨lone, []⟩ overtaken :=
    .tail (.tail (.tail (.single (.begin lone [] 0)) (.observe _ _ [] _ [])) (.observe _ _ [] _ []))
      (.switch _ _ 0 false)
  have off : overtaken.console.isOn 0 = false := by decide +kernel
  obtain ⟨l, owns, -, released, -⟩ := released_while_off (built.wired.owns found)
    (built.atRest l₀ (List.mem_of_getElem? found)) run
  exact ⟨by decide +kernel, off, l, owns, released (owns.isOn.symm.trans off)⟩

end Calls

end StagedEvents
