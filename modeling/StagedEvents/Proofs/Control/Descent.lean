import StagedEvents.Proofs.Control.Adjusting
import StagedEvents.Proofs.Control.Bounds

/-!
# An observation goes down the row

A loop that observes a batch counts it, adjusts itself at the end of a window, and then has its
secondary observe the batch. The loops before it are left alone.

* `Console.recalculate_answer`: what an adjustment tells.
* `Console.observe_on`: an observation as a count, an adjustment and the observation of the
  secondary.
* `Console.found_observe`: an observation leaves its loop on or off.
-/

namespace StagedEvents.Console

variable {α : Type} [Quantity α] {c : Console α} {j k : ℕ} {l : Loop α}

/-! ## An adjustment -/

/-- What an adjustment tells. -/
theorem recalculate_answer (found : c.loops[k]? = some l) {observed : Span} {turn : Turn α}
    (turns : l.turn (dialAt c.panel l.dial) observed = turn) :
    (c.recalculate k observed).2 =
      some (turn.adjustment (flip? turn.wish (c.loops.drop (k + 1)))
        (dialAt (c.recalculate k observed).1.panel l.dial).value) := by
  obtain ⟨lt, here⟩ := List.getElem?_eq_some_iff.mp found
  subst turns
  unfold recalculate atLoop recalculateFirst
  rw [List.drop_eq_getElem_cons lt, here]
  rfl

theorem isOk_adjustment (t : Turn α) (secondary : Option Bool) (value : α)
    (fine : t.fault? = none) :
    (t.adjustment secondary value).isOk = (Loop.spanOfMillis t.smoothed).isOk ∧
      ∀ adjustment, t.adjustment secondary value = .ok adjustment →
        adjustment.secondary = secondary := by
  unfold Turn.adjustment
  rw [fine]
  cases Loop.spanOfMillis t.smoothed with
  | error fault => exact ⟨rfl, fun adjustment failed => by cases failed⟩
  | ok span =>
    refine ⟨rfl, fun adjustment made => ?_⟩
    rw [← Except.ok.inj made]

/-- What an adjustment leaves of the loop. -/
theorem found_recalculate (found : c.loops[k]? = some l) (observed : Span) :
    (c.recalculate k observed).1.loops[k]? =
      some (l.turn (dialAt c.panel l.dial) observed).loop := by
  obtain ⟨lt, here⟩ := List.getElem?_eq_some_iff.mp found
  unfold recalculate atLoop recalculateFirst
  rw [List.drop_eq_getElem_cons lt, here]
  have length : (c.loops.take k).length = k := List.length_take_of_le (Nat.le_of_lt lt)
  show (c.loops.take k ++ _ :: _)[k]? = _
  rw [List.getElem?_append_right (Nat.le_of_eq length), length, Nat.sub_self,
    List.getElem?_cons_zero]

omit [Quantity α] in
/-- What is done from a loop on leaves the loops before it alone. -/
theorem found_atLoop {ρ : Type} (found : c.loops[j]? = some l) (lt : j < k)
    (operation : Console α → Console α × ρ) : (c.atLoop k operation).1.loops[j]? = some l := by
  have here := (List.getElem?_eq_some_iff.mp found).1
  have short : j < (c.loops.take k).length := by
    rw [List.length_take]
    omega
  show (c.loops.take k ++ _)[j]? = _
  rw [List.getElem?_append_left short, List.getElem?_take_of_lt lt]
  exact found

/-! ## An observation -/

/-- The row after loop `k`, which was `l`, has counted a batch. -/
def counted (k : ℕ) (l : Loop α) (c : Console α) : Console α := ⟨c.loops.set k l.count, c.panel⟩

/-- A loop that is switched first observes as one that has been switched. -/
theorem observeRow_flip (stats : Stats) (flip : Option Bool) (c : Console α) :
    observeRow stats flip c.loops c.panel =
      observeRow stats none (c.switchFirst flip).loops (c.switchFirst flip).panel := by
  obtain ⟨loops, panel⟩ := c
  cases loops with
  | nil => rfl
  | cons l rest =>
    obtain ⟨⟨m, d⟩, switched⟩ : ∃ s, l.switch (dialAt panel l.dial) flip = s := ⟨_, rfl⟩
    have still (p : Panel α) : m.switch (dialAt p m.dial) none = (m, dialAt p m.dial) := rfl
    unfold switchFirst
    simp only [switched]
    conv_rhs => unfold observeRow
    conv_lhs => unfold observeRow
    simp only [switched, still, set_dialAt]

theorem observe_beyond (beyond : c.loops[k]? = none) (stats : Stats) :
    c.observe k stats = (c, .ok none) := by
  have le := List.getElem?_eq_none_iff.mp beyond
  unfold observe atLoop observeFirst
  rw [List.drop_eq_nil_of_le le, List.take_of_length_le le]
  simp [observeRow]

/-- **A loop that is off does not observe.** -/
theorem observe_off (found : c.loops[k]? = some l) (off : l.enabled = false) (stats : Stats) :
    c.observe k stats = (c, .ok none) := by
  obtain ⟨lt, here⟩ := List.getElem?_eq_some_iff.mp found
  unfold observe atLoop observeFirst
  rw [List.drop_eq_getElem_cons lt, here]
  unfold observeRow
  simp only [Loop.switch, set_dialAt, off, Bool.not_false, if_true]
  rw [← here, ← List.drop_eq_getElem_cons lt, List.take_append_drop]

section Row

variable {loops rest : List (Loop α)} {x : Loop α} (le : k ≤ loops.length)

include le

omit [Quantity α] in
theorem take_row : (loops.take k ++ x :: rest).take k = loops.take k :=
  List.take_left' (List.length_take_of_le le)

omit [Quantity α] in
theorem take_succ_row : (loops.take k ++ x :: rest).take (k + 1) = loops.take k ++ [x] := by
  rw [List.append_cons]
  exact List.take_left' (by simp [le])

omit [Quantity α] in
theorem drop_row : (loops.take k ++ x :: rest).drop k = x :: rest :=
  List.drop_left' (List.length_take_of_le le)

omit [Quantity α] in
theorem drop_succ_row : (loops.take k ++ x :: rest).drop (k + 1) = rest := by
  rw [List.append_cons]
  exact List.drop_left' (by simp [le])

end Row

/-- **A loop that is on counts the batch**, adjusts itself if that ends a window, and has its
    secondary observe the batch unless the adjustment has no result. -/
theorem observe_on (found : c.loops[k]? = some l) (on : l.enabled = true) (stats : Stats) :
    c.observe k stats =
      if !l.count.endsWindow || stats.samples == 0 then
        (((c.counted k l).observe (k + 1) stats).1,
          ((c.counted k l).observe (k + 1) stats).2.map fun _ => none)
      else
        let (adjusted, answer) := (c.counted k l).recalculate k stats.ninetieth
        match answer with
        | none => (adjusted, .ok none)
        | some (.error fault) => (adjusted, .error fault)
        | some (.ok adjustment) =>
          ((adjusted.observe (k + 1) stats).1,
            (adjusted.observe (k + 1) stats).2.map fun _ => some adjustment) := by
  obtain ⟨lt, here⟩ := List.getElem?_eq_some_iff.mp found
  have dropped : c.loops.drop k = l :: c.loops.drop (k + 1) := by
    rw [List.drop_eq_getElem_cons lt, here]
  have row : (c.counted k l).loops = c.loops.take k ++ l.count :: c.loops.drop (k + 1) := by
    unfold counted
    rw [List.set_eq_take_append_cons_drop, if_pos lt]
  have le := Nat.le_of_lt lt
  conv_lhs => unfold observe atLoop observeFirst
  rw [dropped]
  unfold observeRow
  simp only [Loop.switch, set_dialAt, on]
  split
  · contradiction
  · split
    · unfold observe atLoop observeFirst
      simp only [row, take_succ_row le, drop_succ_row le, List.append_assoc]
      rfl
    · unfold recalculate atLoop recalculateFirst observe atLoop observeFirst
      have number : l.count.dial = l.dial := rfl
      have panel : (c.counted k l).panel = c.panel := rfl
      simp only [row, panel, number, take_row le, drop_row le]
      generalize l.count.turn (dialAt c.panel l.dial) stats.ninetieth = turn
      generalize flip? turn.wish (c.loops.drop (k + 1)) = flip
      have switch := observeRow_flip stats flip
        ⟨c.loops.drop (k + 1), c.panel.set l.dial turn.dial⟩
      simp only at switch
      rw [switch]
      generalize switchFirst flip
        (⟨c.loops.drop (k + 1), c.panel.set l.dial turn.dial⟩ : Console α) = switched
      cases turn.adjustment flip (dialAt switched.panel l.dial).value with
      | error fault => rfl
      | ok adjustment =>
        simp only [cons, take_succ_row le, drop_succ_row le, List.append_assoc]
        rfl

/-- The loops before it are left alone. -/
theorem found_observe_of_lt (found : c.loops[j]? = some l) (lt : j < k) (stats : Stats) :
    (c.observe k stats).1.loops[j]? = some l := found_atLoop found lt (observeFirst stats)

omit [Quantity α] in
theorem found_counted (found : c.loops[k]? = some l) :
    (c.counted k l).loops[k]? = some l.count :=
  List.getElem?_set_self (List.getElem?_eq_some_iff.mp found).1

/-- **An observation leaves its loop on or off.** -/
theorem found_observe (found : c.loops[k]? = some l) (stats : Stats) :
    ∃ l', (c.observe k stats).1.loops[k]? = some l' ∧ l'.enabled = l.enabled := by
  cases on : l.enabled with
  | false =>
    rw [observe_off found on]
    exact ⟨l, found, on⟩
  | true =>
    have counts := found_counted found
    have turned := found_recalculate counts stats.ninetieth
    have kept : (l.count.turn (dialAt (c.counted k l).panel l.count.dial)
        stats.ninetieth).loop.enabled = true := (l.count.turn_keeps _ _).2.1.trans on
    rw [observe_on found on]
    split
    · exact ⟨l.count, found_observe_of_lt counts (Nat.lt_succ_self k) stats, on⟩
    · generalize (c.counted k l).recalculate k stats.ninetieth = adjusted at turned
      obtain ⟨adjusted, _ | _ | adjustment⟩ := adjusted
      · exact ⟨_, turned, kept⟩
      · exact ⟨_, turned, kept⟩
      · exact ⟨_, found_observe_of_lt turned (Nat.lt_succ_self k) stats, kept⟩

end StagedEvents.Console
