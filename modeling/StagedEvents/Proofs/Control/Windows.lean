import Mathlib.Algebra.BigOperators.Group.List.Basic
import Mathlib.Algebra.Ring.Nat
import StagedEvents.Proofs.Control.Solo

/-!
# Many observers of one loop

Observers of a loop without a secondary count their batches one at a time, but whoever has ended a
window adjusts the loop later, when others may have counted on and ended more windows. Adjustments
of different windows may be made in another order than the windows ended in, and by whom does not
matter: the measurements are the same, and the loop is where its counts and adjustments put it.

* `Observers.Step`: one step of one observer.
* `Observer.Move`: what such a step does to the tallies.
* `Observers.Tallied`: what holds between any two steps.
* `Observers.one_adjustment_per_window`: the outcome is that of as many observations one after the
  other.
-/

namespace StagedEvents

open Relation (ReflTransGen)
open scoped List

variable {α : Type} [Quantity α]

/-- The outcome of the adjustment that an observation has led to, if it has. -/
def outcome? : Except Fault (Option (Adjustment α)) → Option (Except Fault (Adjustment α))
  | .ok none => none
  | .ok (some adjustment) => some (.ok adjustment)
  | .error fault => some (.error fault)

/-! ## One observation -/

namespace Observation

/-- Where an observation of a row of one loop can be. -/
inductive Fit : Observation α → Prop where
  | checking : Fit ⟨0, .checking, .ok none⟩
  | counting : Fit ⟨0, .counting, .ok none⟩
  | adjusting : Fit ⟨0, .adjusting, .ok none⟩
  /-- The observation has come past the loop. -/
  | past (answer : Option (Adjustment α)) : Fit ⟨1, .checking, .ok answer⟩

/-- The observation has counted its batch. -/
def hasCounted (o : Observation α) : Bool := o.loop != 0 || o.phase == .adjusting

/-- The steps that the observation may still take. -/
def due (o : Observation α) : ℕ :=
  if o.loop = 0 then
    match o.phase with
    | .checking => 4
    | .counting => 3
    | .adjusting => 2
    | .finished => 0
  else 1

variable {u : Solo α} (n j : ℕ)

theorem step_checking (on : u.loop.enabled = true) :
    step u.stats ⟨0, .checking, .ok none⟩ (u.stand n j) =
      (u.stand n j, ⟨0, .counting, .ok none⟩) := by
  have enabled : ((u.turned j).1.countBy n).enabled = true := (u.turned_keeps j).2.1.trans on
  unfold step
  simp only [Solo.stand, List.getElem?_cons_zero, enabled]
  rfl

theorem step_counting (measured : 0 < u.stats.samples)
    (room : u.loop.observations.toNat + (n + 1) < UInt64.size) :
    step u.stats ⟨0, .counting, .ok none⟩ (u.stand n j) = (u.stand (n + 1) j,
      if (u.loop.observations.toNat + (n + 1)) % u.loop.settings.window = 0 then
        ⟨0, .adjusting, .ok none⟩ else ⟨1, .checking, .ok none⟩) := by
  have some_ : (u.stats.samples == 0) = false := beq_eq_false_iff_ne.mpr (Nat.ne_of_gt measured)
  unfold step
  simp only [Solo.stand, List.getElem?_cons_zero, List.set_cons_zero, Loop.count_countBy,
    u.endsWindow_countBy (n + 1) j room, some_]
  by_cases ends : (u.loop.observations.toNat + (n + 1)) % u.loop.settings.window = 0
  · simp [ends]
  · simp [ends, goOn]

theorem step_adjusting (on : u.loop.enabled = true) :
    step u.stats ⟨0, .adjusting, .ok none⟩ (u.stand n j) = (u.stand n (j + 1),
      match u.outcome j with
      | .ok adjustment => ⟨1, .checking, .ok (some adjustment)⟩
      | .error fault => ⟨0, .finished, .error fault⟩) := by
  have enabled : ((u.turned j).1.countBy n).enabled = true := (u.turned_keeps j).2.1.trans on
  have found : (u.stand n j).loops[0]? = some ((u.turned j).1.countBy n) := rfl
  unfold step
  simp only [found, adjust, enabled, u.recalculate_stand n j]
  cases u.outcome j with
  | ok adjustment => rfl
  | error fault => rfl

theorem step_past (answer : Option (Adjustment α)) :
    step u.stats ⟨1, .checking, .ok answer⟩ (u.stand n j) =
      (u.stand n j, ⟨1, .finished, .ok answer⟩) := rfl

end Observation

/-! ## One observer -/

namespace Observer

/-- The observation under way, if any, is where it can be. -/
def Fit (w : Observer α) : Prop := ∀ o, w.current? = some o → o.Fit

/-- The batches that the observer has counted. -/
def counted (w : Observer α) : ℕ :=
  w.latest.length + w.current?.toList.countP Observation.hasCounted

/-- The batches that the observer is still to count. -/
def ahead (w : Observer α) : ℕ :=
  w.remaining + w.current?.toList.countP fun o => !o.hasCounted

/-- The windows that the observer has ended and is still to adjust the loop for. -/
def pending (w : Observer α) : ℕ :=
  w.current?.toList.countP fun o => o.phase == .adjusting

/-- The outcomes of the adjustments that the observer has made. -/
def outcomes (w : Observer α) : List (Except Fault (Adjustment α)) :=
  (w.current?.toList.map Observation.answer ++ w.latest).filterMap outcome?

/-- The steps that the observer may still take. -/
def due (w : Observer α) : ℕ := 5 * w.remaining + (w.current?.toList.map Observation.due).sum

/-- What one step of an observer of a loop that has counted `n` batches and made `j` adjustments
    does to the loop and to the observer's tallies. -/
inductive Move (u : Solo α) (n j : ℕ) (w : Observer α) : Console α → Observer α → Prop where
  /-- Nothing is done to the loop. -/
  | still {w' : Observer α} (fit : w'.Fit) (counted : w'.counted = w.counted)
      (ahead : w'.ahead = w.ahead) (pending : w'.pending = w.pending)
      (outcomes : w'.outcomes = w.outcomes) (due : w.isDone = false → w'.due < w.due) :
      Move u n j w (u.stand n j) w'
  /-- The loop counts one more batch. -/
  | count {w' : Observer α} (fit : w'.Fit) (counted : w'.counted = w.counted + 1)
      (ahead : w'.ahead + 1 = w.ahead)
      (pending : w'.pending + u.windows n = w.pending + u.windows (n + 1))
      (outcomes : w'.outcomes = w.outcomes) (due : w'.due < w.due) :
      Move u n j w (u.stand (n + 1) j) w'
  /-- The loop is adjusted for a window that the observer has ended. If that fails, the observer
      counts no more. -/
  | adjust {w' : Observer α} (fit : w'.Fit) (counted : w'.counted = w.counted)
      (ahead : w'.ahead = w.ahead ∨ w'.ahead ≤ w.ahead ∧ (u.outcome j).isOk = false)
      (pending : w'.pending + 1 = w.pending)
      (outcomes : w'.outcomes = u.outcome j :: w.outcomes) (due : w'.due < w.due) :
      Move u n j w (u.stand n (j + 1)) w'

variable {u : Solo α} {n j : ℕ} {w : Observer α} {o o' : Observation α} {remaining : ℕ}
  {latest : List (Except Fault (Option (Adjustment α)))}

omit [Quantity α] in
theorem fit_of_current (fit : o.Fit) : Fit ⟨some o, remaining, latest⟩ := by
  intro o' same
  rw [← Option.some.inj same]
  exact fit

omit [Quantity α] in
theorem fit_of_none : Fit (⟨none, remaining, latest⟩ : Observer α) := by
  intro o none
  cases none

theorem step_of_current {stats : Stats} {c c' : Console α} (moved : o.step stats c = (c', o')) :
    step stats ⟨some o, remaining, latest⟩ c =
      if o'.phase = .finished then
        (c', ⟨none, if o'.answer.isOk then remaining else 0, o'.answer :: latest⟩)
      else (c', ⟨some o', remaining, latest⟩) := by
  unfold step
  simp only [moved]

/-- **Each step of an observer is one of the moves.** -/
theorem move_step (on : u.loop.enabled = true) (measured : 0 < u.stats.samples) (fit : w.Fit)
    (room : 0 < w.ahead → u.loop.observations.toNat + (n + 1) < UInt64.size) :
    Move u n j w (w.step u.stats (u.stand n j)).1 (w.step u.stats (u.stand n j)).2 := by
  obtain ⟨current, remaining, latest⟩ := w
  cases current with
  | none =>
    cases remaining with
    | zero =>
      refine .still fit rfl rfl rfl rfl ?_
      intro busy
      exact absurd busy (by simp [isDone])
    | succ remaining =>
      refine .still (fit_of_current .checking) rfl rfl rfl rfl ?_
      intro _
      show 5 * remaining + 4 < 5 * (remaining + 1)
      omega
  | some o =>
    cases fit o rfl with
    | checking =>
      rw [step_of_current (Observation.step_checking n j on)]
      exact .still (fit_of_current .counting) rfl rfl rfl rfl fun _ => Nat.lt_succ_self _
    | counting =>
      have room := room (Nat.succ_pos remaining)
      rw [step_of_current (Observation.step_counting n j measured room)]
      by_cases ends : (u.loop.observations.toNat + (n + 1)) % u.loop.settings.window = 0
      · have windows : u.windows (n + 1) = u.windows n + 1 := by
          rw [u.windows_succ, if_pos ends]
        rw [if_pos ends]
        refine .count (fit_of_current .adjusting) rfl rfl ?_ rfl (Nat.lt_succ_self _)
        rw [windows]
        show 1 + u.windows n = 0 + (u.windows n + 1)
        omega
      · have windows : u.windows (n + 1) = u.windows n := by
          rw [u.windows_succ, if_neg ends, Nat.add_zero]
        rw [if_neg ends]
        refine .count (fit_of_current (.past none)) rfl rfl ?_ rfl ?_
        · rw [windows]
          rfl
        · show 5 * remaining + 1 < 5 * remaining + 3
          omega
    | adjusting =>
      rw [step_of_current (Observation.step_adjusting n j on)]
      cases made : u.outcome j with
      | ok adjustment =>
        refine .adjust (fit_of_current (.past (some adjustment))) rfl (.inl rfl) rfl ?_
          (Nat.lt_succ_self _)
        rw [made]
        rfl
      | error fault =>
        refine .adjust fit_of_none rfl (.inr ⟨Nat.zero_le _, ?_⟩) rfl ?_ ?_
        · rw [made]
          rfl
        · rw [made]
          rfl
        · show 5 * 0 + 0 < 5 * remaining + 2
          omega
    | past answer =>
      rw [step_of_current (Observation.step_past n j answer)]
      exact .still fit_of_none rfl rfl rfl rfl fun _ => Nat.lt_succ_self _

theorem Move.due_lt {c : Console α} {w' : Observer α} (move : Move u n j w c w')
    (busy : w.isDone = false) : w'.due < w.due := by
  cases move with
  | still fit counted ahead pending outcomes due => exact due busy
  | count fit counted ahead pending outcomes due => exact due
  | adjust fit counted ahead pending outcomes due => exact due

omit [Quantity α] in
/-- Where the tallies of an observer end. -/
theorem tallies_of_done (done : w.isDone = true) :
    w.counted = w.answers.length ∧ w.ahead = 0 ∧ w.pending = 0 ∧
      w.outcomes ~ w.answers.filterMap outcome? := by
  obtain ⟨current, remaining, latest⟩ := w
  have ends : current = none ∧ remaining = 0 := by simpa [isDone] using done
  obtain ⟨rfl, rfl⟩ := ends
  refine ⟨?_, rfl, rfl, ?_⟩
  · exact List.length_reverse.symm
  · exact (List.reverse_perm latest).symm.filterMap outcome?

end Observer

/-! ## All observers -/

namespace Observers

/-- One step of one of the observers. -/
inductive Step (stats : Stats) : Observers α → Observers α → Prop where
  | step (c : Console α) (before : List (Observer α)) (w : Observer α)
      (after : List (Observer α)) :
      Step stats ⟨c, before ++ w :: after⟩
        ⟨(w.step stats c).1, before ++ (w.step stats c).2 :: after⟩

/-- The loop has counted `n` batches of the `planned` ones and made `j` adjustments, and the
    tallies of the observers agree with that. -/
structure Tallied (u : Solo α) (planned : ℕ) (s : Observers α) (n j : ℕ) : Prop where
  console : s.console = u.stand n j
  fit : ∀ w ∈ s.row, w.Fit
  counted : (s.row.map Observer.counted).sum = n
  pending : (s.row.map Observer.pending).sum + j = u.windows n
  outcomes : s.row.flatMap Observer.outcomes ~ (List.range j).map u.outcome
  ahead : (s.row.map Observer.ahead).sum + n ≤ planned
  /-- Unless an adjustment has failed, all that was planned will be counted. -/
  whole : (∀ outcome ∈ (List.range j).map u.outcome, outcome.isOk = true) →
    (s.row.map Observer.ahead).sum + n = planned

variable {u : Solo α} {planned n j : ℕ} {s s' : Observers α}

omit [Quantity α] in
theorem sum_exchange (f : Observer α → ℕ) (before after : List (Observer α)) (w : Observer α) :
    ((before ++ w :: after).map f).sum = f w + ((before ++ after).map f).sum := by
  simp only [List.map_append, List.map_cons, List.sum_append, List.sum_cons]
  omega

omit [Quantity α] in
theorem outcomes_exchange (before after : List (Observer α)) (w : Observer α) :
    (before ++ w :: after).flatMap Observer.outcomes ~
      w.outcomes ++ (before ++ after).flatMap Observer.outcomes :=
  List.Perm.flatMap_right Observer.outcomes List.perm_middle

/-- What it takes for the tallies to go on agreeing when one of the observers has taken a step. -/
theorem Tallied.exchange {c : Console α} {before after : List (Observer α)} {w w' : Observer α}
    {n' j' : ℕ} (tallied : Tallied u planned ⟨c, before ++ w :: after⟩ n j) (fit : w'.Fit)
    (counted : w'.counted + n = w.counted + n')
    (pending : w'.pending + j' + u.windows n = w.pending + j + u.windows n')
    (outcomes : w'.outcomes ++ (List.range j).map u.outcome ~
      w.outcomes ++ (List.range j').map u.outcome)
    (ahead : w'.ahead + n' ≤ w.ahead + n)
    (whole : (∀ outcome ∈ (List.range j').map u.outcome, outcome.isOk = true) →
      (∀ outcome ∈ (List.range j).map u.outcome, outcome.isOk = true) ∧
        w'.ahead + n' = w.ahead + n) :
    Tallied u planned ⟨u.stand n' j', before ++ w' :: after⟩ n' j' := by
  constructor
  case console => rfl
  case fit =>
    intro v mem
    have among : v = w' ∨ v ∈ before ++ after := List.mem_cons.mp (List.perm_middle.mem_iff.mp mem)
    obtain here | other := among
    · rw [here]
      exact fit
    · exact tallied.fit v (List.perm_middle.mem_iff.mpr (List.mem_cons_of_mem w other))
  case counted =>
    have earlier := tallied.counted
    rw [sum_exchange] at earlier ⊢
    omega
  case pending =>
    have earlier := tallied.pending
    rw [sum_exchange] at earlier ⊢
    omega
  case ahead =>
    have earlier := tallied.ahead
    rw [sum_exchange] at earlier ⊢
    omega
  case whole =>
    intro fine
    obtain ⟨before_, same⟩ := whole fine
    have earlier := tallied.whole before_
    rw [sum_exchange] at earlier ⊢
    omega
  case outcomes =>
    have earlier := (outcomes_exchange before after w).symm.trans tallied.outcomes
    refine (outcomes_exchange before after w').trans ?_
    -- Both sides are compared next to the outcomes that the observer had before.
    refine (List.perm_append_left_iff w.outcomes).mp ?_
    calc w.outcomes ++ (w'.outcomes ++ (before ++ after).flatMap Observer.outcomes)
      _ ~ w'.outcomes ++ (w.outcomes ++ (before ++ after).flatMap Observer.outcomes) :=
        List.perm_append_comm_assoc _ _ _
      _ ~ w'.outcomes ++ (List.range j).map u.outcome := earlier.append_left _
      _ ~ w.outcomes ++ (List.range j').map u.outcome := outcomes

/-- The next step of an observer is a move. -/
theorem Tallied.move (on : u.loop.enabled = true) (measured : 0 < u.stats.samples)
    (room : u.loop.observations.toNat + planned < UInt64.size) {c : Console α}
    {before after : List (Observer α)} {w : Observer α}
    (tallied : Tallied u planned ⟨c, before ++ w :: after⟩ n j) :
    Observer.Move u n j w (w.step u.stats c).1 (w.step u.stats c).2 := by
  have console : c = u.stand n j := tallied.console
  have fit : w.Fit := tallied.fit w (by simp)
  rw [console]
  refine Observer.move_step on measured fit ?_
  intro some_
  have bound := tallied.ahead
  rw [sum_exchange] at bound
  omega

/-- The step of an observer keeps the tallies in agreement. -/
theorem Tallied.step (on : u.loop.enabled = true) (measured : 0 < u.stats.samples)
    (room : u.loop.observations.toNat + planned < UInt64.size)
    (tallied : Tallied u planned s n j) (step : Step u.stats s s') :
    ∃ n' j', Tallied u planned s' n' j' := by
  obtain ⟨c, before, w, after⟩ := step
  have move := tallied.move on measured room
  generalize (w.step u.stats c).1 = c' at move ⊢
  generalize (w.step u.stats c).2 = w' at move ⊢
  cases move with
  | still fit counted ahead pending outcomes due =>
    refine ⟨n, j, tallied.exchange fit (by omega) (by omega) ?_ (by omega) ?_⟩
    · rw [outcomes]
    · exact fun fine => ⟨fine, by omega⟩
  | count fit counted ahead pending outcomes due =>
    refine ⟨n + 1, j, tallied.exchange fit (by omega) (by omega) ?_ (by omega) ?_⟩
    · rw [outcomes]
    · exact fun fine => ⟨fine, by omega⟩
  | adjust fit counted ahead pending outcomes due =>
    refine ⟨n, j + 1, tallied.exchange fit (by omega) (by omega) ?_ (by omega) ?_⟩
    · rw [outcomes, List.range_succ, List.map_append, ← List.append_assoc]
      exact (List.perm_append_singleton _ _).symm
    · intro fine
      rw [List.range_succ, List.map_append] at fine
      have last := fine (u.outcome j) (List.mem_append_right _ List.mem_cons_self)
      refine ⟨fun outcome mem => fine outcome (List.mem_append_left _ mem), ?_⟩
      obtain same | ⟨-, failed⟩ := ahead
      · omega
      · exact absurd (failed.symm.trans last) (by simp)

/-- Before anyone has begun all tallies are zero. -/
theorem tallied_fresh (alone : s.console = ⟨[u.loop], u.panel⟩)
    (fresh : ∀ w ∈ s.row, w.current? = none ∧ w.latest = []) :
    Tallied u (s.row.map Observer.remaining).sum s 0 0 := by
  have ahead : s.row.map Observer.ahead = s.row.map Observer.remaining := by
    refine List.map_congr_left fun w mem => ?_
    unfold Observer.ahead
    rw [(fresh w mem).1]
    rfl
  constructor
  case console =>
    rw [alone, u.stand_zero]
  case fit =>
    intro w mem o under
    rw [(fresh w mem).1] at under
    cases under
  case counted =>
    refine List.sum_eq_zero fun k mem => ?_
    obtain ⟨w, here, rfl⟩ := List.mem_map.mp mem
    unfold Observer.counted
    rw [(fresh w here).1, (fresh w here).2]
    rfl
  case pending =>
    rw [u.windows_zero]
    refine List.sum_eq_zero fun k mem => ?_
    obtain ⟨w, here, rfl⟩ := List.mem_map.mp mem
    unfold Observer.pending
    rw [(fresh w here).1]
    rfl
  case outcomes =>
    have none : s.row.flatMap Observer.outcomes = [] := by
      refine List.flatMap_eq_nil_iff.mpr fun w mem => ?_
      unfold Observer.outcomes
      rw [(fresh w mem).1, (fresh w mem).2]
      rfl
    rw [none]
    exact List.Perm.refl []
  case ahead =>
    rw [ahead]
    exact Nat.le_refl _
  case whole =>
    intro _
    rw [ahead]
    rfl

theorem tallied_of_run (on : u.loop.enabled = true) (measured : 0 < u.stats.samples)
    (room : u.loop.observations.toNat + planned < UInt64.size)
    (tallied : Tallied u planned s n j) (run : ReflTransGen (Step u.stats) s s') :
    ∃ n' j', Tallied u planned s' n' j' := by
  induction run with
  | refl => exact ⟨n, j, tallied⟩
  | tail _ last ih =>
    obtain ⟨n', j', tallied⟩ := ih
    exact tallied.step on measured room last

/-- Whatever has happened so far, the observers can come to their end. -/
theorem Tallied.finishes (on : u.loop.enabled = true) (measured : 0 < u.stats.samples)
    (room : u.loop.observations.toNat + planned < UInt64.size)
    (tallied : Tallied u planned s n j) :
    ∃ s', ReflTransGen (Step u.stats) s s' ∧ ∀ w ∈ s'.row, w.isDone = true := by
  induction total : (s.row.map Observer.due).sum using Nat.strongRecOn
    generalizing s n j with
  | _ total ih =>
    by_cases done : ∀ w ∈ s.row, w.isDone = true
    · exact ⟨s, .refl, done⟩
    · obtain ⟨w, mem, busy⟩ : ∃ w ∈ s.row, w.isDone = false := by simpa using done
      obtain ⟨c, row⟩ := s
      obtain ⟨before, after, rfl⟩ := List.append_of_mem mem
      have step : Step u.stats ⟨c, before ++ w :: after⟩ _ := .step c before w after
      have less := (tallied.move on measured room).due_lt busy
      obtain ⟨n', j', next⟩ := tallied.step on measured room step
      rw [sum_exchange] at total
      obtain ⟨s', run, done⟩ := ih _ (by rw [← total]; exact Nat.add_lt_add_right less _) next
        (sum_exchange _ _ _ _)
      exact ⟨s', .head step run, done⟩

/-! ## The end of all observations -/

/-- What the observations have led to. -/
def answers (s : Observers α) : List (Except Fault (Option (Adjustment α))) :=
  s.row.flatMap Observer.answers

omit [Quantity α] in
theorem eq_map_ok_of_mapM {ρ : Type} {xs : List (Except Fault ρ)} {ys : List ρ}
    (all : xs.mapM id = .ok ys) : xs = ys.map .ok := by
  induction xs generalizing ys with
  | nil =>
    cases all
    rfl
  | cons x xs ih =>
    rw [List.mapM_cons] at all
    cases x with
    | error fault => cases all
    | ok y =>
      cases rest : xs.mapM id with
      | error fault =>
        rw [rest] at all
        cases all
      | ok zs =>
        rw [rest] at all
        cases all
        rw [ih rest]
        rfl

omit [Quantity α] in
/-- Observations that all had a result have led to these adjustments. -/
theorem outcomes_of_adjustments {adjustments : List (Adjustment α)}
    (fine : s.adjustments = .ok adjustments) :
    s.answers.filterMap outcome? = adjustments.map .ok := by
  have all : ∃ results, s.answers.mapM id = .ok results ∧ adjustments = results.filterMap id := by
    unfold Observers.adjustments at fine
    change (s.answers.mapM id >>= fun results => pure (results.filterMap id)) = _ at fine
    cases all : s.answers.mapM id with
    | error fault =>
      rw [all] at fine
      cases fine
    | ok results =>
      rw [all] at fine
      exact ⟨results, rfl, (Except.ok.inj fine).symm⟩
  obtain ⟨results, all, rfl⟩ := all
  rw [eq_map_ok_of_mapM all, List.filterMap_map, List.map_filterMap]
  refine List.filterMap_congr fun result _ => ?_
  cases result with
  | none => rfl
  | some adjustment => rfl

/-- What the tallies come to in the end. -/
theorem Tallied.of_done (tallied : Tallied u planned s n j)
    (done : ∀ w ∈ s.row, w.isDone = true) :
    s.answers.length = n ∧ j = u.windows n ∧
      s.answers.filterMap outcome? ~ (List.range j).map u.outcome ∧
      ((∀ outcome ∈ s.answers.filterMap outcome?, outcome.isOk = true) → n = planned) := by
  have zero {f : Observer α → ℕ} (none : ∀ w ∈ s.row, f w = 0) : (s.row.map f).sum = 0 := by
    refine List.sum_eq_zero fun k mem => ?_
    obtain ⟨w, here, rfl⟩ := List.mem_map.mp mem
    exact none w here
  have outcomes : s.answers.filterMap outcome? ~ (List.range j).map u.outcome := by
    refine List.Perm.trans ?_ tallied.outcomes
    unfold answers
    rw [List.filterMap_flatMap]
    exact List.Perm.flatMap_left _ fun w mem => (Observer.tallies_of_done (done w mem)).2.2.2.symm
  refine ⟨?_, ?_, outcomes, ?_⟩
  · rw [← tallied.counted]
    unfold answers
    rw [List.length_flatMap]
    refine congrArg List.sum (List.map_congr_left fun w mem => ?_)
    exact (Observer.tallies_of_done (done w mem)).1.symm
  · have pending := tallied.pending
    rw [zero fun w mem => (Observer.tallies_of_done (done w mem)).2.2.1] at pending
    omega
  · intro fine
    have whole := tallied.whole fun outcome mem => fine outcome (outcomes.mem_iff.mpr mem)
    rw [zero fun w mem => (Observer.tallies_of_done (done w mem)).2.1] at whole
    omega

/-- The batches that the observers have been asked to observe. -/
def batches (s : Observers α) : ℕ := (s.row.map Observer.remaining).sum

/-- **However many observers take turns in whatever order, the loop is adjusted once for each of its
    windows**, and in the end the loop, its dial and the adjustments made are those of as many
    observations one after the other. Unless an adjustment fails, all batches are observed. -/
theorem one_adjustment_per_window {stats : Stats} {l : Loop α} {panel : Panel α}
    {s₀ s : Observers α} (alone : s₀.console = ⟨[l], panel⟩) (on : l.enabled = true)
    (measured : 0 < stats.samples) (fresh : ∀ w ∈ s₀.row, w.current? = none ∧ w.latest = [])
    (room : l.observations.toNat + s₀.batches < UInt64.size)
    (run : ReflTransGen (Step stats) s₀ s) :
    (∃ s', ReflTransGen (Step stats) s s' ∧ ∀ w ∈ s'.row, w.isDone = true) ∧
    ((∀ w ∈ s.row, w.isDone = true) →
      (s.console = (s₀.console.observeMany s.answers.length 0 stats).1 ∧
        s.answers.filterMap outcome? ~
          (s₀.console.observeMany s.answers.length 0 stats).2.map Prod.snd ∧
        (s.answers.filterMap outcome?).length =
          (l.observations.toNat + s.answers.length) / l.settings.window -
            l.observations.toNat / l.settings.window) ∧
      ∀ adjustments, s.adjustments = .ok adjustments →
        s.console = (s₀.console.observeMany s₀.batches 0 stats).1 ∧
        adjustments.map .ok ~ (s₀.console.observeMany s₀.batches 0 stats).2.map Prod.snd ∧
        adjustments.length =
          (l.observations.toNat + s₀.batches) / l.settings.window -
            l.observations.toNat / l.settings.window) := by
  let u : Solo α := ⟨l, panel, stats⟩
  obtain ⟨n, j, tallied⟩ := tallied_of_run (u := u) on measured room (tallied_fresh alone fresh) run
  refine ⟨tallied.finishes on measured room, fun done => ?_⟩
  obtain ⟨length, wins, outcomes, whole⟩ := tallied.of_done done
  have le : n ≤ s₀.batches := Nat.le_of_add_left_le tallied.ahead
  have fits : u.loop.observations.toNat + n < UInt64.size :=
    Nat.lt_of_le_of_lt (Nat.add_le_add_left le _) room
  obtain ⟨console, sequence⟩ := u.observeMany_stand n on measured fits
  rw [u.stand_zero, ← alone, ← wins] at console sequence
  have same : s.console = (s₀.console.observeMany n 0 stats).1 :=
    tallied.console.trans console.symm
  have made : s.answers.filterMap outcome? ~
      (s₀.console.observeMany n 0 stats).2.map Prod.snd := by
    rw [sequence]
    exact outcomes
  have number : (s.answers.filterMap outcome?).length = u.windows n := by
    rw [outcomes.length_eq, List.length_map, List.length_range, wins]
  refine ⟨?_, fun adjustments fine => ?_⟩
  · rw [length]
    exact ⟨same, made, number⟩
  · have ok := outcomes_of_adjustments fine
    rw [ok] at whole made number
    have n_eq : n = s₀.batches := by
      refine whole fun outcome mem => ?_
      obtain ⟨adjustment, -, rfl⟩ := List.mem_map.mp mem
      rfl
    rw [n_eq] at same made number
    rw [List.length_map] at number
    exact ⟨same, made, number⟩

/-! ## Observers in turn -/

theorem steps_foldl (stats : Stats) (c : Console α) (done row : List (Observer α)) :
    let last := row.foldl (fun acc w =>
      let (c, w) := w.step stats acc.1
      (c, acc.2 ++ [w])) (c, done)
    ReflTransGen (Step stats) ⟨c, done ++ row⟩ ⟨last.1, last.2⟩ := by
  induction row generalizing c done with
  | nil =>
    rw [List.append_nil]
    exact .refl
  | cons w rest ih =>
    have later := ih (w.step stats c).1 (done ++ [(w.step stats c).2])
    rw [List.append_assoc] at later
    exact .head (.step c done w rest) later

theorem steps_round (stats : Stats) (s : Observers α) :
    ReflTransGen (Step stats) s (s.round stats) := steps_foldl stats s.console [] s.row

theorem steps_runWithin (stats : Stats) (fuel : ℕ) (s : Observers α) :
    ReflTransGen (Step stats) s (s.runWithin stats fuel) := by
  induction fuel generalizing s with
  | zero => exact .refl
  | succ fuel ih =>
    unfold runWithin
    split
    · exact .refl
    · exact (steps_round stats s).trans (ih _)

/-- Observers that take their steps in turn are one of the ways to interleave them. -/
theorem steps_run (stats : Stats) (s : Observers α) :
    ReflTransGen (Step stats) s (s.run stats) := steps_runWithin stats _ s

/-- A loop over a threshold as it starts, with this weight of the earlier response times. -/
def beginner (smoothing : Float) (window : ℕ) : Loop Float :=
  { settings :=
      ({ LoopSettings.queueThreshold (.ofMillis 100) with smoothing, window } :
        LoopSettings Float).normalized
    dial := 0, start := 1.0, enabled := true, observations := 0, smoothed? := none,
    highWindows := 0 }

/-- Observers of that loop alone. -/
def rota (smoothing : Float) (window count each : ℕ) : Observers Float :=
  .new ⟨[beginner smoothing window], [.threshold 1]⟩ count each

def onTarget : Stats := Stats.new.recordBatch 1 (.ofMillis 100)

theorem fresh_rota (smoothing : Float) (window count each : ℕ) :
    ∀ w ∈ (rota smoothing window count each).row, w.current? = none ∧ w.latest = [] := by
  intro w mem
  rw [List.eq_of_mem_replicate mem]
  exact ⟨rfl, rfl⟩

/-- Two observers of two batches each adjust a loop with windows of two batches twice. -/
theorem one_adjustment_per_window_pair :
    let s := (rota 0.5 2 2 2).run onTarget
    s.console = ((rota 0.5 2 2 2).console.observeMany 4 0 onTarget).1 ∧
      ∃ adjustments, s.adjustments = .ok adjustments ∧ adjustments.length = 2 := by
  intro s
  have done : ∀ w ∈ s.row, w.isDone = true := by decide +kernel
  have all : s.adjustments.toOption.isSome = true := by decide +kernel
  have alone : (rota 0.5 2 2 2).console = ⟨[beginner 0.5 2], [.threshold 1]⟩ := rfl
  have main := (one_adjustment_per_window alone rfl (by decide +kernel) (fresh_rota 0.5 2 2 2)
    (by decide +kernel) (steps_run onTarget _)).2 done
  cases fine : s.adjustments with
  | error fault =>
    rw [fine] at all
    cases all
  | ok adjustments =>
    obtain ⟨console, -, length⟩ := main.2 adjustments fine
    exact ⟨console, adjustments, rfl, length⟩

/-- **Two windows and one adjustment.** With a weight that is not a number the second adjustment
    has no smoothed response time that could be told. -/
theorem one_adjustment_for_two_windows :
    let l := beginner (0.0 / 0.0) 1
    let s₀ := rota (0.0 / 0.0) 1 1 2
    let s := s₀.run onTarget
    ReflTransGen (Step onTarget) s₀ s ∧ (∀ w ∈ s.row, w.isDone = true) ∧
      (s.answers.filterMap outcome?).countP Except.isOk = 1 ∧
      (l.observations.toNat + s₀.batches) / l.settings.window -
        l.observations.toNat / l.settings.window = 2 := by
  refine ⟨steps_run _ _, ?_, ?_, ?_⟩
  · decide +kernel
  · decide +kernel
  · decide +kernel

end Observers

end StagedEvents
