import StagedEvents.Proofs.Control.Calls

/-!
# A loop without a secondary

The batches that a loop counts and the adjustments it makes do not meddle with each other: an
adjustment reads nothing that counting changes. So the loop is, after any number of both in any
order, where its counts and its adjustments put it.

* `Solo.stand`: the loop and its dial after so many counts and so many adjustments.
* `Solo.observe_stand`: an observation counts, and adjusts at the end of a window.
* `Solo.observeMany_stand`: observations one after the other.
-/

namespace StagedEvents

variable {α : Type} [Quantity α]

namespace Loop

/-- The loop with so many more batches observed. -/
def countBy (n : ℕ) (l : Loop α) : Loop α :=
  { l with observations := l.observations + UInt64.ofNat n }

omit [Quantity α] in
theorem countBy_zero (l : Loop α) : l.countBy 0 = l := by
  unfold countBy
  rw [show UInt64.ofNat 0 = 0 from rfl, UInt64.add_zero]

omit [Quantity α] in
theorem count_countBy (l : Loop α) (n : ℕ) : (l.countBy n).count = l.countBy (n + 1) := by
  unfold countBy count
  rw [UInt64.ofNat_add, ← UInt64.add_assoc]
  rfl

/-- An adjustment does not look at the batches counted. -/
theorem turn_countBy (l : Loop α) (n : ℕ) (d : Dial α) (observed : Span) :
    (l.countBy n).turn d observed =
      { l.turn d observed with loop := (l.turn d observed).loop.countBy n } := by
  unfold turn
  simp only [countBy, smooth]
  split
  · rfl
  · rfl

end Loop

namespace Console

omit [Quantity α] in
theorem flip?_nil (wish : Option Bool) : flip? wish ([] : List (Loop α)) = none := by
  cases wish with
  | none => rfl
  | some on => rfl

/-- What a row of one loop makes of a batch. -/
theorem observeRow_singleton {l : Loop α} (on : l.enabled = true) (stats : Stats)
    (panel : Panel α) :
    observeRow stats none [l] panel =
      if !l.count.endsWindow || stats.samples == 0 then (⟨[l.count], panel⟩, .ok none)
      else
        let turn := l.count.turn (dialAt panel l.dial) stats.ninetieth
        let after := panel.set l.dial turn.dial
        (⟨[turn.loop], after⟩,
          (turn.adjustment none (dialAt after l.dial).value).map some) := by
  have same : l.count.dial = l.dial := rfl
  unfold observeRow
  simp only [Loop.switch, on, set_dialAt, flip?_nil, same]
  split
  · contradiction
  · split
    · rfl
    · simp only [switchFirst]
      split
      · rename_i failed
        rw [failed]
        rfl
      · rename_i made
        rw [made]
        rfl

end Console

/-- A loop without a secondary, the dials there are, and measurements that stay as they are. -/
structure Solo (α : Type) where
  loop : Loop α
  panel : Panel α
  stats : Stats

namespace Solo

/-- The loop and the dials after so many adjustments. -/
def turned (u : Solo α) : ℕ → Loop α × Panel α
  | 0 => (u.loop, u.panel)
  | j + 1 =>
    let (l, panel) := u.turned j
    let turn := l.turn (dialAt panel l.dial) u.stats.ninetieth
    (turn.loop, panel.set l.dial turn.dial)

/-- The account of the adjustment after so many others. -/
def outcome (u : Solo α) (j : ℕ) : Except Fault (Adjustment α) :=
  let (l, panel) := u.turned j
  let turn := l.turn (dialAt panel l.dial) u.stats.ninetieth
  turn.adjustment none (dialAt (panel.set l.dial turn.dial) l.dial).value

/-- The row after `n` batches have been counted and `j` adjustments made. -/
def stand (u : Solo α) (n j : ℕ) : Console α :=
  ⟨[(u.turned j).1.countBy n], (u.turned j).2⟩

/-- The windows that the next `n` batches complete. -/
def windows (u : Solo α) (n : ℕ) : ℕ :=
  (u.loop.observations.toNat + n) / u.loop.settings.window -
    u.loop.observations.toNat / u.loop.settings.window

variable (u : Solo α) (n j : ℕ)

theorem stand_zero : u.stand 0 0 = ⟨[u.loop], u.panel⟩ := by
  show Console.mk [u.loop.countBy 0] u.panel = _
  rw [Loop.countBy_zero]

theorem turned_keeps : (u.turned j).1.make = u.loop.make ∧
    (u.turned j).1.enabled = u.loop.enabled ∧
    (u.turned j).1.observations = u.loop.observations := by
  induction j with
  | zero => exact ⟨rfl, rfl, rfl⟩
  | succ j ih =>
    obtain ⟨make, enabled, observations⟩ := (u.turned j).1.turn_keeps
      (dialAt (u.turned j).2 (u.turned j).1.dial) u.stats.ninetieth
    exact ⟨make.trans ih.1, enabled.trans ih.2.1, observations.trans ih.2.2⟩

omit [Quantity α] in
theorem windows_zero : u.windows 0 = 0 := Nat.sub_self _

omit [Quantity α] in
theorem windows_succ : u.windows (n + 1) =
    u.windows n +
      if (u.loop.observations.toNat + (n + 1)) % u.loop.settings.window = 0 then 1 else 0 := by
  unfold windows
  generalize u.loop.observations.toNat = c₀
  generalize u.loop.settings.window = w
  have le : c₀ / w ≤ (c₀ + n) / w := Nat.div_le_div_right (Nat.le_add_right c₀ n)
  rw [← Nat.add_assoc, Nat.succ_div]
  simp only [Nat.dvd_iff_mod_eq_zero]
  omega

/-- A counted batch ends a window of the loop, or does not, by the number of batches alone. -/
theorem endsWindow_countBy (room : u.loop.observations.toNat + n < UInt64.size) :
    ((u.turned j).1.countBy n).endsWindow =
      decide ((u.loop.observations.toNat + n) % u.loop.settings.window = 0) := by
  obtain ⟨make, -, observations⟩ := u.turned_keeps j
  have settings : (u.turned j).1.settings = u.loop.settings := congrArg Prod.fst make
  have counted : ((u.turned j).1.countBy n).observations.toNat =
      u.loop.observations.toNat + n := by
    show ((u.turned j).1.observations + UInt64.ofNat n).toNat = _
    have small : n < UInt64.size := Nat.lt_of_le_of_lt (Nat.le_add_left n _) room
    rw [observations, UInt64.toNat_add, UInt64.toNat_ofNat_of_lt' small]
    exact Nat.mod_eq_of_lt room
  unfold Loop.endsWindow
  rw [counted]
  show decide (_ % (u.turned j).1.settings.window = 0) = _
  rw [settings]

/-- An adjustment of the loop, however many batches it has counted. -/
theorem recalculate_stand : (u.stand n j).recalculate 0 u.stats.ninetieth =
    (u.stand n (j + 1), some (u.outcome j)) := by
  unfold Console.recalculate Console.atLoop Console.recalculateFirst
  simp only [stand, List.drop_zero, List.take_zero, Console.flip?_nil,
    Loop.turn_countBy]
  rfl

/-- An observation that nobody interrupts counts the batch, and adjusts the loop if the batch ends
    a window. -/
theorem observe_stand (on : u.loop.enabled = true) (measured : 0 < u.stats.samples)
    (room : u.loop.observations.toNat + (n + 1) < UInt64.size) :
    (u.stand n j).observe 0 u.stats =
      if (u.loop.observations.toNat + (n + 1)) % u.loop.settings.window = 0 then
        (u.stand (n + 1) (j + 1), (u.outcome j).map some)
      else (u.stand (n + 1) j, .ok none) := by
  have enabled : ((u.turned j).1.countBy n).enabled = true := (u.turned_keeps j).2.1.trans on
  have some_ : (u.stats.samples == 0) = false := beq_eq_false_iff_ne.mpr (Nat.ne_of_gt measured)
  have row : (u.stand n j).observe 0 u.stats =
      Console.observeRow u.stats none [(u.turned j).1.countBy n] (u.turned j).2 := rfl
  rw [row, Console.observeRow_singleton enabled, Loop.count_countBy,
    u.endsWindow_countBy (n + 1) j room, some_, Loop.turn_countBy]
  by_cases ends : (u.loop.observations.toNat + (n + 1)) % u.loop.settings.window = 0
  · simp only [ends]
    rfl
  · simp only [ends]
    rfl

/-- Observations one after the other: each counts, and the adjustments follow one another. -/
theorem observeMany_stand (on : u.loop.enabled = true) (measured : 0 < u.stats.samples)
    (room : u.loop.observations.toNat + n < UInt64.size) :
    ((u.stand 0 0).observeMany n 0 u.stats).1 = u.stand n (u.windows n) ∧
      ((u.stand 0 0).observeMany n 0 u.stats).2.map Prod.snd =
        (List.range (u.windows n)).map u.outcome := by
  induction n with
  | zero =>
    rw [u.windows_zero]
    exact ⟨rfl, rfl⟩
  | succ n ih =>
    obtain ⟨console, outcomes⟩ := ih (Nat.lt_of_succ_lt room)
    have next := u.observe_stand n (u.windows n) on measured room
    unfold Console.observeMany at console outcomes ⊢
    rw [List.range_succ, List.foldl_append, List.foldl_cons, List.foldl_nil, console, next,
      u.windows_succ]
    by_cases ends : (u.loop.observations.toNat + (n + 1)) % u.loop.settings.window = 0
    · rw [if_pos ends, if_pos ends, List.range_succ, List.map_append, ← outcomes]
      cases made : u.outcome (u.windows n) with
      | error fault =>
        refine ⟨rfl, ?_⟩
        simp [Except.map, made]
      | ok adjustment =>
        refine ⟨rfl, ?_⟩
        simp [Except.map, made]
    · rw [if_neg ends, if_neg ends]
      exact ⟨rfl, outcomes⟩

end Solo

end StagedEvents
