import StagedEvents.Proofs.Control.Calls
import StagedEvents.Proofs.Control.Range

/-!
# Dials stay between the bounds of their loops

A loop is attached to a dial that nothing else turns. From then on it is told of batches, adjusted
by hand and switched, as are the other loops of its row, and more loops are put in front of it.
Whenever the loop is on, its dial shows a value between the bounds, as far as the dial can show
them: a threshold has whole limits and shows the nearest one.

* `Console.Worked`: one call on a row of loops.
* `Console.Owns.worked`: what a call does to one loop and its dial.
* `Console.Keeps.run`: what any calls keep of them.
* `between_bounds`: the dial of a loop that is on is between its bounds.
* `between_bounds_missed`: a threshold whose bounds are no whole numbers.
-/

namespace StagedEvents

open Relation (ReflTransGen)
open Double

variable {α : Type} [Quantity α]

namespace Console

variable {c c' : Console α} {i j k : ℕ} {l m : Loop α}

/-! ## A row that observes a batch -/

/-- A dial that no loop of the row turns. -/
theorem Heard.elsewhere (heard : c.Heard c') {number : ℕ}
    (notOurs : number ∉ c.loops.map Loop.dial) :
    dialAt c'.panel number = dialAt c.panel number := by
  induction heard with
  | none panel => rfl
  | last touches =>
    rw [List.map_cons, List.mem_cons, not_or] at notOurs
    exact dialAt_set_of_ne (Ne.symm notOurs.1)
  | on touches on heard ih =>
    rw [List.map_cons, List.mem_cons, not_or] at notOurs
    exact (ih notOurs.2).trans (dialAt_set_of_ne (Ne.symm notOurs.1))

omit [Quantity α] in
/-- A loop of the row after the first. -/
theorem Owns.tail {rest : List (Loop α)} {panel : Panel α}
    (owns : Owns ⟨m :: rest, panel⟩ (j + 1) l) (d : Dial α) :
    Owns ⟨rest, panel.set m.dial d⟩ j l ∧ m.dial ≠ l.dial := by
  refine ⟨⟨owns.found, ?_, fun n x found same => ?_⟩, fun same => ?_⟩
  · rw [List.length_set]
    exact owns.there
  · exact Nat.succ.inj (owns.alone (n + 1) x found same)
  · exact absurd (owns.alone 0 m rfl same) (by simp)

/-- What a row that observes a batch does to one of its loops. -/
theorem Heard.touches (heard : c.Heard c') (owns : c.Owns j l) :
    ∃ l', c'.loops[j]? = some l' ∧
      Loop.Touches (l, dialAt c.panel l.dial) (l', dialAt c'.panel l'.dial) := by
  induction heard generalizing j l with
  | none panel => exact absurd owns.found (by simp)
  | @last l₀ l₁ rest panel d touches =>
    have same : l₁.dial = l₀.dial := Loop.dial_of_make touches.make_eq
    cases j with
    | zero =>
      obtain rfl : l₀ = l := Option.some.inj owns.found
      refine ⟨l₁, rfl, ?_⟩
      rw [same, dialAt_set_self owns.there]
      exact touches
    | succ j =>
      obtain ⟨below, ne⟩ := owns.tail d
      refine ⟨l, below.found, ?_⟩
      rw [dialAt_set_of_ne ne]
      exact .refl
  | @on l₀ l₁ rest panel d below touches on heard ih =>
    have same : l₁.dial = l₀.dial := Loop.dial_of_make touches.make_eq
    cases j with
    | zero =>
      obtain rfl : l₀ = l := Option.some.inj owns.found
      have notOurs : l₀.dial ∉ rest.map Loop.dial := by
        rw [List.mem_map]
        rintro ⟨x, mem, shared⟩
        obtain ⟨n, found⟩ := List.mem_iff_getElem?.mp mem
        exact absurd (owns.alone (n + 1) x found shared) (by simp)
      refine ⟨l₁, rfl, ?_⟩
      show Loop.Touches _ (l₁, dialAt below.panel l₁.dial)
      rw [same, heard.elsewhere notOurs, dialAt_set_self owns.there]
      exact touches
    | succ j =>
      obtain ⟨beneath, ne⟩ := owns.tail d
      obtain ⟨l', found, later⟩ := ih beneath
      rw [dialAt_set_of_ne ne] at later
      exact ⟨l', found, later⟩

/-- Every loop turns a dial of the panel. -/
def Placed (c : Console α) : Prop := ∀ number ∈ c.loops.map Loop.dial, number < c.panel.length

/-- The loops of the two rows turn the same dials, of as many. -/
def SameDials (c c' : Console α) : Prop :=
  c'.loops.map Loop.dial = c.loops.map Loop.dial ∧ c'.panel.length = c.panel.length

omit [Quantity α] in
theorem SameDials.placed (same : c.SameDials c') (placed : c.Placed) : c'.Placed := by
  unfold Placed
  rw [same.1, same.2]
  exact placed

omit [Quantity α] in
theorem SameDials.owns (same : c.SameDials c') (owns : c.Owns j l) {l' : Loop α}
    (found : c'.loops[j]? = some l') : c'.Owns j l' := by
  have dials (n : ℕ) : (c'.loops[n]?).map Loop.dial = (c.loops[n]?).map Loop.dial := by
    rw [← List.getElem?_map, ← List.getElem?_map, same.1]
  have dial : l'.dial = l.dial := by
    have := dials j
    rw [found, owns.found] at this
    exact Option.some.inj this
  refine ⟨found, ?_, fun n x there shared => ?_⟩
  · rw [same.2, dial]
    exact owns.there
  · have := dials n
    rw [there] at this
    obtain ⟨y, was, here⟩ := Option.map_eq_some_iff.mp this.symm
    exact owns.alone n y was (here.trans (shared.trans dial))

theorem Heard.sameDials (heard : c.Heard c') : c.SameDials c' := ⟨heard.dials, heard.length_eq⟩

/-! ## Calls -/

omit [Quantity α] in
theorem sameDials_put (found : c.loops[i]? = some m) {m' : Loop α} (same : m'.dial = m.dial)
    (d : Dial α) : c.SameDials (c.put i m' d) := by
  refine ⟨?_, List.length_set⟩
  have here : (c.loops.map Loop.dial)[i]? = some m'.dial := by
    rw [List.getElem?_map, found, Option.map_some, same]
  obtain ⟨lt, eq⟩ := List.getElem?_eq_some_iff.mp here
  show (c.loops.set i m').map Loop.dial = _
  rw [List.map_set, ← eq, List.set_getElem_self lt]

theorem sameDials_switch (c : Console α) (i : ℕ) (on : Bool) : c.SameDials (c.switch i on) := by
  cases found : c.loops[i]? with
  | none =>
    rw [switch_beyond found]
    exact ⟨rfl, rfl⟩
  | some m =>
    rw [switch_eq_put found]
    exact sameDials_put found
      (Loop.dial_of_make (m.switch_keeps (dialAt c.panel m.dial) (some on)).1) _

theorem recalculate_beyond (beyond : c.loops[i]? = none) (observed : Span) :
    (c.recalculate i observed).1 = c := by
  have le := List.getElem?_eq_none_iff.mp beyond
  unfold recalculate atLoop recalculateFirst
  rw [List.drop_eq_nil_of_le le, List.take_of_length_le le]
  simp

theorem sameDials_recalculate (c : Console α) (i : ℕ) (observed : Span) :
    c.SameDials (c.recalculate i observed).1 := by
  cases found : c.loops[i]? with
  | none =>
    rw [recalculate_beyond found]
    exact ⟨rfl, rfl⟩
  | some m =>
    have same := Loop.dial_of_make (m.turn_keeps (dialAt c.panel m.dial) observed).1
    have put := sameDials_put found same (m.turn (dialAt c.panel m.dial) observed).dial
    rw [recalculate_eq_put found rfl]
    split
    · exact put
    · have switched := sameDials_switch
        (c.put i (m.turn (dialAt c.panel m.dial) observed).loop
          (m.turn (dialAt c.panel m.dial) observed).dial) (i + 1) ‹_›
      exact ⟨switched.1.trans put.1, switched.2.trans put.2⟩

/-- An adjustment of another loop switches this one, if it is the next. -/
theorem Owns.recalculate_other (owns : c.Owns k l) (ne : i ≠ k) (observed : Span) :
    Touched k l c (c.recalculate i observed).1 := by
  cases found : c.loops[i]? with
  | none =>
    rw [recalculate_beyond found]
    exact Steady.touched ⟨owns, rfl⟩
  | some m =>
    have same := Loop.dial_of_make (m.turn_keeps (dialAt c.panel m.dial) observed).1
    have steady := owns.put_other ne found same (m.turn (dialAt c.panel m.dial) observed).dial
    rw [recalculate_eq_put found rfl]
    split
    · exact steady.touched
    · exact steady.then (steady.1.switch (i + 1) _)

/-- What happens to loop `k` and its dial when a row observes a batch, from any of its loops on. -/
theorem Owns.observe (owns : c.Owns k l) (placed : c.Placed) (i : ℕ) (stats : Stats) :
    c.SameDials (c.observe i stats).1 ∧ ∃ l', (c.observe i stats).1.loops[k]? = some l' ∧
      Loop.Touches (l, dialAt c.panel l.dial) (l', dialAt (c.observe i stats).1.panel l'.dial) := by
  have placed' : ∀ number ∈ (c.loops.drop i).map Loop.dial, number < c.panel.length := by
    intro number mem
    rw [List.map_drop] at mem
    exact placed number (List.mem_of_mem_drop mem)
  have heard := heard_observeRow stats none (c.loops.drop i) c.panel placed'
  have unfolded : (c.observe i stats).1 =
      let below := (observeRow stats none (c.loops.drop i) c.panel).1
      { below with loops := c.loops.take i ++ below.loops } := rfl
  rw [unfolded]
  generalize (observeRow stats none (c.loops.drop i) c.panel).1 = below at heard
  refine ⟨⟨?_, heard.length_eq⟩, ?_⟩
  · show (c.loops.take i ++ below.loops).map Loop.dial = _
    rw [List.map_append, heard.dials, ← List.map_append, List.take_append_drop]
  have here := (List.getElem?_eq_some_iff.mp owns.found).1
  rcases Nat.lt_or_ge k i with before | after
  · refine ⟨l, ?_, ?_⟩
    · show (c.loops.take i ++ below.loops)[k]? = some l
      rw [List.getElem?_append_left (by rw [List.length_take]; omega), List.getElem?_take_of_lt before]
      exact owns.found
    · have notOurs : l.dial ∉ (c.loops.drop i).map Loop.dial := by
        rw [List.mem_map]
        rintro ⟨x, mem, shared⟩
        obtain ⟨n, found⟩ := List.mem_iff_getElem?.mp mem
        rw [List.getElem?_drop] at found
        have := owns.alone (i + n) x found shared
        omega
      show Loop.Touches _ (l, dialAt below.panel l.dial)
      rw [heard.elsewhere notOurs]
      exact .refl
  · have later : Owns ⟨c.loops.drop i, c.panel⟩ (k - i) l := by
      refine ⟨?_, owns.there, fun n x found shared => ?_⟩
      · rw [List.getElem?_drop, Nat.add_sub_cancel' after]
        exact owns.found
      · rw [List.getElem?_drop] at found
        have := owns.alone (i + n) x found shared
        omega
    obtain ⟨l', found, touches⟩ := heard.touches later
    refine ⟨l', ?_, touches⟩
    show (c.loops.take i ++ below.loops)[k]? = some l'
    have length : (c.loops.take i).length = i := by
      rw [List.length_take]
      omega
    rw [List.getElem?_append_right (by omega), length]
    exact found

/-- One call on a row of loops, of which the one with the number `k` is looked at. -/
inductive Worked : ℕ × Console α → ℕ × Console α → Prop where
  /-- A loop is adjusted by hand; the loop looked at only while it is on. -/
  | recalculate (c : Console α) (k i : ℕ) (observed : Span) (on : i = k → c.isOn k = true) :
      Worked (k, c) (k, (c.recalculate i observed).1)
  | observe (c : Console α) (k i : ℕ) (stats : Stats) : Worked (k, c) (k, (c.observe i stats).1)
  | switch (c : Console α) (k i : ℕ) (on : Bool) : Worked (k, c) (k, c.switch i on)
  /-- A dial decides whether events are let in. -/
  | ask (c : Console α) (k number occupancy incoming : ℕ) :
      Worked (k, c) (k, c.asked number occupancy incoming)
  /-- Another loop is put in front of the row, over another dial. -/
  | attach (c c' : Console α) (k : ℕ) (settings : LoopSettings α) (number : ℕ)
      (other : ∀ l, c.loops[k]? = some l → number ≠ l.dial) (there : number < c.panel.length)
      (attached : c.attach? settings number = .ok c') : Worked (k, c) (k + 1, c')

omit [Quantity α] in
theorem Owns.cons (owns : c.Owns k l) (m : Loop α) (ne : m.dial ≠ l.dial) :
    (c.cons m).Owns (k + 1) l := by
  refine ⟨owns.found, owns.there, fun n x found same => ?_⟩
  cases n with
  | zero =>
    obtain rfl : m = x := Option.some.inj found
    exact absurd same ne
  | succ n => exact congrArg Nat.succ (owns.alone n x found same)

/-- A loop that is put in front of the row switches the first one off. -/
theorem Owns.attach {settings : LoopSettings α} {number : ℕ} (owns : c.Owns k l)
    (other : number ≠ l.dial) (attached : c.attach? settings number = .ok c') :
    ∃ l', c'.Owns (k + 1) l' ∧
      Loop.Touches (l, dialAt c.panel l.dial) (l', dialAt c'.panel l'.dial) := by
  obtain ⟨m, d, here, -, rfl⟩ := attached_cases attached
  have owns' : Owns ⟨c.loops, c.panel.set number d⟩ k l := by
    refine ⟨owns.found, ?_, owns.alone⟩
    rw [List.length_set]
    exact owns.there
  have heard := heard_switchFirst (some false) (⟨c.loops, c.panel.set number d⟩ : Console α)
  obtain ⟨l', found, touches⟩ := heard.touches owns'
  rw [dialAt_set_of_ne other] at touches
  have same : l'.dial = l.dial := Loop.dial_of_make touches.make_eq
  refine ⟨l', (heard.sameDials.owns owns' found).cons m ?_, touches⟩
  rw [here, same]
  exact other

/-- A new first loop turns a dial of the panel, as the others do. -/
theorem Placed.attach {settings : LoopSettings α} {number : ℕ} (placed : c.Placed)
    (there : number < c.panel.length) (attached : c.attach? settings number = .ok c') :
    c'.Placed := by
  obtain ⟨dials, length⟩ := attached_keeps attached
  unfold Placed
  rw [dials, length]
  intro n mem
  obtain rfl | later := List.mem_cons.mp mem
  · exact there
  · exact placed n later

/-- **What a call does to a loop and its dial**: some touches, one after the other. -/
theorem Owns.worked {k' : ℕ} (owns : c.Owns k l) (placed : c.Placed)
    (worked : Worked (k, c) (k', c')) :
    c'.Placed ∧ ∃ l', c'.Owns k' l' ∧
      Loop.Touches (l, dialAt c.panel l.dial) (l', dialAt c'.panel l'.dial) := by
  have once {c' : Console α} (touched : Touched k l c c') : ∃ l', c'.Owns k l' ∧
      Loop.Touches (l, dialAt c.panel l.dial) (l', dialAt c'.panel l'.dial) := by
    obtain ⟨l', owns', touch⟩ := touched
    exact ⟨l', owns', .single touch⟩
  cases worked with
  | recalculate _ _ i observed on =>
    refine ⟨(sameDials_recalculate c i observed).placed placed, once ?_⟩
    by_cases here : i = k
    · have enabled : l.enabled = true := owns.isOn.symm.trans (on here)
      rw [here]
      exact owns.recalculate owns.found enabled observed
    · exact owns.recalculate_other here observed
  | observe _ _ i stats =>
    obtain ⟨same, l', found, touches⟩ := owns.observe placed i stats
    exact ⟨same.placed placed, l', same.owns owns found, touches⟩
  | switch _ _ i on => exact ⟨(sameDials_switch c i on).placed placed, once (owns.switch i on)⟩
  | ask _ _ number occupancy incoming =>
    have same : c.SameDials (c.asked number occupancy incoming) := ⟨rfl, List.length_set⟩
    exact ⟨same.placed placed, once (owns.asked number occupancy incoming)⟩
  | attach _ _ _ settings number other there attached =>
    exact ⟨placed.attach there attached, owns.attach (other l owns.found) attached⟩

end Console

/-! ## Between the bounds -/

namespace Loop

variable {l l' : Loop Float} {d d' : Dial Float}

theorem Touches.ranges {x y : Loop Float × Dial Float} (touches : Touches x y)
    (ranges : x.1.Ranges x.2) : y.1.Ranges y.2 := by
  induction touches with
  | refl => exact ranges
  | tail _ last ih => exact last.ranges ih

end Loop

namespace Console

/-- A loop that is attached to a dial of its own ranges between its bounds. -/
theorem attach?_ranges {c : Console Float} {s : LoopSettings Float} {number : ℕ}
    (finite : s.Finite) (shows : IsFinite (dialAt c.panel number).value)
    (own : number ∉ c.loops.map Loop.dial) (there : number < c.panel.length) :
    ∃ c', c.attach? s number = .ok c' ∧ ∃ l, c'.Owns 0 l ∧ l.dial = number ∧
      l.settings = s.normalized ∧ l.Ranges (dialAt c'.panel number) := by
  obtain ⟨l, new, dial, settings, ranges⟩ := Loop.ranges_of_new? finite (fun _ => shows) number
  generalize (dialAt c.panel number).turn l.start = d at new ranges
  have attached : c.attach? s number =
      .ok ((switchFirst (some false) ⟨c.loops, c.panel.set number d⟩).cons l) := by
    unfold attach?
    rw [new]
  have heard := heard_switchFirst (some false) (⟨c.loops, c.panel.set number d⟩ : Console Float)
  refine ⟨_, attached, l, ⟨rfl, ?_, fun n x found same => ?_⟩, dial, settings, ?_⟩
  · show l.dial < (switchFirst _ _).panel.length
    rw [heard.length_eq, dial, List.length_set]
    exact there
  · cases n with
    | zero => rfl
    | succ n =>
      have later : (switchFirst (some false)
          ⟨c.loops, c.panel.set number d⟩).loops[n]? = some x := found
      have mem := List.mem_map_of_mem (f := Loop.dial) (List.mem_of_getElem? later)
      rw [heard.dials, same, dial] at mem
      exact absurd mem own
  · show l.Ranges (dialAt (switchFirst _ _).panel number)
    rw [heard.elsewhere own, dialAt_set_self there]
    exact ranges

/-- The loop `k` of the row turns the dial, it alone, and ranges between the bounds of the
    settings. -/
structure Keeps (s : LoopSettings Float) (number k : ℕ) (c : Console Float) : Prop where
  placed : c.Placed
  loop : ∃ l, c.Owns k l ∧ l.dial = number ∧ l.settings = s ∧ l.Ranges (dialAt c.panel number)

variable {c c' : Console Float} {s : LoopSettings Float} {number k k' : ℕ}

/-- What a call keeps. -/
theorem Keeps.worked (keeps : Keeps s number k c) (worked : Worked (k, c) (k', c')) :
    Keeps s number k' c' := by
  obtain ⟨placed, l, owns, dial, settings, ranges⟩ := keeps
  obtain ⟨placed', l', owns', touches⟩ := owns.worked placed worked
  have same := touches.make_eq
  have dial' : l'.dial = number := (Loop.dial_of_make same).trans dial
  rw [dial, dial'] at touches
  exact ⟨placed', l', owns', dial', (congrArg (fun made => made.1) same).trans settings,
    touches.ranges ranges⟩

/-- What any calls keep. -/
theorem Keeps.run (keeps : Keeps s number k c) (run : ReflTransGen Worked (k, c) (k', c')) :
    Keeps s number k' c' := by
  generalize after : (k', c') = state at run
  induction run generalizing k' c' with
  | refl =>
    obtain ⟨rfl, rfl⟩ := Prod.mk.inj after
    exact keeps
  | @tail middle state _ last ih =>
    subst after
    have before : Keeps s number middle.1 middle.2 := ih rfl
    exact before.worked last

theorem Keeps.within (keeps : Keeps s number k c) :
    ∃ l, c.loops[k]? = some l ∧ l.dial = number ∧ l.settings = s ∧
      (l.enabled = true → (dialAt c.panel number).Within s.least s.greatest) := by
  obtain ⟨-, l, owns, dial, rfl, ranges⟩ := keeps
  exact ⟨l, owns.found, dial, rfl, fun on => (ranges.inRange on).within ranges.sound⟩

/-- **The dial of a loop that is on is between its bounds**, whatever is called on its row, as long
    as no other loop turns the dial and the loop is not adjusted while it is off. A threshold is
    between the whole limits nearest to its bounds, and so between its bounds where these are
    whole numbers. -/
theorem between_bounds {c₀ : Console Float} {s : LoopSettings Float} {number : ℕ}
    (finite : s.Finite) (shows : IsFinite (dialAt c₀.panel number).value) (placed : c₀.Placed)
    (own : number ∉ c₀.loops.map Loop.dial) (there : number < c₀.panel.length) :
    ∃ c₁, c₀.attach? s number = .ok c₁ ∧
      ∀ k c, ReflTransGen Worked (0, c₁) (k, c) →
        ∃ l, c.loops[k]? = some l ∧ l.dial = number ∧ l.settings = s.normalized ∧
          (l.enabled = true →
            (dialAt c.panel number).Within s.normalized.least s.normalized.greatest) := by
  obtain ⟨c₁, attached, l, owns, dial, settings, ranges⟩ := attach?_ranges finite shows own there
  have keeps : Keeps s.normalized number 0 c₁ :=
    ⟨placed.attach there attached, l, owns, dial, settings, ranges⟩
  exact ⟨c₁, attached, fun k c run => (keeps.run run).within⟩

/-! ## A threshold -/

/-- Settings that turn a threshold between two bounds, from where it is. -/
def betweenBounds (least greatest : Float) : LoopSettings Float :=
  { LoopSettings.queueThreshold (.ofMillis 100) with least, greatest, initial? := none }

theorem finite_betweenBounds {least greatest : Float} (hl : IsFinite least)
    (hg : IsFinite greatest) : (betweenBounds least greatest).Finite where
  least := hl
  greatest := hg
  initial := fun _ none => absurd none (by simp [betweenBounds])
  increase := isFinite_two.1
  factor := isFinite_two.1

/-- A loop between two bounds over a threshold. -/
def overThreshold (limit : ℤ) (least greatest : Float) : Console Float :=
  ((Console.mk [] [.threshold limit]).attach? (betweenBounds least greatest) 0).toOption.getD
    ⟨[], []⟩

theorem attach?_overThreshold (limit : ℤ) {least greatest : Float} (hl : IsFinite least)
    (hg : IsFinite greatest) (shows : IsFinite (Float.ofInt limit)) :
    (Console.mk [] [.threshold limit]).attach? (betweenBounds least greatest) 0 =
      .ok (overThreshold limit least greatest) := by
  obtain ⟨c, attached, -⟩ := @attach?_ranges (Console.mk [] [.threshold limit])
    (betweenBounds least greatest) 0 (finite_betweenBounds hl hg) shows List.not_mem_nil Nat.one_pos
  unfold overThreshold
  rw [attached]
  rfl

/-- A threshold that begins at 5000 is between 1 and 1024 after it has been adjusted, released and
    put in force again. -/
theorem between_bounds_whole :
    let c := ((((overThreshold 5000 1.0 1024.0).recalculate 0 (.ofMillis 500)).1.switch 0
      false).observe 0 .new).1.switch 0 true
    c.isOn 0 = true ∧ 1.0 ≤ (dialAt c.panel 0).value ∧ (dialAt c.panel 0).value ≤ 1024.0 := by
  intro c
  obtain ⟨c₁, attached, kept⟩ := @between_bounds (Console.mk [] [.threshold 5000])
    (betweenBounds 1.0 1024.0) 0 (finite_betweenBounds (by decide +kernel) (by decide +kernel))
    (by decide +kernel) (fun number mem => absurd mem List.not_mem_nil) List.not_mem_nil
    (by decide)
  obtain rfl : overThreshold 5000 1.0 1024.0 = c₁ := by
    have started := attach?_overThreshold 5000 (by decide +kernel : IsFinite 1.0)
      (by decide +kernel : IsFinite 1024.0) (by decide +kernel)
    exact Except.ok.inj (started.symm.trans attached)
  have run : ReflTransGen Worked (0, overThreshold 5000 1.0 1024.0) (0, c) :=
    .tail (.tail (.tail (.single (.recalculate _ 0 0 (.ofMillis 500) fun _ => by decide +kernel))
      (.switch _ 0 0 false)) (.observe _ 0 0 .new)) (.switch _ 0 0 true)
  have on : c.isOn 0 = true := by decide +kernel
  obtain ⟨l, found, -, -, within⟩ := kept 0 c run
  unfold isOn at on
  rw [found] at on
  have within := within on
  have greatest : (betweenBounds 1.0 1024.0).normalized.greatest = 1024.0 := by
    show (if (1024.0 : Float) < 1.0 then (1.0 : Float) else 1024.0) = 1024.0
    exact if_neg (by decide +kernel)
  rw [greatest] at within
  exact ⟨by decide +kernel, within.above (by decide +kernel), within.below (by decide +kernel)⟩

/-- **A threshold whose bounds are no whole numbers leaves them**, though it can show a number
    between them. -/
theorem between_bounds_missed :
    let c := overThreshold 0 1.4 2.4
    (betweenBounds 1.4 2.4).Finite ∧
      (Console.mk [] [.threshold 0]).attach? (betweenBounds 1.4 2.4) 0 = .ok c ∧
      c.isOn 0 = true ∧ (dialAt c.panel 0).value < (betweenBounds 1.4 2.4).normalized.least ∧
      1.4 ≤ ((dialAt c.panel 0).turn 2.0).value ∧ ((dialAt c.panel 0).turn 2.0).value ≤ 2.4 := by
  intro c
  have least : IsFinite 1.4 := by decide +kernel
  have greatest : IsFinite 2.4 := by decide +kernel
  refine ⟨finite_betweenBounds least greatest,
    attach?_overThreshold 0 least greatest (by decide +kernel), ?_, ?_, ?_, ?_⟩
  · decide +kernel
  · decide +kernel
  · decide +kernel
  · decide +kernel

end Console

end StagedEvents
