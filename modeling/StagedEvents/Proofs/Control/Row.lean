import StagedEvents.Proofs.Control.Touch

/-!
# A row of loops that observes batches

Each loop of a row is switched by the loop before it, and hears of a batch only while that loop is
on. A row is built from its last loop to its first, and then only the first is told of batches.

* `Heard`: what becomes of a row when it observes a batch.
* `Heard.atRest`: the loops that are off keep their dials released.
* `Heard.beneath`: a loop comes on only beneath one that is on.
-/

namespace StagedEvents.Console

variable {α : Type} [Quantity α]

/-- Whether there is a loop with this number, and it is on. -/
def isOn (c : Console α) (i : ℕ) : Bool := (c.loops[i]?).any Loop.enabled

/-- What becomes of a row of loops and of the panel when the row observes a batch. -/
inductive Heard : Console α → Console α → Prop where
  | none (panel : Panel α) : Heard ⟨[], panel⟩ ⟨[], panel⟩
  /-- The loops after the first do not observe the batch. -/
  | last {l l' : Loop α} {rest : List (Loop α)} {panel : Panel α} {d : Dial α}
      (touches : Loop.Touches (l, dialAt panel l.dial) (l', d)) :
      Heard ⟨l :: rest, panel⟩ ⟨l' :: rest, panel.set l.dial d⟩
  /-- The first loop is on and the others observe the batch, after it may have switched one. -/
  | on {l l' : Loop α} {rest : List (Loop α)} {panel : Panel α} {d : Dial α} {below : Console α}
      (touches : Loop.Touches (l, dialAt panel l.dial) (l', d)) (on : l'.enabled = true)
      (heard : Heard ⟨rest, panel.set l.dial d⟩ below) :
      Heard ⟨l :: rest, panel⟩ (below.cons l')

theorem heard_switchFirst (flip : Option Bool) (c : Console α) :
    c.Heard (c.switchFirst flip) := by
  obtain ⟨loops, panel⟩ := c
  cases loops with
  | nil => exact .none panel
  | cons l rest =>
    have number := Loop.dial_of_make (l.switch_keeps (dialAt panel l.dial) flip).1
    unfold switchFirst
    simp only [number]
    exact .last (l.touches_switch (dialAt panel l.dial) flip)

/-- What `observeRow` makes of a row. -/
theorem heard_observeRow (stats : Stats) (flip : Option Bool) (loops : List (Loop α))
    (panel : Panel α) (there : ∀ number ∈ loops.map Loop.dial, number < panel.length) :
    Heard ⟨loops, panel⟩ (observeRow stats flip loops panel).1 := by
  induction loops generalizing flip panel with
  | nil => exact .none panel
  | cons l rest ih =>
    obtain ⟨⟨l₁, d₁⟩, switch⟩ : ∃ s, l.switch (dialAt panel l.dial) flip = s := ⟨_, rfl⟩
    have number := Loop.dial_of_make (l.switch_keeps (dialAt panel l.dial) flip).1
    have switched := l.touches_switch (dialAt panel l.dial) flip
    unfold observeRow
    rw [switch] at number switched ⊢
    change l₁.dial = l.dial at number
    have here : dialAt (panel.set l.dial d₁) l.dial = d₁ :=
      dialAt_set_self (there l.dial List.mem_cons_self)
    have below : ∀ d : Dial α,
        ∀ number ∈ rest.map Loop.dial, number < (panel.set l.dial d).length := by
      intro d number mem
      rw [List.length_set]
      exact there number (List.mem_cons_of_mem _ mem)
    have counted : Loop.Touches (l, dialAt panel l.dial) (l₁.count, d₁) :=
      switched.tail Loop.Touch.count
    have counting : l₁.count.dial = l.dial := number
    simp only [number, counting, here, List.set_set]
    split
    · exact .last switched
    · rename_i on
      have on : l₁.count.enabled = true := by simpa [Loop.count] using on
      split
      · exact .on counted on (ih none _ (below d₁))
      · have turned : Loop.Touches (l, dialAt panel l.dial)
            ((l₁.count.turn d₁ stats.ninetieth).loop, (l₁.count.turn d₁ stats.ninetieth).dial) :=
          counted.tail (Loop.Touch.turn on stats.ninetieth)
        have still : (l₁.count.turn d₁ stats.ninetieth).loop.enabled = true :=
          (l₁.count.turn_keeps d₁ stats.ninetieth).2.1.trans on
        split
        · exact .on turned still (heard_switchFirst _ _)
        · exact .on turned still (ih _ _ (below _))

/-! ## What stays as it was -/

variable {c c' : Console α}

theorem Heard.length_eq (heard : c.Heard c') : c'.panel.length = c.panel.length := by
  induction heard with
  | none panel => rfl
  | last touches => exact List.length_set
  | on touches on heard ih => exact ih.trans List.length_set

theorem Heard.makes (heard : c.Heard c') : c'.loops.map Loop.make = c.loops.map Loop.make := by
  induction heard with
  | none panel => rfl
  | last touches =>
    rw [List.map_cons, List.map_cons, touches.make_eq]
  | on touches on heard ih =>
    show List.map Loop.make (_ :: _) = _
    rw [List.map_cons, List.map_cons, touches.make_eq, ih]

theorem Heard.dials (heard : c.Heard c') : c'.loops.map Loop.dial = c.loops.map Loop.dial := by
  have same := congrArg (List.map fun made => made.2.1) heard.makes
  rw [List.map_map, List.map_map] at same
  exact same

theorem Heard.wired (heard : c.Heard c') (wired : c.Wired) : c'.Wired := by
  obtain ⟨own, there⟩ := wired
  rw [← heard.dials] at own there
  rw [← heard.length_eq] at there
  exact ⟨own, there⟩

/-! ## Loops that are off -/

section Rest

variable {l : Loop α} {rest : List (Loop α)} {panel : Panel α}

omit [Quantity α] in
theorem Wired.apart (wired : Wired ⟨l :: rest, panel⟩) : l.dial ∉ rest.map Loop.dial :=
  (List.nodup_cons.mp wired.own).1

omit [Quantity α] in
theorem Wired.set (wired : c.Wired) (number : ℕ) (d : Dial α) :
    Wired ⟨c.loops, c.panel.set number d⟩ := by
  refine ⟨wired.own, ?_⟩
  rw [List.length_set]
  exact wired.there

omit [Quantity α] in
theorem Wired.tail (wired : Wired ⟨l :: rest, panel⟩) : Wired ⟨rest, panel⟩ where
  own := (List.nodup_cons.mp wired.own).2
  there := fun number mem => wired.there number (List.mem_cons_of_mem _ mem)

/-- To turn a dial that none of the loops turns leaves them at rest. -/
theorem AtRest.set (atRest : c.AtRest) {number : ℕ} (notOurs : number ∉ c.loops.map Loop.dial)
    (d : Dial α) : AtRest ⟨c.loops, c.panel.set number d⟩ := by
  intro m mem
  have ne : number ≠ m.dial := by
    intro same
    exact notOurs (same ▸ List.mem_map_of_mem mem)
  show m.Idle (dialAt (c.panel.set number d) m.dial)
  rw [dialAt_set_of_ne ne]
  exact atRest m mem

theorem AtRest.tail (atRest : AtRest ⟨l :: rest, panel⟩) : AtRest ⟨rest, panel⟩ :=
  fun m mem => atRest m (List.mem_cons_of_mem l mem)

end Rest

/-- **The loops that are off keep their dials released** when the row observes a batch. -/
theorem Heard.atRest (heard : c.Heard c') (wired : c.Wired) (atRest : c.AtRest) : c'.AtRest := by
  induction heard with
  | none panel => exact atRest
  | @last l l' rest panel d touches =>
    have same : l'.dial = l.dial := Loop.dial_of_make touches.make_eq
    intro m mem
    obtain here | later := List.mem_cons.mp mem
    · subst here
      show m.Idle (dialAt (panel.set l.dial d) m.dial)
      rw [same, dialAt_set_self (wired.there l.dial List.mem_cons_self)]
      exact touches.idle (atRest l List.mem_cons_self)
    · exact atRest.tail.set wired.apart d m later
  | @on l l' rest panel d below touches on heard ih =>
    have others := ih (wired.tail.set l.dial d) (atRest.tail.set wired.apart d)
    intro m mem
    obtain here | later := List.mem_cons.mp mem
    · subst here
      intro off
      exact absurd (off.symm.trans on) (by simp)
    · exact others m later

/-- **A loop comes on only beneath one that is on.** -/
theorem Heard.beneath (heard : c.Heard c') {i : ℕ} (was : c.isOn (i + 1) = false)
    (is : c'.isOn (i + 1) = true) : c'.isOn i = true := by
  induction heard generalizing i with
  | none panel => exact absurd (was.symm.trans is) (by simp)
  | last touches => exact absurd (was.symm.trans is) (by simp)
  | on touches on heard ih =>
    cases i with
    | zero => exact on
    | succ i => exact ih was is

end StagedEvents.Console
