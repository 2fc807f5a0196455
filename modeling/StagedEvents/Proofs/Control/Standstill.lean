import StagedEvents.Proofs.Control.Escalation

/-!
# A loop that is switched off

Someone gives a loop commands, one after the other: it observes batches, is adjusted by hand, and
is switched on and off. From when it is switched off until it is switched on again, no observation
does anything to the row. An adjustment by hand does not ask whether the loop is on: it turns the
dial of a loop that is off, and switches its secondary, as if the loop were on.

* `Console.Command`, `Console.obey`: the commands.
* `Console.Off.still`: what one command leaves of a loop that is off.
* `Console.still_while_off`: what any commands do to a loop that is off.
* `Console.stirred_while_off`: a loop that is off turns its dial and switches its secondary.
-/

namespace StagedEvents

variable {α : Type} [Quantity α]

namespace Console

/-- What a loop is told to do. -/
inductive Command where
  | observe (stats : Stats)
  /-- An adjustment by hand. -/
  | recalculate (observed : Span)
  | enable
  | disable

/-- The row after loop `k` has been told something. -/
def obey (k : ℕ) (c : Console α) : Command → Console α
  | .observe stats => (c.observe k stats).1
  | .recalculate observed => (c.recalculate k observed).1
  | .enable => c.switch k true
  | .disable => c.switch k false

/-- Loop `k` is off and has released its dial. -/
structure Off (k : ℕ) (c : Console α) : Prop where
  loop : ∃ l, c.loops[k]? = some l ∧ l.enabled = false ∧ l.Released (dialAt c.panel l.dial)

variable {c : Console α} {k : ℕ} {l : Loop α}

/-- A loop that is switched off is off, and the others are left alone. -/
theorem Owns.switch_off (owns : c.Owns k l) :
    (c.switch k false).Off k ∧
      dialAt (c.switch k false).panel l.dial =
        (dialAt c.panel l.dial).turn (l.releaseValue (dialAt c.panel l.dial)) ∧
      ∀ j, j ≠ k → (c.switch k false).loops[j]? = c.loops[j]? := by
  have lt := (List.getElem?_eq_some_iff.mp owns.found).1
  obtain ⟨off, off_eq⟩ : ∃ off, l.disable (dialAt c.panel l.dial) = off := ⟨_, rfl⟩
  have switched : c.switch k false = c.put k off.1 off.2 := by
    rw [← off_eq]
    exact switch_eq_put owns.found false
  have dial : off.1.dial = l.dial := by
    rw [← off_eq]
    rfl
  have turned : dialAt (c.put k off.1 off.2).panel off.1.dial = off.2 :=
    dialAt_set_self (dial ▸ owns.there)
  rw [switched]
  refine ⟨⟨off.1, List.getElem?_set_self lt, ?_, ?_⟩, ?_, fun j ne => ?_⟩
  · rw [← off_eq]
    rfl
  · rw [turned, ← off_eq]
    exact l.released_disable _
  · rw [← dial, turned, ← off_eq]
    rfl
  · exact List.getElem?_set_ne (Ne.symm ne)

/-- **Nothing but an adjustment by hand moves a loop that is off**, until it is switched on. -/
theorem Off.still (off : c.Off k) {command : Command} (stays : command ≠ .enable)
    (free : ∀ observed, command ≠ .recalculate observed) : c.obey k command = c := by
  obtain ⟨l, found, disabled, released⟩ := off
  cases command with
  | observe stats => exact congrArg Prod.fst (observe_off found disabled stats)
  | recalculate observed => exact absurd rfl (free observed)
  | enable => exact absurd rfl stays
  | disable =>
    have again : l.disable (dialAt c.panel l.dial) = (l, dialAt c.panel l.dial) := by
      refine Prod.ext ?_ released
      show { l with enabled := false } = l
      rw [← disabled]
    show c.switch k false = c
    rw [switch_eq_put found]
    show c.put k (l.disable (dialAt c.panel l.dial)).1 (l.disable (dialAt c.panel l.dial)).2 = c
    obtain ⟨lt, here⟩ := List.getElem?_eq_some_iff.mp found
    rw [again]
    unfold put
    rw [set_dialAt, ← here, List.set_getElem_self lt]

/-- Whatever a loop that is off is told, it stays off until it is switched on. -/
theorem found_obey (found : c.loops[k]? = some l) (off : l.enabled = false) {command : Command}
    (stays : command ≠ .enable) :
    ∃ l', (c.obey k command).loops[k]? = some l' ∧ l'.enabled = false := by
  cases command with
  | observe stats =>
    obtain ⟨l', found', same⟩ := found_observe found stats
    exact ⟨l', found', same.trans off⟩
  | recalculate observed =>
    exact ⟨_, found_recalculate found observed, (l.turn_keeps _ observed).2.1.trans off⟩
  | enable => exact absurd rfl stays
  | disable =>
    show ∃ l', (c.switch k false).loops[k]? = some l' ∧ l'.enabled = false
    rw [switch_eq_put found]
    exact ⟨_, List.getElem?_set_self (List.getElem?_eq_some_iff.mp found).1, rfl⟩

theorem found_obeyed (found : c.loops[k]? = some l) (off : l.enabled = false)
    {commands : List Command} (stays : .enable ∉ commands) :
    ∃ l', (commands.foldl (obey k) c).loops[k]? = some l' ∧ l'.enabled = false := by
  induction commands generalizing c l with
  | nil => exact ⟨l, found, off⟩
  | cons command later ih =>
    rw [List.mem_cons, not_or] at stays
    obtain ⟨l', found', off'⟩ := found_obey found off (Ne.symm stays.1)
    exact ih found' off' stays.2

theorem Off.still_run (off : c.Off k) {commands : List Command} (stays : .enable ∉ commands)
    (free : ∀ observed, .recalculate observed ∉ commands) : commands.foldl (obey k) c = c := by
  induction commands with
  | nil => rfl
  | cons command later ih =>
    rw [List.mem_cons, not_or] at stays
    have free (observed : Span) : command ≠ .recalculate observed ∧ .recalculate observed ∉ later := by
      have := free observed
      rw [List.mem_cons, not_or] at this
      exact ⟨Ne.symm this.1, this.2⟩
    rw [List.foldl_cons, off.still (Ne.symm stays.1) fun observed => (free observed).1]
    exact ih stays.2 fun observed => (free observed).2

/-- **A loop that is switched off stands still.** To switch it off turns its dial to where it is
    released and leaves the other loops alone, its secondary among them. Whatever it is told then,
    it stays off until it is switched on, and no observation does anything; as long as it is not
    adjusted by hand, the row is as it was when it was switched off. -/
theorem still_while_off (owns : c.Owns k l) {commands : List Command}
    (stays : .enable ∉ commands) :
    let released := c.switch k false
    let after := commands.foldl (obey k) released
    dialAt released.panel l.dial =
        (dialAt c.panel l.dial).turn (l.releaseValue (dialAt c.panel l.dial)) ∧
      (∀ j, j ≠ k → released.loops[j]? = c.loops[j]?) ∧
      after.isOn k = false ∧ (∀ stats, after.observe k stats = (after, .ok none)) ∧
      ((∀ observed, .recalculate observed ∉ commands) → after = released) := by
  intro released after
  obtain ⟨off, turned, others⟩ := owns.switch_off
  obtain ⟨l', found, disabled, -⟩ := off.loop
  obtain ⟨m, there, still⟩ := found_obeyed found disabled stays
  refine ⟨turned, others, ?_, fun stats => observe_off there still stats, off.still_run stays⟩
  unfold isOn
  rw [there]
  exact still

/-- A loop over a knob that was turned down is switched off, and then observes slow batches and is
    switched off once more. -/
theorem still_while_off_observed :
    let c := escalatingPair 0.5
    let released := c.switch 0 false
    let slow := Command.observe (Stats.new.recordBatch 1 (.ofMillis 500))
    let commands := [slow, .disable, slow]
    Command.enable ∉ commands ∧ commands.foldl (obey 0) released = released ∧
      (dialAt c.panel 0).value = 0.01 ∧ (dialAt released.panel 0).value = 1.0 := by
  intro c released slow commands
  have owns : c.Owns 0 _ := (built_escalatingPair 0.5).wired.owns rfl
  have stays : Command.enable ∉ commands := by simp [commands, slow]
  have free (observed : Span) : Command.recalculate observed ∉ commands := by
    simp [commands, slow]
  exact ⟨stays, (still_while_off owns stays).2.2.2.2 free, rfl, rfl⟩

/-- **A loop that is off turns its dial and switches its secondary** when it is adjusted by hand. -/
theorem stirred_while_off :
    let released := (escalatingPair 0.5).switch 0 false
    let after := released.obey 0 (.recalculate (.ofMillis 500))
    (∃ l, (escalatingPair 0.5).Owns 0 l) ∧ released.isOn 0 = false ∧ after.isOn 0 = false ∧
      (dialAt after.panel 0).value < (dialAt released.panel 0).value ∧
      released.isOn 1 = false ∧ after.isOn 1 = true := by
  refine ⟨⟨_, (built_escalatingPair 0.5).wired.owns rfl⟩, ?_⟩
  decide +kernel

end Console

end StagedEvents
