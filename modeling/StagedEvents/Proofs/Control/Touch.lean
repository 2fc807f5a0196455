import Mathlib.Data.List.Nodup
import Mathlib.Logic.Relation
import StagedEvents.Control.Console

/-!
# What is done to a loop and its dial

Whoever observes batches, switches loops or asks a gate to let events in does a few things to a
loop and its dial: a batch is counted, the dial is turned while the loop is on, the loop is
switched, the dial lets events in or not. Each is a touch of the loop.

* `Loop.Released`: the dial is where the loop turns it when it is switched off.
* `Loop.Touch`: one thing that is done to a loop and its dial.
* `Touch.idle`: a loop that is off keeps its dial released.
* `Touch.on_of_off`: a loop that comes on starts anew.
* `Touch.off`: nothing that is done to a loop while it is off adjusts it.
-/

namespace StagedEvents

variable {α : Type} [Quantity α]

namespace Bucket

theorem rate_accept (b : Bucket α) (incoming : ℕ) : (b.accept incoming).2.rate = b.rate := by
  unfold accept
  split
  · rfl
  · unfold take
    split
    · rfl
    · rfl

end Bucket

namespace Dial

@[simp]
theorem turn_turn (x y : α) (d : Dial α) : (d.turn x).turn y = d.turn y := by
  cases d with
  | threshold limit => rfl
  | rate bucket => rfl
  | knob value => rfl

@[simp]
theorem released?_turn (x : α) (d : Dial α) : (d.turn x).released? = d.released? := by
  cases d with
  | threshold limit => rfl
  | rate bucket => rfl
  | knob value => rfl

@[simp]
theorem released?_accept (occupancy incoming : ℕ) (d : Dial α) :
    (d.accept occupancy incoming).2.released? = d.released? := by
  cases d with
  | threshold limit => rfl
  | rate bucket => rfl
  | knob value => rfl

/-- To let events in, or not, leaves a dial where it is. -/
theorem turn_accept {x : α} {d : Dial α} (h : d.turn x = d) (occupancy incoming : ℕ) :
    (d.accept occupancy incoming).2.turn x = (d.accept occupancy incoming).2 := by
  cases d with
  | threshold limit => exact h
  | knob value => exact h
  | rate bucket =>
    have there : x = bucket.rate := by
      have same := Dial.rate.inj h
      exact congrArg Bucket.rate same
    have stays := bucket.rate_accept incoming
    rw [← there] at stays
    show rate { (bucket.accept incoming).2 with rate := x } = rate (bucket.accept incoming).2
    rw [← stays]

end Dial

namespace Loop

/-- The dial is where the loop turns it when it is switched off. -/
def Released (l : Loop α) (d : Dial α) : Prop := d.turn (l.releaseValue d) = d

/-- A loop that is off has released its dial. -/
def Idle (l : Loop α) (d : Dial α) : Prop := l.enabled = false → l.Released d

/-- What a loop is for, which never changes: its settings, the number of its dial and its
    starting value. -/
def make (l : Loop α) : LoopSettings α × ℕ × α := (l.settings, l.dial, l.start)

/-- What the loop has found out so far, its adjustments apart. -/
def findings (l : Loop α) : Option α × ℕ := (l.smoothed?, l.highWindows)

/-- One thing that is done to a loop and its dial. -/
inductive Touch (l : Loop α) (d : Dial α) : Loop α → Dial α → Prop where
  | count : Touch l d l.count d
  /-- An adjustment of a loop that is on. -/
  | turn (on : l.enabled = true) (observed : Span) :
      Touch l d (l.turn d observed).loop (l.turn d observed).dial
  | switch (flip : Option Bool) : Touch l d (l.switch d flip).1 (l.switch d flip).2
  /-- The dial decides whether events are let in. -/
  | ask (occupancy incoming : ℕ) : Touch l d l (d.accept occupancy incoming).2

variable {l l' : Loop α} {d d' : Dial α}

theorem releaseValue_turn (l : Loop α) (x : α) (d : Dial α) :
    l.releaseValue (d.turn x) = l.releaseValue d := by
  unfold releaseValue
  rw [Dial.released?_turn]

/-- A loop that is switched off releases its dial. -/
theorem released_disable (l : Loop α) (d : Dial α) : (l.disable d).1.Released (l.disable d).2 := by
  show (d.turn (l.releaseValue d)).turn (l.releaseValue (d.turn (l.releaseValue d))) = _
  rw [releaseValue_turn, Dial.turn_turn]
  rfl

/-! ## One touch -/

theorem turn_keeps (l : Loop α) (d : Dial α) (observed : Span) :
    (l.turn d observed).loop.make = l.make ∧ (l.turn d observed).loop.enabled = l.enabled ∧
      (l.turn d observed).loop.observations = l.observations := by
  unfold Loop.turn
  simp only
  split
  · exact ⟨rfl, rfl, rfl⟩
  · exact ⟨rfl, rfl, rfl⟩

theorem switch_keeps (l : Loop α) (d : Dial α) (flip : Option Bool) :
    (l.switch d flip).1.make = l.make ∧ (l.switch d flip).1.observations = l.observations ∧
      (l.switch d flip).1.smoothed? = l.smoothed? := by
  cases flip with
  | none => exact ⟨rfl, rfl, rfl⟩
  | some on =>
    cases on with
    | false => exact ⟨rfl, rfl, rfl⟩
    | true =>
      show (l.enable d).1.make = _ ∧ (l.enable d).1.observations = _ ∧ (l.enable d).1.smoothed? = _
      unfold enable
      split
      · exact ⟨rfl, rfl, rfl⟩
      · exact ⟨rfl, rfl, rfl⟩

theorem Touch.make_eq (touch : l.Touch d l' d') : l'.make = l.make := by
  cases touch with
  | count => rfl
  | turn on observed => exact (l.turn_keeps d observed).1
  | switch flip => exact (l.switch_keeps d flip).1
  | ask => rfl

/-- **A loop that is off keeps its dial released**, whatever is done to it. -/
theorem Touch.idle (touch : l.Touch d l' d') (idle : l.Idle d) : l'.Idle d' := by
  cases touch with
  | count => exact idle
  | turn on observed =>
    intro off
    rw [(l.turn_keeps d observed).2.1, on] at off
    exact absurd off (by simp)
  | switch flip =>
    cases flip with
    | none => exact idle
    | some wanted =>
      cases wanted with
      | false => exact fun _ => l.released_disable d
      | true =>
        intro off
        show (l.enable d).1.Released (l.enable d).2
        have off : (l.enable d).1.enabled = false := off
        unfold enable at off ⊢
        split
        · rename_i on
          rw [if_pos on] at off
          exact idle off
        · rename_i out
          rw [if_neg out] at off
          exact absurd off (by simp)
  | ask occupancy incoming =>
    intro off
    have there : (d.accept occupancy incoming).2.turn (l.releaseValue d) = _ :=
      Dial.turn_accept (idle off) occupancy incoming
    unfold Released releaseValue
    rw [Dial.released?_accept]
    exact there

/-- **A loop that comes on starts anew**: its dial is at the starting value, and no high windows
    are counted. -/
theorem Touch.on_of_off (touch : l.Touch d l' d') (off : l.enabled = false)
    (on : l'.enabled = true) : d' = d.turn l.start ∧ l'.highWindows = 0 := by
  cases touch with
  | count => exact absurd (off.symm.trans on) (by simp)
  | turn was observed => exact absurd (off.symm.trans was) (by simp)
  | switch flip =>
    cases flip with
    | none => exact absurd (off.symm.trans on) (by simp)
    | some wanted =>
      cases wanted with
      | false => exact absurd on (by simp [Loop.switch, disable])
      | true =>
        have enabled : l.switch d (some true) =
            ({ l with enabled := true, highWindows := 0 }, d.turn l.start) := by
          show l.enable d = _
          unfold enable
          rw [if_neg (by simp [off])]
        rw [enabled]
        exact ⟨rfl, rfl⟩
  | ask => exact absurd (off.symm.trans on) (by simp)

omit [Quantity α] in
theorem dial_of_make (same : l'.make = l.make) : l'.dial = l.dial :=
  congrArg (fun made => made.2.1) same

/-- Things that are done to a loop and its dial, one after the other. -/
def Touches (x y : Loop α × Dial α) : Prop :=
  Relation.ReflTransGen (fun x y => x.1.Touch x.2 y.1 y.2) x y

theorem touches_switch (l : Loop α) (d : Dial α) (flip : Option Bool) :
    Touches (l, d) (l.switch d flip) := .single (Touch.switch flip)

theorem Touches.make_eq {x y : Loop α × Dial α} (touches : Touches x y) :
    y.1.make = x.1.make := by
  induction touches with
  | refl => rfl
  | tail _ last ih => exact last.make_eq.trans ih

theorem Touches.idle {x y : Loop α × Dial α} (touches : Touches x y) (idle : x.1.Idle x.2) :
    y.1.Idle y.2 := by
  induction touches with
  | refl => exact idle
  | tail _ last ih => exact last.idle ih

/-- **Nothing adjusts a loop while it is off.** -/
theorem Touch.off (touch : l.Touch d l' d') (off : l.enabled = false)
    (still : l'.enabled = false) : l'.findings = l.findings := by
  cases touch with
  | count => rfl
  | turn on observed => exact absurd (off.symm.trans on) (by simp)
  | switch flip =>
    cases flip with
    | none => rfl
    | some wanted =>
      cases wanted with
      | false => rfl
      | true =>
        have on : (l.switch d (some true)).1.enabled = true := by
          show (l.enable d).1.enabled = true
          unfold enable
          rw [if_neg (by simp [off])]
        exact absurd (still.symm.trans on) (by simp)
  | ask => rfl

end Loop

/-! ## Dials on a panel -/

section Panel

variable {panel : Panel α} {number other : ℕ} {d : Dial α}

theorem dialAt_set_of_ne (ne : number ≠ other) :
    dialAt (panel.set number d) other = dialAt panel other := by
  unfold dialAt
  rw [List.getElem?_set_ne ne]

theorem dialAt_set_self (lt : number < panel.length) :
    dialAt (panel.set number d) number = d := by
  unfold dialAt
  rw [List.getElem?_set_self lt, Option.getD_some]

/-- A dial that is put back where it was changes nothing. -/
theorem set_dialAt (panel : Panel α) (number : ℕ) :
    panel.set number (dialAt panel number) = panel := by
  by_cases lt : number < panel.length
  · have here : dialAt panel number = panel[number] := by
      unfold dialAt
      rw [List.getElem?_eq_getElem lt, Option.getD_some]
    rw [here, List.set_getElem_self lt]
  · exact List.set_eq_of_length_le (Nat.le_of_not_lt lt)

end Panel

namespace Console

/-- The row after the dial with the given number has decided whether events are let in. -/
def asked (number occupancy incoming : ℕ) (c : Console α) : Console α :=
  ⟨c.loops, c.panel.set number ((dialAt c.panel number).accept occupancy incoming).2⟩

/-- Every loop has a dial of its own on the panel. -/
structure Wired (c : Console α) : Prop where
  own : (c.loops.map Loop.dial).Nodup
  there : ∀ number ∈ c.loops.map Loop.dial, number < c.panel.length

/-- Every loop that is off has released its dial. -/
def AtRest (c : Console α) : Prop := ∀ l ∈ c.loops, l.Idle (dialAt c.panel l.dial)

end Console

end StagedEvents
