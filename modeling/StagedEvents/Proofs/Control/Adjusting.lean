import StagedEvents.Proofs.Control.Calls

/-!
# One adjustment of a loop

An adjustment finds a load, the band of the load, and the value that the load calls for, moved
between the bounds. What it does then to the loop, to its dial and to the secondary loop follows
from these three.

* `Loop.finding`: what an adjustment finds.
* `Loop.turn_eq`: what it makes of the loop and its dial, if the bounds are in order.
* `Console.Owns.recalculate_self`: what it leaves of the loop in its row.
-/

namespace StagedEvents

variable {α : Type} [Quantity α]

/-- What an adjustment finds: the load, its band, and the value between the bounds that the load
    calls for. -/
structure Finding (α : Type) where
  load : α
  band : Band
  value : α

namespace Loop

/-- The load that an adjustment finds. -/
def loadOf (l : Loop α) (observed : Span) : α := l.settings.load (l.smooth observed)

/-- What an adjustment finds, given the dial. -/
def finding (l : Loop α) (d : Dial α) (observed : Span) : Finding α :=
  let load := l.loadOf observed
  let band := l.settings.bands.classify load
  let proposed := l.settings.proposed band d.value
  { load, band
    value := (Quantity.clamp? l.settings.least l.settings.greatest proposed).getD proposed }

variable {l : Loop α}

/-- **What an adjustment makes of a loop and its dial**, if the bounds are in order. -/
theorem turn_eq (ordered : l.settings.least ≤ l.settings.greatest) (d : Dial α)
    (observed : Span) :
    l.turn d observed =
      let found := l.finding d observed
      let (highWindows, wish) := l.escalate found.band found.load found.value
      { loop := { l with smoothed? := some (l.smooth observed), highWindows }
        dial := if Quantity.same found.value d.value then d else d.turn found.value
        band := found.band, previous := d.value, smoothed := l.smooth observed, wish
        fault? := none } := by
  unfold turn finding loadOf Quantity.clamp?
  simp only [if_pos ordered, Option.getD_some]
  rfl

/-- The next adjustment finds this one's smoothed response time. -/
theorem smoothed?_turn (l : Loop α) (d : Dial α) (observed : Span) :
    (l.turn d observed).loop.smoothed? = some (l.smooth observed) := by
  unfold turn
  simp only
  split <;> rfl

theorem settings_turn (l : Loop α) (d : Dial α) (observed : Span) :
    (l.turn d observed).loop.settings = l.settings :=
  congrArg (fun made => made.1) (l.turn_keeps d observed).1

/-- What the next adjustment smooths. -/
theorem smooth_turn (l : Loop α) (d : Dial α) (observed next : Span) :
    (l.turn d observed).loop.smooth next =
      l.settings.smoothing * l.smooth observed +
        (1.0 - l.settings.smoothing) * (Quantity.seconds next * 1000.0) := by
  conv_lhs => unfold smooth
  rw [smoothed?_turn, settings_turn]

end Loop

namespace Console

variable {c : Console α} {k : ℕ} {l : Loop α}

/-- **What an adjustment leaves of the loop in its row**, whatever becomes of the secondary. -/
theorem Owns.recalculate_self (owns : c.Owns k l) {observed : Span} {turn : Turn α}
    (turns : l.turn (dialAt c.panel l.dial) observed = turn) :
    (c.recalculate k observed).1.Owns k turn.loop ∧
      dialAt (c.recalculate k observed).1.panel turn.loop.dial = turn.dial := by
  have same : turn.loop.dial = l.dial := by
    rw [← turns]
    exact Loop.dial_of_make (l.turn_keeps _ observed).1
  have put := owns.put_self same turn.dial
  have turned : dialAt (c.put k turn.loop turn.dial).panel turn.loop.dial = turn.dial :=
    dialAt_set_self (same ▸ owns.there)
  rw [recalculate_eq_put owns.found turns]
  split
  · exact ⟨put, turned⟩
  · rename_i wanted _
    obtain ⟨owns', steady⟩ := put.switch_other (Nat.succ_ne_self k) wanted
    exact ⟨owns', steady.trans turned⟩

end Console

end StagedEvents
