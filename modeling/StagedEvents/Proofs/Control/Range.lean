import StagedEvents.Proofs.Control.Turning

/-!
# A loop between its bounds

Settings with finite bounds are put in order, and from then on an adjustment always has a result:
the value that the load calls for is a number, and it is moved between the bounds.

* `Sound`: settings with which every adjustment has a result.
* `Loop.turn_dial`: what an adjustment does to the dial.
* `Loop.Ranges`: a loop whose dial, while the loop is on, is turned to a value between the bounds.
* `Touch.ranges`: nothing that is done to a loop and its dial changes that.
-/

namespace StagedEvents

open Double

namespace LoopSettings

/-- Settings with finite numbers, as far as they bear on the value of the dial. -/
structure Finite (s : LoopSettings Float) : Prop where
  least : IsFinite s.least
  greatest : IsFinite s.greatest
  initial : ∀ x, s.initial? = some x → IsFinite x
  increase : IsFinite s.increase
  factor : IsFinite s.factor

/-- Settings with which every adjustment has a result. -/
structure Sound (s : LoopSettings Float) : Prop where
  least : IsFinite s.least
  greatest : IsFinite s.greatest
  ordered : s.least ≤ s.greatest
  increase : IsFinite s.increase
  natural : 0 ≤ units s.increase
  factor : IsFinite s.factor
  expands : one ≤ units s.factor

theorem larger_zero (x : Float) : Quantity.larger x 0.0 = if 0.0 < x then x else 0.0 :=
  if_pos (by decide +kernel)

variable {s : LoopSettings Float}

/-- Finite settings are sound once they are put in order. -/
theorem Finite.sound (finite : s.Finite) : s.normalized.Sound where
  least := finite.least
  greatest := by
    show IsFinite (if s.greatest < s.least then s.least else s.greatest)
    split
    · exact finite.least
    · exact finite.greatest
  ordered := by
    show s.least ≤ if s.greatest < s.least then s.least else s.greatest
    split
    · exact (le_iff finite.least.1 finite.least.1).2 (Int.le_refl _)
    · rename_i notBelow
      exact le_of_not_lt finite.greatest.1 finite.least.1 notBelow
  increase := by
    show IsFinite (Quantity.larger s.increase 0.0)
    rw [larger_zero]
    split
    · exact finite.increase
    · exact isFinite_zero.1
  natural := by
    show 0 ≤ units (Quantity.larger s.increase 0.0)
    rw [larger_zero]
    split
    · rename_i above
      have less := (lt_iff isFinite_zero.1.1 finite.increase.1).1 above
      rw [isFinite_zero.2] at less
      exact Int.le_of_lt less
    · exact Int.le_of_eq isFinite_zero.2.symm
  factor := by
    show IsFinite (if 1.0 < s.factor then s.factor else 2.0)
    split
    · exact finite.factor
    · exact isFinite_two.1
  expands := by
    show (one : ℤ) ≤ units (if 1.0 < s.factor then s.factor else 2.0)
    split
    · rename_i above
      have less := (lt_iff isFinite_one.1.1 finite.factor.1).1 above
      rw [isFinite_one.2] at less
      omega
    · rw [isFinite_two.2]
      omega

/-- The value that a load calls for is a number. -/
theorem Sound.isNumber_proposed (sound : s.Sound) (band : Band) {x : Float} (hx : IsFinite x) :
    IsNumber (s.proposed band x) := by
  have nonzero : units s.factor ≠ 0 := by
    have := sound.expands
    have := one_pos
    omega
  cases band with
  | veryLow => exact (mul_close hx sound.factor).1
  | low => exact (add_close hx sound.increase).1
  | neutral => exact hx.1
  | high => exact (div_close hx sound.factor nonzero).1
  | veryHigh => exact (div_close hx sound.factor nonzero).1

/-- The value `v` is `p`, moved between the bounds. -/
structure Moves (s : LoopSettings Float) (p v : Float) : Prop where
  finite : IsFinite v
  least : s.least ≤ v
  greatest : v ≤ s.greatest
  place : v = p ∨ v = s.least ∧ p ≤ s.least ∨ v = s.greatest ∧ s.greatest ≤ p

theorem Sound.moves (sound : s.Sound) {p : Float} (number : IsNumber p) :
    ∃ v, Quantity.clamp? s.least s.greatest p = some v ∧ s.Moves p v := by
  obtain ⟨v, clamped, finite, least, greatest, place⟩ :=
    clamp?_cases sound.least sound.greatest sound.ordered number
  exact ⟨v, clamped, finite, least, greatest, place⟩

end LoopSettings

namespace Loop

variable {l l' : Loop Float} {d d' : Dial Float}

/-- The band that an adjustment finds. -/
def bandOf (l : Loop Float) (observed : Span) : Band :=
  l.settings.bands.classify (l.settings.load (l.smooth observed))

theorem band_turn (l : Loop Float) (d : Dial Float) (observed : Span) :
    (l.turn d observed).band = l.bandOf observed := by
  unfold Loop.turn
  simp only
  split <;> rfl

/-- **What an adjustment does to the dial**: it is turned to the value that the load calls for,
    moved between the bounds, or left alone if it shows that value. -/
theorem turn_dial (sound : l.settings.Sound) (shows : IsFinite d.value) (observed : Span) :
    ∃ v, l.settings.Moves (l.settings.proposed (l.bandOf observed) d.value) v ∧
      (l.turn d observed).dial = if Quantity.same v d.value then d else d.turn v := by
  obtain ⟨v, clamped, moves⟩ := sound.moves (sound.isNumber_proposed (l.bandOf observed) shows)
  refine ⟨v, moves, ?_⟩
  unfold bandOf at clamped
  unfold Loop.turn
  simp only [clamped]

/-- The dial shows a value between the bounds. -/
def InRange (s : LoopSettings Float) (d : Dial Float) : Prop :=
  ∃ v, IsFinite v ∧ s.least ≤ v ∧ v ≤ s.greatest ∧ d.turn v = d

/-- A loop with sound settings, whose dial is in range while the loop is on. -/
structure Ranges (l : Loop Float) (d : Dial Float) : Prop where
  sound : l.settings.Sound
  start : IsFinite l.start ∧ l.settings.least ≤ l.start ∧ l.start ≤ l.settings.greatest
  inRange : l.enabled = true → InRange l.settings d

theorem InRange.isFinite {s : LoopSettings Float} (inRange : InRange s d) : IsFinite d.value := by
  obtain ⟨v, finite, -, -, there⟩ := inRange
  rw [← there]
  exact d.isFinite_value_turn finite

/-- A new loop ranges between its bounds. -/
theorem ranges_of_new? {s : LoopSettings Float} (finite : s.Finite)
    (shows : s.initial? = none → IsFinite d.value) (number : ℕ) :
    ∃ l, Loop.new? s number d = .ok (l, d.turn l.start) ∧ l.dial = number ∧
      l.settings = s.normalized ∧ l.Ranges (d.turn l.start) := by
  have sound := finite.sound
  have starts : IsNumber (s.normalized.initial?.getD d.value) := by
    show IsNumber (s.initial?.getD d.value)
    cases initial : s.initial? with
    | none => exact (shows initial).1
    | some x => exact (finite.initial x initial).1
  obtain ⟨v, clamped, moves⟩ := sound.moves starts
  unfold Loop.new?
  simp only [clamped]
  refine ⟨_, rfl, rfl, rfl, sound, ⟨moves.finite, moves.least, moves.greatest⟩, fun _ => ?_⟩
  exact ⟨v, moves.finite, moves.least, moves.greatest, Dial.turn_turn v v d⟩

/-- **Nothing that is done to a loop and its dial takes the dial out of range.** -/
theorem Touch.ranges (touch : l.Touch d l' d') (ranges : l.Ranges d) : l'.Ranges d' := by
  have made := touch.make_eq
  have settings : l'.settings = l.settings := congrArg (fun made => made.1) made
  have start : l'.start = l.start := congrArg (fun made => made.2.2) made
  refine ⟨settings ▸ ranges.sound, settings ▸ start ▸ ranges.start, fun on => ?_⟩
  rw [settings]
  cases touch with
  | count => exact ranges.inRange on
  | turn was observed =>
    have inRange := ranges.inRange was
    obtain ⟨v, moves, turned⟩ := turn_dial ranges.sound inRange.isFinite observed
    rw [turned]
    split
    · exact inRange
    · exact ⟨v, moves.finite, moves.least, moves.greatest, Dial.turn_turn v v d⟩
  | switch flip =>
    cases was : l.enabled with
    | false =>
      obtain ⟨turned, -⟩ := (Touch.switch (l := l) (d := d) flip).on_of_off was on
      rw [turned]
      obtain ⟨finite, least, greatest⟩ := ranges.start
      exact ⟨l.start, finite, least, greatest, Dial.turn_turn l.start l.start d⟩
    | true =>
      cases flip with
      | none => exact ranges.inRange on
      | some wanted =>
        cases wanted with
        | false => exact absurd on (by simp [Loop.switch, disable])
        | true =>
          have still : l.switch d (some true) = (l, d) := if_pos was
          rw [still]
          exact ranges.inRange was
  | ask occupancy incoming =>
    obtain ⟨v, finite, least, greatest, there⟩ := ranges.inRange on
    exact ⟨v, finite, least, greatest, Dial.turn_accept there occupancy incoming⟩

end Loop

namespace Dial

/-- The dial shows a value between the bounds, as far as it can show them: a threshold has whole
    limits and shows the nearest. -/
structure Within (d : Dial Float) (least greatest : Float) : Prop where
  notBelow : (d.turn least).value ≤ d.value
  notAbove : d.value ≤ (d.turn greatest).value
  /-- Knobs and rates show every double. -/
  free : (∀ limit, d ≠ .threshold limit) → least ≤ d.value ∧ d.value ≤ greatest
  above : d.Holds least → least ≤ d.value
  below : d.Holds greatest → d.value ≤ greatest

end Dial

namespace Loop

/-- **A dial in range** is within the bounds. -/
theorem InRange.within {s : LoopSettings Float} {d : Dial Float} (sound : s.Sound)
    (inRange : InRange s d) : d.Within s.least s.greatest := by
  have shows := inRange.isFinite.1
  obtain ⟨v, finite, least, greatest, there⟩ := inRange
  have notBelow := d.value_turn_mono sound.least finite least
  have notAbove := d.value_turn_mono finite sound.greatest greatest
  rw [there] at notBelow notAbove
  have above (holds : d.Holds s.least) : s.least ≤ d.value := by
    have turned := (d.isFinite_value_turn sound.least).1
    rw [le_iff turned shows, (Dial.holds_iff sound.least).1 holds] at notBelow
    exact (le_iff sound.least.1 shows).2 notBelow
  have below (holds : d.Holds s.greatest) : d.value ≤ s.greatest := by
    have turned := (d.isFinite_value_turn sound.greatest).1
    rw [le_iff shows turned, (Dial.holds_iff sound.greatest).1 holds] at notAbove
    exact (le_iff shows sound.greatest.1).2 notAbove
  exact ⟨notBelow, notAbove, fun free => ⟨above (Dial.holds_of_free free sound.least),
    below (Dial.holds_of_free free sound.greatest)⟩, above, below⟩

end Loop

end StagedEvents
