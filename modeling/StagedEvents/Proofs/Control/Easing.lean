import StagedEvents.Proofs.Control.Range
import StagedEvents.Stage.Blueprint

/-!
# Loops that tighten and ease a threshold

A stage that is built from a configuration with a target has a threshold for a gate, and one loop
that turns it. A recalculation with a high load never lets more events in than before: the
threshold is halved, but never so far that it lets everything in. A recalculation with a low load
never lets fewer in, as long as the threshold holds events back at all. One that lets everything
in, being zero or less, is below every threshold that holds events back, and to raise it takes
effect as a restriction.

* `Loop.turn_threshold`: what an adjustment makes of a limit.
* `Stage.Regulated`: a stage with one loop over the threshold of its gate.
* `Stage.tightens_and_eases`: what a recalculation of such a stage lets in.
* `Stage.eases_not`: a low load that shuts events out.
-/

namespace StagedEvents

open Relation (ReflTransGen)
open Double

namespace Loop

/-- A limit between those of a threshold that is turned to the bounds. -/
structure InLimits (s : LoopSettings Float) (t : ℤ) : Prop where
  settled : Dial.Settled t
  least : Dial.limitOf s.least ≤ t
  greatest : t ≤ Dial.limitOf s.greatest

variable {s : LoopSettings Float} {t : ℤ} {x v : Float}

theorem inLimits_limitOf (sound : s.Sound) {p : Float} (moves : s.Moves p v) :
    InLimits s (Dial.limitOf v) where
  settled := Dial.settled_limitOf moves.finite
  least := Dial.limitOf_mono sound.least moves.finite moves.least
  greatest := Dial.limitOf_mono moves.finite sound.greatest moves.greatest

/-- Half of a limit that holds events back holds events back. -/
theorem limitOf_halved (settled : Dial.Settled t) (positive : 1 ≤ t) :
    IsFinite (Float.ofInt t / 2.0) ∧ 1 ≤ Dial.limitOf (Float.ofInt t / 2.0) ∧
      Dial.limitOf (Float.ofInt t / 2.0) ≤ t := by
  obtain ⟨two, units_two⟩ := isFinite_two
  obtain ⟨finite, -⟩ := Dial.units_ofInt settled
  have shows := Dial.one_le_units_ofInt settled positive
  have pos := one_pos
  have number : IsNumber (Float.ofInt t / 2.0) := (div_close finite two (by omega)).1
  have below : units (Float.ofInt t / 2.0) ≤ units (Float.ofInt t) :=
    units_div_le finite two (by omega) (by omega)
  have above : half ≤ units (Float.ofInt t / 2.0) := by
    refine le_units_div finite two (by omega) onGrid_half ?_
    have double : (half : ℤ) * (2 * one : ℕ) = one * one := by
      have := two_mul_half
      calc (half : ℤ) * (2 * one : ℕ) = (2 * half : ℕ) * one := by push_cast; ring
        _ = one * one := by rw [this]
    rw [units_two, double]
    exact Int.mul_le_mul_of_nonneg_right shows (Int.natCast_nonneg one)
  have near := finite.2
  have halved : IsFinite (Float.ofInt t / 2.0) := ⟨number, by omega⟩
  refine ⟨halved, Dial.one_le_limitOf halved ?_, ?_⟩
  · have := two_mul_half
    omega
  · have le := Dial.limitOf_mono halved finite ((le_iff number finite.1).2 below)
    rwa [Dial.limitOf_ofInt settled] at le

/-- **What a high load makes of a limit.** -/
theorem tighter (sound : s.Sound) (halves : s.factor = 2.0) (inLimits : InLimits s t)
    (positive : 1 ≤ t) {band : Band} (high : band = .high ∨ band = .veryHigh)
    (moves : s.Moves (s.proposed band (Float.ofInt t)) v) :
    1 ≤ Dial.limitOf v ∧ Dial.limitOf v ≤ t := by
  have proposed : s.proposed band (Float.ofInt t) = Float.ofInt t / 2.0 := by
    rw [← halves]
    rcases high with rfl | rfl <;> rfl
  obtain ⟨finite, above, below⟩ := limitOf_halved inLimits.settled positive
  rw [proposed] at moves
  obtain ⟨-, -, -, rfl | ⟨rfl, le⟩ | ⟨rfl, le⟩⟩ := moves
  · exact ⟨above, below⟩
  · have := Dial.limitOf_mono finite sound.least le
    have := inLimits.least
    omega
  · have := Dial.limitOf_mono sound.greatest finite le
    have := inLimits.greatest
    omega

/-- **What a low load makes of a limit.** -/
theorem wider (sound : s.Sound) (inLimits : InLimits s t) (positive : 1 ≤ t) {band : Band}
    (low : band = .low ∨ band = .veryLow)
    (moves : s.Moves (s.proposed band (Float.ofInt t)) v) : t ≤ Dial.limitOf v := by
  obtain ⟨finite, -⟩ := Dial.units_ofInt inLimits.settled
  have natural : 0 ≤ units (Float.ofInt t) :=
    Int.le_trans (Int.natCast_nonneg one) (Dial.one_le_units_ofInt inLimits.settled positive)
  have number := sound.isNumber_proposed band finite
  have raised : Float.ofInt t ≤ s.proposed band (Float.ofInt t) := by
    rw [le_iff finite.1 number]
    rcases low with rfl | rfl
    · exact units_le_add finite sound.increase sound.natural
    · exact units_le_mul finite sound.factor natural sound.expands
  have back := Dial.limitOf_ofInt inLimits.settled
  obtain ⟨finite', -, -, rfl | ⟨rfl, le⟩ | ⟨rfl, le⟩⟩ := moves
  · have := Dial.limitOf_mono finite finite' raised
    omega
  · have le : Float.ofInt t ≤ s.least := by
      rw [le_iff finite.1 finite'.1]
      rw [le_iff finite.1 number] at raised
      rw [le_iff number finite'.1] at le
      omega
    have := Dial.limitOf_mono finite finite' le
    omega
  · exact inLimits.greatest

/-- What an adjustment makes of a limit, by the band of the load. -/
theorem turn_threshold {l : Loop Float} (sound : l.settings.Sound) (halves : l.settings.factor = 2.0)
    (inLimits : InLimits l.settings t) (observed : Span) :
    ∃ t', (l.turn (.threshold t) observed).dial = .threshold t' ∧ InLimits l.settings t' ∧
      (l.bandOf observed = .high ∨ l.bandOf observed = .veryHigh → 1 ≤ t → 1 ≤ t' ∧ t' ≤ t) ∧
      (l.bandOf observed = .low ∨ l.bandOf observed = .veryLow → 1 ≤ t → t ≤ t') := by
  obtain ⟨v, moves, turned⟩ := turn_dial sound (d := .threshold t)
    (Dial.units_ofInt inLimits.settled).1 observed
  rw [turned]
  split
  · exact ⟨t, rfl, inLimits, fun _ positive => ⟨positive, Int.le_refl t⟩, fun _ _ => Int.le_refl t⟩
  · exact ⟨Dial.limitOf v, rfl, inLimits_limitOf sound moves,
      fun high positive => tighter sound halves inLimits positive high moves,
      fun low positive => wider sound inLimits positive low moves⟩

end Loop

/-! ## Stages -/

variable {ε : Type}

/-- The options ask for a loop that turns the queue threshold, between finite bounds. -/
structure Options.Steers (o : Options) : Prop where
  target : ∃ t, o.targetResponseTimeMillis = some t ∧ 0.0 < t
  least : ∀ x, o.minThreshold = some x → IsFinite x
  greatest : ∀ x, o.maxThreshold = some x → IsFinite x

/-- The blueprint leaves the gate and the loop of the stage to the configuration. -/
structure Blueprint.Plain (b : Blueprint ε) : Prop where
  gate : b.gate? = none
  custom : b.customLoop? = none
  loop : b.thresholdLoop? = none

theorem LoopSettings.normalized_factor {s : LoopSettings Float} (two : s.factor = 2.0) :
    s.normalized.factor = 2.0 := by
  show (if 1.0 < s.factor then s.factor else 2.0) = 2.0
  rw [two]
  exact ite_self _

/-- The loop that the options ask for halves the threshold and starts from its least value. -/
theorem Options.Steers.controllerOf {o : Options} (steers : o.Steers) :
    ∃ s : LoopSettings Float, Resolved.controllerOf o = some s ∧ s.Finite ∧
      s.least = o.minThreshold.getD Resolved.defaultMinThreshold ∧
      s.initial? = some s.least ∧ s.normalized.factor = 2.0 := by
  obtain ⟨t, target, positive⟩ := steers.target
  have asked : o.targetResponseTimeMillis.filter (fun t => 0.0 < t) = some t := by
    rw [target, Option.filter_some, if_pos (decide_eq_true positive)]
  unfold Resolved.controllerOf
  rw [asked]
  have least : IsFinite (o.minThreshold.getD Resolved.defaultMinThreshold) := by
    cases set : o.minThreshold with
    | none => exact isFinite_one.1
    | some x => exact steers.least x set
  have greatest : IsFinite (o.maxThreshold.getD Resolved.defaultMaxThreshold) := by
    cases set : o.maxThreshold with
    | none => exact (by decide +kernel : IsFinite 1024.0)
    | some x => exact steers.greatest x set
  refine ⟨_, rfl, ⟨least, greatest, ?_, isFinite_two.1, isFinite_two.1⟩,
    rfl, rfl, LoopSettings.normalized_factor rfl⟩
  rintro x same
  obtain rfl := Option.some.inj same
  exact least

namespace Stage

variable {s : Stage ε} {l : Loop Float} {t t' : ℤ}

/-- The stage after its loop has been adjusted to an observed response time. -/
def recalculate (observed : Span) (s : Stage ε) : Stage ε :=
  (s.control (Console.recalculateFirst observed)).1

/-- The band that such an adjustment finds, if the stage has a loop. -/
def bandOf? (observed : Span) (s : Stage ε) : Option Band :=
  s.loops.head?.map fun l => l.bandOf observed

/-- The account of an adjustment names that band. -/
theorem bandOf?_of_adjusted {observed : Span} {adjustment : Adjustment Float}
    (adjusted : (s.control (Console.recalculateFirst observed)).2 = some (some (.ok adjustment))) :
    s.bandOf? observed = some adjustment.band := by
  unfold Stage.control at adjusted
  unfold bandOf?
  cases loops : s.loops with
  | nil =>
    rw [loops] at adjusted
    cases adjusted
  | cons l rest =>
    have row : s.console.loops = l :: rest := loops
    rw [loops] at adjusted
    unfold Console.recalculateFirst at adjusted
    simp only [row, Option.some.injEq] at adjusted
    unfold Turn.adjustment at adjusted
    split at adjusted
    · cases adjusted
    · cases span : Loop.spanOfMillis (l.turn (dialAt s.console.panel l.dial) observed).smoothed with
      | error fault =>
        rw [span] at adjusted
        cases adjusted
      | ok smoothed =>
        rw [span] at adjusted
        obtain rfl := Except.ok.inj adjusted
        exact congrArg some (l.band_turn (dialAt s.console.panel l.dial) observed).symm

/-- A stage whose gate is a threshold, and whose one loop turns it. -/
structure Regulated (s : Stage ε) (l : Loop Float) (t : ℤ) : Prop where
  loops : s.loops = [l]
  dial : l.dial = 0
  place : s.gateDial? = some 0
  dials : s.dials.length = 1
  gate : s.sink.gate = .guarded (.threshold t)

theorem Regulated.console (regulated : s.Regulated l t) :
    s.console = ⟨[l], [.threshold t]⟩ := by
  obtain ⟨d, dials⟩ := List.length_eq_one_iff.mp regulated.dials
  unfold Stage.console
  rw [regulated.loops, regulated.place, regulated.gate, dials]
  rfl

/-- An adjustment of the loop turns the threshold of the gate. -/
theorem Regulated.recalculate (regulated : s.Regulated l t) {observed : Span}
    (turned : (l.turn (.threshold t) observed).dial = .threshold t') :
    (s.recalculate observed).Regulated (l.turn (.threshold t) observed).loop t' := by
  obtain ⟨turn, turns⟩ : ∃ turn, l.turn (.threshold t) observed = turn := ⟨_, rfl⟩
  have dial : turn.loop.dial = 0 := by
    rw [← turns]
    exact (Loop.dial_of_make (l.turn_keeps _ observed).1).trans regulated.dial
  have adjusted : (Console.recalculateFirst observed s.console).1 =
      ⟨[turn.loop], [.threshold t']⟩ := by
    rw [turns] at turned
    rw [regulated.console]
    unfold Console.recalculateFirst
    simp only [regulated.dial]
    rw [show dialAt [Dial.threshold t] 0 = (Dial.threshold t : Dial Float) from rfl, turns, turned]
    cases turn.wish <;> rfl
  have stage : s.recalculate observed = s.putConsole ⟨[turn.loop], [.threshold t']⟩ := by
    unfold Stage.recalculate Stage.control
    rw [regulated.loops, ← adjusted]
  rw [turns, stage]
  unfold Stage.putConsole
  simp only [regulated.place]
  exact ⟨rfl, dial, rfl, rfl, rfl⟩

/-- **A stage that leaves its gate to such options** is built, and its threshold is in the limits of
    its loop. -/
theorem regulated_of_build {b : Blueprint ε} {c : Config} (plain : b.Plain)
    (steers : (c.merged b.name).Steers) :
    ∃ (s : Stage ε) (l : Loop Float) (t : ℤ), b.build? (c.resolve b.name) = .ok s ∧
      s.Regulated l t ∧ l.settings.Sound ∧ l.settings.factor = 2.0 ∧
      l.settings.least = (c.merged b.name).minThreshold.getD Resolved.defaultMinThreshold ∧
      Loop.InLimits l.settings t := by
  obtain ⟨settings, controller, finite, least, initial, halves⟩ := steers.controllerOf
  obtain ⟨limit, rigging⟩ : ∃ limit, b.rigging (c.resolve b.name) =
      ⟨.guarded (.threshold limit), [.threshold limit], some (settings, 0)⟩ := by
    have controller : (c.resolve b.name).controller = some settings := controller
    unfold Blueprint.rigging
    rw [plain.gate, plain.custom, plain.loop, Option.none_or, controller]
    exact ⟨_, rfl⟩
  obtain ⟨l, new, dial, same, ranges⟩ := Loop.ranges_of_new? (d := .threshold limit) finite
    (fun none => absurd (initial.symm.trans none) (by simp)) 0
  obtain ⟨startFinite, startLeast, startGreatest⟩ := ranges.start
  have attached : (b.frame (c.resolve b.name) (b.rigging (c.resolve b.name))).console.attach?
      settings 0 = .ok ⟨[l], [.threshold (Dial.limitOf l.start)]⟩ := by
    rw [rigging]
    show Console.attach? settings 0 ⟨[], [.threshold limit]⟩ = _
    unfold Console.attach?
    rw [show dialAt [Dial.threshold limit] 0 = (Dial.threshold limit : Dial Float) from rfl, new]
    rfl
  refine ⟨(b.frame (c.resolve b.name) (b.rigging (c.resolve b.name))).putConsole
    ⟨[l], [.threshold (Dial.limitOf l.start)]⟩, l, Dial.limitOf l.start, ?_, ?_, ranges.sound, ?_,
    ?_, ?_⟩
  · unfold Blueprint.build?
    rw [rigging] at attached ⊢
    simp only [attached]
    rfl
  · rw [rigging]
    exact ⟨rfl, dial, rfl, rfl, rfl⟩
  · rw [same]
    exact halves
  · rw [same]
    exact least
  · exact ⟨Dial.settled_limitOf startFinite,
      Dial.limitOf_mono ranges.sound.least startFinite startLeast,
      Dial.limitOf_mono startFinite ranges.sound.greatest startGreatest⟩

/-- What adjustments make of a stage, one after the other. -/
def Recalculated : Stage ε → Stage ε → Prop :=
  ReflTransGen fun before after => ∃ observed, after = before.recalculate observed

/-- The loop of a stage stays over its threshold, and the threshold in its limits. -/
theorem Regulated.recalculated {s₀ : Stage ε} (regulated : s₀.Regulated l t)
    (sound : l.settings.Sound) (halves : l.settings.factor = 2.0)
    (inLimits : Loop.InLimits l.settings t) (run : s₀.Recalculated s) :
    ∃ l' t', s.Regulated l' t' ∧ l'.settings = l.settings ∧ Loop.InLimits l.settings t' := by
  induction run with
  | refl => exact ⟨l, t, regulated, rfl, inLimits⟩
  | tail _ last ih =>
    obtain ⟨observed, rfl⟩ := last
    obtain ⟨l', t', regulated', same, inLimits'⟩ := ih
    rw [← same] at sound halves inLimits'
    obtain ⟨t'', turned, inLimits'', -⟩ := Loop.turn_threshold sound halves inLimits' observed
    have keeps := (l'.turn_keeps (.threshold t') observed).1
    rw [same] at inLimits''
    exact ⟨_, t'', regulated'.recalculate turned,
      (congrArg (fun made => made.1) keeps).trans same, inLimits''⟩

/-- Whether the gate of the stage lets in so many more than there are. -/
def Admits (s : Stage ε) (occupancy incoming : ℕ) : Prop := s.sink.admission occupancy incoming = true

theorem Regulated.admits_iff (regulated : s.Regulated l t) (occupancy incoming : ℕ) :
    s.Admits occupancy incoming ↔ t ≤ 0 ∨ ((occupancy + incoming : ℕ) : ℤ) ≤ t := by
  unfold Admits Sink.admission
  rw [regulated.gate]
  show (decide (t ≤ 0) || decide (((occupancy + incoming : ℕ) : ℤ) ≤ t)) = true ↔ _
  rw [Bool.or_eq_true, decide_eq_true_iff, decide_eq_true_iff]

/-- **To tighten never lets more in, and to ease never lets less in**, in every state of a stage
    that leaves its gate to its options: a recalculation with a high load lets in only what was let
    in before, and one with a low load lets in all that was, provided that the threshold held
    anything back, as it always does if its least value is a half or more. -/
theorem tightens_and_eases {b : Blueprint ε} {c : Config} (plain : b.Plain)
    (steers : (c.merged b.name).Steers) :
    ∃ s₀ : Stage ε, b.build? (c.resolve b.name) = .ok s₀ ∧ ∀ s, s₀.Recalculated s → ∀ observed,
      ∃ band, s.bandOf? observed = some band ∧
        (∀ adjustment, (s.control (Console.recalculateFirst observed)).2 =
          some (some (.ok adjustment)) → adjustment.band = band) ∧
        (band = .high ∨ band = .veryHigh → ∀ occupancy incoming,
          (s.recalculate observed).Admits occupancy incoming → s.Admits occupancy incoming) ∧
        (band = .low ∨ band = .veryLow →
          (∃ occupancy incoming, ¬ s.Admits occupancy incoming) ∨
            0.5 ≤ (c.merged b.name).minThreshold.getD Resolved.defaultMinThreshold →
          ∀ occupancy incoming,
            s.Admits occupancy incoming → (s.recalculate observed).Admits occupancy incoming) := by
  obtain ⟨s₀, l₀, t₀, built, regulated₀, sound, halves, least, inLimits₀⟩ :=
    regulated_of_build plain steers
  refine ⟨s₀, built, fun s run observed => ?_⟩
  obtain ⟨l, t, regulated, same, inLimits⟩ :=
    regulated₀.recalculated sound halves inLimits₀ run
  rw [← same] at sound halves inLimits least
  obtain ⟨t', turned, -, tighter, wider⟩ := Loop.turn_threshold sound halves inLimits observed
  have after := regulated.recalculate turned
  have band : s.bandOf? observed = some (l.bandOf observed) := by
    unfold bandOf?
    rw [regulated.loops]
    rfl
  refine ⟨l.bandOf observed, band, fun adjustment adjusted => ?_,
    fun high occupancy incoming => ?_, fun low holds occupancy incoming => ?_⟩
  · exact Option.some.inj ((bandOf?_of_adjusted adjusted).symm.trans band)
  · rw [after.admits_iff, regulated.admits_iff]
    have := tighter high
    omega
  · have positive : 1 ≤ t := by
      rcases holds with ⟨occupancy, incoming, refused⟩ | half
      · rw [regulated.admits_iff] at refused
        omega
      · rw [← least] at half
        have one : Dial.limitOf 0.5 = 1 := by decide +kernel
        have le := Dial.limitOf_mono (by decide +kernel) sound.least half
        have := inLimits.least
        omega
    have := wider low positive
    rw [after.admits_iff, regulated.admits_iff]
    omega

/-! ## A stage with a target of 100 ms -/

/-- A target of 100 ms, and a least threshold. -/
def aimed (least : String) : List (String × String) :=
  [("global.targetResponseTimeMillis", "100"), ("global.minThreshold", least)]

/-- The configuration that these settings make. -/
def aiming (least : String) : Config := (Config.ofPairs (aimed least)).toOption.getD .empty

theorem ofPairs_eq {pairs : List (String × String)} (ok : (Config.ofPairs pairs).isOk = true) :
    Config.ofPairs pairs = .ok ((Config.ofPairs pairs).toOption.getD .empty) := by
  cases h : Config.ofPairs pairs with
  | error e =>
    rw [h] at ok
    cases ok
  | ok c => rfl

theorem ofPairs_aimed {least : String} (ok : (Config.ofPairs (aimed least)).isOk = true) :
    Config.ofPairs (aimed least) = .ok (aiming least) := ofPairs_eq ok

theorem steers_aiming {least : String} {x : Float} (hx : IsFinite x)
    (options : ((aiming least).merged "stage").targetResponseTimeMillis = some 100.0 ∧
      ((aiming least).merged "stage").minThreshold = some x ∧
      ((aiming least).merged "stage").maxThreshold = none) :
    ((aiming least).merged "stage").Steers where
  target := ⟨100.0, options.1, by decide +kernel⟩
  least := fun y same => by
    obtain rfl := Option.some.inj (options.2.1.symm.trans same)
    exact hx
  greatest := fun y same => absurd (options.2.2.symm.trans same) (by simp)

/-- A stage that does nothing with its events, as a configuration will have it. -/
def idling : Blueprint ℕ := .new "stage" .idle

theorem tightens_and_eases_from_one :
    ∃ s₀, idling.build? ((aiming "1").resolve "stage") = .ok s₀ ∧
      (∀ occupancy incoming,
        (s₀.recalculate (.ofMillis 500)).Admits occupancy incoming → s₀.Admits occupancy incoming) ∧
      (∀ occupancy incoming,
        s₀.Admits occupancy incoming → (s₀.recalculate (.ofMillis 1)).Admits occupancy incoming) := by
  obtain ⟨s₀, built, kept⟩ := @tightens_and_eases ℕ idling (aiming "1") ⟨rfl, rfl, rfl⟩
    (@steers_aiming "1" 1.0 (by decide +kernel) (by decide +kernel))
  have bands : (idling.build? ((aiming "1").resolve "stage")).toOption.map (fun s =>
      (s.bandOf? (.ofMillis 500), s.bandOf? (.ofMillis 1))) = some (some .high, some .low) := by
    decide +kernel
  rw [show idling.build? ((aiming "1").resolve "stage") = .ok s₀ from built] at bands
  obtain ⟨high, low⟩ := Prod.mk.inj (Option.some.inj bands)
  obtain ⟨band, found, -, tightens, -⟩ := kept s₀ .refl (.ofMillis 500)
  obtain ⟨band', found', -, -, eases⟩ := kept s₀ .refl (.ofMillis 1)
  refine ⟨s₀, built, tightens (.inl (Option.some.inj (found.symm.trans high))),
    eases (.inl (Option.some.inj (found'.symm.trans low))) (.inr ?_)⟩
  decide +kernel

/-- **To ease can shut events out**: a threshold of zero lets everything in, and the first
    recalculation with a low load raises it to two. -/
theorem eases_not :
    Config.ofPairs (aimed "0") = .ok (aiming "0") ∧ idling.Plain ∧
      ((aiming "0").merged "stage").Steers ∧
      ∃ s₀, idling.build? ((aiming "0").resolve "stage") = .ok s₀ ∧
        s₀.bandOf? (.ofMillis 1) = some .low ∧ s₀.Admits 5 1 ∧
        ¬(s₀.recalculate (.ofMillis 1)).Admits 5 1 := by
  refine ⟨ofPairs_aimed (by decide +kernel), ⟨rfl, rfl, rfl⟩,
    @steers_aiming "0" 0.0 (by decide +kernel) (by decide +kernel), ?_⟩
  have shuts : (idling.build? ((aiming "0").resolve "stage")).toOption.map (fun s =>
      (s.bandOf? (.ofMillis 1), s.sink.admission 5 1,
        (s.recalculate (.ofMillis 1)).sink.admission 5 1)) = some (some .low, true, false) := by
    decide +kernel
  cases built : idling.build? ((aiming "0").resolve "stage") with
  | error fault =>
    rw [built] at shuts
    cases shuts
  | ok s₀ =>
    rw [built] at shuts
    obtain ⟨low, rest⟩ := Prod.mk.inj (Option.some.inj shuts)
    obtain ⟨before, after⟩ := Prod.mk.inj rest
    exact ⟨s₀, rfl, low, before, Bool.eq_false_iff.mp after⟩

end Stage

end StagedEvents
