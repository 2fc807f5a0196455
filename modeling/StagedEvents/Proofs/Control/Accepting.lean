import StagedEvents.Proofs.Control.Standstill
import StagedEvents.Proofs.Control.Settling
import StagedEvents.Proofs.Control.Easing

/-!
# Stages of accepted configurations

The options of a configuration are read as doubles, among which there are infinities and what is no
number. A stage that gets a loop from its options is built if the bounds of the threshold are
numbers, and the loop always answers if the weight for smoothing is one. Numbers of any size will
do, infinities among them: they are put in order.

* `Console.Tame.obey`, `Console.Tame.answer`: what a command leaves of a tame row, and its answer.
* `LoopSettings.ordered_iff`: bounds that are in order once the settings are.
* `Blueprint.becomes`: what becomes of a blueprint.
* `Stage.answers_iff_numbers`: which stages are built, and which of them always answer.
* `Stage.answers_not`: accepted configurations with which a stage is not built or does not answer.
-/

namespace StagedEvents

open Double

/-! ## Commands -/

namespace Console

/-- What loop `k` answers to a command: an adjustment, none, or that it has no result. -/
def answer {α : Type} [Quantity α] (k : ℕ) (c : Console α) :
    Command → Except Fault (Option (Adjustment α))
  | .observe stats => (c.observe k stats).2
  | .recalculate observed =>
    match (c.recalculate k observed).2 with
    | none => .ok none
    | some adjustment => adjustment.map some
  | .enable => .ok none
  | .disable => .ok none

/-- The response times of the command fit into a machine word of nanoseconds. -/
def Command.Measured : Command → Prop
  | .observe stats => stats.Measured
  | .recalculate observed => observed.nanos < UInt64.size
  | .enable => True
  | .disable => True

variable {c : Console Float} {k : ℕ} {l : Loop Float}

/-- **Whatever a loop of a tame row is told, its row is tame afterwards.** -/
theorem Tame.obey (tame : c.Tame) {command : Command} (measured : command.Measured) :
    (c.obey k command).Tame := by
  cases command with
  | observe stats => exact (tame.observe k measured).1
  | recalculate observed => exact tame.recalculate k measured
  | enable => exact tame.switch k true
  | disable => exact tame.switch k false

/-- **Whatever a loop of a tame row is told, it has an answer.** -/
theorem Tame.answer (tame : c.Tame) {command : Command} (measured : command.Measured) :
    (c.answer k command).isOk = true := by
  cases command with
  | observe stats => exact (tame.observe k measured).2
  | recalculate observed =>
    have adjustment := tame.adjustment k measured
    unfold Console.answer
    cases outcome : (c.recalculate k observed).2 with
    | none =>
      simp only [outcome]
      rfl
    | some found =>
      simp only [outcome, isOk_map]
      exact adjustment found outcome
  | enable => rfl
  | disable => rfl

/-- A loop that smooths with what is no number has no answer, once it has a response time. -/
theorem answer_lost (found : c.loops[k]? = some l) (weight : ¬IsNumber l.settings.smoothing)
    {x : Float} (earlier : l.smoothed? = some x) (observed : Span) :
    (c.answer k (.recalculate observed)).isOk = false := by
  unfold Console.answer
  simp only [recalculate_answer found rfl, isOk_map]
  exact Loop.adjustment_lost weight earlier _ _ _

end Console

/-! ## Settings -/

namespace LoopSettings

variable {s : LoopSettings Float}

/-- Bounds that are numbers are put in order, and no others. -/
theorem ordered_iff :
    s.normalized.least ≤ s.normalized.greatest ↔ IsNumber s.least ∧ IsNumber s.greatest := by
  show s.least ≤ (if s.greatest < s.least then s.least else s.greatest) ↔ _
  constructor
  · intro ordered
    have least : IsNumber s.least := by
      by_contra none
      exact not_le_of_notNumber (.inl none) ordered
    refine ⟨least, ?_⟩
    by_contra none
    rw [if_neg (not_lt_of_notNumber (.inl none))] at ordered
    exact not_le_of_notNumber (.inr none) ordered
  · rintro ⟨least, greatest⟩
    split
    · exact isNumber_iff.1 least
    · exact le_of_not_lt greatest least ‹_›

/-- What is no number is not moved between bounds. -/
theorem smoothing_normalized (none : ¬IsNumber s.smoothing) :
    s.normalized.smoothing = s.smoothing := by
  show (Quantity.clamp? 0.0 0.999 s.smoothing).getD s.smoothing = _
  unfold Quantity.clamp?
  rw [if_pos (by decide +kernel), if_neg (not_lt_of_notNumber (.inl none)),
    if_neg (not_lt_of_notNumber (.inr none))]
  rfl

end LoopSettings

/-! ## Options -/

namespace Options

/-- The options ask for a loop. -/
def Asks (o : Options) : Prop := ∃ t, o.targetResponseTimeMillis = some t ∧ 0.0 < t

/-- The bounds of the threshold and the weight for smoothing, as set or built in. -/
def least (o : Options) : Float := o.minThreshold.getD Resolved.defaultMinThreshold

def greatest (o : Options) : Float := o.maxThreshold.getD Resolved.defaultMaxThreshold

def smoothing (o : Options) : Float := o.smoothingConstant.getD Resolved.defaultSmoothing

variable {o : Options}

theorem controllerOf_of_asks (asks : o.Asks) :
    ∃ s : LoopSettings Float, Resolved.controllerOf o = some s ∧ s.least = o.least ∧
      s.greatest = o.greatest ∧ s.smoothing = o.smoothing := by
  obtain ⟨t, target, positive⟩ := asks
  rw [Resolved.controllerOf_eq, target, Option.filter_some, if_pos (decide_eq_true positive)]
  exact ⟨_, rfl, rfl, rfl, rfl⟩

theorem controllerOf_of_not_asks (idle : ¬o.Asks) : Resolved.controllerOf o = none := by
  rw [Resolved.controllerOf_eq]
  cases target : o.targetResponseTimeMillis with
  | none => rfl
  | some t =>
    have low : ¬0.0 < t := fun positive => idle ⟨t, target, positive⟩
    rw [Option.filter_some, if_neg (by simpa using low)]
    rfl

end Options

/-! ## Blueprints -/

variable {ε : Type}

theorem Stage.loops_putConsole (s : Stage ε) (c : Console Float) :
    (s.putConsole c).loops = c.loops := by
  unfold Stage.putConsole
  dsimp only
  split <;> rfl

namespace Blueprint

/-- The blueprint has no loop of its own. -/
structure Loopless (b : Blueprint ε) : Prop where
  custom : b.customLoop? = none
  loop : b.thresholdLoop? = none

/-- The stage gets the loop that its options ask for, as it has no gate of its own. -/
def Looped (b : Blueprint ε) (o : Options) : Prop := b.gate? = none ∧ o.Asks

variable {b : Blueprint ε} {c : Config}

theorem rigging_loop? (loopless : b.Loopless) (defaults : Resolved) :
    (b.rigging defaults).loop? =
      if b.gate? = none then defaults.controller.map fun s => (s, 0) else none := by
  unfold rigging
  rw [loopless.custom, loopless.loop, Option.none_or]
  cases b.gate? with
  | some gate => rfl
  | none =>
    cases defaults.controller with
    | none => rfl
    | some s => rfl

theorem build?_of_none {defaults : Resolved} (rigged : (b.rigging defaults).loop? = none) :
    ∃ s₀, b.build? defaults = .ok s₀ ∧ s₀.loops = [] := by
  refine ⟨b.frame defaults (b.rigging defaults), ?_, rfl⟩
  unfold build?
  simp only [rigged]

/-- A stage is built with a loop if the loop can start. -/
theorem build?_of_some {defaults : Resolved} {settings : LoopSettings Float}
    (rigged : (b.rigging defaults).loop? = some (settings, 0)) :
    (settings.normalized.least ≤ settings.normalized.greatest ∧
      ∃ s₀ l, b.build? defaults = .ok s₀ ∧ s₀.loops = [l] ∧ l.settings = settings.normalized ∧
        l.smoothed? = none) ∨
    (¬settings.normalized.least ≤ settings.normalized.greatest ∧
      b.build? defaults = .error .disorderedBounds) := by
  obtain ⟨panel, row⟩ : ∃ panel, (b.frame defaults (b.rigging defaults)).console = ⟨[], panel⟩ :=
    ⟨_, rfl⟩
  unfold build?
  simp only [rigged, row]
  unfold Console.attach?
  simp only
  rcases Loop.new?_cases settings 0 (dialAt panel 0) with
    ⟨ordered, l, d, new, same, fresh⟩ | ⟨disordered, failed⟩
  · refine .inl ⟨ordered, (b.frame defaults (b.rigging defaults)).putConsole
      ⟨[l], panel.set 0 d⟩, l, ?_, Stage.loops_putConsole .., same, fresh⟩
    rw [new]
    rfl
  · refine .inr ⟨disordered, ?_⟩
    rw [failed]
    rfl

/-- What becomes of a blueprint that leaves its loop to its options. -/
inductive Becomes (b : Blueprint ε) (c : Config) : Prop where
  /-- A stage without a loop. -/
  | idle (idle : ¬b.Looped (c.merged b.name)) {s₀ : Stage ε}
      (built : b.build? (c.resolve b.name) = .ok s₀) (loops : s₀.loops = [])
  /-- A stage with the loop that the options ask for. -/
  | looped (looped : b.Looped (c.merged b.name))
      (numbers : IsNumber (c.merged b.name).least ∧ IsNumber (c.merged b.name).greatest)
      {s₀ : Stage ε} {l : Loop Float} {settings : LoopSettings Float}
      (built : b.build? (c.resolve b.name) = .ok s₀) (loops : s₀.loops = [l])
      (same : l.settings = settings.normalized)
      (smoothing : settings.smoothing = (c.merged b.name).smoothing)
      (ordered : settings.normalized.least ≤ settings.normalized.greatest)
      (fresh : l.smoothed? = none)
  /-- Nothing, as the bounds are not both numbers. -/
  | refused (looped : b.Looped (c.merged b.name))
      (none : ¬(IsNumber (c.merged b.name).least ∧ IsNumber (c.merged b.name).greatest))
      (failed : b.build? (c.resolve b.name) = .error .disorderedBounds)

theorem becomes (loopless : b.Loopless) (c : Config) : b.Becomes c := by
  have rigged := rigging_loop? loopless (c.resolve b.name)
  have controller : (c.resolve b.name).controller = Resolved.controllerOf (c.merged b.name) := rfl
  rw [controller] at rigged
  by_cases looped : b.Looped (c.merged b.name)
  · obtain ⟨settings, asked, least, greatest, smoothing⟩ :=
      Options.controllerOf_of_asks looped.2
    rw [if_pos looped.1, asked] at rigged
    have ordered_iff := @LoopSettings.ordered_iff settings
    rw [least, greatest] at ordered_iff
    rcases build?_of_some rigged with ⟨ordered, s₀, l, built, loops, same, fresh⟩ |
      ⟨disordered, failed⟩
    · exact .looped looped (ordered_iff.1 ordered) built loops same smoothing ordered fresh
    · exact .refused looped (disordered ∘ ordered_iff.2) failed
  · have unlooped : (b.rigging (c.resolve b.name)).loop? = none := by
      rw [rigged]
      split
      · rename_i ungated
        rw [Options.controllerOf_of_not_asks fun asks => looped ⟨ungated, asks⟩]
        rfl
      · rfl
    obtain ⟨s₀, built, loops⟩ := build?_of_none unlooped
    exact .idle looped built loops

end Blueprint

/-! ## Stages -/

namespace Stage

variable {s : Stage ε}

/-- The stage after its loop has been told something, if it has a loop. -/
def obey (s : Stage ε) (command : Console.Command) : Stage ε :=
  (s.control fun c => (c.obey 0 command, ())).1

/-- The loop of the stage, if there is one, answers whatever it is told, and can tell the smoothed
    response time. -/
structure Answers (s : Stage ε) : Prop where
  answer : ∀ command : Console.Command, command.Measured → (s.console.answer 0 command).isOk = true
  smoothed : ∀ l ∈ s.loops.head?, ∀ answer ∈ l.smoothedSpan, answer.isOk = true

theorem answers_of_tame (tame : s.console.Tame) : s.Answers where
  answer _ measured := tame.answer measured
  smoothed l first := (tame l (List.mem_of_head? first)).smoothedSpan

theorem tame_obey (tame : s.console.Tame) {command : Console.Command}
    (measured : command.Measured) : (s.obey command).console.Tame := by
  unfold obey control
  split
  · exact tame
  · show ∀ l ∈ (s.putConsole (s.console.obey 0 command)).loops, l.Tame
    rw [loops_putConsole]
    exact tame.obey measured

/-- A stage with tame loops, or none, answers after any commands. -/
theorem answers_run (tame : s.console.Tame) {commands : List Console.Command}
    (measured : ∀ command ∈ commands, command.Measured) : (commands.foldl obey s).Answers := by
  induction commands generalizing s with
  | nil => exact answers_of_tame tame
  | cons command later ih =>
    exact ih (tame_obey tame (measured command List.mem_cons_self)) fun other mem =>
      measured other (List.mem_cons_of_mem _ mem)

/-- A loop that smooths with what is no number does not answer a second time. -/
theorem lost {l : Loop Float} (loops : s.loops = [l]) (weight : ¬IsNumber l.settings.smoothing)
    (observed next : Span) :
    ((s.obey (.recalculate observed)).console.answer 0 (.recalculate next)).isOk = false := by
  have first : s.console.loops[0]? = some l := by
    show s.loops[0]? = some l
    rw [loops]
    rfl
  have found := Console.found_recalculate first observed
  have after : (s.obey (.recalculate observed)).console.loops =
      (s.console.recalculate 0 observed).1.loops := by
    show (s.obey (.recalculate observed)).loops = _
    unfold obey control
    rw [loops]
    exact loops_putConsole ..
  rw [← after] at found
  refine Console.answer_lost found ?_ (l.smoothed?_turn _ observed) next
  rwa [Loop.settings_turn]

theorem exists_unanswered {l : Loop Float} (loops : s.loops = [l])
    (weight : ¬IsNumber l.settings.smoothing) :
    ∃ commands : List Console.Command, (∀ command ∈ commands, command.Measured) ∧
      ¬(commands.foldl obey s).Answers := by
  have short : (Console.Command.recalculate .zero).Measured := by
    show (0 : ℕ) < UInt64.size
    decide
  refine ⟨[.recalculate .zero], fun command mem => ?_, fun answers => ?_⟩
  · obtain rfl := List.mem_singleton.mp mem
    exact short
  · have answer := answers.answer (.recalculate .zero) short
    exact Bool.false_ne_true ((lost loops weight .zero .zero).symm.trans answer)

/-- **Which stages are built, and which of them always answer.** A blueprint that leaves its loop to
    its options is built exactly if they ask for no loop, or the bounds of the threshold are
    numbers. The loop of such a stage then answers whatever it is told, one command after the
    other, exactly if the weight for smoothing is a number. -/
theorem answers_iff_numbers {b : Blueprint ε} (loopless : b.Loopless) (c : Config) :
    ((b.build? (c.resolve b.name)).isOk = true ↔
      (b.Looped (c.merged b.name) →
        IsNumber (c.merged b.name).least ∧ IsNumber (c.merged b.name).greatest)) ∧
    ∀ s₀, b.build? (c.resolve b.name) = .ok s₀ →
      ((∀ commands : List Console.Command, (∀ command ∈ commands, command.Measured) →
          (commands.foldl obey s₀).Answers) ↔
        (b.Looped (c.merged b.name) → IsNumber (c.merged b.name).smoothing)) := by
  cases Blueprint.becomes loopless c with
  | @idle idle s built loops =>
    rw [built]
    refine ⟨iff_of_true rfl fun looped => absurd looped idle, fun s₀ same => ?_⟩
    obtain rfl := Except.ok.inj same
    have tame : s.console.Tame := fun l mem => by
      rw [show s.console.loops = s.loops from rfl, loops] at mem
      exact absurd mem List.not_mem_nil
    exact iff_of_true (fun _ measured => answers_run tame measured) fun looped => absurd looped idle
  | @looped looped numbers s l settings built loops set smoothing ordered fresh =>
    rw [built, ← smoothing]
    refine ⟨iff_of_true rfl fun _ => numbers, fun s₀ same => ?_⟩
    obtain rfl := Except.ok.inj same
    constructor
    · intro answers _
      by_contra none
      obtain ⟨commands, measured, silent⟩ := exists_unanswered loops (by
        rwa [set, LoopSettings.smoothing_normalized none])
      exact silent (answers commands measured)
    · intro number commands measured
      refine answers_run (fun m mem => ?_) measured
      rw [show s.console.loops = s.loops from rfl, loops] at mem
      obtain rfl := List.mem_singleton.mp mem
      exact Loop.tame_of_fresh set ordered (number looped) fresh
  | refused looped none failed =>
    rw [failed]
    refine ⟨iff_of_false Bool.false_ne_true fun numbers => none (numbers looped), fun s₀ same => ?_⟩
    cases same

/-! ## A stage with a target of 100 ms -/

/-- A target of 100 ms, a least and a greatest threshold, and a weight for smoothing. -/
def chosen (least greatest smoothing : String) : List (String × String) :=
  aimed least ++ [("global.maxThreshold", greatest), ("global.smoothingConstant", smoothing)]

/-- The configuration that these settings make. -/
def choosing (least greatest smoothing : String) : Config :=
  (Config.ofPairs (chosen least greatest smoothing)).toOption.getD .empty

/-- Infinite bounds in the wrong order and a weight far above one are put in order. -/
theorem answers_iff_numbers_infinite :
    let c := choosing "inf" "-inf" "1e300"
    Config.ofPairs (chosen "inf" "-inf" "1e300") = .ok c ∧
      ∃ s₀, idling.build? (c.resolve "stage") = .ok s₀ ∧
        (∀ commands : List Console.Command, (∀ command ∈ commands, command.Measured) →
          (commands.foldl obey s₀).Answers) ∧
        (s₀.obey (.observe (Stats.new.recordBatch 1 (.ofMillis 500)))).Answers := by
  intro c
  obtain ⟨built, answers⟩ := @answers_iff_numbers ℕ idling ⟨rfl, rfl⟩ c
  have bounds : IsNumber (c.merged "stage").least ∧ IsNumber (c.merged "stage").greatest := by
    decide +kernel
  have weight : IsNumber (c.merged "stage").smoothing := by decide +kernel
  have built := built.2 fun _ => bounds
  cases made : idling.build? (c.resolve idling.name) with
  | error fault =>
    rw [made] at built
    cases built
  | ok s₀ =>
    have answers := (answers s₀ made).2 fun _ => weight
    have slow : (Stats.new.recordBatch 1 (.ofMillis 500)).Measured :=
      (Stats.measured_empty _).recordBatch 1 _
    refine ⟨ofPairs_eq (by decide +kernel), s₀, made, answers, answers [.observe _] fun _ mem => ?_⟩
    obtain rfl := List.mem_singleton.mp mem
    exact slow

/-- **Accepted configurations that fail**: with a weight that is no number the second adjustment
    has no result, and with a least threshold that is none the stage is not built. -/
theorem answers_not :
    Config.ofPairs (chosen "1" "1024" "nan") = .ok (choosing "1" "1024" "nan") ∧
    (∃ s₀, idling.build? ((choosing "1" "1024" "nan").resolve "stage") = .ok s₀ ∧
      (s₀.console.answer 0 (.recalculate (.ofMillis 100))).isOk = true ∧
      ((s₀.obey (.recalculate (.ofMillis 100))).console.answer 0
        (.recalculate (.ofMillis 100))).isOk = false) ∧
    Config.ofPairs (chosen "nan" "1024" "0.5") = .ok (choosing "nan" "1024" "0.5") ∧
    (idling.build? ((choosing "nan" "1024" "0.5").resolve "stage")).isOk = false := by
  refine ⟨ofPairs_eq (by decide +kernel), ?_, ofPairs_eq (by decide +kernel), by decide +kernel⟩
  have silent : (idling.build? ((choosing "1" "1024" "nan").resolve "stage")).toOption.map
      (fun s => ((s.console.answer 0 (.recalculate (.ofMillis 100))).isOk,
        ((s.obey (.recalculate (.ofMillis 100))).console.answer 0
          (.recalculate (.ofMillis 100))).isOk)) = some (true, false) := by
    decide +kernel
  cases built : idling.build? ((choosing "1" "1024" "nan").resolve "stage") with
  | error fault =>
    rw [built] at silent
    cases silent
  | ok s₀ =>
    rw [built] at silent
    obtain ⟨before, after⟩ := Prod.mk.inj (Option.some.inj silent)
    exact ⟨s₀, rfl, before, after⟩

end Stage

end StagedEvents
