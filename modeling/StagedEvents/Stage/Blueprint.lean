import StagedEvents.Config.Resolved
import StagedEvents.Stage

/-!
# Blueprints of stages

A blueprint says what a stage is to be like. What it leaves open is taken from the
configuration when the stage is built.

A control loop can come from three places. A custom loop wins. Otherwise settings
for a loop that turns the queue threshold are taken from the blueprint, or else from
the configuration, unless the blueprint has a gate of its own: then there is no loop.
-/

namespace StagedEvents

/-- Which dial a custom loop turns: the one of the blueprint's gate, or one of its own. -/
inductive LoopTarget where
  | gate
  | own (dial : Dial Float)

/-- A control loop over a dial of the maker's choosing. -/
structure CustomLoop where
  settings : LoopSettings Float
  target : LoopTarget

/-- What a stage is to be like. Model of `StageBuilder`. -/
structure Blueprint (ε : Type) where
  name : String
  handler : Handler ε
  capability : Capability
  queueCapacity : Option Nat
  queueThreshold : Option Int
  gate? : Option (Gate Float)
  sorter? : Option SorterPolicy
  thresholdLoop? : Option (LoopSettings Float)
  customLoop? : Option CustomLoop
  pool? : Option PoolSettings

/-- The gate of a new stage, its other dials, and the loop with the number of its dial. -/
structure Rigging where
  gate : Gate Float
  dials : Panel Float
  loop? : Option (LoopSettings Float × Nat)

namespace Blueprint

variable {ε : Type}

/-- A blueprint that leaves everything open. Model of `StageBuilder::with_handler`. -/
def new (name : String) (handler : Handler ε) : Blueprint ε :=
  { name, handler, capability := .concurrent, queueCapacity := none, queueThreshold := none,
    gate? := none, sorter? := none, thresholdLoop? := none, customLoop? := none, pool? := none }

/-- The description of a blueprint. -/
def text (b : Blueprint ε) : String :=
  recordText "StageBuilder"
    [("name", quoted b.name), ("capability", b.capability.text),
     ("queue_capacity", optionText toString b.queueCapacity),
     ("queue_threshold", optionText toString b.queueThreshold),
     ("sorter", optionText SorterPolicy.text b.sorter?)]

/-- The dials of a gate. -/
def gateDials : Gate Float → Panel Float
  | .openToAll => []
  | .guarded dial => [dial]

/-- A gate with a custom loop beside it. -/
def rigCustom (gate : Gate Float) (loop : CustomLoop) : Rigging :=
  match loop.target with
  | .gate => { gate, dials := gateDials gate, loop? := some (loop.settings, 0) }
  | .own dial =>
    { gate, dials := gateDials gate ++ [dial],
      loop? := some (loop.settings, (gateDials gate).length) }

/-- The gate and the loop of the stage, with what the blueprint leaves open taken from
    the configuration. -/
def rigging (b : Blueprint ε) (defaults : Resolved) : Rigging :=
  let threshold := b.queueThreshold.or defaults.queueThreshold
  match b.gate?, b.customLoop?, b.thresholdLoop?.or defaults.controller with
  | some gate, none, _ => { gate, dials := gateDials gate, loop? := none }
  | some gate, some loop, _ => rigCustom gate loop
  | none, some loop, _ => rigCustom (.ofThreshold? threshold) loop
  | none, none, some settings =>
    let dial : Dial Float := .threshold (threshold.getD 0)
    { gate := .guarded dial, dials := [dial], loop? := some (settings, 0) }
  | none, none, none =>
    let gate : Gate Float := .ofThreshold? threshold
    { gate, dials := gateDials gate, loop? := none }

/-- The settings of the pools that serve the stage. -/
def poolSettings (b : Blueprint ε) (defaults : Resolved) : PoolSettings :=
  let settings := b.pool?.getD defaults.pool
  match b.capability with
  | .concurrent => settings.normalized
  | .singleThreaded => settings.singleThreaded.normalized

/-- The stage of a blueprint before its loop is attached. -/
def frame (b : Blueprint ε) (defaults : Resolved) (rigging : Rigging) : Stage ε :=
  let queue : Queue ε := .withCapacity (b.queueCapacity.or defaults.queueCapacity)
  let sink : Sink Float ε := { queue, gate := rigging.gate, stats := .new }
  let sorter := Sorter.ofPolicy (b.sorter?.getD defaults.sorter)
  { name := b.name, capability := b.capability, exchange := .ofChannel { sink, sorter }
    loops := [], dials := rigging.dials
    gateDial? :=
      match rigging.gate with
      | .openToAll => none
      | .guarded _ => some 0
    pool := b.poolSettings defaults, handler := b.handler, latch := .shut, latest := [],
    life := [] }

/-- The stage of a blueprint, unless its loop cannot start. Model of `StageBuilder::build`. -/
def build? (b : Blueprint ε) (defaults : Resolved) : Except Fault (Stage ε) :=
  let rigging := b.rigging defaults
  let stage := b.frame defaults rigging
  match rigging.loop? with
  | none => .ok stage
  | some (settings, number) => (stage.console.attach? settings number).map stage.putConsole

end Blueprint

end StagedEvents
