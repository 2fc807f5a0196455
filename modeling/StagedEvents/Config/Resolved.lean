import StagedEvents.Config
import StagedEvents.Control.Settings
import StagedEvents.Pool.Settings
import StagedEvents.Quantity.Double
import StagedEvents.Sorter.Policy

/-!
# What the options of a stage amount to

Options that are set, and the built-in values for those that are not, turned into
the settings that a stage is built with. A count of zero, a limit of zero or less
and a target that is not positive stand for the absence of what they would bound.
-/

namespace StagedEvents

/-- The settings a stage is built with unless its builder says otherwise. Model of
    `ResolvedStageConfig`. -/
structure Resolved where
  pool : PoolSettings
  queueThreshold : Option Int
  queueCapacity : Option Nat
  controller : Option (LoopSettings Float)
  sorter : SorterPolicy

namespace Resolved

/-- The weight of the earlier response time unless told otherwise. -/
def defaultSmoothing : Float := 0.5

/-- Batches between two adjustments unless told otherwise. -/
def defaultRecalculationWindow : Nat := 200

/-- The least and the greatest threshold unless told otherwise. -/
def defaultMinThreshold : Float := 1.0

def defaultMaxThreshold : Float := 1024.0

/-- The pool settings that the options amount to. -/
def poolOf (o : Options) : PoolSettings :=
  let block := (o.blockTimeMillis.map Span.ofMillis).getD PoolSettings.defaultBlock
  let settings : PoolSettings :=
    { initial := o.initialThreads.getD 1
      least := o.minThreads.getD 1
      most := (o.maxThreads.filter (0 < ·)).getD largestCount
      block
      idle := (o.idleTimeThresholdMillis.map Span.ofMillis).getD block
      grow? := o.growBacklog.filter (0 < ·)
      termination :=
        (o.terminationTimeoutMillis.map Span.ofMillis).getD PoolSettings.defaultTermination }
  settings.normalized

/-- A target in milliseconds, to the nearest microsecond. -/
def targetOf (millis : Float) : Span :=
  .ofMicros (Quantity.roundInto 0 (UInt64.size - 1) (millis * 1000.0)).toNat

/-- The settings of the control loop that the options ask for, if they do. -/
def controllerOf (o : Options) : Option (LoopSettings Float) :=
  (o.targetResponseTimeMillis.filter fun t => 0.0 < t).map fun target =>
    let least := o.minThreshold.getD defaultMinThreshold
    { LoopSettings.queueThreshold (targetOf target) with
      smoothing := o.smoothingConstant.getD defaultSmoothing
      window := o.recalculationWindow.getD defaultRecalculationWindow
      least
      greatest := o.maxThreshold.getD defaultMaxThreshold
      initial? := some least }

/-- The sorter that the options ask for. -/
def sorterOf (o : Options) : SorterPolicy :=
  match o.batchAggregationCap.filter (0 < ·) with
  | some maxBatch => .throttled maxBatch none
  | none => .drainAll

/-- What the options amount to. Model of `ResolvedStageConfig::from`. -/
def ofOptions (o : Options) : Resolved :=
  { pool := poolOf o
    queueThreshold := o.queueThreshold.filter (0 < ·)
    queueCapacity := o.queueCapacity.filter (0 < ·)
    controller := controllerOf o
    sorter := sorterOf o }

end Resolved

/-- The settings that a configuration gives a stage. Model of `RuntimeConfig::resolve`. -/
def Config.resolve (c : Config) (name : String) : Resolved := .ofOptions (c.merged name)

end StagedEvents
