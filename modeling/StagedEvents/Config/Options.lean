import StagedEvents.Config.Setting

/-!
# Options of a configuration section

A section holds a value for some of its fields. `withDefaults` lays one section over
another; `get?` and `put` are the view of a section as a table of settings, and
`write?` sets a field from a text.
-/

namespace StagedEvents

/-- The options of one section; a field that is not set holds nothing. Model of `StageConfig`. -/
structure Options where
  initialThreads : Option Nat := none
  minThreads : Option Nat := none
  maxThreads : Option Nat := none
  blockTimeMillis : Option Nat := none
  idleTimeThresholdMillis : Option Nat := none
  /-- Waiting events above which a pool gains a worker. -/
  growBacklog : Option Nat := none
  terminationTimeoutMillis : Option Nat := none
  queueThreshold : Option Int := none
  queueCapacity : Option Nat := none
  /-- Only the global section's value has an effect. -/
  crashOnException : Option Bool := none
  targetResponseTimeMillis : Option Float := none
  smoothingConstant : Option Float := none
  recalculationWindow : Option Nat := none
  minThreshold : Option Float := none
  maxThreshold : Option Float := none
  batchAggregationCap : Option Nat := none
deriving BEq, Repr

namespace Options

/-- No option set. -/
def empty : Options := {}

/-- The options of `own`, and where it has none those of `base`. Model of
    `StageConfig::merged_over`. -/
def withDefaults (own base : Options) : Options where
  initialThreads := own.initialThreads <|> base.initialThreads
  minThreads := own.minThreads <|> base.minThreads
  maxThreads := own.maxThreads <|> base.maxThreads
  blockTimeMillis := own.blockTimeMillis <|> base.blockTimeMillis
  idleTimeThresholdMillis := own.idleTimeThresholdMillis <|> base.idleTimeThresholdMillis
  growBacklog := own.growBacklog <|> base.growBacklog
  terminationTimeoutMillis := own.terminationTimeoutMillis <|> base.terminationTimeoutMillis
  queueThreshold := own.queueThreshold <|> base.queueThreshold
  queueCapacity := own.queueCapacity <|> base.queueCapacity
  crashOnException := own.crashOnException <|> base.crashOnException
  targetResponseTimeMillis := own.targetResponseTimeMillis <|> base.targetResponseTimeMillis
  smoothingConstant := own.smoothingConstant <|> base.smoothingConstant
  recalculationWindow := own.recalculationWindow <|> base.recalculationWindow
  minThreshold := own.minThreshold <|> base.minThreshold
  maxThreshold := own.maxThreshold <|> base.maxThreshold
  batchAggregationCap := own.batchAggregationCap <|> base.batchAggregationCap

/-- The value of a field, if it is set. -/
def get? (f : Field) (o : Options) : Option Setting :=
  match f with
  | .initialThreads => o.initialThreads.map .count
  | .minThreads => o.minThreads.map .count
  | .maxThreads => o.maxThreads.map .count
  | .blockTimeMillis => o.blockTimeMillis.map .count
  | .idleTimeThresholdMillis => o.idleTimeThresholdMillis.map .count
  | .growBacklog => o.growBacklog.map .count
  | .terminationTimeoutMillis => o.terminationTimeoutMillis.map .count
  | .queueThreshold => o.queueThreshold.map .limit
  | .queueCapacity => o.queueCapacity.map .count
  | .crashOnException => o.crashOnException.map .truth
  | .targetResponseTimeMillis => o.targetResponseTimeMillis.map .amount
  | .smoothingConstant => o.smoothingConstant.map .amount
  | .recalculationWindow => o.recalculationWindow.map .count
  | .minThreshold => o.minThreshold.map .amount
  | .maxThreshold => o.maxThreshold.map .amount
  | .batchAggregationCap => o.batchAggregationCap.map .count

/-- The fields that are set, with their values, in the order of the fields. -/
def entries (o : Options) : List (Field × Setting) :=
  Field.all.filterMap fun f => (o.get? f).map fun value => (f, value)

/-- The options with a field set. A value of another kind than the field's changes
    nothing. -/
def put (f : Field) (value : Setting) (o : Options) : Options :=
  match f, value with
  | .initialThreads, .count n => { o with initialThreads := some n }
  | .minThreads, .count n => { o with minThreads := some n }
  | .maxThreads, .count n => { o with maxThreads := some n }
  | .blockTimeMillis, .count n => { o with blockTimeMillis := some n }
  | .idleTimeThresholdMillis, .count n => { o with idleTimeThresholdMillis := some n }
  | .growBacklog, .count n => { o with growBacklog := some n }
  | .terminationTimeoutMillis, .count n => { o with terminationTimeoutMillis := some n }
  | .queueThreshold, .limit n => { o with queueThreshold := some n }
  | .queueCapacity, .count n => { o with queueCapacity := some n }
  | .crashOnException, .truth b => { o with crashOnException := some b }
  | .targetResponseTimeMillis, .amount x => { o with targetResponseTimeMillis := some x }
  | .smoothingConstant, .amount x => { o with smoothingConstant := some x }
  | .recalculationWindow, .count n => { o with recalculationWindow := some n }
  | .minThreshold, .amount x => { o with minThreshold := some x }
  | .maxThreshold, .amount x => { o with maxThreshold := some x }
  | .batchAggregationCap, .count n => { o with batchAggregationCap := some n }
  | _, _ => o

/-- The options with a field set to the value a text stands for, if it stands for
    one. A greatest number of threads is read as a limit, and one of zero or less takes
    the option away. Model of `StageConfig::set`. -/
def write? (f : Field) (text : List Char) (o : Options) : Option Options :=
  if f = .maxThreads then
    (Setting.limitOfText? text).map fun (n : Int) =>
      { o with maxThreads := if n ≤ 0 then none else some n.toNat }
  else (Setting.ofText? f.kind text).map fun value => o.put f value

theorem get?_put {f : Field} {value : Setting} (h : value.kind = f.kind) (o : Options) :
    (o.put f value).get? f = some value := by
  cases f <;> cases value <;> first | rfl | cases h

theorem get?_put_of_ne {f g : Field} (h : f ≠ g) (value : Setting) (o : Options) :
    (o.put f value).get? g = o.get? g := by
  cases f <;> cases value <;> first | rfl | (cases g <;> first | rfl | exact absurd rfl h)

theorem withDefaults_empty (own : Options) : own.withDefaults empty = own := by
  cases own; simp [withDefaults, empty]

end Options

end StagedEvents
