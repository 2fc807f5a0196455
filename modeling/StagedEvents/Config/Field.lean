/-!
# The fields of a configuration section

Each field of a section has one canonical name; some can also be set under a
shorter or older name. A key may put the name into one of four groups, which only
serve the reader. A field holds values of one kind.
-/

namespace StagedEvents

/-- A field of a configuration section. -/
inductive Field where
  | initialThreads
  | minThreads
  | maxThreads
  | blockTimeMillis
  | idleTimeThresholdMillis
  | growBacklog
  | terminationTimeoutMillis
  | queueThreshold
  | queueCapacity
  | crashOnException
  | targetResponseTimeMillis
  | smoothingConstant
  | recalculationWindow
  | minThreshold
  | maxThreshold
  | batchAggregationCap
deriving DecidableEq, Repr

/-- The kind of values that a field holds. -/
inductive FieldKind where
  /-- A count or a number of milliseconds. -/
  | count
  /-- A whole number that may be negative. -/
  | limit
  | truth
  /-- A double. -/
  | amount
deriving DecidableEq, Repr

namespace Field

/-- All fields, in the order in which a section without names lists them. -/
def all : List Field :=
  [initialThreads, minThreads, maxThreads, blockTimeMillis, idleTimeThresholdMillis, growBacklog,
   terminationTimeoutMillis, queueThreshold, queueCapacity, crashOnException,
   targetResponseTimeMillis, smoothingConstant, recalculationWindow, minThreshold, maxThreshold,
   batchAggregationCap]

/-- The canonical name of a field. -/
def name : Field → String
  | initialThreads => "initialThreads"
  | minThreads => "minThreads"
  | maxThreads => "maxThreads"
  | blockTimeMillis => "blockTimeMillis"
  | idleTimeThresholdMillis => "idleTimeThresholdMillis"
  | growBacklog => "growBacklog"
  | terminationTimeoutMillis => "terminationTimeoutMillis"
  | queueThreshold => "queueThreshold"
  | queueCapacity => "queueCapacity"
  | crashOnException => "crashOnException"
  | targetResponseTimeMillis => "targetResponseTimeMillis"
  | smoothingConstant => "smoothingConstant"
  | recalculationWindow => "recalculationWindow"
  | minThreshold => "minThreshold"
  | maxThreshold => "maxThreshold"
  | batchAggregationCap => "batchAggregationCap"

/-- The kind of values that a field holds. -/
def kind : Field → FieldKind
  | queueThreshold => .limit
  | crashOnException => .truth
  | targetResponseTimeMillis => .amount
  | smoothingConstant => .amount
  | minThreshold => .amount
  | maxThreshold => .amount
  | _ => .count

/-- The second name of a field, if it has one. -/
def alias? : Field → Option String
  | blockTimeMillis => some "blockTime"
  | idleTimeThresholdMillis => some "idleTimeThreshold"
  | growBacklog => some "queueBacklog"
  | terminationTimeoutMillis => some "terminationTimeout"
  | targetResponseTimeMillis => some "targetResponseTime"
  | smoothingConstant => some "smoothConst"
  | batchAggregationCap => some "maxAggregation"
  | _ => none

/-- The field with the given canonical name. -/
def ofCanonical? (text : String) : Option Field := all.find? fun f => f.name == text

/-- The field with the given name, canonical or not. -/
def ofName? (text : String) : Option Field :=
  all.find? fun f => f.name == text || f.alias? == some text

theorem mem_all (f : Field) : f ∈ all := by
  cases f <;> decide

end Field

end StagedEvents
