import StagedEvents.Span
import StagedEvents.Text.Record

/-!
# Settings of a worker pool

How many workers a pool has, when it gains and loses some, and how long they wait.
A pool uses settings in order (`normalized`): at least one worker, a greatest
number that is not below the least, and a number to start with between the two.
-/

namespace StagedEvents

/-- The largest number a count of workers or events can be. -/
def largestCount : Nat := UInt64.size - 1

/-- The settings of one pool. Model of `ThreadPoolConfig`. -/
structure PoolSettings where
  initial : Nat
  least : Nat
  most : Nat
  /-- Longest a worker waits for a batch before it looks around again. -/
  block : Span
  /-- Time without a batch after which a worker beyond the least number retires. -/
  idle : Span
  /-- Waiting events above which a worker is added; without it none is. -/
  grow? : Option Nat
  /-- How long a shutdown waits for batches in work. -/
  termination : Span
deriving DecidableEq, Repr

namespace PoolSettings

/-- How long a worker waits for a batch unless told otherwise. -/
def defaultBlock : Span := .ofMillis 1000

/-- How long a shutdown waits unless told otherwise. -/
def defaultTermination : Span := .ofMillis 100

/-- One worker, growing without a bound, but never on its own. Model of
    `ThreadPoolConfig::default`. -/
def default : PoolSettings :=
  { initial := 1, least := 1, most := largestCount, block := defaultBlock, idle := defaultBlock,
    grow? := none, termination := defaultTermination }

/-- A pool that always has `workers` workers, at least one. Model of `ThreadPoolConfig::fixed`. -/
def fixed (workers : Nat) : PoolSettings :=
  { default with initial := max workers 1, least := max workers 1, most := max workers 1 }

/-- The settings put in order. Model of `ThreadPoolConfig::normalized`. -/
def normalized (s : PoolSettings) : PoolSettings :=
  let least := max s.least 1
  let most := max s.most least
  { s with initial := max least (min most s.initial), least, most }

/-- The settings with exactly one worker at all times. Model of
    `ThreadPoolConfig::single_threaded`. -/
def singleThreaded (s : PoolSettings) : PoolSettings :=
  { s with initial := 1, least := 1, most := 1, grow? := none }

/-- A number of workers moved between the least and the most. -/
def clampSize (s : PoolSettings) (size : Nat) : Nat := max s.least (min s.most size)

/-- The description of pool settings. -/
def text (s : PoolSettings) : String :=
  recordText "ThreadPoolConfig"
    [("initial_threads", toString s.initial), ("min_threads", toString s.least),
     ("max_threads", toString s.most), ("block_time", s.block.text),
     ("idle_timeout", s.idle.text), ("grow_backlog", optionText toString s.grow?),
     ("termination_timeout", s.termination.text)]

/-- Settings are in order when `1 ≤ least ≤ initial ≤ most`. -/
def InOrder (s : PoolSettings) : Prop :=
  1 ≤ s.least ∧ s.least ≤ s.initial ∧ s.initial ≤ s.most

theorem inOrder_normalized (s : PoolSettings) : s.normalized.InOrder := by
  simp only [InOrder, normalized]
  omega

theorem singleThreaded_normalized (s : PoolSettings) :
    s.singleThreaded.normalized = s.singleThreaded := by
  simp [singleThreaded, normalized]

end PoolSettings

end StagedEvents
