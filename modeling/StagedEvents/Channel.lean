import StagedEvents.Batch
import StagedEvents.Sink
import StagedEvents.Sorter

/-!
# Channels: the calls of producers and consumers, step by step

A channel is the sink and the sorter of one stage. Everything that producers and
consumers do with it is a call, and a call is carried out in steps, each of them one
critical section. A step ends the call with a reply, leads to the next step, or
finds that the call has to sleep until a condition is signalled. A sleeping call
goes through the same step again when it wakes, and its time may have run out then.

Signals are part of a step. Those of a taker of events are given inside the
critical section (`prompt`); those of a producer and of a completion are given
after it (`late`).
-/

namespace StagedEvents

/-- What a sleeping call waits for. -/
inductive Condition where
  /-- There may be events. -/
  | notEmpty
  /-- There may be room. -/
  | notFull
  /-- There may be a free slot. -/
  | slotFreed
deriving DecidableEq, Repr

/-- A signal: it wakes one call that sleeps on the condition, or all of them. -/
structure Signal where
  on : Condition
  all : Bool
deriving DecidableEq, Repr

/-- The signals for `count` events just published: none, one taker, or all. Model of
    `BoundedQueue::wake_consumers`. -/
def publishedSignals (count : Nat) : List Signal :=
  if count = 0 then [] else [⟨.notEmpty, decide (1 < count)⟩]

/-- Where a step leads: to the end of a call, to its next step, or into a sleep. -/
inductive Progress (σ ρ : Type) where
  | done (answer : ρ)
  | next (state : σ)
  | sleep (on : Condition)

/-- The steps of a fetch. Only a fetch of a throttled sorter takes a slot, and only
    one that found no events gives it back itself. -/
inductive Fetch (ε : Type) where
  | takeSlot
  | takeEvents
  | returnSlot (answer : Except QueueError (Option (Batch ε)))

/-- What a finished call says. -/
inductive Reply (ε : Type) where
  | enqueued (answer : Enqueued ε)
  | enqueuedMany (answer : Enqueued (List ε))
  | prepared (answer : Except (Refused (List ε)) (Transaction ε))
  | event (event : Option ε)
  | events (events : List ε)
  | drained (answer : Except QueueError (List ε))
  | fetched (answer : Except QueueError (Option (Batch ε)))
  | done

/-- Something a producer or a consumer does. Producers who are `guarded` come
    through the sink, others to the queue itself. -/
inductive Call (ε : Type) where
  | enqueue (guarded : Bool) (event : ε)
  | enqueueMany (guarded : Bool) (events : List ε)
  | prepare (guarded : Bool) (events : List ε)
  | commit (transaction : Transaction ε)
  /-- Gives a transaction up; its events are handed back. -/
  | release (transaction : Transaction ε)
  /-- Adds an event, waiting for room. -/
  | offer (event : ε)
  | dequeue
  | dequeueAll
  | dequeueUpTo (most : Nat)
  /-- Takes events, waiting for some; `none` stands for no bound. -/
  | poll (most : Option Nat)
  /-- Fetches a batch through the sorter. When `dropped`, the batch is done with as
      soon as it is there. -/
  | fetch (state : Fetch ε) (dropped : Bool)
  /-- Completes a batch and ends with a reply. -/
  | complete (completion : Completion) (reply : Reply ε)
  | close

/-- The sink and the sorter of a stage. -/
structure Channel (α ε : Type) where
  sink : Sink α ε
  sorter : Sorter

/-- What one step of a call leaves behind. -/
structure Outcome (α ε : Type) where
  channel : Channel α ε
  progress : Progress (Call ε) (Reply ε)
  prompt : List Signal
  late : List Signal

namespace Channel

variable {α ε : Type} [Quantity α]

/-- The channel with its queue replaced. -/
def withQueue (c : Channel α ε) (queue : Queue ε) : Channel α ε :=
  { c with sink := { c.sink with queue } }

/-- The queue of a channel. -/
def queue (c : Channel α ε) : Queue ε := c.sink.queue

/-- The channel after a slot was given back. -/
def releaseSlot (c : Channel α ε) : Channel α ε :=
  match c.sorter with
  | .drainAll => c
  | .throttled slots => { c with sorter := .throttled slots.release }

/-- A call ends with a reply, and signals follow the critical section. -/
def finish (c : Channel α ε) (reply : Reply ε) (late : List Signal) : Outcome α ε :=
  { channel := c, progress := .done reply, prompt := [], late }

/-- The first step of a fetch: a slot, when the sorter has slots. Model of one round of
    `ThrottledSorter::acquire_slot`. -/
def takeSlot (dropped expired : Bool) (c : Channel α ε) : Outcome α ε :=
  match c.sorter with
  | .drainAll =>
    { channel := c, progress := .next (.fetch .takeEvents dropped), prompt := [], late := [] }
  | .throttled slots =>
    match slots.take? with
    | some slots =>
      { channel := { c with sorter := .throttled slots },
        progress := .next (.fetch .takeEvents dropped), prompt := [], late := [] }
    | none =>
      if expired then c.finish (.fetched (.ok none)) []
      else { channel := c, progress := .sleep .slotFreed, prompt := [], late := [] }

/-- A fetch that got no events: it ends, after the slot is given back if it has one. -/
def fetchedNothing (c : Channel α ε) (dropped : Bool)
    (answer : Except QueueError (Option (Batch ε))) : Outcome α ε :=
  match c.sorter with
  | .drainAll => c.finish (.fetched answer) []
  | .throttled _ =>
    { channel := c, progress := .next (.fetch (.returnSlot answer) dropped), prompt := [],
      late := [] }

/-- What a batch has to do when it is done with. -/
def batchCompletion (c : Channel α ε) : Completion :=
  match c.sorter with
  | .drainAll => .nothing
  | .throttled _ => .freesSlot

/-- The second step of a fetch: events, as many as the sorter allows. Model of one round of the
    dequeue in `BatchSorter::next_batch`. -/
def takeEvents (dropped expired : Bool) (c : Channel α ε) : Outcome α ε :=
  let (queue, answer) := c.queue.poll? c.sorter.maxBatch? expired
  let c := c.withQueue queue
  match answer with
  | none => { channel := c, progress := .sleep .notEmpty, prompt := [], late := [] }
  | some (.error error) => c.fetchedNothing dropped (.error error)
  | some (.ok []) => c.fetchedNothing dropped (.ok none)
  | some (.ok events) =>
    let batch : Batch ε := { events, completion := c.batchCompletion }
    let reply : Reply ε := .fetched (.ok (some batch))
    { channel := c,
      progress := if dropped then .next (.complete batch.completion reply) else .done reply,
      prompt := [⟨.notFull, true⟩], late := [] }

/-- The step of a fetch. Model of `BatchSorter::next_batch`. -/
def fetchStep (state : Fetch ε) (dropped expired : Bool) (c : Channel α ε) : Outcome α ε :=
  match state with
  | .takeSlot => c.takeSlot dropped expired
  | .takeEvents => c.takeEvents dropped expired
  | .returnSlot answer => c.releaseSlot.finish (.fetched answer) [⟨.slotFreed, false⟩]

/-- The channel after a completion, and the signals that follow. Model of `Completion::done`. -/
def complete (completion : Completion) (c : Channel α ε) : Channel α ε × List Signal :=
  match completion with
  | .freesSlot => (c.releaseSlot, [⟨.slotFreed, false⟩])
  | _ => (c, [])

/-- One step of a call. `expired` says that the call has slept and its time is over. -/
def step (call : Call ε) (expired : Bool) (c : Channel α ε) : Outcome α ε :=
  match call with
  | .enqueue guarded event =>
    let (sink, answer) :=
      if guarded then c.sink.enqueue event
      else
        let (queue, answer) := c.queue.enqueue .all event
        ({ c.sink with queue }, answer)
    { c with sink }.finish (.enqueued answer) (if answer.isOk then publishedSignals 1 else [])
  | .enqueueMany guarded events =>
    let (sink, answer) :=
      if guarded then c.sink.enqueueMany events
      else
        let (queue, answer) := c.queue.enqueueMany .all events
        ({ c.sink with queue }, answer)
    { c with sink }.finish (.enqueuedMany answer)
      (if answer.isOk then publishedSignals events.length else [])
  | .prepare guarded events =>
    let (sink, answer) :=
      if guarded then c.sink.prepare events
      else
        let (queue, answer) := c.queue.prepare .all events
        ({ c.sink with queue }, answer)
    { c with sink }.finish (.prepared answer) []
  | .commit transaction =>
    let (queue, answer) := c.queue.commit transaction
    (c.withQueue queue).finish (.enqueuedMany answer)
      (if answer.isOk then publishedSignals transaction.events.length else [⟨.notFull, true⟩])
  | .release transaction =>
    (c.withQueue (c.queue.release transaction)).finish (.events transaction.events)
      [⟨.notFull, true⟩]
  | .offer event =>
    let (queue, answer) := c.queue.offer? event expired
    let c := c.withQueue queue
    match answer with
    | none => { channel := c, progress := .sleep .notFull, prompt := [], late := [] }
    | some answer => c.finish (.enqueued answer) (if answer.isOk then publishedSignals 1 else [])
  | .dequeue =>
    let (queue, event) := c.queue.dequeue
    { channel := c.withQueue queue, progress := .done (.event event),
      prompt := if event.isSome then [⟨.notFull, false⟩] else [], late := [] }
  | .dequeueAll =>
    let (queue, events) := c.queue.dequeueAll
    { channel := c.withQueue queue, progress := .done (.events events),
      prompt := if events.isEmpty then [] else [⟨.notFull, true⟩], late := [] }
  | .dequeueUpTo most =>
    let (queue, events) := c.queue.dequeueUpTo most
    { channel := c.withQueue queue, progress := .done (.events events),
      prompt := if events.isEmpty then [] else [⟨.notFull, true⟩], late := [] }
  | .poll most =>
    let (queue, answer) := c.queue.poll? most expired
    let c := c.withQueue queue
    match answer with
    | none => { channel := c, progress := .sleep .notEmpty, prompt := [], late := [] }
    | some (.ok (event :: events)) =>
      { channel := c, progress := .done (.drained (.ok (event :: events))),
        prompt := [⟨.notFull, true⟩], late := [] }
    | some answer => c.finish (.drained answer) []
  | .fetch state dropped => c.fetchStep state dropped expired
  | .complete completion reply =>
    let (c, late) := c.complete completion
    c.finish reply late
  | .close =>
    (c.withQueue c.queue.close).finish .done
      (if c.queue.closed then [] else [⟨.notEmpty, true⟩, ⟨.notFull, true⟩])

end Channel

end StagedEvents
