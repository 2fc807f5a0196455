import StagedEvents.Failure

/-!
# The bounded queue

A first-in first-out store of the events that wait for one stage. A producer adds
events at once, or first reserves room for them and publishes them later. A queue
can be closed; it never opens again, and what it then holds can still be taken.

Each function is one critical section: it takes the queue as it is while no one
else touches it and gives the queue it leaves behind. Producers and consumers
that have to wait go through the same functions again when they are woken
(`offer?`, `poll?`).

An enqueue is checked in a fixed order: a closed queue refuses first, then the
gate is asked, then the capacity counts.
-/

namespace StagedEvents

/-- The decision of a gate: `gate occupancy incoming` says whether `incoming` more
    events are let into a queue that holds `occupancy`. -/
abbrev Admission := Nat → Nat → Bool

/-- The gate that lets everything in. -/
def Admission.all : Admission := fun _ _ => true

/-- A queue of events with optional capacity. Model of `BoundedQueue`. -/
structure Queue (ε : Type) where
  /-- Most events held, reserved room counted; none for no limit. -/
  capacity : Option Nat
  /-- The events that consumers can take, oldest first. -/
  events : List ε
  /-- Room held by open transactions. -/
  reserved : Nat
  closed : Bool
deriving DecidableEq, Repr

/-- Events with room reserved for them, not yet published. Model of `EnqueueTransaction`. -/
structure Transaction (ε : Type) where
  events : List ε
deriving DecidableEq, Repr

namespace Queue

variable {ε : Type}

/-- An empty open queue; a capacity of zero stands for no limit. Model of
    `BoundedQueue::with_capacity`. -/
def withCapacity (capacity : Option Nat) : Queue ε :=
  { capacity := capacity.filter (0 < ·), events := [], reserved := 0, closed := false }

/-- Events held and room reserved. Model of `BoundedQueue::occupancy`. -/
def occupancy (q : Queue ε) : Nat := q.events.length + q.reserved

/-- Whether there is room for `count` more events. Model of `BoundedQueue::free_slots`. -/
def hasRoom (q : Queue ε) (count : Nat) : Bool :=
  match q.capacity with
  | none => true
  | some capacity => decide (count ≤ capacity - q.occupancy)

/-- Why `count` events cannot be added now, if they cannot. Model of `BoundedQueue::check`. -/
def refusal? (q : Queue ε) (gate : Admission) (count : Nat) : Option QueueError :=
  if q.closed then some .closed
  else if !gate q.occupancy count then some .admissionRejected
  else if !q.hasRoom count then some .full
  else none

/-- The queue with `events` published behind what it holds. -/
def publish (q : Queue ε) (events : List ε) : Queue ε :=
  { q with events := q.events ++ events }

/-! ## Producers -/

/-- Adds one event. Model of `BoundedQueue::enqueue_gated`. -/
def enqueue (gate : Admission) (event : ε) (q : Queue ε) : Queue ε × Enqueued ε :=
  match q.refusal? gate 1 with
  | some cause => (q, .error ⟨cause, event⟩)
  | none => (q.publish [event], .ok ())

/-- Adds all events or none. The gate is not asked about no events at all. Model of
    `BoundedQueue::enqueue_many_gated`. -/
def enqueueMany (gate : Admission) (events : List ε) (q : Queue ε) :
    Queue ε × Enqueued (List ε) :=
  if q.closed then (q, .error ⟨.closed, events⟩)
  else if events.isEmpty then (q, .ok ())
  else
    match q.refusal? gate events.length with
    | some cause => (q, .error ⟨cause, events⟩)
    | none => (q.publish events, .ok ())

/-- Reserves room for events without publishing them. The gate is not asked about
    no events at all. Model of `BoundedQueue::prepare_gated`. -/
def prepare (gate : Admission) (events : List ε) (q : Queue ε) :
    Queue ε × Except (Refused (List ε)) (Transaction ε) :=
  match q.refusal? (if events.isEmpty then .all else gate) events.length with
  | some cause => (q, .error ⟨cause, events⟩)
  | none => ({ q with reserved := q.reserved + events.length }, .ok ⟨events⟩)

/-- Publishes the events of a transaction in the room reserved for them. A queue
    that was closed since gives the room free and hands the events back. Model of
    `EnqueueTransaction::commit`. -/
def commit (t : Transaction ε) (q : Queue ε) : Queue ε × Enqueued (List ε) :=
  let q := { q with reserved := q.reserved - t.events.length }
  if q.closed then (q, .error ⟨.closed, t.events⟩) else (q.publish t.events, .ok ())

/-- Gives the room of a transaction free. Model of `EnqueueTransaction::release`. -/
def release (t : Transaction ε) (q : Queue ε) : Queue ε :=
  { q with reserved := q.reserved - t.events.length }

/-- Adds one event if there is room. When the queue is full the producer has to
    wait (`none`), unless its time has expired. Model of one round of
    `BoundedQueue::enqueue_timeout`. -/
def offer? (event : ε) (expired : Bool) (q : Queue ε) : Queue ε × Option (Enqueued ε) :=
  match q.refusal? .all 1 with
  | none => (q.publish [event], some (.ok ()))
  | some .full => (q, if expired then some (.error ⟨.full, event⟩) else none)
  | some cause => (q, some (.error ⟨cause, event⟩))

/-! ## Consumers -/

/-- Takes the oldest event. Model of `BoundedQueue::dequeue`. -/
def dequeue (q : Queue ε) : Queue ε × Option ε :=
  match q.events with
  | [] => (q, none)
  | event :: rest => ({ q with events := rest }, some event)

/-- Takes the oldest events, at most `most` of them. Model of `BoundedQueue::dequeue_up_to`. -/
def dequeueUpTo (most : Nat) (q : Queue ε) : Queue ε × List ε :=
  ({ q with events := q.events.drop most }, q.events.take most)

/-- Takes all events. Model of `BoundedQueue::dequeue_all`. -/
def dequeueAll (q : Queue ε) : Queue ε × List ε :=
  ({ q with events := [] }, q.events)

/-- Takes at most `most` events once there are any; `none` stands for no bound.
    While the queue is empty and open the consumer has to wait (`none`); when its
    time has expired it gets no events. An empty closed queue has none to come. Model of one round
    of `BoundedQueue::blocking_dequeue_up_to`. -/
def poll? (most : Option Nat) (expired : Bool) (q : Queue ε) :
    Queue ε × Option (Except QueueError (List ε)) :=
  if q.events.isEmpty then
    if q.closed then (q, some (.error .closed))
    else (q, if expired then some (.ok []) else none)
  else
    let (q, events) :=
      match most with
      | none => q.dequeueAll
      | some most => q.dequeueUpTo most
    (q, some (.ok events))

/-! ## Closing -/

/-- Closes the queue for good. Model of `BoundedQueue::close`. -/
def close (q : Queue ε) : Queue ε := { q with closed := true }

/-! ## Small laws -/

@[simp] theorem publish_events (q : Queue ε) (events : List ε) :
    (q.publish events).events = q.events ++ events := rfl

@[simp] theorem publish_closed (q : Queue ε) (events : List ε) :
    (q.publish events).closed = q.closed := rfl

@[simp] theorem publish_reserved (q : Queue ε) (events : List ε) :
    (q.publish events).reserved = q.reserved := rfl

@[simp] theorem publish_capacity (q : Queue ε) (events : List ε) :
    (q.publish events).capacity = q.capacity := rfl

theorem dequeueUpTo_append (most : Nat) (q : Queue ε) :
    (q.dequeueUpTo most).2 ++ (q.dequeueUpTo most).1.events = q.events :=
  List.take_append_drop most q.events

theorem refusal?_closed {q : Queue ε} (h : q.closed = true) (gate : Admission) (count : Nat) :
    q.refusal? gate count = some .closed := by
  simp [refusal?, h]

end Queue

end StagedEvents
