import StagedEvents.Dial
import StagedEvents.Queue
import StagedEvents.Stats

/-!
# Sinks

A sink is what producers of a stage see: the stage's queue behind a gate, with
every event offered counted as let in or refused. The gate is asked inside the
critical section of the queue, so its answer belongs to the occupancy it was
asked about.
-/

namespace StagedEvents

/-- A queue behind a gate, with its counters. -/
structure Sink (α ε : Type) where
  queue : Queue ε
  gate : Gate α
  stats : Stats

namespace Sink

variable {α ε : Type} [Quantity α]

/-- The gate's decision, as the queue asks for it. -/
def admission (s : Sink α ε) : Admission :=
  fun occupancy incoming => (s.gate.accept occupancy incoming).1

/-- The gate after an offer of `count` events: a closed queue does not ask it. -/
def gateAfter (s : Sink α ε) (count : Nat) : Gate α :=
  if s.queue.closed then s.gate else (s.gate.accept s.queue.occupancy count).2

/-- The sink after an offer of `count` events with this outcome. Model of `Sink::record`. -/
def settle (s : Sink α ε) (queue : Queue ε) (gate : Gate α) (count : Nat) (accepted : Bool) :
    Sink α ε :=
  { queue, gate, stats := s.stats.recordOffer count accepted }

/-- Offers one event. Model of `Sink::enqueue`. -/
def enqueue (event : ε) (s : Sink α ε) : Sink α ε × Enqueued ε :=
  let (queue, answer) := s.queue.enqueue s.admission event
  (s.settle queue (s.gateAfter 1) 1 answer.isOk, answer)

/-- Offers events, all or none. Model of `Sink::enqueue_many`. -/
def enqueueMany (events : List ε) (s : Sink α ε) : Sink α ε × Enqueued (List ε) :=
  let (queue, answer) := s.queue.enqueueMany s.admission events
  let gate := if events.isEmpty then s.gate else s.gateAfter events.length
  (s.settle queue gate events.length answer.isOk, answer)

/-- Offers events for publication later. They count as let in when the room for
    them is reserved, whatever becomes of the transaction. Model of `Sink::enqueue_prepare`. -/
def prepare (events : List ε) (s : Sink α ε) :
    Sink α ε × Except (Refused (List ε)) (Transaction ε) :=
  let (queue, answer) := s.queue.prepare s.admission events
  let gate := if events.isEmpty then s.gate else s.gateAfter events.length
  (s.settle queue gate events.length answer.isOk, answer)

end Sink

end StagedEvents
