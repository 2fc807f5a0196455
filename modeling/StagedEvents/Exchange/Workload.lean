import StagedEvents.Exchange

/-!
# Workloads

A workload is a set of producers, each with events to add one after the other, and
of consumers, each draining the channel until it is closed. Producers wait for room
and consumers for events. When the last producer is through, the channel is closed,
and the consumers take what is left.

`Workload.run` is one schedule of a workload: in every round each producer and
consumer that has nothing under way makes its next call, and then all go on until
they have their replies or sleep.
-/

namespace StagedEvents

/-- A producer: the client it is while a call is under way, and what it has yet to add. -/
structure Producer (ε : Type) where
  client : Nat
  waiting : List ε
  busy : Bool
  /-- Events that were let in. -/
  sent : Nat

/-- A consumer: the client it is while a call is under way, what it has taken, and how
    it came to its end. -/
structure Consumer (ε : Type) where
  client : Nat
  /-- What it has taken, the latest first. -/
  latest : List ε
  busy : Bool
  ended? : Option QueueError

/-- Producers and consumers of one channel. -/
structure Workload (α ε : Type) where
  exchange : Exchange α ε
  producers : List (Producer ε)
  consumers : List (Consumer ε)

namespace Producer

variable {ε : Type}

/-- The producer and the exchange after the producer has made its next call, if it can. -/
def ask {α : Type} [Quantity α] (p : Producer ε) (x : Exchange α ε) :
    Producer ε × Exchange α ε :=
  match p.busy, p.waiting with
  | false, event :: rest =>
    ({ p with waiting := rest, busy := true }, x.enter p.client (.offer event) .longest)
  | _, _ => (p, x)

/-- The producer after a reply. -/
def hear (p : Producer ε) : Reply ε → Producer ε
  | .enqueued (.ok ()) => { p with busy := false, sent := p.sent + 1 }
  | _ => { p with busy := false }

end Producer

namespace Consumer

variable {ε : Type}

/-- What the consumer has taken, in this order. -/
def taken (c : Consumer ε) : List ε := c.latest.reverse

/-- The consumer and the exchange after the consumer has made its next call, if it can. -/
def ask {α : Type} [Quantity α] (most : Nat) (c : Consumer ε) (x : Exchange α ε) :
    Consumer ε × Exchange α ε :=
  match c.busy, c.ended? with
  | false, none => ({ c with busy := true }, x.enter c.client (.poll (some most)) .longest)
  | _, _ => (c, x)

/-- The consumer after a reply. -/
def hear (c : Consumer ε) : Reply ε → Consumer ε
  | .drained (.ok events) => { c with busy := false, latest := events.reverse ++ c.latest }
  | .drained (.error error) => { c with busy := false, ended? := some error }
  | _ => { c with busy := false }

end Consumer

namespace Workload

variable {α ε : Type} [Quantity α]

/-- A workload that has not begun. -/
def new (channel : Channel α ε) (batches : List (List ε)) (consumers : Nat) : Workload α ε :=
  { exchange := .ofChannel channel
    producers := batches.mapIdx fun i events =>
      { client := i, waiting := events, busy := false, sent := 0 }
    consumers := (List.range consumers).map fun i =>
      { client := batches.length + i, latest := [], busy := false, ended? := none } }

/-- Everyone without a call under way makes the next one. -/
def ask (most : Nat) (w : Workload α ε) : Workload α ε :=
  let (producers, x) := w.producers.foldr (fun p acc =>
    let (p, x) := p.ask acc.2
    (p :: acc.1, x)) ([], w.exchange)
  let (consumers, x) := w.consumers.foldr (fun c acc =>
    let (c, x) := c.ask most acc.2
    (c :: acc.1, x)) ([], x)
  { exchange := x, producers, consumers }

/-- Everyone whose call is finished takes the reply. -/
def hear (w : Workload α ε) : Workload α ε :=
  let reply? (client : Nat) : Option (Reply ε) := (w.exchange.client? client).bind Client.reply?
  { exchange :=
      { w.exchange with clients := w.exchange.clients.filter fun c => c.reply?.isNone }
    producers := w.producers.map fun p => ((reply? p.client).map p.hear).getD p
    consumers := w.consumers.map fun c => ((reply? c.client).map c.hear).getD c }

/-- Whether every producer is through. -/
def produced (w : Workload α ε) : Bool := w.producers.all fun p => !p.busy && p.waiting.isEmpty

/-- Whether every consumer has come to its end. -/
def consumed (w : Workload α ε) : Bool := w.consumers.all fun c => c.ended?.isSome

/-- One round: calls, steps and replies; the channel is closed when every producer is
    through. -/
def round (most : Nat) (w : Workload α ε) : Workload α ε :=
  let w := if w.produced then { w with exchange := (w.exchange.atOnce .close).1 } else w
  let w := w.ask most
  { w with exchange := w.exchange.settle }.hear

/-- Rounds until everyone has come to an end, at most `fuel` of them. -/
def runWithin (most : Nat) : (fuel : Nat) → Workload α ε → Workload α ε
  | 0, w => w
  | fuel + 1, w => if w.produced && w.consumed then w else runWithin most fuel (w.round most)

/-- How many events have yet to be added. -/
def remaining (w : Workload α ε) : Nat := w.producers.foldl (fun n p => n + p.waiting.length) 0

/-- The workload run to its end. Every round but the last few adds an event. -/
def run (most : Nat) (w : Workload α ε) : Workload α ε :=
  w.runWithin most (2 * w.remaining + 2 * w.consumers.length + 4)

/-- How many events were let in. -/
def sent (w : Workload α ε) : Nat := w.producers.foldl (fun n p => n + p.sent) 0

/-- All events that consumers have taken. -/
def taken (w : Workload α ε) : List ε := (w.consumers.map (·.taken)).flatten

/-- Whether these events were taken in their order, whatever was taken between them. -/
def keepsOrder [BEq ε] (w : Workload α ε) (events : List ε) : Bool :=
  w.taken.filter events.contains == events

end Workload

end StagedEvents
