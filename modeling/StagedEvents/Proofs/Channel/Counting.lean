import Mathlib.Algebra.BigOperators.Group.List.Basic
import StagedEvents.Proofs.Queue.Custody
import StagedEvents.Sink

/-!
# What the counters of a stage count

A producer who offers events to a sink enters the critical section of the queue, with whatever
gate is in front of it by then, and counts its events when it is out again, as let in or as
refused. Others act in between: producers of their own, holders of transactions, consumers, and
those who come to the queue without a sink. An `Entrance` is a queue with everyone who has one
of its events, the measurements of the stage, and the calls of sinks that are not over.

* `Offer`: what a producer offers to a sink. `Sink.offer` is the call of the program.
* `Entrance.step`, `Entrance.run`: one move of someone, and a run of moves.
* `Offer.since_step`: what a critical section does with the events of an offer.
* `Entrance.Accounted`: the counters, with those who have yet to count.
* `counters_account`: the result.
-/

namespace StagedEvents

variable {α ε : Type}

/-! ## Offers -/

/-- What a producer offers to a sink. -/
inductive Offer (ε : Type) where
  /-- One event; a `lossy` producer does not get it back. -/
  | one (event : ε) (lossy : Bool)
  | many (events : List ε)
  /-- Events to be published later. -/
  | reserve (events : List ε)
deriving DecidableEq, Repr

namespace Offer

/-- The events that are offered. -/
def events : Offer ε → List ε
  | one event _ => [event]
  | many events => events
  | reserve events => events

/-- The critical section of the call, with a gate. -/
def move (gate : Admission) : Offer ε → Custody.Move ε
  | one event lossy => .enqueue gate event lossy
  | many events => .enqueueMany gate events
  | reserve events => .prepare gate events

/-- Whether the call is told that its events were let in. -/
def isAccepted (gate : Admission) (q : Queue ε) : Offer ε → Bool
  | one event _ => (q.enqueue gate event).2.isOk
  | many events => (q.enqueueMany gate events).2.isOk
  | reserve events => (q.prepare gate events).2.isOk

end Offer

/-- The sink after the whole call. -/
def Sink.offer [Quantity α] (s : Sink α ε) : Offer ε → Sink α ε
  | .one event _ => (s.enqueue event).1
  | .many events => (s.enqueueMany events).1
  | .reserve events => (s.prepare events).1

/-! ## What became of events -/

namespace Custody

/-- The events that were published from `c` to `c'`. -/
def publishedSince (c c' : Custody ε) : List ε := c'.published.drop c.published.length

/-- The events of the transactions that were prepared from `c` to `c'`. -/
def preparedSince (c c' : Custody ε) : List ε :=
  (c'.handles.drop c.handles.length).flatMap Handle.events

/-- The events that were handed back or lost from `c` to `c'`. -/
def refusedSince (c c' : Custody ε) : List ε :=
  c'.returned.drop c.returned.length ++ c'.dropped.drop c.dropped.length

/-- What was added to the history of a custody. -/
theorem since_eq {c c' : Custody ε} {published returned dropped accepted refused : List ε}
    {handles : List (Handle ε)} (publishes : c'.published = c.published ++ published)
    (prepares : c'.handles = c.handles ++ handles)
    (returns : c'.returned = c.returned ++ returned) (drops : c'.dropped = c.dropped ++ dropped)
    (all : published ++ handles.flatMap Handle.events = accepted)
    (none : returned ++ dropped = refused) :
    c.publishedSince c' ++ c.preparedSince c' = accepted ∧ c.refusedSince c' = refused := by
  unfold publishedSince preparedSince refusedSince
  rw [publishes, prepares, returns, drops, List.drop_left, List.drop_left, List.drop_left,
    List.drop_left]
  exact ⟨all, none⟩

end Custody

/-- **One critical section** publishes all events of an offer, or prepares a transaction of all of
    them, and its producer is told so; or all are handed back or lost, and it is told that. -/
theorem Offer.since_step (gate : Admission) (c : Custody ε) (offer : Offer ε) :
    c.publishedSince (c.step (offer.move gate)) ++ c.preparedSince (c.step (offer.move gate)) =
      (if offer.isAccepted gate c.queue then offer.events else []) ∧
    c.refusedSince (c.step (offer.move gate)) =
      if offer.isAccepted gate c.queue then [] else offer.events := by
  have same {β : Type} (l : List β) : l = l ++ [] := (List.append_nil l).symm
  cases offer with
  | one event lossy =>
    rcases Queue.enqueue_cases gate event c.queue with ⟨h, -⟩ | ⟨cause, h⟩
    · simp only [move, isAccepted, Custody.step, h]
      exact Custody.since_eq rfl (same _) (same _) (same _) rfl rfl
    · simp only [move, isAccepted, Custody.step, h]
      cases lossy with
      | true => exact Custody.since_eq (same _) (same _) (same _) rfl rfl rfl
      | false => exact Custody.since_eq (same _) (same _) rfl (same _) rfl rfl
  | many events =>
    rcases Queue.enqueueMany_cases gate events c.queue with ⟨h, -⟩ | ⟨cause, h⟩
    · simp only [move, isAccepted, Custody.step, h]
      exact Custody.since_eq rfl (same _) (same _) (same _) (List.append_nil _) rfl
    · simp only [move, isAccepted, Custody.step, h]
      exact Custody.since_eq (same _) (same _) rfl (same _) rfl (List.append_nil _)
  | reserve events =>
    rcases Queue.prepare_cases gate events c.queue with ⟨h, -⟩ | ⟨cause, h⟩
    · simp only [move, isAccepted, Custody.step, h]
      exact Custody.since_eq (same _) rfl (same _) (same _) (List.append_nil _) rfl
    · simp only [move, isAccepted, Custody.step, h]
      exact Custody.since_eq (same _) (same _) rfl (same _) rfl (List.append_nil _)

theorem Offer.count_since (gate : Admission) (c : Custody ε) (offer : Offer ε) :
    (c.publishedSince (c.step (offer.move gate))).length +
      (c.preparedSince (c.step (offer.move gate))).length =
        (if offer.isAccepted gate c.queue = true then offer.events.length else 0) ∧
    (c.refusedSince (c.step (offer.move gate))).length =
      (if offer.isAccepted gate c.queue = false then offer.events.length else 0) ∧
    (c.publishedSince (c.step (offer.move gate))).length +
      (c.preparedSince (c.step (offer.move gate))).length +
      (c.refusedSince (c.step (offer.move gate))).length = offer.events.length := by
  obtain ⟨letIn, refused⟩ := offer.since_step gate c
  rw [← List.length_append, letIn, refused]
  cases offer.isAccepted gate c.queue with
  | true => exact ⟨rfl, rfl, rfl⟩
  | false => exact ⟨rfl, rfl, Nat.zero_add _⟩

/-! ## Calls and counters -/

/-- The way into a stage: its queue with everyone who has one of the events, its measurements,
    and what producers offer to its sinks. -/
structure Entrance (ε : Type) where
  custody : Custody ε
  stats : Stats
  /-- Offers whose producers have yet to enter the critical section. -/
  begun : List (Offer ε)
  /-- Offers whose producers have yet to count, and whether they were let in. -/
  answered : List (Offer ε × Bool)
  /-- Events ever offered to the sinks. -/
  offered : List ε
  /-- Events that were published by calls of the sinks. -/
  published : List ε
  /-- Events of the transactions that were prepared by calls of the sinks. -/
  prepared : List ε
  /-- Events of the calls of the sinks that failed. -/
  refused : List ε

namespace Entrance

/-- What someone does. Calls of sinks that are not over are known by their places. -/
inductive Move (ε : Type) where
  /-- A producer comes to a sink. -/
  | come (offer : Offer ε)
  /-- A producer enters the critical section, with the gate that it found. -/
  | ask (place : ℕ) (gate : Admission)
  /-- A producer counts what it offered, and its call is over. -/
  | count (place : ℕ)
  /-- Whoever has no need of a sink: holders of transactions, consumers, and producers who come
      to the queue itself. -/
  | other (move : Custody.Move ε)
  /-- A batch was handled. -/
  | handled (count : ℕ) (elapsed : Span)
  /-- A batch failed. -/
  | failed

/-- Before any call of a sink. -/
def start (custody : Custody ε) (times : Window) : Entrance ε :=
  { custody, stats := .withTimes times, begun := [], answered := [], offered := [],
    published := [], prepared := [], refused := [] }

/-- One move of someone. -/
def step (t : Entrance ε) : Move ε → Entrance ε
  | .come offer =>
    { t with begun := t.begun ++ [offer], offered := t.offered ++ offer.events }
  | .ask place gate =>
    match t.begun[place]? with
    | none => t
    | some offer =>
      let custody := t.custody.step (offer.move gate)
      { t with
        custody
        begun := t.begun.eraseIdx place
        answered := t.answered ++ [(offer, offer.isAccepted gate t.custody.queue)]
        published := t.published ++ t.custody.publishedSince custody
        prepared := t.prepared ++ t.custody.preparedSince custody
        refused := t.refused ++ t.custody.refusedSince custody }
  | .count place =>
    match t.answered[place]? with
    | none => t
    | some (offer, accepted) =>
      { t with
        answered := t.answered.eraseIdx place
        stats := t.stats.recordOffer offer.events.length accepted }
  | .other move => { t with custody := t.custody.step move }
  | .handled count elapsed => { t with stats := t.stats.recordBatch count elapsed }
  | .failed => { t with stats := t.stats.recordFailure }

/-- The entrance after a run of moves. -/
def run (t : Entrance ε) (moves : List (Move ε)) : Entrance ε := moves.foldl step t

/-- No call of a sink is in progress. -/
structure Idle (t : Entrance ε) : Prop where
  begun : t.begun = []
  answered : t.answered = []

end Entrance

/-- The critical section leaves the queue that the call of the program does. -/
theorem Sink.queue_offer [Quantity α] {s : Sink α ε} {c : Custody ε} (queue : c.queue = s.queue)
    (offer : Offer ε) : (c.step (offer.move s.admission)).queue = (s.offer offer).queue := by
  cases offer with
  | one event lossy =>
    show _ = (s.queue.enqueue s.admission event).1
    rw [← queue]
    rcases Queue.enqueue_cases s.admission event c.queue with ⟨h, -⟩ | ⟨cause, h⟩
    · simp only [Offer.move, Custody.step, h]
    · cases lossy <;> simp only [Offer.move, Custody.step, h, if_true, Bool.false_eq_true, if_false]
  | many events =>
    show _ = (s.queue.enqueueMany s.admission events).1
    rw [← queue]
    rcases Queue.enqueueMany_cases s.admission events c.queue with ⟨h, -⟩ | ⟨cause, h⟩
    · simp only [Offer.move, Custody.step, Custody.conclude, h]
    · simp only [Offer.move, Custody.step, Custody.conclude, h]
  | reserve events =>
    show _ = (s.queue.prepare s.admission events).1
    rw [← queue]
    rcases Queue.prepare_cases s.admission events c.queue with ⟨h, -⟩ | ⟨cause, h⟩
    · simp only [Offer.move, Custody.step, h]
    · simp only [Offer.move, Custody.step, h]

theorem Sink.stats_offer [Quantity α] (s : Sink α ε) (offer : Offer ε) :
    (s.offer offer).stats =
      s.stats.recordOffer offer.events.length (offer.isAccepted s.admission s.queue) := by
  cases offer with
  | one | many | reserve => rfl

namespace Entrance

/-- A call that no one comes in between is the call of the program. -/
theorem run_offer [Quantity α] {s : Sink α ε} {t : Entrance ε} (queue : t.custody.queue = s.queue)
    (stats : t.stats = s.stats) (idle : t.Idle) (offer : Offer ε) :
    (t.run [.come offer, .ask 0 s.admission, .count 0]).custody.queue = (s.offer offer).queue ∧
    (t.run [.come offer, .ask 0 s.admission, .count 0]).stats = (s.offer offer).stats ∧
    (t.run [.come offer, .ask 0 s.admission, .count 0]).Idle := by
  simp only [run, List.foldl_cons, List.foldl_nil, step, idle.begun, idle.answered,
    List.nil_append, List.getElem?_cons_zero, List.eraseIdx_cons_zero]
  refine ⟨Sink.queue_offer queue offer, ?_, rfl, rfl⟩
  rw [s.stats_offer offer, queue, stats]

/-! ## The books -/

/-- How many events are in the offers that were answered so. -/
def uncounted (answered : List (Offer ε × Bool)) (accepted : Bool) : ℕ :=
  (answered.map fun a => if a.2 = accepted then a.1.events.length else 0).sum

/-- What is counted, and will be by those who are about to count, is what was published and
    prepared, and what was refused; other offers have yet to be answered. -/
structure Accounted (t : Entrance ε) : Prop where
  offered : t.published.length + t.prepared.length + t.refused.length +
    (t.begun.map fun offer => offer.events.length).sum = t.offered.length
  admitted : t.stats.admitted + UInt64.ofNat (uncounted t.answered true) =
    UInt64.ofNat (t.published.length + t.prepared.length)
  rejected : t.stats.rejected + UInt64.ofNat (uncounted t.answered false) =
    UInt64.ofNat t.refused.length

theorem accounted_start (custody : Custody ε) (times : Window) : (start custody times).Accounted :=
  ⟨rfl, rfl, rfl⟩

/-- Someone leaves a list of those whose shares make up a sum. -/
theorem sum_eraseIdx {β : Type} {l : List β} {place : ℕ} {b : β} (found : l[place]? = some b)
    (share : β → ℕ) : ((l.eraseIdx place).map share).sum + share b = (l.map share).sum := by
  obtain ⟨lt, rfl⟩ := List.getElem?_eq_some_iff.1 found
  have all := ((List.getElem_cons_eraseIdx_perm lt).map share).sum_eq
  rw [List.map_cons, List.sum_cons] at all
  omega

/-- Both sides of a balance grow alike. -/
theorem ofNat_grow {counted : UInt64} {m n : ℕ}
    (balance : counted + UInt64.ofNat m = UInt64.ofNat n) (k : ℕ) :
    counted + UInt64.ofNat (m + k) = UInt64.ofNat (n + k) := by
  rw [UInt64.ofNat_add, ← UInt64.add_assoc, balance, ← UInt64.ofNat_add]

variable {t : Entrance ε}

theorem Accounted.come (h : t.Accounted) (offer : Offer ε) : (t.step (.come offer)).Accounted := by
  refine ⟨?_, h.admitted, h.rejected⟩
  have := h.offered
  simp only [step, List.map_append, List.map_singleton, List.sum_append, List.sum_singleton,
    List.length_append]
  omega

theorem uncounted_append (answered : List (Offer ε × Bool)) (offer : Offer ε)
    (accepted answer : Bool) :
    uncounted (answered ++ [(offer, accepted)]) answer =
      uncounted answered answer + if accepted = answer then offer.events.length else 0 := by
  unfold uncounted
  rw [List.map_append, List.sum_append, List.map_singleton, List.sum_singleton]

/-- In the critical section the events of an offer become published or prepared, or refused,
    and what is not counted grows by them. -/
theorem Accounted.ask (h : t.Accounted) (place : ℕ) (gate : Admission) :
    (t.step (.ask place gate)).Accounted := by
  simp only [step]
  split
  · exact h
  · rename_i offer found
    -- The offer leaves those that have begun and joins those that are answered, while its events
    -- join one of the three histories.
    obtain ⟨letIn, refused, whole⟩ := offer.count_since gate t.custody
    have begun := sum_eraseIdx found fun offer => offer.events.length
    have offered := h.offered
    have answered := uncounted_append t.answered offer (offer.isAccepted gate t.custody.queue)
    refine ⟨?_, ?_, ?_⟩
    · simp only [List.length_append]
      omega
    · have grown := ofNat_grow h.admitted
        (if offer.isAccepted gate t.custody.queue = true then offer.events.length else 0)
      rw [← answered, ← letIn, add_add_add_comm, ← List.length_append,
        ← List.length_append] at grown
      exact grown
    · have grown := ofNat_grow h.rejected
        (if offer.isAccepted gate t.custody.queue = false then offer.events.length else 0)
      rw [← answered, ← refused, ← List.length_append] at grown
      exact grown

/-- Whoever counts moves events from those that are not counted to those that are. -/
theorem Accounted.count (h : t.Accounted) (place : ℕ) : (t.step (.count place)).Accounted := by
  simp only [step]
  split
  · exact h
  · rename_i offer accepted found
    have share (answer : Bool) := sum_eraseIdx found fun a =>
      if a.2 = answer then a.1.events.length else 0
    refine ⟨h.offered, ?_, ?_⟩
    · have balance := h.admitted
      rw [uncounted, ← share true] at balance
      cases accepted with
      | true =>
        show t.stats.admitted + UInt64.ofNat offer.events.length + _ = _
        rw [UInt64.add_assoc, ← UInt64.ofNat_add, add_comm offer.events.length]
        exact balance
      | false => exact balance
    · have balance := h.rejected
      rw [uncounted, ← share false] at balance
      cases accepted with
      | true => exact balance
      | false =>
        show t.stats.rejected + UInt64.ofNat offer.events.length + _ = _
        rw [UInt64.add_assoc, ← UInt64.ofNat_add, add_comm offer.events.length]
        exact balance

theorem Accounted.step (h : t.Accounted) (move : Move ε) : (t.step move).Accounted := by
  cases move with
  | come offer => exact h.come offer
  | ask place gate => exact h.ask place gate
  | count place => exact h.count place
  | other | handled | failed => exact ⟨h.offered, h.admitted, h.rejected⟩

/-- **The books are kept** all along a run. -/
theorem Accounted.run (h : t.Accounted) (moves : List (Move ε)) : (t.run moves).Accounted := by
  induction moves generalizing t with
  | nil => exact h
  | cons move rest ih => exact ih (h.step move)

end Entrance

/-- **The counters of a stage account for every event** that is offered to its sinks. A call
    that no one comes in between is the call of the program. And whoever does what in whatever
    order, with whatever gates, once no call of a sink is in progress:

    * as many are counted as let in, modulo the size of a word, as calls of the sinks have
      published, with those of the transactions that they prepared, whatever became of them;
    * as many are counted as refused as were in calls of the sinks that failed;
    * and both together are as many as were ever offered to the sinks. -/
theorem counters_account [Quantity α] :
    (∀ (s : Sink α ε) (t : Entrance ε) (offer : Offer ε), t.custody.queue = s.queue →
      t.stats = s.stats → t.Idle →
        (t.run [.come offer, .ask 0 s.admission, .count 0]).custody.queue = (s.offer offer).queue ∧
        (t.run [.come offer, .ask 0 s.admission, .count 0]).stats = (s.offer offer).stats ∧
        (t.run [.come offer, .ask 0 s.admission, .count 0]).Idle) ∧
    ∀ (custody : Custody ε) times moves t, t = (Entrance.start custody times).run moves → t.Idle →
      t.stats.admitted = UInt64.ofNat (t.published.length + t.prepared.length) ∧
      t.stats.rejected = UInt64.ofNat t.refused.length ∧
      t.published.length + t.prepared.length + t.refused.length = t.offered.length ∧
      t.stats.admitted + t.stats.rejected = UInt64.ofNat t.offered.length := by
  refine ⟨fun s t offer queue stats idle => Entrance.run_offer queue stats idle offer, ?_⟩
  rintro custody times moves t rfl idle
  obtain ⟨offered, admitted, rejected⟩ := (Entrance.accounted_start custody times).run moves
  have none : UInt64.ofNat 0 = 0 := rfl
  rw [idle.answered, Entrance.uncounted, List.map_nil, List.sum_nil, none, UInt64.add_zero]
    at admitted rejected
  rw [idle.begun, List.map_nil, List.sum_nil, add_zero] at offered
  refine ⟨admitted, rejected, offered, ?_⟩
  rw [admitted, rejected, ← UInt64.ofNat_add, offered]

/-- One event is published and two are prepared while their producers have yet to count, and the
    transaction is let go of; then two events come to a closed queue. -/
def Entrance.late : Entrance Nat :=
  (Entrance.start (.start (some 3)) (.empty 1)).run
    [.come (.one 1 true), .come (.reserve [2, 3]), .ask 0 .all, .ask 0 .all, .other (.drop 0),
      .count 1, .other .close, .count 0, .come (.many [4, 5]), .ask 0 .all, .count 0]

/-- Three events were let in, two of them with a transaction that came to nothing, and two were
    refused. -/
theorem counters_account_late :
    Entrance.late.custody.dropped = [2, 3] ∧ Entrance.late.published = [1] ∧
    Entrance.late.prepared = [2, 3] ∧ Entrance.late.refused = [4, 5] ∧
    Entrance.late.stats.admitted = 3 ∧ Entrance.late.stats.rejected = 2 := by
  obtain ⟨-, account⟩ := counters_account (α := Float) (ε := Nat)
  have published : Entrance.late.published = [1] := by decide +kernel
  have prepared : Entrance.late.prepared = [2, 3] := by decide +kernel
  have refused : Entrance.late.refused = [4, 5] := by decide +kernel
  have idle : Entrance.late.Idle := ⟨by decide +kernel, by decide +kernel⟩
  obtain ⟨admitted, rejected, -⟩ := account _ _ _ Entrance.late rfl idle
  rw [published, prepared] at admitted
  rw [refused] at rejected
  exact ⟨by decide +kernel, published, prepared, refused, admitted, rejected⟩

end StagedEvents
