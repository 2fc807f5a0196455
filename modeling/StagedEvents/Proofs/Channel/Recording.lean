import StagedEvents.Proofs.Channel.Effect
import StagedEvents.Proofs.Queue.Conservation
import StagedEvents.Proofs.Queue.Reservation

/-!
# Steps of calls are moves of a custody

A custody follows the queue of a channel: whatever a step of a call does to the queue, at
most one move of the custody does to its own, with the same events published and removed.
So what is true of every run of a custody is true of every queue of a channel.

* `Custody.Backs`: the custody has the transaction, or the waiting producer, of a call.
* `Custody.Follows`, `exists_follows`: a step of a call as a run of the custody.
* `Recorded`: a channel and its custody after any number of steps and arrivals.
* `Recorded.conserved`: what comes of it for the queue of a channel.
-/

namespace StagedEvents

variable {α ε : Type}

namespace Custody

/-- Whoever carries out a call has what it is about: an open transaction, or an event that
    waits for room. -/
def Backs (k : Custody ε) : Call ε → Prop
  | .commit t => ∃ place : Nat, k.handles[place]? = some ⟨t.events, false⟩
  | .release t => ∃ place : Nat, k.handles[place]? = some ⟨t.events, false⟩
  | .offer event => ∃ place : Nat, k.waiting[place]? = some event
  | _ => True

/-- The custody `k'` comes from `k` as the outcome does from the step of a call. -/
structure Follows (k k' : Custody ε) (call : Call ε) (o : Outcome α ε) : Prop where
  queue : k'.queue = o.channel.queue
  published : k'.published = k.published ++ call.published o.progress
  removed : k'.removed = k.removed ++ call.taken o.progress

theorem Follows.still {k k' : Custody ε} {call : Call ε} {o : Outcome α ε}
    (queue : k'.queue = o.channel.queue) (published : k'.published = k.published)
    (removed : k'.removed = k.removed) (nothing : call.published o.progress = [])
    (nothing' : call.taken o.progress = []) : k.Follows k' call o where
  queue := queue
  published := by rw [nothing, List.append_nil, published]
  removed := by rw [nothing', List.append_nil, removed]

variable {c : Channel α ε} {k : Custody ε}

theorem follows_fetchedNothing {k' : Custody ε} {c' : Channel α ε} (dropped : Bool)
    {answer : Except QueueError (Option (Batch ε))}
    (nothing : answer = .ok none ∨ ∃ error, answer = .error error)
    (queue : k'.queue = c'.queue) (published : k'.published = k.published)
    (removed : k'.removed = k.removed) :
    k.Follows k' (.fetch .takeEvents dropped) (c'.fetchedNothing dropped answer) := by
  unfold Channel.fetchedNothing Channel.finish
  rcases nothing with rfl | ⟨error, rfl⟩
  · split <;> exact .still queue published removed rfl rfl
  · split <;> exact .still queue published removed rfl rfl

theorem follows_takeEvents (same : k.queue = c.queue) (dropped expired : Bool) :
    k.Follows (k.step (.poll c.sorter.maxBatch? expired)) (.fetch .takeEvents dropped)
      (c.takeEvents dropped expired) := by
  rcases Queue.poll?_cases c.sorter.maxBatch? expired c.queue with
    ⟨taken, rest, some, front, h⟩ | ⟨h, -⟩ | ⟨h, -⟩ | ⟨h, -⟩
  · obtain ⟨event, events, rfl⟩ := List.exists_cons_of_ne_nil some
    simp only [step, Channel.takeEvents, same, h]
    cases dropped with
    | true => exact ⟨rfl, (List.append_nil _).symm, rfl⟩
    | false => exact ⟨rfl, (List.append_nil _).symm, rfl⟩
  · simp only [step, Channel.takeEvents, same, h]
    exact .still rfl rfl rfl rfl rfl
  · simp only [step, Channel.takeEvents, same, h]
    exact follows_fetchedNothing dropped (.inr ⟨_, rfl⟩) rfl rfl rfl
  · simp only [step, Channel.takeEvents, same, h, List.append_nil]
    exact follows_fetchedNothing dropped (.inl rfl) rfl rfl rfl

theorem follows_takeSlot (same : k.queue = c.queue) (dropped expired : Bool) :
    k.Follows k (.fetch .takeSlot dropped) (c.takeSlot dropped expired) := by
  unfold Channel.takeSlot
  split
  · exact .still same rfl rfl rfl rfl
  · split
    · exact .still same rfl rfl rfl rfl
    · split <;> exact .still same rfl rfl rfl rfl

variable [Quantity α]

theorem follows_enqueue (same : k.queue = c.queue) (guarded : Bool) (event : ε)
    (expired : Bool) : ∃ gate, k.Follows (k.step (.enqueue gate event false))
      (.enqueue guarded event) (c.step (.enqueue guarded event) expired) := by
  obtain ⟨gate, sink, queue, step⟩ := Channel.step_enqueue c guarded event expired
  refine ⟨gate, ?_⟩
  rw [step]
  rcases Queue.enqueue_cases gate event c.queue with ⟨h, -⟩ | ⟨cause, h⟩
  · rw [h] at queue ⊢
    simp only [Custody.step, same, h]
    exact ⟨queue.symm, rfl, (List.append_nil _).symm⟩
  · rw [h] at queue ⊢
    simp only [Custody.step, same, h]
    exact .still queue.symm rfl rfl rfl rfl

theorem follows_enqueueMany (same : k.queue = c.queue) (guarded : Bool) (events : List ε)
    (expired : Bool) : ∃ gate, k.Follows (k.step (.enqueueMany gate events))
      (.enqueueMany guarded events) (c.step (.enqueueMany guarded events) expired) := by
  obtain ⟨gate, sink, queue, step⟩ := Channel.step_enqueueMany c guarded events expired
  refine ⟨gate, ?_⟩
  rw [step]
  rcases Queue.enqueueMany_cases gate events c.queue with ⟨h, -⟩ | ⟨cause, h⟩
  · rw [h] at queue ⊢
    simp only [Custody.step, same, h, conclude]
    exact ⟨queue.symm, rfl, (List.append_nil _).symm⟩
  · rw [h] at queue ⊢
    simp only [Custody.step, same, h, conclude]
    exact .still queue.symm rfl rfl rfl rfl

theorem follows_prepare (same : k.queue = c.queue) (guarded : Bool) (events : List ε)
    (expired : Bool) : ∃ gate, k.Follows (k.step (.prepare gate events))
      (.prepare guarded events) (c.step (.prepare guarded events) expired) := by
  obtain ⟨gate, sink, queue, step⟩ := Channel.step_prepare c guarded events expired
  refine ⟨gate, ?_⟩
  rw [step]
  rcases Queue.prepare_cases gate events c.queue with ⟨h, -⟩ | ⟨cause, h⟩
  · rw [h] at queue ⊢
    simp only [Custody.step, same, h]
    exact .still queue.symm rfl rfl rfl rfl
  · rw [h] at queue ⊢
    simp only [Custody.step, same, h]
    exact .still queue.symm rfl rfl rfl rfl

theorem follows_commit (same : k.queue = c.queue) (t : Transaction ε) {place : Nat}
    (found : k.handles[place]? = some ⟨t.events, false⟩) (expired : Bool) :
    k.Follows (k.step (.commit place)) (.commit t) (c.step (.commit t) expired) := by
  cases closed : c.queue.closed with
  | true =>
    simp only [Channel.step, Custody.step, found, same, Handle.commit_eq,
      Queue.commit_of_closed closed, Bool.false_eq_true, if_false]
    exact .still rfl rfl rfl rfl rfl
  | false =>
    simp only [Channel.step, Custody.step, found, same, Handle.commit_eq,
      Queue.commit_of_open closed, Bool.false_eq_true, if_false]
    exact ⟨rfl, rfl, (List.append_nil _).symm⟩

/-- To give a transaction up and to let go of it are the same to the queue. -/
theorem follows_release (same : k.queue = c.queue) (t : Transaction ε) {place : Nat}
    (found : k.handles[place]? = some ⟨t.events, false⟩) (expired : Bool) :
    k.Follows (k.step (.abort place)) (.release t) (c.step (.release t) expired) ∧
      k.Follows (k.step (.drop place)) (.release t) (c.step (.release t) expired) := by
  constructor
  · simp only [Custody.step, found, Handle.abort_of_open]
    exact .still (congrArg (Queue.release t) same) rfl rfl rfl rfl
  · simp only [Custody.step, found, Handle.drop_of_open]
    exact .still (congrArg (Queue.release t) same) rfl rfl rfl rfl

theorem follows_offer (same : k.queue = c.queue) (event : ε) {place : Nat}
    (found : k.waiting[place]? = some event) (expired : Bool) :
    k.Follows (k.step (.offer place expired)) (.offer event)
      (c.step (.offer event) expired) := by
  rcases Queue.offer?_cases event expired c.queue with ⟨h, -⟩ | ⟨h, -⟩ | ⟨cause, h, -⟩
  · simp only [Channel.step, Custody.step, found, same, h]
    exact ⟨rfl, rfl, (List.append_nil _).symm⟩
  · simp only [Channel.step, Custody.step, found, same, h]
    exact .still rfl rfl rfl rfl rfl
  · simp only [Channel.step, Custody.step, found, same, h]
    exact .still rfl rfl rfl rfl rfl

theorem follows_dequeue (same : k.queue = c.queue) (expired : Bool) :
    k.Follows (k.step .dequeue) .dequeue (c.step .dequeue expired) := by
  simp only [Channel.step, Custody.step, same]
  exact ⟨rfl, (List.append_nil _).symm, rfl⟩

theorem follows_poll (same : k.queue = c.queue) (most : Option Nat) (expired : Bool) :
    k.Follows (k.step (.poll most expired)) (.poll most) (c.step (.poll most) expired) := by
  rcases Queue.poll?_cases most expired c.queue with
    ⟨taken, rest, some, front, h⟩ | ⟨h, -⟩ | ⟨h, -⟩ | ⟨h, -⟩
  · obtain ⟨event, events, rfl⟩ := List.exists_cons_of_ne_nil some
    simp only [Channel.step, Custody.step, same, h]
    exact ⟨rfl, (List.append_nil _).symm, rfl⟩
  · simp only [Channel.step, Custody.step, same, h]
    exact .still rfl rfl rfl rfl rfl
  · simp only [Channel.step, Custody.step, same, h]
    exact .still rfl rfl rfl rfl rfl
  · simp only [Channel.step, Custody.step, same, h, List.append_nil]
    exact .still rfl rfl rfl rfl rfl

/-- **Every step of a call is followed.** -/
theorem exists_follows (same : k.queue = c.queue) {call : Call ε} (backed : k.Backs call)
    (expired : Bool) :
    ∃ moves : List (Move ε), moves.length ≤ 1 ∧
      k.Follows (k.run moves) call (c.step call expired) := by
  have one {m : Move ε} (follows : k.Follows (k.step m) call (c.step call expired)) :
      ∃ moves : List (Move ε), moves.length ≤ 1 ∧
        k.Follows (k.run moves) call (c.step call expired) :=
    ⟨[m], Nat.le_refl 1, follows⟩
  have none (follows : k.Follows k call (c.step call expired)) :
      ∃ moves : List (Move ε), moves.length ≤ 1 ∧
        k.Follows (k.run moves) call (c.step call expired) :=
    ⟨[], Nat.zero_le 1, follows⟩
  cases call with
  | enqueue guarded event =>
    obtain ⟨gate, follows⟩ := follows_enqueue same guarded event expired
    exact one follows
  | enqueueMany guarded events =>
    obtain ⟨gate, follows⟩ := follows_enqueueMany same guarded events expired
    exact one follows
  | prepare guarded events =>
    obtain ⟨gate, follows⟩ := follows_prepare same guarded events expired
    exact one follows
  | commit t =>
    obtain ⟨place, found⟩ := backed
    exact one (follows_commit same t found expired)
  | release t =>
    obtain ⟨place, found⟩ := backed
    exact one (follows_release same t found expired).1
  | offer event =>
    obtain ⟨place, found⟩ := backed
    exact one (follows_offer same event found expired)
  | dequeue => exact one (follows_dequeue same expired)
  | dequeueAll =>
    refine one (m := .dequeueAll) ?_
    simp only [Channel.step, Custody.step, same]
    exact ⟨rfl, (List.append_nil _).symm, rfl⟩
  | dequeueUpTo most =>
    refine one (m := .dequeueUpTo most) ?_
    simp only [Channel.step, Custody.step, same]
    exact ⟨rfl, (List.append_nil _).symm, rfl⟩
  | poll most => exact one (follows_poll same most expired)
  | fetch state dropped =>
    cases state with
    | takeSlot => exact none (follows_takeSlot same dropped expired)
    | takeEvents => exact one (follows_takeEvents same dropped expired)
    | returnSlot answer =>
      exact none (.still (same.trans c.releaseSlot_queue.symm) rfl rfl rfl rfl)
  | complete completion reply =>
    cases completion with
    | freesSlot => exact none (.still (same.trans c.releaseSlot_queue.symm) rfl rfl rfl rfl)
    | nothing | counts => exact none (.still same rfl rfl rfl rfl)
  | close =>
    refine one (m := .close) ?_
    exact .still (congrArg Queue.close same) rfl rfl rfl rfl

end Custody

/-- A channel whose queue was new, and the custody of its queue, after any number of steps
    of calls that the custody backs, with producers coming at any time to wait for room. -/
inductive Recorded [Quantity α] : Channel α ε → Custody ε → Prop where
  | new {c : Channel α ε} (capacity : Option Nat) (new : c.queue = .withCapacity capacity) :
      Recorded c (.start capacity)
  | arrive {c : Channel α ε} {k : Custody ε} (before : Recorded c k) (event : ε) :
      Recorded c (k.step (.arrive event))
  | call {c : Channel α ε} {k : Custody ε} (before : Recorded c k) {call : Call ε}
      (backed : k.Backs call) (expired : Bool) {moves : List (Custody.Move ε)}
      (follows : k.Follows (k.run moves) call (c.step call expired)) :
      Recorded (c.step call expired).channel (k.run moves)
  /-- Something else of the channel changes: its gate, its counters, its sorter. -/
  | around {c c' : Channel α ε} {k : Custody ε} (before : Recorded c k)
      (queue : c'.queue = c.queue) : Recorded c' k

namespace Recorded

variable [Quantity α] {c : Channel α ε} {k : Custody ε}

/-- What is recorded is a run of the custody, and about the queue of the channel. -/
theorem exists_run (recorded : Recorded c k) :
    k.queue = c.queue ∧ ∃ capacity moves, k = (Custody.start capacity).run moves := by
  induction recorded with
  | new capacity new => exact ⟨new.symm, capacity, [], rfl⟩
  | arrive _ event ih =>
    obtain ⟨same, capacity, moves, rfl⟩ := ih
    refine ⟨same, capacity, moves ++ [.arrive event], ?_⟩
    simp only [Custody.run, List.foldl_append, List.foldl_cons, List.foldl_nil]
  | @call _ _ _ _ _ _ more follows ih =>
    obtain ⟨same, capacity, moves, rfl⟩ := ih
    refine ⟨follows.queue, capacity, moves ++ more, ?_⟩
    simp only [Custody.run, List.foldl_append]
  | around _ queue ih => exact ⟨ih.1.trans queue.symm, ih.2⟩

/-- Every step of a call that is backed can be recorded. -/
theorem exists_step (recorded : Recorded c k) {call : Call ε} (backed : k.Backs call)
    (expired : Bool) : ∃ k', Recorded (c.step call expired).channel k' := by
  obtain ⟨moves, -, follows⟩ := Custody.exists_follows recorded.exists_run.1 backed expired
  exact ⟨_, recorded.call backed expired follows⟩

/-- The queue of a channel loses no event and reserves what its open transactions need. -/
theorem conserved (recorded : Recorded c k) :
    k.removed ++ c.queue.events = k.published ∧
      c.queue.reserved = (k.openHandles.map fun h => h.events.length).sum ∧ c.queue.Fits := by
  obtain ⟨same, capacity, moves, rfl⟩ := recorded.exists_run
  have accounted := Custody.accounted_run capacity moves
  rw [← same]
  refine ⟨Custody.inOrder_run capacity moves, ?_, accounted.fits⟩
  rw [accounted.reserved, Custody.held_length]

end Recorded

end StagedEvents
