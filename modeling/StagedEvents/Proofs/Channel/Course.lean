import Mathlib.Algebra.BigOperators.Group.Multiset.Basic
import StagedEvents.Proofs.Channel.Effect
import StagedEvents.Proofs.Channel.Refusal

/-!
# Courses of steps

What producers and consumers do to a channel, in whatever order they come, is a course of
steps, each of them one critical section of some call. A course has the answer of every step
in it, and it goes from one position to another: from a channel and the transactions that are
open on it to those that it leaves behind. Only open transactions are settled, each of them
once.

* `Act`, `Position`, `Course`: a step that was taken, a channel with its open transactions, and
  what leads from one position to another.
* `Queue.Shift`, `Channel.shift_step`: what a step does to the room of a queue, and that a gate
  was asked about events that take more of it.
* `Course.balanced`: the room reserved is that of the open transactions, and the queue fits.
* `Course.gate`: a threshold that no one turns stays in front of the queue.
-/

namespace StagedEvents

variable {α ε : Type}

/-! ## Answers -/

/-- The cause of a refusal, if the answer is one. -/
def refusalOf {β γ : Type} : Except (Refused β) γ → Option QueueError
  | .error refused => some refused.cause
  | .ok _ => none

/-- Why a call was refused, if it was. -/
def Progress.refusal? : Progress (Call ε) (Reply ε) → Option QueueError
  | .done (.enqueued answer) => refusalOf answer
  | .done (.enqueuedMany answer) => refusalOf answer
  | .done (.prepared answer) => refusalOf answer
  | _ => none

/-- Neither room nor admission was found wanting. -/
def Unhindered (refusal? : Option QueueError) : Prop :=
  refusal? ≠ some .full ∧ refusal? ≠ some .admissionRejected

/-- Whether a call was told that its events were let in. -/
def Progress.accepts : Progress (Call ε) (Reply ε) → Bool
  | .done (.enqueued (.ok _)) => true
  | .done (.enqueuedMany (.ok _)) => true
  | .done (.prepared (.ok _)) => true
  | _ => false

/-- A step that was taken: of which call, whether its time was over, and where it led. -/
structure Act (ε : Type) where
  call : Call ε
  expired : Bool
  progress : Progress (Call ε) (Reply ε)

/-- Whether a producer went to sleep for want of room. -/
def Act.waits (a : Act ε) : Bool :=
  match a.progress with
  | .sleep .notFull => true
  | _ => false

/-! ## Open transactions -/

/-- The transaction that a step of a call opens. -/
def Call.opened (call : Call ε) (progress : Progress (Call ε) (Reply ε)) :
    Multiset (Transaction ε) :=
  match call, progress with
  | .prepare _ _, .done (.prepared (.ok transaction)) => {transaction}
  | _, _ => 0

/-- The transaction that a call settles. -/
def Call.settled : Call ε → Multiset (Transaction ε)
  | .commit transaction => {transaction}
  | .release transaction => {transaction}
  | _ => 0

/-- The room that transactions have reserved. -/
def reservedRoom (transactions : Multiset (Transaction ε)) : ℕ :=
  (transactions.map fun t => t.events.length).sum

@[simp] theorem reservedRoom_zero : reservedRoom (0 : Multiset (Transaction ε)) = 0 := rfl

@[simp] theorem reservedRoom_singleton (t : Transaction ε) :
    reservedRoom {t} = t.events.length := by
  rw [reservedRoom, Multiset.map_singleton, Multiset.sum_singleton]

@[simp] theorem reservedRoom_add (s t : Multiset (Transaction ε)) :
    reservedRoom (s + t) = reservedRoom s + reservedRoom t := by
  rw [reservedRoom, Multiset.map_add, Multiset.sum_add, reservedRoom, reservedRoom]

/-- A channel and the transactions that are open on it. -/
structure Position (α ε : Type) where
  channel : Channel α ε
  pending : Multiset (Transaction ε)

/-- Steps that lead from one position to another. A step that settles a transaction finds it
    among those that are open and leaves the others, and one that opens a transaction adds
    it. -/
inductive Course [Quantity α] : Position α ε → List (Act ε) → Position α ε → Prop where
  | nil {p : Position α ε} : Course p [] p
  | cons {p q : Position α ε} {call : Call ε} {expired : Bool}
      {pending : Multiset (Transaction ε)} {acts : List (Act ε)}
      (books : pending + call.settled =
        p.pending + call.opened (p.channel.step call expired).progress)
      (others : Course ⟨(p.channel.step call expired).channel, pending⟩ acts q) :
      Course p (⟨call, expired, (p.channel.step call expired).progress⟩ :: acts) q

/-- The position comes about with a queue that was new and had no transactions. -/
def Position.Reached [Quantity α] (p : Position α ε) : Prop :=
  ∃ (channel : Channel α ε) (capacity : Option ℕ) (acts : List (Act ε)),
    channel.queue = .withCapacity capacity ∧ Course ⟨channel, 0⟩ acts p

/-! ## Room -/

namespace Queue

variable {q : Queue ε} {gate : Admission}

/-- What becomes of the room of a queue: `opened` more of it is reserved and `settled` less; if
    less is left, there was room, and the gate let in what takes it. -/
structure Shift (q q' : Queue ε) (gate : Admission) (opened settled : ℕ) : Prop where
  capacity : q'.capacity = q.capacity
  reserved : q'.reserved + settled = q.reserved + opened
  occupancy : q'.occupancy ≤ q.occupancy ∨
    ∃ count, q.hasRoom count = true ∧ gate q.occupancy count = true ∧
      q'.occupancy = q.occupancy + count

theorem Shift.rfl : Shift q q gate 0 0 := ⟨by rfl, by rfl, .inl le_rfl⟩

/-- What is in a queue becomes less. -/
theorem Shift.ofTaken {taken rest : List ε} (front : q.events = taken ++ rest) :
    Shift q { q with events := rest } gate 0 0 := by
  refine ⟨by rfl, by rfl, .inl ?_⟩
  simp only [Queue.occupancy, front, List.length_append]
  omega

theorem Shift.fits {q' : Queue ε} {opened settled : ℕ} (h : Shift q q' gate opened settled)
    (fits : q.Fits) : q'.Fits := by
  rcases h.occupancy with le | ⟨count, room, -, more⟩
  · exact fits.mono h.capacity le
  · exact fits.add room h.capacity more.le

theorem shift_enqueue (gate : Admission) (event : ε) (q : Queue ε) :
    Shift q (q.enqueue gate event).1 gate 0 0 := by
  unfold enqueue
  cases refused : q.refusal? gate 1 with
  | some cause => exact .rfl
  | none =>
    obtain ⟨-, letIn, room⟩ := (refusal?_eq_none_iff q gate 1).1 refused
    exact ⟨by rfl, by rfl, .inr ⟨1, room, letIn, occupancy_publish q [event]⟩⟩

theorem shift_enqueueMany (gate : Admission) (events : List ε) (q : Queue ε) :
    Shift q (q.enqueueMany gate events).1 gate 0 0 := by
  unfold enqueueMany
  split
  · exact .rfl
  · split
    · exact .rfl
    · cases refused : q.refusal? gate events.length with
      | some cause => exact .rfl
      | none =>
        obtain ⟨-, letIn, room⟩ := (refusal?_eq_none_iff q gate _).1 refused
        exact ⟨by rfl, by rfl, .inr ⟨events.length, room, letIn, occupancy_publish q events⟩⟩

theorem shift_prepare_ok {events : List ε} {t : Transaction ε}
    (prepared : (q.prepare gate events).2 = .ok t) :
    Shift q (q.prepare gate events).1 gate t.events.length 0 := by
  unfold prepare at prepared ⊢
  cases refused : q.refusal? (if events.isEmpty then .all else gate) events.length with
  | some cause =>
    rw [refused] at prepared
    exact absurd prepared (by simp)
  | none =>
    rw [refused] at prepared
    obtain rfl := Except.ok.inj prepared
    obtain ⟨-, letIn, room⟩ := (refusal?_eq_none_iff q _ _).1 refused
    have more : ({ q with reserved := q.reserved + events.length } : Queue ε).occupancy =
        q.occupancy + events.length := (Nat.add_assoc _ _ _).symm
    refine ⟨by rfl, by rfl, ?_⟩
    cases events with
    | nil => exact .inl more.le
    | cons event rest => exact .inr ⟨_, room, letIn, more⟩

theorem shift_prepare_error {events : List ε} {refused : Refused (List ε)}
    (prepared : (q.prepare gate events).2 = .error refused) :
    Shift q (q.prepare gate events).1 gate 0 0 := by
  rcases prepare_cases gate events q with ⟨h, -⟩ | ⟨cause, h⟩
  · rw [h] at prepared
    exact absurd prepared (by simp)
  · rw [h]
    exact .rfl

theorem shift_release (t : Transaction ε) (reserved : t.events.length ≤ q.reserved) :
    Shift q (q.release t) gate 0 t.events.length :=
  ⟨by rfl, Nat.sub_add_cancel reserved, .inl (occupancy_release_le q t)⟩

theorem shift_commit (t : Transaction ε) (reserved : t.events.length ≤ q.reserved) :
    Shift q (q.commit t).1 gate 0 t.events.length := by
  cases closed : q.closed with
  | true =>
    rw [commit_of_closed closed]
    exact shift_release t reserved
  | false =>
    rw [commit_of_open closed]
    refine ⟨by rfl, Nat.sub_add_cancel reserved, .inl ?_⟩
    rw [occupancy_publish, occupancy_release reserved]

theorem shift_offer? (event : ε) (expired : Bool) :
    Shift q (q.offer? event expired).1 .all 0 0 := by
  rcases offer?_cases event expired q with ⟨h, -, room⟩ | ⟨h, -⟩ | ⟨cause, h, -⟩
  · rw [h]
    exact ⟨by rfl, by rfl, .inr ⟨1, room, by rfl, occupancy_publish q [event]⟩⟩
  · rw [h]
    exact .rfl
  · rw [h]
    exact .rfl

theorem shift_dequeue : Shift q q.dequeue.1 gate 0 0 := by
  rcases dequeue_cases q with ⟨h, -⟩ | ⟨event, rest, front, h⟩
  · rw [h]
    exact .rfl
  · rw [h]
    exact Shift.ofTaken (show q.events = [event] ++ rest from front)

theorem shift_poll? (most : Option ℕ) (expired : Bool) :
    Shift q (q.poll? most expired).1 gate 0 0 := by
  rcases poll?_cases most expired q with ⟨taken, rest, -, front, h⟩ | ⟨h, -⟩ | ⟨h, -⟩ | ⟨h, -⟩
  · rw [h]
    exact .ofTaken front
  · rw [h]
    exact .rfl
  · rw [h]
    exact .rfl
  · rw [h]
    exact .rfl

end Queue

/-- Whether a call does not bring events past the sink. -/
def Call.keepsToSink : Call ε → Bool
  | .enqueue guarded _ => guarded
  | .enqueueMany guarded _ => guarded
  | .prepare guarded _ => guarded
  | .offer _ => false
  | _ => true

namespace Channel

variable [Quantity α]

/-- The gate that those who come through the sink find, and others. -/
def admission (c : Channel α ε) (guarded : Bool) : Admission :=
  if guarded then c.sink.admission else .all

omit [Quantity α] in
theorem queue_takeSlot (c : Channel α ε) (dropped expired : Bool) :
    (c.takeSlot dropped expired).channel.queue = c.queue := by
  unfold takeSlot
  split
  · rfl
  · split
    · rfl
    · split <;> rfl

omit [Quantity α] in
theorem queue_takeEvents (c : Channel α ε) (dropped expired : Bool) :
    (c.takeEvents dropped expired).channel.queue =
      (c.queue.poll? c.sorter.maxBatch? expired).1 := by
  have nothing (c : Channel α ε) (answer : Except QueueError (Option (Batch ε))) :
      (c.fetchedNothing dropped answer).channel = c := by
    unfold fetchedNothing
    split <;> rfl
  simp only [takeEvents]
  split
  · rfl
  · rw [nothing]
    rfl
  · rw [nothing]
    rfl
  · rfl

theorem queue_poll (c : Channel α ε) (most : Option ℕ) (expired : Bool) :
    (c.step (.poll most) expired).channel.queue = (c.queue.poll? most expired).1 := by
  simp only [step]
  split <;> rfl

theorem queue_offer (c : Channel α ε) (event : ε) (expired : Bool) :
    (c.step (.offer event) expired).channel.queue = (c.queue.offer? event expired).1 := by
  simp only [step]
  split <;> rfl

theorem shift_prepare (c : Channel α ε) (guarded : Bool) (events : List ε) (expired : Bool) :
    c.queue.Shift (c.step (.prepare guarded events) expired).channel.queue (c.admission guarded)
      (reservedRoom (Call.opened (.prepare guarded events)
        (c.step (.prepare guarded events) expired).progress)) 0 := by
  have queue : (c.step (.prepare guarded events) expired).channel.queue =
      (c.queue.prepare (c.admission guarded) events).1 := by
    cases guarded <;> rfl
  have progress : (c.step (.prepare guarded events) expired).progress =
      .done (.prepared (c.queue.prepare (c.admission guarded) events).2) := by
    cases guarded <;> rfl
  rw [queue, progress]
  cases prepared : (c.queue.prepare (c.admission guarded) events).2 with
  | ok t =>
    show Queue.Shift _ _ _ (reservedRoom {t}) 0
    rw [reservedRoom_singleton]
    exact Queue.shift_prepare_ok prepared
  | error refused => exact Queue.shift_prepare_error prepared

/-- **What a step does to the room of the queue.** -/
theorem shift_step (c : Channel α ε) (call : Call ε) (expired : Bool)
    (reserved : reservedRoom call.settled ≤ c.queue.reserved) :
    c.queue.Shift (c.step call expired).channel.queue (c.admission call.keepsToSink)
      (reservedRoom (call.opened (c.step call expired).progress)) (reservedRoom call.settled) := by
  cases call with
  | enqueue guarded event =>
    have queue : (c.step (.enqueue guarded event) expired).channel.queue =
        (c.queue.enqueue (c.admission guarded) event).1 := by
      cases guarded <;> rfl
    rw [queue]
    exact Queue.shift_enqueue _ event _
  | enqueueMany guarded events =>
    have queue : (c.step (.enqueueMany guarded events) expired).channel.queue =
        (c.queue.enqueueMany (c.admission guarded) events).1 := by
      cases guarded <;> rfl
    rw [queue]
    exact Queue.shift_enqueueMany _ events _
  | prepare guarded events => exact c.shift_prepare guarded events expired
  | commit t =>
    show Queue.Shift _ _ _ 0 (reservedRoom {t})
    rw [Call.settled, reservedRoom_singleton] at reserved
    rw [reservedRoom_singleton]
    exact Queue.shift_commit t reserved
  | release t =>
    show Queue.Shift _ _ _ 0 (reservedRoom {t})
    rw [Call.settled, reservedRoom_singleton] at reserved
    rw [reservedRoom_singleton]
    exact Queue.shift_release t reserved
  | offer event =>
    rw [queue_offer]
    exact Queue.shift_offer? event expired
  | dequeue => exact Queue.shift_dequeue
  | dequeueAll => exact .ofTaken (List.append_nil _).symm
  | dequeueUpTo most => exact .ofTaken (List.take_append_drop most _).symm
  | poll most =>
    rw [queue_poll]
    exact Queue.shift_poll? most expired
  | fetch state dropped =>
    cases state with
    | takeSlot =>
      show c.queue.Shift (c.takeSlot dropped expired).channel.queue _ 0 0
      rw [queue_takeSlot]
      exact .rfl
    | takeEvents =>
      show c.queue.Shift (c.takeEvents dropped expired).channel.queue _ 0 0
      rw [queue_takeEvents]
      exact Queue.shift_poll? _ expired
    | returnSlot answer =>
      show c.queue.Shift c.releaseSlot.queue _ 0 0
      rw [releaseSlot_queue]
      exact .rfl
  | complete completion reply =>
    cases completion with
    | freesSlot =>
      show c.queue.Shift c.releaseSlot.queue _ 0 0
      rw [releaseSlot_queue]
      exact .rfl
    | nothing | counts => exact .rfl
  | close => exact ⟨rfl, rfl, .inl le_rfl⟩

/-! ## Thresholds -/

omit [Quantity α] in
theorem sink_takeEvents (c : Channel α ε) (dropped expired : Bool) :
    (c.takeEvents dropped expired).channel.sink.gate = c.sink.gate := by
  simp only [takeEvents, fetchedNothing]
  split
  · rfl
  · split <;> rfl
  · split <;> rfl
  · rfl

/-- A threshold is the same after it was asked. -/
theorem gateAfter_threshold {s : Sink α ε} {limit : ℤ}
    (gate : s.gate = .guarded (.threshold limit)) (count : ℕ) : s.gateAfter count = s.gate := by
  unfold Sink.gateAfter
  split
  · rfl
  · rw [gate]
    rfl

theorem admission_threshold {c : Channel α ε} {limit : ℤ}
    (gate : c.sink.gate = .guarded (.threshold limit)) :
    c.admission true = Dial.withinLimit limit := by
  show c.sink.admission = _
  unfold Sink.admission
  rw [gate]
  rfl

/-- No step turns a threshold. -/
theorem gate_step {c : Channel α ε} {limit : ℤ} (gate : c.sink.gate = .guarded (.threshold limit))
    (call : Call ε) (expired : Bool) : (c.step call expired).channel.sink.gate = c.sink.gate := by
  cases call with
  | enqueue guarded event =>
    cases guarded with
    | false => rfl
    | true => exact gateAfter_threshold gate 1
  | enqueueMany guarded events | prepare guarded events =>
    cases guarded with
    | false => rfl
    | true =>
      show (if events.isEmpty then c.sink.gate else c.sink.gateAfter events.length) = _
      rw [gateAfter_threshold gate, ite_self]
  | commit | release | dequeue | dequeueAll | dequeueUpTo | close => rfl
  | offer | poll =>
    simp only [step]
    split <;> rfl
  | fetch state dropped =>
    cases state with
    | takeSlot =>
      simp only [step, fetchStep, takeSlot]
      split
      · rfl
      · split
        · rfl
        · split <;> rfl
    | takeEvents => exact c.sink_takeEvents dropped expired
    | returnSlot =>
      show c.releaseSlot.sink.gate = _
      unfold releaseSlot
      split <;> rfl
  | complete completion =>
    cases completion with
    | freesSlot =>
      show c.releaseSlot.sink.gate = _
      unfold releaseSlot
      split <;> rfl
    | nothing | counts => rfl

end Channel

/-! ## Courses -/

/-- The room reserved is that of the open transactions, and the queue fits. -/
structure Position.Balanced (p : Position α ε) : Prop where
  reserved : p.channel.queue.reserved = reservedRoom p.pending
  fits : p.channel.queue.Fits

variable {p q : Position α ε} {acts : List (Act ε)}

/-- Whatever is settled had its room reserved. -/
theorem Position.Balanced.covers (h : p.Balanced) {call : Call ε}
    {progress : Progress (Call ε) (Reply ε)} {pending : Multiset (Transaction ε)}
    (books : pending + call.settled = p.pending + call.opened progress) :
    reservedRoom call.settled ≤ p.channel.queue.reserved := by
  have rooms := congrArg reservedRoom books
  rw [reservedRoom_add, reservedRoom_add, ← h.reserved] at rooms
  by_cases settles : call.settled = 0
  · rw [settles, reservedRoom_zero]
    exact Nat.zero_le _
  · -- a call that settles a transaction opens none
    have opens : call.opened progress = 0 := by
      cases call with
      | commit | release => rfl
      | _ => exact absurd rfl settles
    rw [opens, reservedRoom_zero] at rooms
    omega

variable [Quantity α]

theorem Position.Balanced.step (h : p.Balanced) {call : Call ε} {expired : Bool}
    {pending : Multiset (Transaction ε)}
    (books : pending + call.settled =
      p.pending + call.opened (p.channel.step call expired).progress) :
    Position.Balanced ⟨(p.channel.step call expired).channel, pending⟩ := by
  have shift := p.channel.shift_step call expired (h.covers books)
  refine ⟨?_, shift.fits h.fits⟩
  have rooms := congrArg reservedRoom books
  have reserved := shift.reserved
  rw [reservedRoom_add, reservedRoom_add, ← h.reserved] at rooms
  show (p.channel.step call expired).channel.queue.reserved = reservedRoom pending
  omega

/-- **Balance.** A course keeps the books of reserved room. -/
theorem Course.balanced (course : Course p acts q) (h : p.Balanced) : q.Balanced := by
  induction course with
  | nil => exact h
  | cons books _ ih => exact ih (h.step books)

theorem Position.Reached.balanced (reached : p.Reached) : p.Balanced := by
  obtain ⟨channel, capacity, acts, new, course⟩ := reached
  refine course.balanced ⟨?_, ?_⟩
  · show channel.queue.reserved = 0
    rw [new]
    rfl
  · show channel.queue.Fits
    rw [new]
    exact fun _ _ => Nat.zero_le _

theorem Course.gate {limit : ℤ} (course : Course p acts q)
    (gate : p.channel.sink.gate = .guarded (.threshold limit)) :
    q.channel.sink.gate = .guarded (.threshold limit) := by
  induction course with
  | nil => exact gate
  | cons _ _ ih => exact ih ((Channel.gate_step gate _ _).trans gate)

/-- Whoever else has open transactions keeps them through a course. -/
theorem Course.frame (course : Course p acts q) (others : Multiset (Transaction ε)) :
    Course ⟨p.channel, p.pending + others⟩ acts ⟨q.channel, q.pending + others⟩ := by
  induction course with
  | nil => exact .nil
  | @cons _ _ _ _ pending _ books _ ih =>
    refine .cons ?_ ih
    rw [add_right_comm, books, add_right_comm]

end StagedEvents
