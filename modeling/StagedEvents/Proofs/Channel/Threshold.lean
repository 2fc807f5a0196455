import StagedEvents.Proofs.Channel.Course

/-!
# Thresholds

When all producers keep to sinks with the same threshold in front of one queue, the threshold
bounds what the queue holds and reserves, in whatever order their calls come and whoever takes
events or settles transactions in between. It does so without refusing more than it has to.

* `Course.occupancy_le`: the bound.
* `Channel.step_accepts_iff`: who is let in.
* `threshold_admission`: both, and how many of a rush of single events are let in.
-/

namespace StagedEvents

variable {α ε : Type}

/-- How many events a producer asks the sink to let in. -/
def Call.asked : Call ε → ℕ
  | .enqueue true _ => 1
  | .enqueueMany true events => events.length
  | .prepare true events => events.length
  | _ => 0

theorem Dial.withinLimit_iff {limit : ℕ} (positive : 0 < limit) (occupancy count : ℕ) :
    Dial.withinLimit limit occupancy count = true ↔ occupancy + count ≤ limit := by
  unfold Dial.withinLimit
  rw [Bool.or_eq_true_iff, decide_eq_true_iff, decide_eq_true_iff]
  omega

namespace Queue

variable {q : Queue ε}

/-- To ask for room is to ask whether the queue would still fit. -/
theorem hasRoom_iff_le {count : ℕ} (asks : 0 < count) :
    q.hasRoom count = true ↔ ∀ most, q.capacity = some most → q.occupancy + count ≤ most := by
  cases bounded : q.capacity with
  | none =>
    unfold hasRoom
    rw [bounded]
    exact ⟨fun _ _ h => absurd h (by simp), fun _ => rfl⟩
  | some most =>
    rw [hasRoom_iff bounded]
    constructor
    · intro room _ h
      obtain rfl := Option.some.inj h
      omega
    · intro fits
      have := fits most rfl
      omega

end Queue

namespace Channel

variable [Quantity α] {c : Channel α ε} {limit : ℕ}

/-- A producer who asks the sink is let in unless the queue refuses. -/
theorem accepts_iff_refusal? {call : Call ε} (asks : 0 < call.asked) (expired : Bool) :
    (c.step call expired).progress.accepts = true ↔
      c.queue.refusal? (c.admission true) call.asked = none := by
  cases call with
  | enqueue guarded event =>
    cases guarded with
    | false => exact absurd asks (lt_irrefl 0)
    | true =>
      show Progress.accepts (.done (.enqueued (c.queue.enqueue (c.admission true) event).2)) = _ ↔
        c.queue.refusal? (c.admission true) 1 = none
      unfold Queue.enqueue
      cases c.queue.refusal? (c.admission true) 1 <;> simp [Progress.accepts]
  | enqueueMany guarded events =>
    cases guarded with
    | false => exact absurd asks (lt_irrefl 0)
    | true =>
      show Progress.accepts
          (.done (.enqueuedMany (c.queue.enqueueMany (c.admission true) events).2)) = _ ↔
        c.queue.refusal? (c.admission true) events.length = none
      cases events with
      | nil => exact absurd asks (lt_irrefl 0)
      | cons event rest =>
        unfold Queue.enqueueMany
        cases closed : c.queue.closed with
        | true => simp [Progress.accepts, Queue.refusal?_closed closed]
        | false =>
          rw [if_neg Bool.false_ne_true, if_neg (by simp)]
          cases c.queue.refusal? (c.admission true) (event :: rest).length <;>
            simp [Progress.accepts]
  | prepare guarded events =>
    cases guarded with
    | false => exact absurd asks (lt_irrefl 0)
    | true =>
      show Progress.accepts (.done (.prepared (c.queue.prepare (c.admission true) events).2)) = _ ↔
        c.queue.refusal? (c.admission true) events.length = none
      cases events with
      | nil => exact absurd asks (lt_irrefl 0)
      | cons event rest =>
        unfold Queue.prepare
        rw [if_neg (by simp)]
        cases c.queue.refusal? (c.admission true) (event :: rest).length <;>
          simp [Progress.accepts]
  | _ => exact absurd asks (lt_irrefl 0)

/-- **Who is let in** through a threshold: those with whom the queue stays within the limit and
    within its capacity. -/
theorem step_accepts_iff (positive : 0 < limit)
    (gate : c.sink.gate = .guarded (.threshold limit)) (isOpen : c.queue.closed = false)
    (call : Call ε) (asks : 0 < call.asked) (expired : Bool) :
    (c.step call expired).progress.accepts = true ↔
      c.queue.occupancy + call.asked ≤ limit ∧
      ∀ most, c.queue.capacity = some most → c.queue.occupancy + call.asked ≤ most := by
  rw [accepts_iff_refusal? asks, Queue.refusal?_eq_none_iff, admission_threshold gate,
    Dial.withinLimit_iff positive, Queue.hasRoom_iff_le asks]
  exact and_iff_right isOpen

theorem occupancy_step_le (positive : 0 < limit)
    (gate : c.sink.gate = .guarded (.threshold limit)) {call : Call ε}
    (keeps : call.keepsToSink = true) (reserved : reservedRoom call.settled ≤ c.queue.reserved)
    (expired : Bool) (le : c.queue.occupancy ≤ limit) :
    (c.step call expired).channel.queue.occupancy ≤ limit := by
  have shift := (c.shift_step call expired reserved).occupancy
  rw [keeps, admission_threshold gate] at shift
  rcases shift with less | ⟨count, -, letIn, more⟩
  · exact less.trans le
  · rw [more]
    exact (Dial.withinLimit_iff positive _ _).1 letIn

end Channel

variable [Quantity α] {p q : Position α ε} {acts : List (Act ε)} {limit : ℕ}

/-- **The bound.** While producers keep to the sink, what the queue holds and reserves stays
    within the limit. -/
theorem Course.occupancy_le (course : Course p acts q) (balanced : p.Balanced)
    (positive : 0 < limit) (gate : p.channel.sink.gate = .guarded (.threshold limit))
    (keep : ∀ a ∈ acts, a.call.keepsToSink = true)
    (le : p.channel.queue.occupancy ≤ limit) : q.channel.queue.occupancy ≤ limit := by
  induction course with
  | nil => exact le
  | @cons p q call expired pending acts books _ ih =>
    obtain ⟨keeps, keep⟩ := List.forall_mem_cons.1 keep
    exact ih (balanced.step books) ((Channel.gate_step gate _ _).trans gate) keep
      (Channel.occupancy_step_le positive gate keeps (balanced.covers books) expired le)

/-- **A rush.** When no one takes events, as many single events are let in as the limit leaves
    room for, and they are those that come first. -/
theorem Course.accepts_rush (course : Course p acts q) (positive : 0 < limit)
    (gate : p.channel.sink.gate = .guarded (.threshold limit))
    (isOpen : p.channel.queue.closed = false) (le : p.channel.queue.occupancy ≤ limit)
    (roomy : ∀ most, p.channel.queue.capacity = some most → limit ≤ most)
    (singly : ∀ a ∈ acts, ∃ event, a.call = .enqueue true event) :
    (acts.map fun a => a.progress.accepts) =
      List.replicate (min acts.length (limit - p.channel.queue.occupancy)) true ++
        List.replicate (acts.length - (limit - p.channel.queue.occupancy)) false := by
  induction course with
  | nil => rw [List.length_nil, Nat.zero_min, Nat.zero_sub]; rfl
  | @cons p q call expired pending acts _ _ ih =>
    obtain ⟨⟨event, rfl⟩, later⟩ := List.forall_mem_cons.1 singly
    have letIn := Channel.step_accepts_iff positive gate isOpen (.enqueue true event) Nat.one_pos
      expired
    have gate' := (Channel.gate_step gate (.enqueue true event) expired).trans gate
    have queue : (p.channel.step (.enqueue true event) expired).channel.queue =
        (p.channel.queue.enqueue (p.channel.admission true) event).1 := rfl
    have progress : (p.channel.step (.enqueue true event) expired).progress =
        .done (.enqueued (p.channel.queue.enqueue (p.channel.admission true) event).2) := rfl
    rw [List.map_cons, List.length_cons]
    dsimp only at ih
    rcases Queue.enqueue_cases (p.channel.admission true) event p.channel.queue with
      ⟨h, -, -⟩ | ⟨cause, h⟩
    · -- the event is let in, and one less will be
      rw [h] at queue progress
      have within : p.channel.queue.occupancy + 1 ≤ limit := (letIn.1 (by rw [progress]; rfl)).1
      rw [queue, Queue.occupancy_publish] at ih
      have others := ih gate' isOpen within roomy later
      obtain ⟨left, hleft⟩ : ∃ left, limit - p.channel.queue.occupancy = left + 1 :=
        ⟨limit - (p.channel.queue.occupancy + 1), by omega⟩
      have less : limit - (p.channel.queue.occupancy + [event].length) = left := by
        rw [List.length_singleton]
        omega
      rw [progress, others, less, hleft, Nat.add_min_add_right, Nat.add_sub_add_right,
        List.replicate_succ]
      rfl
    · -- the limit is reached, and the queue stays as it is
      rw [h] at queue progress
      have full : limit - p.channel.queue.occupancy = 0 := by
        by_contra below
        have within : p.channel.queue.occupancy + 1 ≤ limit := by omega
        have accepted := letIn.2 ⟨within, fun most h => within.trans (roomy most h)⟩
        rw [progress] at accepted
        exact Bool.false_ne_true accepted
      rw [queue] at ih
      rw [progress, ih gate' isOpen le roomy later, full, Nat.min_zero, Nat.min_zero,
        Nat.sub_zero, Nat.sub_zero, List.replicate_succ]
      rfl

/-- **Threshold admission.** While all producers keep to sinks with one threshold, which no one
    turns, in front of the queue, its occupancy stays within the limit if it was before. At
    each moment while the queue is open, a producer who brings events is let in if and only if
    the queue stays within the limit and its capacity with them. From then on, as long as only
    single events are offered, exactly those that come first are let in, as many as the limit
    leaves room for. -/
theorem threshold_admission (positive : 0 < limit) (reached : p.Reached)
    (gate : p.channel.sink.gate = .guarded (.threshold limit)) (course : Course p acts q)
    (keep : ∀ a ∈ acts, a.call.keepsToSink = true) :
    (p.channel.queue.occupancy ≤ limit → q.channel.queue.occupancy ≤ limit) ∧
    (q.channel.queue.closed = false →
      (∀ (call : Call ε) (expired : Bool), 0 < call.asked →
        ((q.channel.step call expired).progress.accepts = true ↔
          q.channel.queue.occupancy + call.asked ≤ limit ∧
          ∀ most, q.channel.queue.capacity = some most →
            q.channel.queue.occupancy + call.asked ≤ most)) ∧
      (q.channel.queue.occupancy ≤ limit →
        (∀ most, q.channel.queue.capacity = some most → limit ≤ most) →
        ∀ (r : Position α ε) (rush : List (Act ε)), Course q rush r →
          (∀ a ∈ rush, ∃ event, a.call = .enqueue true event) →
          (rush.map fun a => a.progress.accepts) =
            List.replicate (min rush.length (limit - q.channel.queue.occupancy)) true ++
            List.replicate (rush.length - (limit - q.channel.queue.occupancy)) false)) := by
  have gate' := course.gate gate
  refine ⟨course.occupancy_le reached.balanced positive gate keep, fun isOpen => ⟨?_, ?_⟩⟩
  · intro call expired asks
    exact Channel.step_accepts_iff positive gate' isOpen call asks expired
  · intro le roomy r rush more singly
    exact more.accepts_rush positive gate' isOpen le roomy singly

/-- Nothing but the threshold bounds the queue. -/
def twofold : Channel ℚ ℕ :=
  { sink := { queue := .withCapacity none, gate := .guarded (.threshold 2), stats := .new }
    sorter := .drainAll }

/-- While room for one event is reserved, one event of three is let in. -/
theorem threshold_admission_reserved : ∃ q r : Position ℚ ℕ,
    let start : Position ℚ ℕ := ⟨twofold, 0⟩
    let reserving : List (Act ℕ) := [⟨.prepare true [7], false, .done (.prepared (.ok ⟨[7]⟩))⟩]
    let rush : List (Act ℕ) := [⟨.enqueue true 1, false, .done (.enqueued (.ok ()))⟩,
      ⟨.enqueue true 2, false, .done (.enqueued (.error ⟨.admissionRejected, 2⟩))⟩,
      ⟨.enqueue true 3, false, .done (.enqueued (.error ⟨.admissionRejected, 3⟩))⟩]
    start.Reached ∧ start.channel.sink.gate = .guarded (.threshold 2) ∧
    Course start reserving q ∧ (∀ a ∈ reserving, a.call.keepsToSink = true) ∧
    q.channel.queue.closed = false ∧ q.channel.queue.occupancy = 1 ∧ Course q rush r ∧
    (rush.map fun a => a.progress.accepts) = [true, false, false] := by
  have reached : Position.Reached (⟨twofold, 0⟩ : Position ℚ ℕ) :=
    ⟨twofold, none, [], rfl, .nil⟩
  have reserves : Course (⟨twofold, 0⟩ : Position ℚ ℕ)
      [⟨.prepare true [7], false, .done (.prepared (.ok ⟨[7]⟩))⟩] ⟨_, {⟨[7]⟩}⟩ :=
    .cons rfl .nil
  have rushes : Course ⟨(twofold.step (.prepare true [7]) false).channel, {⟨[7]⟩}⟩
      [⟨.enqueue true 1, false, .done (.enqueued (.ok ()))⟩,
      ⟨.enqueue true 2, false, .done (.enqueued (.error ⟨.admissionRejected, 2⟩))⟩,
      ⟨.enqueue true 3, false, .done (.enqueued (.error ⟨.admissionRejected, 3⟩))⟩]
      ⟨_, {⟨[7]⟩}⟩ :=
    .cons rfl (.cons rfl (.cons rfl .nil))
  have admission :=
    threshold_admission (show 0 < 2 from Nat.two_pos) reached rfl reserves (by decide)
  have unbounded (most : ℕ)
      (h : (twofold.step (.prepare true [7]) false).channel.queue.capacity = some most) :
      2 ≤ most :=
    absurd (show none = some most from h) (by simp)
  exact ⟨_, _, reached, rfl, reserves, by decide, rfl, rfl, rushes,
    (admission.2 rfl).2 (by decide) unbounded _ _ rushes (by simp)⟩

end StagedEvents
