import StagedEvents.Queue

/-!
# What the operations of a queue do

For each operation of a queue, its outcomes and when each of them comes about. Whoever
reasons about queues splits on these outcomes and leaves the operations folded.

* `enqueue_cases`, `enqueueMany_cases`, `prepare_cases`, `offer?_cases`: either the
  events are let in and there was room for them, or the queue is left as it was and
  they are handed back.
* `commit_of_open`, `commit_of_closed`: a commit asks neither for admission nor for
  room.
* `dequeue_cases`, `poll?_cases`: what is taken was at the front.
-/

namespace StagedEvents.Queue

variable {ε : Type}

/-! ## Room -/

/-- The queue holds and reserves no more than its capacity. -/
def Fits (q : Queue ε) : Prop := ∀ most, q.capacity = some most → q.occupancy ≤ most

theorem hasRoom_zero (q : Queue ε) : q.hasRoom 0 = true := by
  unfold hasRoom
  split
  · rfl
  · exact decide_eq_true (Nat.zero_le _)

theorem hasRoom_iff {q : Queue ε} {most : Nat} (h : q.capacity = some most) (count : Nat) :
    q.hasRoom count = true ↔ count ≤ most - q.occupancy := by
  simp only [hasRoom, h, decide_eq_true_eq]

/-- A queue with room for `count` events still fits with them. -/
theorem Fits.add {q q' : Queue ε} (h : q.Fits) {count : Nat} (room : q.hasRoom count = true)
    (capacity : q'.capacity = q.capacity) (occupancy : q'.occupancy ≤ q.occupancy + count) :
    q'.Fits := by
  intro most hm
  rw [capacity] at hm
  have := h most hm
  have := (hasRoom_iff hm count).1 room
  omega

/-- A queue that holds no more than one that fits does fit. -/
theorem Fits.mono {q q' : Queue ε} (h : q.Fits) (capacity : q'.capacity = q.capacity)
    (occupancy : q'.occupancy ≤ q.occupancy) : q'.Fits :=
  h.add q.hasRoom_zero capacity occupancy

@[simp] theorem occupancy_publish (q : Queue ε) (events : List ε) :
    (q.publish events).occupancy = q.occupancy + events.length := by
  simp only [occupancy, publish_events, publish_reserved, List.length_append]
  omega

@[simp] theorem publish_nil (q : Queue ε) : q.publish [] = q := by
  simp only [publish, List.append_nil]

/-! ## Refusals -/

theorem refusal?_eq_none_iff (q : Queue ε) (gate : Admission) (count : Nat) :
    q.refusal? gate count = none ↔
      q.closed = false ∧ gate q.occupancy count = true ∧ q.hasRoom count = true := by
  unfold refusal?
  cases q.closed <;> cases gate q.occupancy count <;> cases q.hasRoom count <;> simp

/-- Without a gate there are two reasons to refuse. -/
theorem refusal?_all (q : Queue ε) (count : Nat) :
    q.refusal? .all count =
      if q.closed then some .closed else if q.hasRoom count then none else some .full := by
  unfold refusal?
  cases q.closed <;> cases h : q.hasRoom count <;> simp [Admission.all]

/-! ## Producers -/

theorem enqueue_cases (gate : Admission) (event : ε) (q : Queue ε) :
    (q.enqueue gate event = (q.publish [event], .ok ()) ∧ q.closed = false ∧
        q.hasRoom 1 = true) ∨
      ∃ cause, q.enqueue gate event = (q, .error ⟨cause, event⟩) := by
  unfold enqueue
  cases h : q.refusal? gate 1 with
  | none =>
    obtain ⟨hc, -, hr⟩ := (refusal?_eq_none_iff q gate 1).1 h
    exact .inl ⟨rfl, hc, hr⟩
  | some cause => exact .inr ⟨cause, rfl⟩

theorem enqueueMany_cases (gate : Admission) (events : List ε) (q : Queue ε) :
    (q.enqueueMany gate events = (q.publish events, .ok ()) ∧ q.closed = false ∧
        q.hasRoom events.length = true) ∨
      ∃ cause, q.enqueueMany gate events = (q, .error ⟨cause, events⟩) := by
  unfold enqueueMany
  cases hc : q.closed with
  | true => exact .inr ⟨.closed, by simp⟩
  | false =>
    cases events with
    | nil => exact .inl ⟨by simp, rfl, q.hasRoom_zero⟩
    | cons event rest =>
      cases h : q.refusal? gate (event :: rest).length with
      | none =>
        obtain ⟨-, -, hr⟩ := (refusal?_eq_none_iff q gate _).1 h
        exact .inl ⟨by simp, rfl, hr⟩
      | some cause => exact .inr ⟨cause, by simp⟩

theorem prepare_cases (gate : Admission) (events : List ε) (q : Queue ε) :
    (q.prepare gate events =
          ({ q with reserved := q.reserved + events.length }, .ok ⟨events⟩) ∧
        q.closed = false ∧ q.hasRoom events.length = true) ∨
      ∃ cause, q.prepare gate events = (q, .error ⟨cause, events⟩) := by
  unfold prepare
  cases h : q.refusal? (if events.isEmpty then .all else gate) events.length with
  | none =>
    obtain ⟨hc, -, hr⟩ := (refusal?_eq_none_iff q _ _).1 h
    exact .inl ⟨rfl, hc, hr⟩
  | some cause => exact .inr ⟨cause, rfl⟩

theorem commit_of_open {q : Queue ε} (h : q.closed = false) (t : Transaction ε) :
    q.commit t = ((q.release t).publish t.events, .ok ()) := by
  simp [commit, release, h]

theorem commit_of_closed {q : Queue ε} (h : q.closed = true) (t : Transaction ε) :
    q.commit t = (q.release t, .error ⟨.closed, t.events⟩) := by
  simp [commit, release, h]

/-- Room that was reserved and is given free leaves the occupancy smaller by it. -/
theorem occupancy_release {q : Queue ε} {t : Transaction ε}
    (h : t.events.length ≤ q.reserved) :
    (q.release t).occupancy + t.events.length = q.occupancy := by
  simp only [occupancy, release]
  omega

theorem occupancy_release_le (q : Queue ε) (t : Transaction ε) :
    (q.release t).occupancy ≤ q.occupancy := by
  simp only [occupancy, release]
  omega

theorem offer?_cases (event : ε) (expired : Bool) (q : Queue ε) :
    (q.offer? event expired = (q.publish [event], some (.ok ())) ∧ q.closed = false ∧
        q.hasRoom 1 = true) ∨
      (q.offer? event expired = (q, none) ∧ q.closed = false ∧ q.hasRoom 1 = false ∧
        expired = false) ∨
      ∃ cause, q.offer? event expired = (q, some (.error ⟨cause, event⟩)) ∧
        (q.closed = true ∨ q.hasRoom 1 = false) := by
  unfold offer?
  rw [refusal?_all]
  cases q.closed with
  | true => exact .inr (.inr ⟨.closed, rfl, .inl rfl⟩)
  | false =>
    cases q.hasRoom 1 with
    | true => exact .inl ⟨rfl, rfl, rfl⟩
    | false =>
      cases expired with
      | true => exact .inr (.inr ⟨.full, rfl, .inr rfl⟩)
      | false => exact .inr (.inl ⟨rfl, rfl, rfl, rfl⟩)

/-! ## Consumers -/

theorem dequeue_cases (q : Queue ε) :
    (q.dequeue = (q, none) ∧ q.events = []) ∨
      ∃ event rest, q.events = event :: rest ∧
        q.dequeue = ({ q with events := rest }, some event) := by
  unfold dequeue
  cases h : q.events with
  | nil => exact .inl ⟨rfl, rfl⟩
  | cons event rest => exact .inr ⟨event, rest, rfl, rfl⟩

theorem poll?_cases (most : Option Nat) (expired : Bool) (q : Queue ε) :
    (∃ taken rest, taken ≠ [] ∧ q.events = taken ++ rest ∧
        q.poll? most expired = ({ q with events := rest }, some (.ok taken))) ∨
      (q.poll? most expired = (q, none) ∧ q.events = [] ∧ q.closed = false ∧
        expired = false) ∨
      (q.poll? most expired = (q, some (.error .closed)) ∧ q.events = [] ∧
        q.closed = true) ∨
      (q.poll? most expired = (q, some (.ok [])) ∧ (q.events = [] ∨ most = some 0)) := by
  unfold poll?
  cases h : q.events with
  | nil =>
    cases q.closed with
    | true => exact .inr (.inr (.inl ⟨rfl, rfl, rfl⟩))
    | false =>
      cases expired with
      | true => exact .inr (.inr (.inr ⟨rfl, .inl rfl⟩))
      | false => exact .inr (.inl ⟨rfl, rfl, rfl, rfl⟩)
  | cons event rest =>
    match most with
    | none => exact .inl ⟨event :: rest, [], by simp, by simp, by simp [dequeueAll, h]⟩
    | some 0 =>
      refine .inr (.inr (.inr ⟨?_, .inr rfl⟩))
      simp only [List.isEmpty_cons, Bool.false_eq_true, ↓reduceIte, dequeueUpTo, List.drop_zero,
        List.take_zero]
    | some (n + 1) =>
      refine .inl ⟨event :: rest.take n, rest.drop n, by simp, by simp, ?_⟩
      simp [dequeueUpTo, h]

end StagedEvents.Queue
