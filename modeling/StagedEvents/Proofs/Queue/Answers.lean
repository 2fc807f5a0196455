import StagedEvents.Proofs.Queue.Operations

/-!
# What a producer is told, and what it means

A queue has three reasons to refuse events, and of those that apply the first is given: it
is closed, the gate does not let them in, or they find no room. Refused events are handed
back as they came and the queue is as it was; events that are not refused are all let in.

* `Refuses`: when each of the reasons applies.
* `AllOrNothing`: what this says of the result of an operation.
* `allOrNothing_enqueue`, `allOrNothing_enqueueMany`, `allOrNothing_prepare`: the operations
  are of this kind, and `allOrNothing_offer?`: so is an offer that is answered.
* `enqueueMany_nil`, `prepare_nil`: to no events at all there is one reason only.
-/

namespace StagedEvents.Queue

variable {ε β ρ : Type} {q : Queue ε}

/-! ## Reasons -/

/-- Fewer than `count` slots are free. -/
def Lacks (q : Queue ε) (count : Nat) : Prop :=
  ∃ most, q.capacity = some most ∧ most - q.occupancy < count

/-- The reason why `count` events are refused behind a gate. -/
def Refuses (q : Queue ε) (gate : Admission) (count : Nat) : QueueError → Prop
  | .closed => q.closed = true
  | .admissionRejected => q.closed = false ∧ gate q.occupancy count = false
  | .full => q.closed = false ∧ gate q.occupancy count = true ∧ q.Lacks count

/-- The result of an offer that is refused for a reason exactly when it applies, and then
    changes nothing, and is otherwise accepted. -/
structure AllOrNothing (q : Queue ε) (refuses : QueueError → Prop) (offered : β)
    (accepted : Queue ε × ρ) (result : Queue ε × Except (Refused β) ρ) : Prop where
  cause_iff (cause : QueueError) : (∃ back, result.2 = .error ⟨cause, back⟩) ↔ refuses cause
  refused {cause : QueueError} {back : β} (h : result.2 = .error ⟨cause, back⟩) :
    result.1 = q ∧ back = offered
  accepted (h : ∀ cause, ¬ refuses cause) : result = (accepted.1, .ok accepted.2)

theorem hasRoom_eq_false_iff {count : Nat} : q.hasRoom count = false ↔ q.Lacks count := by
  unfold hasRoom Lacks
  cases q.capacity <;> simp

theorem not_lacks_zero : ¬ q.Lacks 0 := by
  rintro ⟨most, -, lacks⟩
  exact Nat.not_lt_zero _ lacks

/-- An operation gives the reason that applies. -/
theorem refusal?_eq_some_iff {gate : Admission} {count : Nat} {cause : QueueError} :
    q.refusal? gate count = some cause ↔ q.Refuses gate count cause := by
  unfold refusal?
  cases closed : q.closed <;> cases gated : gate q.occupancy count <;>
    cases room : q.hasRoom count <;> cases cause <;>
    simp [Refuses, ← hasRoom_eq_false_iff, closed, gated, room]

/-- An open queue has no reason to refuse no events. -/
theorem refuses_all_zero :
    q.Refuses .all 0 = fun cause => cause = .closed ∧ q.closed = true := by
  funext cause
  refine propext ?_
  cases cause with
  | closed => simp [Refuses]
  | admissionRejected => simp [Refuses, Admission.all]
  | full => simp [Refuses, not_lacks_zero]

/-! ## Results -/

/-- An operation that asks for a reason and goes by the answer. -/
theorem allOrNothing_of_refusal? {gate : Admission} {count : Nat} {offered : β}
    {accepted : Queue ε × ρ} {result : Queue ε × Except (Refused β) ρ}
    (refused : ∀ cause, q.refusal? gate count = some cause →
      result = (q, .error ⟨cause, offered⟩))
    (admitted : q.refusal? gate count = none → result = (accepted.1, .ok accepted.2)) :
    q.AllOrNothing (q.Refuses gate count) offered accepted result := by
  cases reason : q.refusal? gate count with
  | none =>
    have free (cause : QueueError) : ¬ q.Refuses gate count cause := fun refuses => by
      rw [← refusal?_eq_some_iff, reason] at refuses
      exact absurd refuses (by simp)
    rw [admitted reason]
    refine ⟨fun cause => ?_, fun h => absurd h (by simp), fun _ => rfl⟩
    exact iff_of_false (fun ⟨_, h⟩ => absurd h (by simp)) (free cause)
  | some cause =>
    have applies : q.Refuses gate count cause := refusal?_eq_some_iff.1 reason
    rw [refused cause reason]
    refine ⟨fun other => ?_, fun h => ?_, fun free => absurd applies (free cause)⟩
    · rw [← refusal?_eq_some_iff, reason, Option.some.injEq]
      exact ⟨fun ⟨_, h⟩ => (Refused.mk.inj (Except.error.inj h)).1,
        fun same => ⟨offered, by rw [same]⟩⟩
    · exact ⟨rfl, (Refused.mk.inj (Except.error.inj h)).2.symm⟩

theorem allOrNothing_enqueue (gate : Admission) (event : ε) :
    q.AllOrNothing (q.Refuses gate 1) event (q.publish [event], ()) (q.enqueue gate event) :=
  allOrNothing_of_refusal? (fun cause reason => by simp only [enqueue, reason])
    (fun reason => by simp only [enqueue, reason])

theorem enqueueMany_nil (gate : Admission) :
    q.AllOrNothing (fun cause => cause = .closed ∧ q.closed = true) [] (q, ())
      (q.enqueueMany gate []) := by
  rw [← refuses_all_zero]
  refine allOrNothing_of_refusal? (fun cause reason => ?_) fun reason => ?_
  · have refuses := refusal?_eq_some_iff.1 reason
    rw [refuses_all_zero] at refuses
    obtain ⟨rfl, closed⟩ := refuses
    simp [enqueueMany, closed]
  · have isOpen := ((refusal?_eq_none_iff q _ _).1 reason).1
    simp [enqueueMany, isOpen]

theorem allOrNothing_enqueueMany (gate : Admission) {events : List ε} (some : events ≠ []) :
    q.AllOrNothing (q.Refuses gate events.length) events (q.publish events, ())
      (q.enqueueMany gate events) := by
  have notEmpty : events.isEmpty = false := by simpa using some
  refine allOrNothing_of_refusal? (fun cause reason => ?_) fun reason => ?_
  · -- the queue is asked whether it is closed once more than needed
    cases closed : q.closed with
    | true =>
      obtain rfl : QueueError.closed = cause :=
        Option.some.inj ((refusal?_closed closed gate events.length).symm.trans reason)
      simp [enqueueMany, closed]
    | false => simp [enqueueMany, closed, notEmpty, reason]
  · have isOpen := ((refusal?_eq_none_iff q _ _).1 reason).1
    simp [enqueueMany, isOpen, notEmpty, reason]

theorem prepare_nil (gate : Admission) :
    q.AllOrNothing (fun cause => cause = .closed ∧ q.closed = true) [] (q, ⟨[]⟩)
      (q.prepare gate []) := by
  rw [← refuses_all_zero]
  exact allOrNothing_of_refusal? (fun cause reason => by simp [prepare, reason])
    (fun reason => by simp [prepare, reason])

theorem allOrNothing_prepare (gate : Admission) {events : List ε} (some : events ≠ []) :
    q.AllOrNothing (q.Refuses gate events.length) events
      ({ q with reserved := q.reserved + events.length }, ⟨events⟩)
      (q.prepare gate events) := by
  have notEmpty : events.isEmpty = false := by simpa using some
  exact allOrNothing_of_refusal? (fun cause reason => by simp [prepare, notEmpty, reason])
    (fun reason => by simp [prepare, notEmpty, reason])

/-! ## Offers that may wait -/

/-- An offer that waits leaves the queue as it is, and would be refused for want of room. -/
theorem offer?_waits {event : ε} {expired : Bool} (waits : (q.offer? event expired).2 = none) :
    (q.offer? event expired).1 = q ∧ q.Refuses .all 1 .full ∧ expired = false := by
  rcases offer?_cases event expired q with ⟨offered, -⟩ | ⟨offered, isOpen, full, patient⟩ |
    ⟨_, offered, -⟩
  · rw [offered] at waits
    exact absurd waits (by simp)
  · exact ⟨by rw [offered], ⟨isOpen, rfl, hasRoom_eq_false_iff.1 full⟩, patient⟩
  · rw [offered] at waits
    exact absurd waits (by simp)

/-- An offer that is answered is answered like one that cannot wait, and is told that the
    queue is full only when its time is over. -/
theorem offer?_answered {event : ε} {expired : Bool} {answer : Enqueued ε}
    (answered : (q.offer? event expired).2 = some answer) :
    ((q.offer? event expired).1, answer) = q.enqueue .all event ∧
      ∀ back, answer = .error ⟨.full, back⟩ → expired = true := by
  unfold offer? at answered ⊢
  unfold enqueue
  cases reason : q.refusal? .all 1 with
  | none =>
    simp only [reason, Option.some.injEq] at answered ⊢
    exact ⟨by rw [answered], fun back full => by simp [← answered] at full⟩
  | some cause =>
    cases cause with
    | full =>
      simp only [reason, Option.ite_none_right_eq_some, Option.some.injEq] at answered ⊢
      exact ⟨by rw [answered.2], fun _ _ => answered.1⟩
    | closed | admissionRejected =>
      simp only [reason, Option.some.injEq] at answered ⊢
      exact ⟨by rw [answered], fun back full => by simp [← answered] at full⟩

theorem allOrNothing_offer? {event : ε} {expired : Bool} {answer : Enqueued ε}
    (answered : (q.offer? event expired).2 = some answer) :
    q.AllOrNothing (q.Refuses .all 1) event (q.publish [event], ())
      ((q.offer? event expired).1, answer) := by
  rw [(offer?_answered answered).1]
  exact allOrNothing_enqueue .all event

end StagedEvents.Queue
