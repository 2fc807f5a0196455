import StagedEvents.Channel
import StagedEvents.Proofs.Queue.Operations
import StagedEvents.Proofs.Quantity.Exact

/-!
# What a refused call leaves behind

A producer who comes through the sink may be refused: the queue is closed, the gate does not
let the events in, or there is no room. The queue stays as it was. The gate is asked before
the room is looked at, so a gate that counts what it lets in has counted events that then
found no room; every other refused call might as well not have been made.

* `Gate.accept_of_still`: what a gate does when no tokens are added to its bucket.
* `Sink.enqueue_refused`, `enqueueMany_refused`, `prepare_refused`: queue and gate after a
  refusal.
* `Channel.step_uncounted`, `seen_congr`: no call sees what was counted.
* `Channel.refused_call_unnoticed`: the result.
-/

namespace StagedEvents

variable {α ε : Type} [Quantity α]

/-! ## Gates -/

namespace Gate

/-- The gate has a bucket, and its rate is a limit. -/
def Limits : Gate α → Prop
  | guarded (.rate bucket) => ¬ bucket.rate ≤ 0.0
  | _ => False

/-- No tokens are added to the bucket of the gate now, if it has one that counts. -/
def Still : Gate α → Prop
  | guarded (.rate bucket) => bucket.rate ≤ 0.0 ∨ bucket.refill = bucket
  | _ => True

/-- The gate after it has let `count` events in: their tokens are taken, if it counts. -/
def spend (count : ℕ) : Gate α → Gate α
  | guarded (.rate bucket) =>
    if bucket.rate ≤ 0.0 then guarded (.rate bucket)
    else guarded (.rate { bucket with tokens := bucket.tokens - Quantity.ofInt (count : ℤ) })
  | gate => gate

theorem spend_of_not_limits {gate : Gate α} (h : ¬ gate.Limits) (count : ℕ) :
    gate.spend count = gate := by
  unfold spend
  split
  · exact if_pos (not_not.1 h)
  · rfl

theorem accept_of_still {gate : Gate α} (still : gate.Still) (occupancy count : ℕ) :
    (gate.accept occupancy count).2 =
      if (gate.accept occupancy count).1 then gate.spend count else gate := by
  cases gate with
  | openToAll => rfl
  | guarded dial =>
    cases dial with
    | threshold limit => exact (ite_self _).symm
    | knob value => rfl
    | rate bucket =>
      simp only [accept, Dial.accept, spend, Bucket.accept]
      by_cases free : bucket.rate ≤ 0.0
      · simp only [if_pos free, if_true]
      · have refilled : bucket.refill = bucket := still.resolve_left free
        simp only [if_neg free, refilled, Bucket.take]
        split <;> rfl

end Gate

/-- The gate after events it was asked about were refused: it has let them in if there was no
    room for them. -/
def Gate.afterRefusal (cause : QueueError) (count : ℕ) (gate : Gate α) : Gate α :=
  if cause = .full then gate.spend count else gate

/-! ## Sinks -/

namespace Sink

variable {s : Sink α ε} {cause : QueueError}

theorem gateAfter_of_refusal? (still : s.gate.Still) {count : ℕ}
    (refused : s.queue.refusal? s.admission count = some cause) :
    s.gateAfter count = s.gate.afterRefusal cause count := by
  unfold Queue.refusal? at refused
  unfold gateAfter Gate.afterRefusal
  split at refused
  · rename_i closed
    obtain rfl := Option.some.inj refused
    rw [if_pos closed, if_neg (by simp)]
  · rename_i isOpen
    have accept := Gate.accept_of_still still s.queue.occupancy count
    rw [if_neg isOpen, accept]
    split at refused
    · rename_i rejected
      obtain rfl := Option.some.inj refused
      have rejected : (s.gate.accept s.queue.occupancy count).1 = false := by
        simpa [admission] using rejected
      rw [rejected, if_neg (by simp), if_neg (by simp)]
    · rename_i accepted
      have accepted : (s.gate.accept s.queue.occupancy count).1 = true := by
        simpa [admission] using accepted
      split at refused
      · obtain rfl := Option.some.inj refused
        rw [if_pos accepted, if_pos rfl]
      · exact absurd refused (by simp)

theorem enqueue_refused (still : s.gate.Still) {event back : ε}
    (refused : (s.enqueue event).2 = .error ⟨cause, back⟩) :
    (s.enqueue event).1.queue = s.queue ∧
      (s.enqueue event).1.gate = s.gate.afterRefusal cause 1 := by
  unfold enqueue Queue.enqueue at refused ⊢
  cases h : s.queue.refusal? s.admission 1 with
  | none =>
    simp only [h] at refused
    exact absurd refused (by simp)
  | some cause' =>
    simp only [h] at refused ⊢
    obtain ⟨rfl, rfl⟩ := Refused.mk.inj (Except.error.inj refused)
    exact ⟨rfl, gateAfter_of_refusal? still h⟩

theorem enqueueMany_refused (still : s.gate.Still) {events back : List ε}
    (refused : (s.enqueueMany events).2 = .error ⟨cause, back⟩) :
    (s.enqueueMany events).1.queue = s.queue ∧
      (s.enqueueMany events).1.gate = s.gate.afterRefusal cause events.length := by
  unfold enqueueMany Queue.enqueueMany at refused ⊢
  cases closed : s.queue.closed with
  | true =>
    simp only [closed, if_true] at refused ⊢
    obtain ⟨rfl, rfl⟩ := Refused.mk.inj (Except.error.inj refused)
    refine ⟨rfl, ?_⟩
    show (if events.isEmpty then s.gate else s.gateAfter events.length) = _
    rw [gateAfter_of_refusal? still (Queue.refusal?_closed closed _ _)]
    exact ite_self _
  | false =>
    cases empty : events.isEmpty with
    | true => exact absurd refused (by simp [closed, empty])
    | false =>
      cases h : s.queue.refusal? s.admission events.length with
      | none => exact absurd refused (by simp [closed, empty, h])
      | some cause' =>
        simp only [closed, empty, h, Bool.false_eq_true, if_false] at refused ⊢
        obtain ⟨rfl, rfl⟩ := Refused.mk.inj (Except.error.inj refused)
        exact ⟨rfl, gateAfter_of_refusal? still h⟩

theorem prepare_refused (still : s.gate.Still) {events back : List ε}
    (refused : (s.prepare events).2 = .error ⟨cause, back⟩) :
    (s.prepare events).1.queue = s.queue ∧
      (s.prepare events).1.gate = s.gate.afterRefusal cause events.length := by
  unfold prepare Queue.prepare at refused ⊢
  cases empty : events.isEmpty with
  | true =>
    obtain rfl := List.isEmpty_iff.1 empty
    have room : s.queue.refusal? .all 0 = if s.queue.closed then some .closed else none := by
      rw [Queue.refusal?_all, s.queue.hasRoom_zero, if_pos rfl]
    cases closed : s.queue.closed with
    | true =>
      simp only [List.isEmpty_nil, List.length_nil, if_true, room, closed] at refused ⊢
      obtain ⟨rfl, rfl⟩ := Refused.mk.inj (Except.error.inj refused)
      exact ⟨rfl, rfl⟩
    | false => exact absurd refused (by simp [room, closed])
  | false =>
    cases h : s.queue.refusal? s.admission events.length with
    | none => exact absurd refused (by simp [empty, h])
    | some cause' =>
      simp only [empty, h, Bool.false_eq_true, if_false] at refused ⊢
      obtain ⟨rfl, rfl⟩ := Refused.mk.inj (Except.error.inj refused)
      exact ⟨rfl, gateAfter_of_refusal? still h⟩

end Sink

/-! ## What is not seen -/

/-- What producers, consumers and others do to a channel: a step of a call; or the dial of the
    gate is turned, or time passes for its bucket. -/
inductive Doing (α ε : Type) where
  | step (call : Call ε) (expired : Bool)
  | gate (change : Gate α → Gate α)

namespace Channel

/-- The channel as if nothing had been counted. -/
def uncounted (c : Channel α ε) : Channel α ε :=
  { c with sink := { c.sink with stats := .new } }

/-- The channel with its gate changed. -/
def mapGate (f : Gate α → Gate α) (c : Channel α ε) : Channel α ε :=
  { c with sink := { c.sink with gate := f c.sink.gate } }

end Channel

/-- What a step leaves behind, as if nothing had been counted. -/
def Outcome.uncounted (o : Outcome α ε) : Outcome α ε := { o with channel := o.channel.uncounted }

namespace Channel

/-- What several doings leave behind, one after the other: the replies and signals of every
    step, and the queue, the gate and the sorter after it. -/
def seen : List (Doing α ε) → Channel α ε → List (Outcome α ε)
  | [], _ => []
  | .step call expired :: rest, c =>
    (c.step call expired).uncounted :: seen rest (c.step call expired).channel
  | .gate change :: rest, c => seen rest (c.mapGate change)

variable (c : Channel α ε)

omit [Quantity α] in
theorem takeSlot_uncounted (dropped expired : Bool) :
    (c.uncounted.takeSlot dropped expired).uncounted = (c.takeSlot dropped expired).uncounted := by
  obtain ⟨sink, sorter⟩ := c
  cases sorter with
  | drainAll => rfl
  | throttled slots =>
    simp only [takeSlot, uncounted]
    cases slots.take? with
    | some slots => rfl
    | none => cases expired <;> rfl

omit [Quantity α] in
theorem fetchedNothing_uncounted (dropped : Bool)
    (answer : Except QueueError (Option (Batch ε))) :
    (c.uncounted.fetchedNothing dropped answer).uncounted =
      (c.fetchedNothing dropped answer).uncounted := by
  obtain ⟨sink, sorter⟩ := c
  cases sorter <;> rfl

omit [Quantity α] in
theorem takeEvents_uncounted (dropped expired : Bool) :
    (c.uncounted.takeEvents dropped expired).uncounted =
      (c.takeEvents dropped expired).uncounted := by
  rcases polled : c.queue.poll? c.sorter.maxBatch? expired with ⟨queue, answer⟩
  have same : c.uncounted.queue.poll? c.uncounted.sorter.maxBatch? expired = (queue, answer) :=
    polled
  simp only [takeEvents, polled, same]
  split
  · rfl
  · exact (c.withQueue queue).fetchedNothing_uncounted dropped _
  · exact (c.withQueue queue).fetchedNothing_uncounted dropped _
  · cases dropped <;> rfl

omit [Quantity α] in
theorem releaseSlot_uncounted : c.uncounted.releaseSlot = c.releaseSlot.uncounted := by
  obtain ⟨sink, sorter⟩ := c
  cases sorter <;> rfl

/-- **What was counted is seen by no call.** -/
theorem step_uncounted (call : Call ε) (expired : Bool) :
    (c.uncounted.step call expired).uncounted = (c.step call expired).uncounted := by
  cases call with
  | enqueue guarded event => cases guarded <;> rfl
  | enqueueMany guarded events => cases guarded <;> rfl
  | prepare guarded events => cases guarded <;> rfl
  | commit | release | dequeue | dequeueAll | dequeueUpTo | close => rfl
  | offer event =>
    rcases offered : c.queue.offer? event expired with ⟨queue, answer⟩
    have same : c.uncounted.queue.offer? event expired = (queue, answer) := offered
    simp only [step, offered, same]
    cases answer <;> rfl
  | poll most =>
    rcases polled : c.queue.poll? most expired with ⟨queue, answer⟩
    have same : c.uncounted.queue.poll? most expired = (queue, answer) := polled
    simp only [step, polled, same]
    split <;> rfl
  | fetch state dropped =>
    cases state with
    | takeSlot => exact c.takeSlot_uncounted dropped expired
    | takeEvents => exact c.takeEvents_uncounted dropped expired
    | returnSlot answer =>
      simp only [step, fetchStep, releaseSlot_uncounted]
      rfl
  | complete completion reply =>
    cases completion with
    | freesSlot =>
      simp only [step, complete, releaseSlot_uncounted]
      rfl
    | nothing | counts => rfl

theorem seen_uncounted (later : List (Doing α ε)) : seen later c.uncounted = seen later c := by
  induction later generalizing c with
  | nil => rfl
  | cons doing rest ih =>
    cases doing with
    | gate change => exact ih (c.mapGate change)
    | step call expired =>
      have step := c.step_uncounted call expired
      have after : seen rest (c.uncounted.step call expired).channel =
          seen rest (c.step call expired).channel := by
        rw [← ih (c.uncounted.step call expired).channel, ← ih (c.step call expired).channel]
        exact congrArg (fun o => seen rest o.channel) step
      simp only [seen, step, after]

/-- Whoever acts on two channels that differ in what was counted only sees no difference. -/
theorem seen_congr {c d : Channel α ε} (h : c.uncounted = d.uncounted)
    (later : List (Doing α ε)) : seen later c = seen later d := by
  rw [← seen_uncounted c, h, seen_uncounted d]

/-! ## Refused calls -/

end Channel

/-- For how many events a call asks the gate of the sink. -/
def Call.asks? : Call ε → Option ℕ
  | .enqueue true _ => some 1
  | .enqueueMany true events => some events.length
  | .prepare true events => some events.length
  | _ => none

/-- Why a step has ended a call with a refusal, if it has. -/
def Outcome.refusal? (o : Outcome α ε) : Option QueueError :=
  match o.progress with
  | .done (.enqueued (.error refused)) => some refused.cause
  | .done (.enqueuedMany (.error refused)) => some refused.cause
  | .done (.prepared (.error refused)) => some refused.cause
  | _ => none

namespace Channel

variable {c : Channel α ε} {call : Call ε} {expired : Bool} {count : ℕ} {cause : QueueError}

omit [Quantity α] in
/-- Only queue and gate of a sink can be told apart. -/
theorem uncounted_of_sink {sink : Sink α ε} {f : Gate α → Gate α}
    (h : sink.queue = c.sink.queue ∧ sink.gate = f c.sink.gate) :
    ({ c with sink } : Channel α ε).uncounted = (c.mapGate f).uncounted := by
  simp only [uncounted, mapGate, h.1, h.2]

/-- **A refused call** leaves a channel where at most the gate has let the events in. -/
theorem uncounted_of_refused (still : c.sink.gate.Still) (asks : call.asks? = some count)
    (refused : (c.step call expired).refusal? = some cause) :
    (c.step call expired).channel.uncounted =
      (c.mapGate (.afterRefusal cause count)).uncounted := by
  cases call with
  | enqueue guarded event =>
    cases guarded with
    | false => exact absurd asks (by simp [Call.asks?])
    | true =>
      obtain rfl := Option.some.inj asks
      refine uncounted_of_sink ?_
      cases answer : (c.sink.enqueue event).2 with
      | ok => exact absurd refused (by simp [step, finish, Outcome.refusal?, answer])
      | error back =>
        obtain rfl : back.cause = cause := by
          simpa [step, finish, Outcome.refusal?, answer] using refused
        exact Sink.enqueue_refused still answer
  | enqueueMany guarded events =>
    cases guarded with
    | false => exact absurd asks (by simp [Call.asks?])
    | true =>
      obtain rfl := Option.some.inj asks
      refine uncounted_of_sink ?_
      cases answer : (c.sink.enqueueMany events).2 with
      | ok => exact absurd refused (by simp [step, finish, Outcome.refusal?, answer])
      | error back =>
        obtain rfl : back.cause = cause := by
          simpa [step, finish, Outcome.refusal?, answer] using refused
        exact Sink.enqueueMany_refused still answer
  | prepare guarded events =>
    cases guarded with
    | false => exact absurd asks (by simp [Call.asks?])
    | true =>
      obtain rfl := Option.some.inj asks
      refine uncounted_of_sink ?_
      cases answer : (c.sink.prepare events).2 with
      | ok => exact absurd refused (by simp [step, finish, Outcome.refusal?, answer])
      | error back =>
        obtain rfl : back.cause = cause := by
          simpa [step, finish, Outcome.refusal?, answer] using refused
        exact Sink.prepare_refused still answer
  | _ => exact absurd asks (by simp [Call.asks?])

/-- **A refused call goes unnoticed.** A call through the sink that is refused, while no tokens
    are added to the bucket of the gate, leaves the queue as it was. The gate is as it was too,
    and whatever is done later has the same results as if the call had not been made, unless
    there was no room behind a gate whose rate is a limit: then the tokens of the call are
    gone, and the results are those of a channel without them. -/
theorem refused_call_unnoticed (still : c.sink.gate.Still) (asks : call.asks? = some count)
    (refused : (c.step call expired).refusal? = some cause) :
    (c.step call expired).channel.sink.queue = c.sink.queue ∧
    ((cause = .full → ¬ c.sink.gate.Limits) →
      (c.step call expired).channel.sink.gate = c.sink.gate ∧
      ∀ later, seen later (c.step call expired).channel = seen later c) ∧
    (cause = .full →
      (c.step call expired).channel.sink.gate = c.sink.gate.spend count ∧
      ∀ later, seen later (c.step call expired).channel =
        seen later (c.mapGate (.spend count))) := by
  have left := uncounted_of_refused still asks refused
  have queue : (c.step call expired).channel.sink.queue = c.sink.queue :=
    congrArg (·.sink.queue) left
  have gate : (c.step call expired).channel.sink.gate =
      c.sink.gate.afterRefusal cause count := congrArg (·.sink.gate) left
  refine ⟨queue, fun free => ?_, fun full => ?_⟩
  · have same : c.sink.gate.afterRefusal cause count = c.sink.gate := by
      unfold Gate.afterRefusal
      split
      · rename_i full
        exact Gate.spend_of_not_limits (free full) count
      · rfl
    refine ⟨gate.trans same, fun later => ?_⟩
    rw [seen_congr left, mapGate, same]
  · have spent : Gate.afterRefusal cause count = (Gate.spend count : Gate α → Gate α) :=
      funext fun gate => if_pos full
    exact ⟨by rw [gate, spent], fun later => spent ▸ seen_congr left later⟩

/-! ## A bucket with two tokens -/

/-- One event fills the queue, and the rate lets one event more in for now. -/
def brimful : Channel ℚ ℕ :=
  { sink :=
      { queue := { capacity := some 1, events := [1], reserved := 0, closed := false }
        gate := .guarded (.rate { rate := 1, depth := 2, tokens := 1, idle := .zero })
        stats := .new }
    sorter := .drainAll }

theorem still_brimful : brimful.sink.gate.Still :=
  .inr (Bucket.refill_of_idle_zero rfl (by norm_num))

/-- The call that finds no room takes the last token; the queue stays as it was. -/
theorem refused_call_unnoticed_full :
    (brimful.step (.enqueue true 2) false).refusal? = some .full ∧
    (brimful.step (.enqueue true 2) false).channel.sink.queue = brimful.sink.queue ∧
    (brimful.step (.enqueue true 2) false).channel.sink.gate = brimful.sink.gate.spend 1 := by
  have refused : (brimful.step (.enqueue true 2) false).refusal? = some .full := by decide +kernel
  obtain ⟨queue, -, spent⟩ := refused_call_unnoticed still_brimful rfl refused
  exact ⟨refused, queue, (spent rfl).1⟩

/-- An event that comes after the queue was emptied is let in, but not if a call has found no
    room before. -/
theorem refused_call_noticed : ∃ (c : Channel ℚ ℕ) (call : Call ℕ) (count : ℕ)
    (later : List (Doing ℚ ℕ)), c.sink.gate.Still ∧ call.asks? = some count ∧
      (c.step call false).refusal? = some .full ∧
      seen later (c.step call false).channel ≠ seen later c := by
  let later : List (Doing ℚ ℕ) := [.step .dequeue false, .step (.enqueue true 3) false]
  have refused : (brimful.step (.enqueue true 2) false).refusal? = some .full := by decide +kernel
  have unasked : (seen later brimful).map Outcome.refusal? = [none, none] := by decide +kernel
  have asked : (seen later (brimful.step (.enqueue true 2) false).channel).map Outcome.refusal? =
      [none, some .admissionRejected] := by decide +kernel
  refine ⟨brimful, .enqueue true 2, 1, later, still_brimful, rfl, refused, fun same => ?_⟩
  have answers := congrArg (List.map Outcome.refusal?) same
  rw [asked, unasked] at answers
  exact absurd answers (by decide)

end Channel

end StagedEvents
