import StagedEvents.Channel
import StagedEvents.Proofs.Queue.Operations

/-!
# What a step of a call does to a channel

Thirteen kinds of calls lead to nine kinds of effects. `step_effect` sorts every step of
every call into them, and whoever reasons about channels splits on the effects.

* `Call.wants`: the condition whose promise the next step of a call uses up.
* `SuppliesAtMost`: how many calls could make use of a condition's promise.
* `Effect`, `step_effect`: the effects, with the events published and taken.
-/

namespace StagedEvents

variable {α ε : Type}

/-- What a call that is about to take its next step wants to find. -/
def Call.wants : Call ε → Option Condition
  | .offer _ => some .notFull
  | .poll _ => some .notEmpty
  | .fetch .takeSlot _ => some .slotFreed
  | .fetch .takeEvents _ => some .notEmpty
  | _ => none

/-- How many of the calls that want `on` this one is. -/
def Call.hands (call : Call ε) (on : Condition) : Nat := if call.wants = some on then 1 else 0

/-- The events that a step of a call publishes: those of a successful enqueue or commit. -/
def Call.published (call : Call ε) (progress : Progress (Call ε) (Reply ε)) : List ε :=
  match call, progress with
  | .enqueue _ event, .done (.enqueued (.ok _)) => [event]
  | .enqueueMany _ events, .done (.enqueuedMany (.ok _)) => events
  | .commit transaction, .done (.enqueuedMany (.ok _)) => transaction.events
  | .offer event, .done (.enqueued (.ok _)) => [event]
  | _, _ => []

/-- The events that a step of a call takes off the queue. -/
def Call.taken (call : Call ε) (progress : Progress (Call ε) (Reply ε)) : List ε :=
  match call, progress with
  | .dequeue, .done (.event event?) => event?.toList
  | .dequeueAll, .done (.events events) => events
  | .dequeueUpTo _, .done (.events events) => events
  | .poll _, .done (.drained (.ok events)) => events
  | .fetch .takeEvents _, .done (.fetched (.ok (some batch))) => batch.events
  | .fetch .takeEvents _, .next (.complete _ (.fetched (.ok (some batch)))) => batch.events
  | _, _ => []

namespace Channel

/-- At most `n` calls that want `on` would find it: there are `n` events at most, or room
    for `n`, or `n` slots. A closed queue promises nothing, as no call sleeps on it; nor
    does a sorter without slots. -/
def SuppliesAtMost (c : Channel α ε) (n : Nat) : Condition → Prop
  | .notEmpty => c.queue.closed = false ∧ c.queue.events.length ≤ n
  | .notFull => c.queue.closed = false ∧
      ∃ most, c.queue.capacity = some most ∧ most ≤ c.queue.occupancy + n
  | .slotFreed => ∀ slots, c.sorter = .throttled slots →
      slots.limit ≠ 0 ∧ slots.limit ≤ slots.used + n

/-- What a channel supplies bounds what another one does, if that has no more events, no
    more room and no more slots than the `m` calls more can use up. -/
theorem SuppliesAtMost.transfer {c c' : Channel α ε} {n m : Nat} {on : Condition}
    (h : c.SuppliesAtMost n on) (closed : c'.queue.closed = c.queue.closed)
    (capacity : c'.queue.capacity = c.queue.capacity) (sorter : c'.sorter = c.sorter)
    (events : on = .notEmpty → c'.queue.events.length + n ≤ c.queue.events.length + m)
    (room : on = .notFull → c.queue.occupancy + n ≤ c'.queue.occupancy + m)
    (slots : on = .slotFreed → n ≤ m) : c'.SuppliesAtMost m on := by
  cases on with
  | notEmpty =>
    obtain ⟨isOpen, few⟩ := h
    have more := events rfl
    exact ⟨closed.trans isOpen, by omega⟩
  | notFull =>
    obtain ⟨isOpen, most, bounded, few⟩ := h
    have more := room rfl
    exact ⟨closed.trans isOpen, most, capacity.trans bounded, by omega⟩
  | slotFreed =>
    intro throttle throttled
    obtain ⟨limited, few⟩ := h throttle (sorter ▸ throttled)
    have more := slots rfl
    exact ⟨limited, by omega⟩

theorem SuppliesAtMost.congr {c c' : Channel α ε} {n m : Nat} {on : Condition}
    (h : c.SuppliesAtMost n on) (queue : c'.queue = c.queue) (sorter : c'.sorter = c.sorter)
    (le : n ≤ m) : c'.SuppliesAtMost m on := by
  refine h.transfer (by rw [queue]) (by rw [queue]) sorter ?_ ?_ fun _ => le
  · intro _
    rw [queue]
    omega
  · intro _
    rw [queue]
    omega

theorem SuppliesAtMost.mono {c : Channel α ε} {n m : Nat} {on : Condition}
    (h : c.SuppliesAtMost n on) (le : n ≤ m) : c.SuppliesAtMost m on :=
  h.congr rfl rfl le

/-- Whoever finds events takes some: no call and no batch is for no events at all. -/
def Greedy (c : Channel α ε) : Call ε → Prop
  | .poll most => most ≠ some 0
  | .fetch _ _ => c.sorter.maxBatch? ≠ some 0
  | _ => True

/-- The effects of one step of `call` on the channel `c`: what it leaves behind, and the
    events it publishes and takes. -/
inductive Effect (c : Channel α ε) (call : Call ε) :
    Outcome α ε → (published taken : List ε) → Prop where
  /-- Neither queue nor slots change. If the call wanted something, it was not there. -/
  | vain {c' : Channel α ε} {progress : Progress (Call ε) (Reply ε)}
      (queue : c'.queue = c.queue) (sorter : c'.sorter = c.sorter)
      (awake : ∀ on, progress ≠ .sleep on)
      (missing : c.Greedy call → ∀ n on, call.wants = some on →
        c.SuppliesAtMost n on → c.SuppliesAtMost 0 on) :
      Effect c call ⟨c', progress, [], []⟩ [] []
  | sleep {c' : Channel α ε} (on : Condition) (queue : c'.queue = c.queue)
      (sorter : c'.sorter = c.sorter) (wants : call.wants = some on)
      (missing : c.SuppliesAtMost 0 on) :
      Effect c call ⟨c', .sleep on, [], []⟩ [] []
  /-- Events are published, in free room or in room that was reserved. -/
  | publish {c' : Channel α ε} {reply : Reply ε} (events : List ε) (reserved : Nat)
      (queue : c'.queue = { c.queue.publish events with reserved := reserved })
      (room : c.queue.occupancy ≤ c'.queue.occupancy) (sorter : c'.sorter = c.sorter)
      (wants : call.wants = none ∨ call.wants = some .notFull ∧ events.length = 1 ∧
        reserved = c.queue.reserved) :
      Effect c call ⟨c', .done reply, [], publishedSignals events.length⟩ events []
  | reserve {c' : Channel α ε} {reply : Reply ε} (count : Nat)
      (queue : c'.queue = { c.queue with reserved := c.queue.reserved + count })
      (sorter : c'.sorter = c.sorter) (wants : call.wants = none) :
      Effect c call ⟨c', .done reply, [], []⟩ [] []
  | free {c' : Channel α ε} {reply : Reply ε} (count : Nat)
      (queue : c'.queue = { c.queue with reserved := c.queue.reserved - count })
      (sorter : c'.sorter = c.sorter) (wants : call.wants = none) :
      Effect c call ⟨c', .done reply, [], [⟨.notFull, true⟩]⟩ [] []
  /-- Events are taken off the front. Whoever takes one signals one producer, whoever may
      take several signals all. -/
  | take {c' : Channel α ε} {progress : Progress (Call ε) (Reply ε)}
      (taken rest : List ε) (all : Bool) (found : taken ≠ [])
      (front : c.queue.events = taken ++ rest)
      (queue : c'.queue = { c.queue with events := rest }) (sorter : c'.sorter = c.sorter)
      (awake : ∀ on, progress ≠ .sleep on) (single : all = false → taken.length = 1)
      (wants : call.wants = none ∨ call.wants = some .notEmpty) :
      Effect c call ⟨c', progress, [⟨.notFull, all⟩], []⟩ [] taken
  | close {c' : Channel α ε} {reply : Reply ε} (queue : c'.queue = c.queue.close)
      (sorter : c'.sorter = c.sorter) (wants : call.wants = none) :
      Effect c call ⟨c', .done reply, [], [⟨.notEmpty, true⟩, ⟨.notFull, true⟩]⟩ [] []
  | takeSlot {c' : Channel α ε} {call' : Call ε} (slots : Slots)
      (throttled : c.sorter = .throttled slots) (queue : c'.queue = c.queue)
      (sorter : c'.sorter = .throttled { slots with used := slots.used + 1 })
      (wants : call.wants = some .slotFreed) :
      Effect c call ⟨c', .next call', [], []⟩ [] []
  | giveSlot {reply : Reply ε} (wants : call.wants = none) :
      Effect c call ⟨c.releaseSlot, .done reply, [], [⟨.slotFreed, false⟩]⟩ [] []

@[simp] theorem releaseSlot_queue (c : Channel α ε) : c.releaseSlot.queue = c.queue := by
  unfold releaseSlot
  split <;> rfl

/-! ## Every step has one of these effects -/

variable {c : Channel α ε}

/-- Who wants nothing misses nothing. -/
theorem missing_of_wants {call : Call ε} (wants : call.wants = none) (n : Nat)
    (on : Condition) (h : call.wants = some on) : c.SuppliesAtMost n on → c.SuppliesAtMost 0 on :=
  absurd (wants.symm.trans h) (by simp)

/-- A queue without room for one more event has none. -/
theorem suppliesNothing_of_full (isOpen : c.queue.closed = false)
    (full : c.queue.hasRoom 1 = false) : c.SuppliesAtMost 0 .notFull := by
  unfold Queue.hasRoom at full
  split at full
  · exact absurd full (by simp)
  · rename_i most bounded
    refine ⟨isOpen, most, bounded, ?_⟩
    have := of_decide_eq_false full
    omega

theorem suppliesNothing_of_empty (isOpen : c.queue.closed = false)
    (empty : c.queue.events = []) : c.SuppliesAtMost 0 .notEmpty :=
  ⟨isOpen, by rw [empty]; exact Nat.le_refl 0⟩

/-- A call that changes nothing and wanted nothing. -/
theorem Effect.idle {c' : Channel α ε} {call : Call ε} {reply : Reply ε}
    (queue : c'.queue = c.queue) (sorter : c'.sorter = c.sorter)
    (wants : call.wants = none) : Effect c call ⟨c', .done reply, [], []⟩ [] [] :=
  .vain queue sorter (by simp) fun _ => missing_of_wants wants

/-- Events are let into a queue that has room for them. -/
theorem Effect.letIn {c' : Channel α ε} {call : Call ε} {reply : Reply ε} (events : List ε)
    (queue : c'.queue = c.queue.publish events) (sorter : c'.sorter = c.sorter)
    (wants : call.wants = none ∨ call.wants = some .notFull ∧ events.length = 1) :
    Effect c call ⟨c', .done reply, [], publishedSignals events.length⟩ events [] := by
  refine .publish events c.queue.reserved queue ?_ sorter (wants.imp id fun h => ⟨h.1, h.2, rfl⟩)
  rw [queue, Queue.occupancy_publish]
  omega

/-- Whoever takes all events there are, or some, and does not wait for any. -/
theorem effect_drain {call : Call ε} (wants : call.wants = none) {taken rest : List ε}
    (front : c.queue.events = taken ++ rest) :
    Effect c call ⟨c.withQueue { c.queue with events := rest }, .done (.events taken),
      if taken.isEmpty then [] else [⟨.notFull, true⟩], []⟩ [] taken := by
  cases taken with
  | nil =>
    refine .idle ?_ rfl wants
    rw [← List.nil_append rest, ← front]
    rfl
  | cons event others =>
    exact .take _ rest true (by simp) front rfl rfl (by simp) (by simp) (.inl wants)

theorem effect_fetchedNothing {c' : Channel α ε} (dropped : Bool)
    (answer : Except QueueError (Option (Batch ε))) {call : Call ε}
    (queue : c'.queue = c.queue) (sorter : c'.sorter = c.sorter)
    (missing : c.Greedy call → ∀ n on, call.wants = some on →
      c.SuppliesAtMost n on → c.SuppliesAtMost 0 on) :
    Effect c call (c'.fetchedNothing dropped answer) [] [] := by
  unfold fetchedNothing
  split
  · exact .vain queue sorter (by simp) missing
  · exact .vain queue sorter (by simp) missing

theorem next_of_fetchedNothing {dropped : Bool}
    {answer : Except QueueError (Option (Batch ε))} {call' : Call ε}
    (h : (c.fetchedNothing dropped answer).progress = .next call') :
    call' = .fetch (.returnSlot answer) dropped := by
  unfold fetchedNothing at h
  split at h
  · exact absurd h (by simp [finish])
  · exact (Progress.next.inj h).symm

theorem effect_takeSlot (c : Channel α ε) (dropped expired : Bool) :
    Effect c (.fetch .takeSlot dropped) (c.takeSlot dropped expired) [] [] := by
  have missing (slots : Slots) (throttled : c.sorter = .throttled slots)
      (none : slots.take? = none) : c.SuppliesAtMost 0 .slotFreed := by
    intro slots' throttled'
    obtain rfl := Sorter.throttled.inj (throttled.symm.trans throttled')
    unfold Slots.take? at none
    split at none
    · assumption
    · exact absurd none (by simp)
  unfold takeSlot
  split
  · rename_i drains
    refine .vain rfl rfl (by simp) fun _ n on wants _ => ?_
    obtain rfl := Option.some.inj wants
    intro slots throttled
    exact absurd (drains.symm.trans throttled) (by simp)
  · rename_i slots throttled
    split
    · rename_i slots' taken
      have : slots' = { slots with used := slots.used + 1 } := by
        unfold Slots.take? at taken
        split at taken
        · exact absurd taken (by simp)
        · exact (Option.some.inj taken).symm
      exact .takeSlot slots throttled rfl (by rw [this]) rfl
    · rename_i none
      cases expired with
      | true =>
        refine .vain rfl rfl (by simp) fun _ n on wants _ => ?_
        obtain rfl := Option.some.inj wants
        exact missing slots throttled none
      | false => exact .sleep .slotFreed rfl rfl rfl (missing slots throttled none)

theorem effect_takeEvents (c : Channel α ε) (dropped expired : Bool) :
    Effect c (.fetch .takeEvents dropped) (c.takeEvents dropped expired) []
      (Call.taken (.fetch .takeEvents dropped) (c.takeEvents dropped expired).progress) := by
  have nothing (answer : Except QueueError (Option (Batch ε)))
      (h : answer = .ok none ∨ ∃ error, answer = .error error) :
      Call.taken (.fetch .takeEvents dropped)
        ((c.withQueue c.queue).fetchedNothing dropped answer).progress = [] := by
    unfold fetchedNothing finish
    rcases h with rfl | ⟨error, rfl⟩
    · split <;> rfl
    · split <;> rfl
  rcases Queue.poll?_cases c.sorter.maxBatch? expired c.queue with
    ⟨taken, rest, some, front, h⟩ | ⟨h, empty, isOpen, -⟩ | ⟨h, empty, closed⟩ | ⟨h, none⟩
  · obtain ⟨event, events, rfl⟩ := List.exists_cons_of_ne_nil some
    cases dropped with
    | true =>
      simp only [takeEvents, h]
      exact .take _ rest true some front rfl rfl (by simp) (by simp) (.inr rfl)
    | false =>
      simp only [takeEvents, h]
      exact .take _ rest true some front rfl rfl (by simp) (by simp) (.inr rfl)
  · simp only [takeEvents, h]
    exact .sleep .notEmpty rfl rfl rfl (suppliesNothing_of_empty isOpen empty)
  · simp only [takeEvents, h]
    rw [nothing _ (.inr ⟨_, rfl⟩)]
    refine effect_fetchedNothing dropped _ rfl rfl fun _ n on wants supplies => ?_
    obtain rfl := Option.some.inj wants
    exact absurd (closed.symm.trans supplies.1) (by simp)
  · simp only [takeEvents, h]
    rw [nothing _ (.inl rfl)]
    refine effect_fetchedNothing dropped _ rfl rfl fun greedy n on wants supplies => ?_
    obtain rfl := Option.some.inj wants
    exact suppliesNothing_of_empty supplies.1 (none.resolve_right greedy)

section Step

variable [Quantity α]

/-- Producers through the sink and others bring different gates to the same operation. -/
theorem step_enqueue (c : Channel α ε) (guarded : Bool) (event : ε) (expired : Bool) :
    ∃ gate sink, sink.queue = (c.queue.enqueue gate event).1 ∧
      c.step (.enqueue guarded event) expired =
        { c with sink }.finish (.enqueued (c.queue.enqueue gate event).2)
          (if (c.queue.enqueue gate event).2.isOk then publishedSignals 1 else []) := by
  cases guarded with
  | true => exact ⟨c.sink.admission, _, rfl, rfl⟩
  | false => exact ⟨.all, _, rfl, rfl⟩

theorem step_enqueueMany (c : Channel α ε) (guarded : Bool) (events : List ε)
    (expired : Bool) :
    ∃ gate sink, sink.queue = (c.queue.enqueueMany gate events).1 ∧
      c.step (.enqueueMany guarded events) expired =
        { c with sink }.finish (.enqueuedMany (c.queue.enqueueMany gate events).2)
          (if (c.queue.enqueueMany gate events).2.isOk
            then publishedSignals events.length else []) := by
  cases guarded with
  | true => exact ⟨c.sink.admission, _, rfl, rfl⟩
  | false => exact ⟨.all, _, rfl, rfl⟩

theorem step_prepare (c : Channel α ε) (guarded : Bool) (events : List ε) (expired : Bool) :
    ∃ gate sink, sink.queue = (c.queue.prepare gate events).1 ∧
      c.step (.prepare guarded events) expired =
        { c with sink }.finish (.prepared (c.queue.prepare gate events).2) [] := by
  cases guarded with
  | true => exact ⟨c.sink.admission, _, rfl, rfl⟩
  | false => exact ⟨.all, _, rfl, rfl⟩

theorem effect_enqueue (c : Channel α ε) (guarded : Bool) (event : ε) (expired : Bool) :
    Effect c (.enqueue guarded event) (c.step (.enqueue guarded event) expired)
      (Call.published (.enqueue guarded event)
        (c.step (.enqueue guarded event) expired).progress) [] := by
  obtain ⟨gate, sink, queue, step⟩ := step_enqueue c guarded event expired
  rw [step]
  rcases Queue.enqueue_cases gate event c.queue with ⟨h, -⟩ | ⟨cause, h⟩
  · rw [h] at queue ⊢
    exact .letIn [event] queue rfl (.inl rfl)
  · rw [h] at queue ⊢
    exact .idle queue rfl rfl

theorem effect_enqueueMany (c : Channel α ε) (guarded : Bool) (events : List ε)
    (expired : Bool) :
    Effect c (.enqueueMany guarded events) (c.step (.enqueueMany guarded events) expired)
      (Call.published (.enqueueMany guarded events)
        (c.step (.enqueueMany guarded events) expired).progress) [] := by
  obtain ⟨gate, sink, queue, step⟩ := step_enqueueMany c guarded events expired
  rw [step]
  rcases Queue.enqueueMany_cases gate events c.queue with ⟨h, -⟩ | ⟨cause, h⟩
  · rw [h] at queue ⊢
    exact .letIn _ queue rfl (.inl rfl)
  · rw [h] at queue ⊢
    exact .idle queue rfl rfl

theorem effect_prepare (c : Channel α ε) (guarded : Bool) (events : List ε)
    (expired : Bool) :
    Effect c (.prepare guarded events) (c.step (.prepare guarded events) expired) [] [] := by
  obtain ⟨gate, sink, queue, step⟩ := step_prepare c guarded events expired
  rw [step]
  rcases Queue.prepare_cases gate events c.queue with ⟨h, -⟩ | ⟨cause, h⟩
  · rw [h] at queue ⊢
    exact .reserve events.length queue rfl rfl
  · rw [h] at queue ⊢
    exact .idle queue rfl rfl

theorem effect_commit (c : Channel α ε) (t : Transaction ε) (expired : Bool) :
    Effect c (.commit t) (c.step (.commit t) expired)
      (Call.published (.commit t) (c.step (.commit t) expired).progress) [] := by
  cases closed : c.queue.closed with
  | true =>
    simp only [step, Queue.commit_of_closed closed]
    exact .free t.events.length rfl rfl rfl
  | false =>
    simp only [step, Queue.commit_of_open closed]
    refine .publish t.events (c.queue.reserved - t.events.length) rfl ?_ rfl (.inl rfl)
    show c.queue.occupancy ≤ ((c.queue.release t).publish t.events).occupancy
    rw [Queue.occupancy_publish]
    simp only [Queue.occupancy, Queue.release]
    omega

theorem effect_offer (c : Channel α ε) (event : ε) (expired : Bool) :
    Effect c (.offer event) (c.step (.offer event) expired)
      (Call.published (.offer event) (c.step (.offer event) expired).progress) [] := by
  rcases Queue.offer?_cases event expired c.queue with
    ⟨h, -⟩ | ⟨h, isOpen, full, -⟩ | ⟨cause, h, refused⟩
  · simp only [step, h]
    exact .letIn [event] rfl rfl (.inr ⟨rfl, rfl⟩)
  · simp only [step, h]
    exact .sleep .notFull rfl rfl rfl (suppliesNothing_of_full isOpen full)
  · simp only [step, h]
    refine .vain rfl rfl (by simp) fun _ n on wants supplies => ?_
    obtain rfl := Option.some.inj wants
    rcases refused with closed | full
    · exact absurd (closed.symm.trans supplies.1) (by simp)
    · exact suppliesNothing_of_full supplies.1 full

theorem effect_dequeue (c : Channel α ε) (expired : Bool) :
    Effect c .dequeue (c.step .dequeue expired) []
      (Call.taken .dequeue (c.step .dequeue expired).progress) := by
  rcases Queue.dequeue_cases c.queue with ⟨h, -⟩ | ⟨event, rest, front, h⟩
  · simp only [step, h]
    exact .idle rfl rfl rfl
  · simp only [step, h]
    exact .take [event] rest false (by simp) front rfl rfl (by simp) (fun _ => rfl) (.inl rfl)

theorem effect_poll (c : Channel α ε) (most : Option Nat) (expired : Bool) :
    Effect c (.poll most) (c.step (.poll most) expired) []
      (Call.taken (.poll most) (c.step (.poll most) expired).progress) := by
  rcases Queue.poll?_cases most expired c.queue with
    ⟨taken, rest, some, front, h⟩ | ⟨h, empty, isOpen, -⟩ | ⟨h, empty, closed⟩ | ⟨h, none⟩
  · obtain ⟨event, events, rfl⟩ := List.exists_cons_of_ne_nil some
    simp only [step, h]
    exact .take _ rest true some front rfl rfl (by simp) (by simp) (.inr rfl)
  · simp only [step, h]
    exact .sleep .notEmpty rfl rfl rfl (suppliesNothing_of_empty isOpen empty)
  · simp only [step, h]
    refine .vain rfl rfl (by simp) fun _ n on wants supplies => ?_
    obtain rfl := Option.some.inj wants
    exact absurd (closed.symm.trans supplies.1) (by simp)
  · simp only [step, h]
    refine .vain rfl rfl (by simp) fun greedy n on wants supplies => ?_
    obtain rfl := Option.some.inj wants
    exact suppliesNothing_of_empty supplies.1 (none.resolve_right greedy)

theorem effect_close (c : Channel α ε) (expired : Bool) :
    Effect c .close (c.step .close expired) [] [] := by
  cases closed : c.queue.closed with
  | true =>
    simp only [step, closed, if_true]
    refine .idle ?_ rfl rfl
    show c.queue.close = c.queue
    rw [Queue.close, ← closed]
  | false =>
    simp only [step, closed, Bool.false_eq_true, if_false]
    exact .close rfl rfl rfl

/-- **The effect of a step.** -/
theorem step_effect (c : Channel α ε) (call : Call ε) (expired : Bool) :
    Effect c call (c.step call expired) (call.published (c.step call expired).progress)
      (call.taken (c.step call expired).progress) := by
  cases call with
  | enqueue guarded event => exact effect_enqueue c guarded event expired
  | enqueueMany guarded events => exact effect_enqueueMany c guarded events expired
  | prepare guarded events => exact effect_prepare c guarded events expired
  | commit t => exact effect_commit c t expired
  | release t => exact .free t.events.length rfl rfl rfl
  | offer event => exact effect_offer c event expired
  | dequeue => exact effect_dequeue c expired
  | dequeueAll => exact effect_drain rfl (List.append_nil _).symm
  | dequeueUpTo most => exact effect_drain rfl (List.take_append_drop most _).symm
  | poll most => exact effect_poll c most expired
  | fetch state dropped =>
    cases state with
    | takeSlot => exact effect_takeSlot c dropped expired
    | takeEvents => exact effect_takeEvents c dropped expired
    | returnSlot answer => exact .giveSlot rfl
  | complete completion reply =>
    cases completion with
    | freesSlot => exact .giveSlot rfl
    | nothing => exact .idle rfl rfl rfl
    | counts => exact .idle rfl rfl rfl
  | close => exact effect_close c expired

/-- Only a fetch takes more than one step. -/
theorem next_of_step {call call' : Call ε} {expired : Bool}
    (h : (c.step call expired).progress = .next call') :
    ∃ state dropped, call = .fetch state dropped ∧
      ((∃ state', call' = .fetch state' dropped) ∨
        ∃ completion reply, call' = .complete completion reply) := by
  cases call with
  | enqueue guarded event =>
    obtain ⟨gate, sink, -, step⟩ := step_enqueue c guarded event expired
    exact absurd (step ▸ h) (by simp [finish])
  | enqueueMany guarded events =>
    obtain ⟨gate, sink, -, step⟩ := step_enqueueMany c guarded events expired
    exact absurd (step ▸ h) (by simp [finish])
  | prepare guarded events =>
    obtain ⟨gate, sink, -, step⟩ := step_prepare c guarded events expired
    exact absurd (step ▸ h) (by simp [finish])
  | commit | release | dequeue | dequeueAll | dequeueUpTo | complete | close =>
    exact absurd h (by simp [step, finish])
  | offer event =>
    simp only [step] at h
    split at h
    · exact absurd h (by simp)
    · exact absurd h (by simp [finish])
  | poll most =>
    simp only [step] at h
    split at h
    · exact absurd h (by simp)
    · exact absurd h (by simp)
    · exact absurd h (by simp [finish])
  | fetch state dropped =>
    cases state with
    | takeSlot =>
      simp only [step, fetchStep, takeSlot] at h
      split at h
      · exact ⟨_, _, rfl, .inl ⟨_, (Progress.next.inj h).symm⟩⟩
      · split at h
        · exact ⟨_, _, rfl, .inl ⟨_, (Progress.next.inj h).symm⟩⟩
        · split at h
          · exact absurd h (by simp [finish])
          · exact absurd h (by simp)
    | takeEvents =>
      simp only [step, fetchStep, takeEvents] at h
      split at h
      · exact absurd h (by simp)
      · exact ⟨_, _, rfl, .inl ⟨_, next_of_fetchedNothing h⟩⟩
      · exact ⟨_, _, rfl, .inl ⟨_, next_of_fetchedNothing h⟩⟩
      · split at h
        · exact ⟨_, _, rfl, .inr ⟨_, _, (Progress.next.inj h).symm⟩⟩
        · exact absurd h (by simp)
    | returnSlot answer => exact absurd h (by simp [step, fetchStep, finish])

end Step

/-! ## What every effect keeps -/

variable {call : Call ε} {o : Outcome α ε} {published taken : List ε}

/-- What is taken was in front, and what is published comes behind. -/
theorem Effect.contents (h : Effect c call o published taken) :
    taken ++ o.channel.queue.events = c.queue.events ++ published := by
  cases h with
  | vain queue | sleep _ queue | takeSlot _ _ queue | reserve _ queue | free _ queue =>
    rw [List.nil_append, List.append_nil, queue]
  | close queue =>
    rw [List.nil_append, List.append_nil, queue]
    rfl
  | publish events reserved queue =>
    rw [List.nil_append, queue]
    rfl
  | take _ rest _ _ front queue => rw [List.append_nil, queue, front]
  | giveSlot => rw [List.nil_append, List.append_nil, releaseSlot_queue]

/-- The bound on the events of a batch is always the same. -/
theorem Effect.maxBatch? (h : Effect c call o published taken) :
    o.channel.sorter.maxBatch? = c.sorter.maxBatch? := by
  cases h with
  | vain _ sorter | sleep _ _ sorter | publish _ _ _ _ sorter | reserve _ _ sorter
  | free _ _ sorter | take _ _ _ _ _ _ sorter | close _ sorter => rw [sorter]
  | takeSlot slots throttled _ sorter =>
    rw [sorter, throttled]
    rfl
  | giveSlot =>
    unfold releaseSlot
    split
    · rfl
    · rename_i slots throttled
      rw [throttled]
      rfl

/-- A call goes to sleep only on what it wants, and only if there is none of it. -/
theorem Effect.sleeps (h : Effect c call o published taken) {on : Condition}
    (asleep : o.progress = .sleep on) :
    call.wants = some on ∧ o.channel.SuppliesAtMost 0 on := by
  cases h with
  | vain _ _ awake | take _ _ _ _ _ _ _ awake => exact absurd asleep (awake on)
  | sleep on' queue sorter wants missing =>
    obtain rfl := Progress.sleep.inj asleep
    exact ⟨wants, missing.congr queue sorter (Nat.le_refl 0)⟩
  | publish | reserve | free | close | takeSlot | giveSlot => exact absurd asleep (by simp)

/-- Only a call that ends gives signals after its critical section. -/
theorem Effect.late_eq_nil (h : Effect c call o published taken)
    (unfinished : ∀ reply, o.progress ≠ .done reply) : o.late = [] := by
  cases h with
  | vain | sleep | take | reserve | takeSlot => rfl
  | publish | free | close | giveSlot => exact absurd rfl (unfinished _)

theorem hands_of_wants {on on' : Condition} (wants : call.wants = some on) :
    call.hands on' = if on = on' then 1 else 0 := by
  simp only [Call.hands, wants, Option.some.injEq]

theorem hands_of_wants_none (wants : call.wants = none) (on : Condition) :
    call.hands on = 0 := by
  rw [Call.hands, wants, if_neg (by simp)]

theorem Effect.supplies_publish {c' : Channel α ε} {n : Nat} {on : Condition}
    {events : List ε} {reserved : Nat}
    (queue : c'.queue = { c.queue.publish events with reserved := reserved })
    (room : c.queue.occupancy ≤ c'.queue.occupancy) (sorter : c'.sorter = c.sorter)
    (wants : call.wants = none ∨ call.wants = some .notFull ∧ events.length = 1 ∧
      reserved = c.queue.reserved)
    (supplies : c.SuppliesAtMost (n + call.hands on) on) :
    ⟨on, true⟩ ∈ publishedSignals events.length ∨
      c'.SuppliesAtMost (n + (publishedSignals events.length).count ⟨on, false⟩) on := by
  have closed : c'.queue.closed = c.queue.closed := by rw [queue]; rfl
  have capacity : c'.queue.capacity = c.queue.capacity := by rw [queue]; rfl
  have length : c'.queue.events.length = c.queue.events.length + events.length := by
    rw [queue]
    exact List.length_append
  -- one event calls for one consumer, and several for all of them
  by_cases many : 1 < events.length ∧ on = .notEmpty
  · obtain ⟨many, rfl⟩ := many
    refine .inl ?_
    rw [publishedSignals, if_neg (by omega), decide_eq_true many]
    exact List.mem_singleton_self _
  · refine .inr (supplies.transfer closed capacity sorter ?_ ?_ ?_)
    · rintro rfl
      have hands : call.hands .notEmpty = 0 := by
        rcases wants with wants | ⟨wants, -⟩
        · exact hands_of_wants_none wants _
        · exact hands_of_wants wants
      have few : ¬ 1 < events.length := fun this => many ⟨this, rfl⟩
      have signals : (publishedSignals events.length).count ⟨.notEmpty, false⟩ =
          events.length := by
        unfold publishedSignals
        split
        · rename_i none
          exact none.symm
        · rw [decide_eq_false few, List.count_singleton_self]
          omega
      omega
    · rintro rfl
      rcases wants with wants | ⟨wants, one, same⟩
      · rw [hands_of_wants_none wants]
        omega
      · have more : c'.queue.occupancy = c.queue.occupancy + 1 := by
          rw [queue, same, ← one]
          exact Queue.occupancy_publish _ _
        rw [hands_of_wants wants, if_pos rfl]
        omega
    · rintro rfl
      rcases wants with wants | ⟨wants, -⟩
      · rw [hands_of_wants_none wants]
        omega
      · rw [hands_of_wants wants, if_neg (by simp)]
        omega

theorem Effect.supplies_take {c' : Channel α ε} {n : Nat} {on : Condition} {rest : List ε}
    {all : Bool} (found : taken ≠ []) (front : c.queue.events = taken ++ rest)
    (queue : c'.queue = { c.queue with events := rest }) (sorter : c'.sorter = c.sorter)
    (single : all = false → taken.length = 1)
    (wants : call.wants = none ∨ call.wants = some .notEmpty)
    (supplies : c.SuppliesAtMost (n + call.hands on) on) :
    (⟨on, true⟩ : Signal) ∈ [(⟨.notFull, all⟩ : Signal)] ∨
      c'.SuppliesAtMost (n + [(⟨.notFull, all⟩ : Signal)].count ⟨on, false⟩) on := by
  have closed : c'.queue.closed = c.queue.closed := by rw [queue]
  have capacity : c'.queue.capacity = c.queue.capacity := by rw [queue]
  have rest : c'.queue.events = rest := by rw [queue]
  have length : c.queue.events.length = taken.length + c'.queue.events.length := by
    rw [front, rest]
    exact List.length_append
  have some := List.length_pos_iff.2 found
  have hands (on' : Condition) : call.hands on' ≤ if .notEmpty = on' then 1 else 0 := by
    rcases wants with wants | wants
    · rw [hands_of_wants_none wants]
      exact Nat.zero_le _
    · exact Nat.le_of_eq (hands_of_wants wants)
  have looking := hands on
  by_cases every : all = true ∧ on = .notFull
  · obtain ⟨rfl, rfl⟩ := every
    exact .inl (List.mem_singleton_self _)
  · refine .inr (supplies.transfer closed capacity sorter ?_ ?_ ?_)
    · rintro rfl
      rw [if_pos rfl] at looking
      omega
    · rintro rfl
      obtain rfl : all = false := Bool.eq_false_iff.2 fun this => every ⟨this, rfl⟩
      have one := single rfl
      have occupancy : c'.queue.occupancy = c'.queue.events.length + c.queue.reserved := by
        rw [Queue.occupancy, queue]
      rw [if_neg (by simp)] at looking
      rw [List.count_singleton_self, occupancy, Queue.occupancy]
      omega
    · rintro rfl
      rw [if_neg (by simp)] at looking
      omega

/-- **Whoever uses up a promise finds that it was true, and whoever makes it true again
    gives a signal.** If a call that wants `on` and `n` others would use up what there is,
    the `n` others and those who are signalled use up what there is after its step. -/
theorem Effect.supplies (h : Effect c call o published taken) (greedy : c.Greedy call)
    {n : Nat} {on : Condition} (supplies : c.SuppliesAtMost (n + call.hands on) on) :
    ⟨on, true⟩ ∈ o.prompt ++ o.late ∨
      o.channel.SuppliesAtMost (n + (o.prompt ++ o.late).count ⟨on, false⟩) on := by
  have idle (wants : call.wants = none) : c.SuppliesAtMost n on := by
    rwa [hands_of_wants_none wants] at supplies
  cases h with
  | vain queue sorter _ missing =>
    by_cases wants : call.wants = some on
    · have nothing := missing greedy _ _ wants supplies
      exact .inr (nothing.congr queue sorter (Nat.zero_le _))
    · rw [Call.hands, if_neg wants] at supplies
      exact .inr (supplies.congr queue sorter (Nat.le_refl _))
  | sleep on' queue sorter wants missing =>
    by_cases same : on' = on
    · subst same
      exact .inr (missing.congr queue sorter (Nat.zero_le _))
    · rw [hands_of_wants wants, if_neg same] at supplies
      exact .inr (supplies.congr queue sorter (Nat.le_refl _))
  | publish events reserved queue room sorter wants =>
    exact supplies_publish queue room sorter wants supplies
  | reserve count queue sorter wants =>
    refine .inr ((idle wants).transfer (by rw [queue]) (by rw [queue]) sorter ?_ ?_ ?_)
    · intro _
      rw [queue]
      exact Nat.le_refl _
    · intro _
      rw [queue]
      show c.queue.events.length + c.queue.reserved + n ≤
        c.queue.events.length + (c.queue.reserved + count) + n
      omega
    · intro _
      exact Nat.le_refl _
  | free count queue sorter wants =>
    by_cases room : on = .notFull
    · subst room
      exact .inl (by simp)
    · refine .inr ((idle wants).transfer (by rw [queue]) (by rw [queue]) sorter ?_ ?_ ?_)
      · intro _
        rw [queue]
        exact Nat.add_le_add_left (Nat.le_add_right _ _) _
      · intro this
        exact absurd this room
      · intro _
        exact Nat.le_add_right _ _
  | take taken rest all found front queue sorter _ single wants =>
    exact supplies_take found front queue sorter single wants supplies
  | close queue sorter wants =>
    have supplies := idle wants
    cases on with
    | notEmpty => exact .inl (by simp)
    | notFull => exact .inl (by simp)
    | slotFreed => exact .inr fun slots throttled => supplies slots (sorter ▸ throttled)
  | takeSlot slots throttled queue sorter wants =>
    rw [hands_of_wants wants] at supplies
    refine .inr ?_
    cases on with
    | notEmpty | notFull =>
      unfold SuppliesAtMost at supplies ⊢
      rwa [queue]
    | slotFreed =>
      intro slots' throttled'
      obtain rfl := Sorter.throttled.inj (sorter.symm.trans throttled')
      obtain ⟨limited, few⟩ := supplies slots throttled
      rw [if_pos rfl] at few
      exact ⟨limited, show slots.limit ≤ slots.used + 1 + n by omega⟩
  | giveSlot wants =>
    have supplies := idle wants
    refine .inr ?_
    cases on with
    | notEmpty | notFull =>
      unfold SuppliesAtMost at supplies ⊢
      rwa [releaseSlot_queue]
    | slotFreed =>
      intro slots throttled
      unfold releaseSlot at throttled
      split at throttled
      · rename_i drains
        exact absurd (drains.symm.trans throttled) (by simp)
      · rename_i slots' throttled'
        obtain rfl := Sorter.throttled.inj throttled
        obtain ⟨limited, few⟩ := supplies slots' throttled'
        refine ⟨limited, ?_⟩
        show slots'.limit ≤ slots'.used - 1 +
          (n + [(⟨.slotFreed, false⟩ : Signal)].count ⟨.slotFreed, false⟩)
        rw [List.count_singleton_self]
        omega

end Channel

end StagedEvents
