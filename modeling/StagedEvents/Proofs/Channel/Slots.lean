import StagedEvents.Proofs.Channel.Effect

/-!
# Slots

A fetch of a throttled sorter holds a slot after its first step. If it gets no events, its
last step gives the slot back; otherwise the slot is the batch's, who holds it until someone
is done with the batch.

* `Call.held`, `Reply.held`: the slots that a call and its answer hold.
* `Channel.slots_step`: a step changes the slots in use by what its call holds more or less.
-/

namespace StagedEvents

variable {α ε : Type}

/-- The slots that a call holds when it is about to take its next step. -/
def Call.held : Call ε → Nat
  | .fetch .takeEvents _ => 1
  | .fetch (.returnSlot _) _ => 1
  | _ => 0

/-- The slots that the batch in a reply holds. -/
def Reply.held : Reply ε → Nat
  | .fetched (.ok (some _)) => 1
  | _ => 0

/-- The slots that are held after a step of a call. -/
def Progress.held (call : Call ε) : Progress (Call ε) (Reply ε) → Nat
  | .done reply => reply.held
  | .next call => call.held
  | .sleep _ => call.held

/-- A call that leaves it to others to be done with a batch, and gives a slot back only if it
    got none. -/
def Call.Accountable : Call ε → Prop
  | .fetch state dropped => dropped = false ∧ ∀ batch, state ≠ .returnSlot (.ok (some batch))
  | .complete _ _ => False
  | _ => True

/-- A reply whose batch, if there is one, frees its slot in the end. -/
def Reply.Accountable : Reply ε → Prop
  | .fetched (.ok (some batch)) => batch.completion = .freesSlot
  | _ => True

/-- A step of a call leads on in such a call, or to such a reply. -/
def Progress.Accountable (call : Call ε) : Progress (Call ε) (Reply ε) → Prop
  | .done reply => reply.Accountable
  | .next call => call.Accountable
  | .sleep _ => call.Accountable

/-- A step of a call after which `used` slots are in use. -/
structure Outcome.Accounts (o : Outcome α ε) (call : Call ε) (slots : Slots) (used : Nat) :
    Prop where
  sorter : o.channel.sorter = .throttled { slots with used := used }
  balance : used + call.held = slots.used + o.progress.held call
  within : slots.limit ≠ 0 → slots.used ≤ slots.limit → used ≤ slots.limit
  progress : o.progress.Accountable call

/-- A step that has nothing to do with slots. -/
theorem Outcome.Accounts.still {o : Outcome α ε} {call : Call ε} {slots : Slots}
    (throttled : o.channel.sorter = .throttled slots)
    (balance : o.progress.held call = call.held) (progress : o.progress.Accountable call) :
    o.Accounts call slots slots.used :=
  ⟨throttled, by rw [balance], fun _ within => within, progress⟩

namespace Channel

variable {c : Channel α ε} {slots : Slots} {call : Call ε}

theorem accounts_takeSlot (throttled : c.sorter = .throttled slots) (expired : Bool) :
    ∃ used, (c.takeSlot false expired).Accounts (.fetch .takeSlot false) slots used := by
  unfold takeSlot
  rw [throttled]
  dsimp only
  cases taken : slots.take? with
  | some slots' =>
    unfold Slots.take? at taken
    split at taken
    · exact absurd taken (by simp)
    · rename_i free
      obtain rfl := Option.some.inj taken
      exact ⟨slots.used + 1, rfl, rfl, fun limited _ => by omega, rfl, by simp⟩
  | none =>
    cases expired with
    | true => exact ⟨_, Outcome.Accounts.still throttled rfl True.intro⟩
    | false => exact ⟨_, Outcome.Accounts.still throttled rfl ⟨rfl, by simp⟩⟩

/-- Whoever finds no events goes on with the slot, to give it back. -/
theorem accounts_fetchedNothing (throttled : c.sorter = .throttled slots)
    {answer : Except QueueError (Option (Batch ε))} (nothing : ∀ batch, answer ≠ .ok (some batch)) :
    (c.fetchedNothing false answer).Accounts (.fetch .takeEvents false) slots slots.used := by
  unfold fetchedNothing
  rw [throttled]
  refine Outcome.Accounts.still throttled rfl ⟨rfl, fun batch same => ?_⟩
  exact nothing batch (Fetch.returnSlot.inj same)

theorem batchCompletion_of_throttled (throttled : c.sorter = .throttled slots) :
    c.batchCompletion = .freesSlot := by
  unfold batchCompletion
  rw [throttled]

theorem accounts_takeEvents (throttled : c.sorter = .throttled slots) (expired : Bool) :
    (c.takeEvents false expired).Accounts (.fetch .takeEvents false) slots slots.used := by
  rcases Queue.poll?_cases c.sorter.maxBatch? expired c.queue with
    ⟨taken, rest, some, front, h⟩ | ⟨h, -⟩ | ⟨h, -⟩ | ⟨h, -⟩
  · obtain ⟨event, events, rfl⟩ := List.exists_cons_of_ne_nil some
    simp only [takeEvents, h]
    exact Outcome.Accounts.still throttled rfl (batchCompletion_of_throttled throttled)
  · simp only [takeEvents, h]
    exact Outcome.Accounts.still throttled rfl ⟨rfl, by simp⟩
  · simp only [takeEvents, h]
    exact accounts_fetchedNothing throttled (by simp)
  · simp only [takeEvents, h]
    exact accounts_fetchedNothing throttled (by simp)

theorem accounts_returnSlot (throttled : c.sorter = .throttled slots)
    {answer : Except QueueError (Option (Batch ε))} (nothing : ∀ batch, answer ≠ .ok (some batch))
    (holds : 1 ≤ slots.used) (expired : Bool) :
    (c.fetchStep (.returnSlot answer) false expired).Accounts
      (.fetch (.returnSlot answer) false) slots (slots.used - 1) := by
  have held : (Reply.fetched answer).held = 0 ∧ (Reply.fetched answer).Accountable := by
    rcases answer with error | none | batch
    · exact ⟨rfl, True.intro⟩
    · exact ⟨rfl, True.intro⟩
    · exact absurd rfl (nothing batch)
  refine ⟨?_, ?_, fun _ within => by omega, held.2⟩
  · show c.releaseSlot.sorter = _
    unfold releaseSlot
    rw [throttled]
    rfl
  · show slots.used - 1 + 1 = slots.used + (Reply.fetched answer).held
    rw [held.1]
    omega

variable [Quantity α]

/-- **What a step does to the slots in use.** -/
theorem slots_step (throttled : c.sorter = .throttled slots) (accountable : call.Accountable)
    (holds : call.held ≤ slots.used) (expired : Bool) :
    ∃ used, (c.step call expired).Accounts call slots used := by
  cases call with
  | enqueue guarded event =>
    obtain ⟨gate, sink, -, step⟩ := step_enqueue c guarded event expired
    rw [step]
    exact ⟨_, Outcome.Accounts.still throttled rfl True.intro⟩
  | enqueueMany guarded events =>
    obtain ⟨gate, sink, -, step⟩ := step_enqueueMany c guarded events expired
    rw [step]
    exact ⟨_, Outcome.Accounts.still throttled rfl True.intro⟩
  | prepare guarded events =>
    obtain ⟨gate, sink, -, step⟩ := step_prepare c guarded events expired
    rw [step]
    exact ⟨_, Outcome.Accounts.still throttled rfl True.intro⟩
  | commit | release | dequeue | dequeueAll | dequeueUpTo | close =>
    exact ⟨_, Outcome.Accounts.still throttled rfl True.intro⟩
  | offer | poll =>
    simp only [step]
    split <;> exact ⟨_, Outcome.Accounts.still throttled rfl True.intro⟩
  | fetch state dropped =>
    obtain ⟨rfl, nothing⟩ := accountable
    cases state with
    | takeSlot => exact accounts_takeSlot throttled expired
    | takeEvents => exact ⟨_, accounts_takeEvents throttled expired⟩
    | returnSlot answer =>
      refine ⟨_, accounts_returnSlot throttled (fun batch same => ?_) holds expired⟩
      exact nothing batch (congrArg Fetch.returnSlot same)
  | complete => exact accountable.elim

end Channel

end StagedEvents
