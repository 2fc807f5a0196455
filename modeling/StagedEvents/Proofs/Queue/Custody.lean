import Mathlib.Algebra.Order.Group.Multiset
import Mathlib.Tactic.Abel
import StagedEvents.Proofs.Queue.Operations

/-!
# Custody of events

A queue together with everyone who has one of its events, and with the history of all
events. Each `Move` is one critical section of one client, so the runs of a `Custody`
are all interleavings of the clients' calls: of producers, who each bring a gate of
their own, of the holders of transactions, of producers who wait for room, and of
consumers.

Main definitions:

* `Handle`: a transaction in the hands of its holder, who may give it up, publish it or
  let go of it. Letting go comes at the end of each of these and gives the room free
  unless the transaction is settled.
* `Custody.step`, `Custody.run`: one move, and a run of moves.
* `Custody.held`: the events of the open transactions.
-/

namespace StagedEvents

/-- A transaction as its holder has it. -/
structure Handle (ε : Type) where
  /-- The events it covers, until they are published or handed back. -/
  events : List ε
  /-- Whether its room is no longer reserved. -/
  settled : Bool
deriving DecidableEq, Repr

namespace Handle

variable {ε : Type}

/-- Gives the room free, unless the transaction is settled. -/
def release (h : Handle ε) (q : Queue ε) : Handle ε × Queue ε :=
  if h.settled then (h, q) else ({ h with settled := true }, q.release ⟨h.events⟩)

/-- Lets go of a transaction: its room becomes free, and its events are lost. -/
def drop (h : Handle ε) (q : Queue ε) : Handle ε × Queue ε × List ε :=
  let (h, q) := h.release q
  ({ h with events := [] }, q, h.events)

/-- Gives a transaction up, hands its events back and lets go of it. -/
def abort (h : Handle ε) (q : Queue ε) : Handle ε × Queue ε × List ε :=
  let (h, q) := h.release q
  let (empty, q, _) := { h with events := [] }.drop q
  (empty, q, h.events)

/-- Publishes the events of a transaction and lets go of it. -/
def commit (h : Handle ε) (q : Queue ε) : Handle ε × Queue ε × Enqueued (List ε) :=
  let (q, answer) := q.commit ⟨h.events⟩
  let (empty, q, _) := { events := [], settled := true : Handle ε }.drop q
  (empty, q, answer)

/-- The events that an open transaction covers. -/
def held (h : Handle ε) : List ε := if h.settled then [] else h.events

theorem drop_of_settled {h : Handle ε} (hs : h.settled = true) (q : Queue ε) :
    h.drop q = ({ h with events := [] }, q, h.events) := by
  simp [drop, release, hs]

theorem drop_of_open {h : Handle ε} (hs : h.settled = false) (q : Queue ε) :
    h.drop q = (⟨[], true⟩, q.release ⟨h.events⟩, h.events) := by
  simp [drop, release, hs]

theorem abort_of_settled {h : Handle ε} (hs : h.settled = true) (q : Queue ε) :
    h.abort q = ({ h with events := [] }, q, h.events) := by
  simp [abort, drop, release, hs]

/-- The room is given free once, although the handle is let go of after it was given up. -/
theorem abort_of_open {h : Handle ε} (hs : h.settled = false) (q : Queue ε) :
    h.abort q = (⟨[], true⟩, q.release ⟨h.events⟩, h.events) := by
  simp [abort, drop, release, hs]

theorem commit_eq (h : Handle ε) (q : Queue ε) :
    h.commit q = (⟨[], true⟩, q.commit ⟨h.events⟩) := by
  simp [commit, drop, release]

@[simp] theorem held_settled (events : List ε) : (⟨events, true⟩ : Handle ε).held = [] := rfl

@[simp] theorem held_open (events : List ε) : (⟨events, false⟩ : Handle ε).held = events := rfl

theorem held_eq_nil {h : Handle ε} (hs : h.settled = true) : h.held = [] := by
  simp [held, hs]

theorem held_eq_events {h : Handle ε} (hs : h.settled = false) : h.held = h.events := by
  simp [held, hs]

end Handle

/-- A queue, those who have events of it, and what became of all other events. -/
structure Custody (ε : Type) where
  queue : Queue ε
  /-- All transactions there have been, in the order of their preparation. -/
  handles : List (Handle ε)
  /-- Events of the producers who wait for room. -/
  waiting : List ε
  /-- Events passed in by a call, in the order of the calls. -/
  offered : List ε
  /-- Events published, in this order. -/
  published : List ε
  /-- Events taken off the queue, in this order. -/
  removed : List ε
  /-- Events handed back by a failed call or by one that gave a transaction up. -/
  returned : List ε
  /-- Events lost by a producer who does not care, or with a transaction let go of. -/
  dropped : List ε

namespace Custody

/-- One critical section of a client. Transactions and waiting producers are known by
    their places. -/
inductive Move (ε : Type) where
  /-- An enqueue; a `lossy` one does not get a refused event back. -/
  | enqueue (gate : Admission) (event : ε) (lossy : Bool)
  | enqueueMany (gate : Admission) (events : List ε)
  | prepare (gate : Admission) (events : List ε)
  | commit (place : Nat)
  | abort (place : Nat)
  | drop (place : Nat)
  /-- A producer who is ready to wait for room comes with an event. -/
  | arrive (event : ε)
  /-- A waiting producer tries; one whose time has `expired` tries for the last time. -/
  | offer (place : Nat) (expired : Bool)
  | dequeue
  | dequeueAll
  | dequeueUpTo (most : Nat)
  | poll (most : Option Nat) (expired : Bool)
  | close

variable {ε : Type}

/-- A queue that no one has used yet. -/
def start (capacity : Option Nat) : Custody ε :=
  { queue := .withCapacity capacity, handles := [], waiting := [], offered := [],
    published := [], removed := [], returned := [], dropped := [] }

/-- The events of open transactions. -/
def held (c : Custody ε) : List ε := c.handles.flatMap Handle.held

/-- The custody after an enqueue of `events` with this outcome. -/
def conclude (c : Custody ε) (queue : Queue ε) (events : List ε) :
    Enqueued (List ε) → Custody ε
  | .ok () => { c with queue, published := c.published ++ events }
  | .error refused => { c with queue, returned := c.returned ++ refused.back }

/-- The custody with the transaction at a place in another state. -/
def setHandle (c : Custody ε) (place : Nat) (handle : Handle ε) : Custody ε :=
  { c with handles := c.handles.set place handle }

/-- One move of one client. -/
def step (c : Custody ε) : Move ε → Custody ε
  | .enqueue gate event lossy =>
    let c := { c with offered := c.offered ++ [event] }
    match c.queue.enqueue gate event with
    | (queue, .ok ()) => { c with queue, published := c.published ++ [event] }
    | (queue, .error refused) =>
      if lossy then { c with queue, dropped := c.dropped ++ [refused.back] }
      else { c with queue, returned := c.returned ++ [refused.back] }
  | .enqueueMany gate events =>
    let (queue, answer) := c.queue.enqueueMany gate events
    { c with offered := c.offered ++ events }.conclude queue events answer
  | .prepare gate events =>
    let c := { c with offered := c.offered ++ events }
    match c.queue.prepare gate events with
    | (queue, .ok t) => { c with queue, handles := c.handles ++ [⟨t.events, false⟩] }
    | (queue, .error refused) => { c with queue, returned := c.returned ++ refused.back }
  | .commit place =>
    match c.handles[place]? with
    | none => c
    | some h =>
      -- a settled transaction has been used up, there is nothing to commit
      if h.settled then c
      else
        let (handle, queue, answer) := h.commit c.queue
        (c.setHandle place handle).conclude queue h.events answer
  | .abort place =>
    match c.handles[place]? with
    | none => c
    | some h =>
      let (handle, queue, events) := h.abort c.queue
      { c.setHandle place handle with queue, returned := c.returned ++ events }
  | .drop place =>
    match c.handles[place]? with
    | none => c
    | some h =>
      let (handle, queue, events) := h.drop c.queue
      { c.setHandle place handle with queue, dropped := c.dropped ++ events }
  | .arrive event =>
    { c with offered := c.offered ++ [event], waiting := c.waiting ++ [event] }
  | .offer place expired =>
    match c.waiting[place]? with
    | none => c
    | some event =>
      match c.queue.offer? event expired with
      | (queue, none) => { c with queue }
      | (queue, some (.ok ())) =>
        { c with queue, waiting := c.waiting.eraseIdx place,
                 published := c.published ++ [event] }
      | (queue, some (.error refused)) =>
        { c with queue, waiting := c.waiting.eraseIdx place,
                 returned := c.returned ++ [refused.back] }
  | .dequeue =>
    let (queue, event?) := c.queue.dequeue
    { c with queue, removed := c.removed ++ event?.toList }
  | .dequeueAll =>
    let (queue, events) := c.queue.dequeueAll
    { c with queue, removed := c.removed ++ events }
  | .dequeueUpTo most =>
    let (queue, events) := c.queue.dequeueUpTo most
    { c with queue, removed := c.removed ++ events }
  | .poll most expired =>
    match c.queue.poll? most expired with
    | (queue, some (.ok events)) => { c with queue, removed := c.removed ++ events }
    | (queue, _) => { c with queue }
  | .close => { c with queue := c.queue.close }

/-- The custody after a run of moves. -/
def run (c : Custody ε) (moves : List (Move ε)) : Custody ε := moves.foldl step c

/-- What every move keeps holds after every run. -/
theorem run_induction {P : Custody ε → Prop} (keeps : ∀ c m, P c → P (c.step m))
    {c : Custody ε} (h : P c) (moves : List (Move ε)) : P (c.run moves) := by
  induction moves generalizing c with
  | nil => exact h
  | cons m rest ih => exact ih (keeps c m h)

/-! ## What a move can do -/

/-- A settled transaction has no events left. -/
def Spent (c : Custody ε) : Prop := ∀ h ∈ c.handles, h.settled = true → h.events = []

/-- The changes that a move can bring about. -/
inductive Change (c : Custody ε) : Custody ε → Prop where
  | nothing : Change c c
  | publish (events : List ε) (isOpen : c.queue.closed = false)
      (room : c.queue.hasRoom events.length = true) :
      Change c { c with queue := c.queue.publish events, offered := c.offered ++ events,
                        published := c.published ++ events }
  | refuse (events : List ε) :
      Change c { c with offered := c.offered ++ events, returned := c.returned ++ events }
  /-- A refused event of a producer who does not care. -/
  | ignore (event : ε) :
      Change c { c with offered := c.offered ++ [event], dropped := c.dropped ++ [event] }
  | prepare (events : List ε) (isOpen : c.queue.closed = false)
      (room : c.queue.hasRoom events.length = true) :
      Change c { c with queue := { c.queue with reserved := c.queue.reserved + events.length },
                        offered := c.offered ++ events,
                        handles := c.handles ++ [⟨events, false⟩] }
  | commit (place : Nat) (h : Handle ε) (found : c.handles[place]? = some h)
      (unsettled : h.settled = false) (isOpen : c.queue.closed = false) :
      Change c { c.setHandle place ⟨[], true⟩ with
        queue := (c.queue.release ⟨h.events⟩).publish h.events,
        published := c.published ++ h.events }
  /-- A transaction is settled and its events handed back. -/
  | giveBack (place : Nat) (h : Handle ε) (found : c.handles[place]? = some h)
      (unsettled : h.settled = false) :
      Change c { c.setHandle place ⟨[], true⟩ with
        queue := c.queue.release ⟨h.events⟩, returned := c.returned ++ h.events }
  /-- A transaction is settled and its events are lost. -/
  | lose (place : Nat) (h : Handle ε) (found : c.handles[place]? = some h)
      (unsettled : h.settled = false) :
      Change c { c.setHandle place ⟨[], true⟩ with
        queue := c.queue.release ⟨h.events⟩, dropped := c.dropped ++ h.events }
  | arrive (event : ε) :
      Change c { c with offered := c.offered ++ [event], waiting := c.waiting ++ [event] }
  | letIn (place : Nat) (event : ε) (found : c.waiting[place]? = some event)
      (isOpen : c.queue.closed = false) (room : c.queue.hasRoom 1 = true) :
      Change c { c with queue := c.queue.publish [event],
                        waiting := c.waiting.eraseIdx place,
                        published := c.published ++ [event] }
  | turnAway (place : Nat) (event : ε) (found : c.waiting[place]? = some event) :
      Change c { c with waiting := c.waiting.eraseIdx place,
                        returned := c.returned ++ [event] }
  | remove (taken rest : List ε) (front : c.queue.events = taken ++ rest) :
      Change c { c with queue := { c.queue with events := rest },
                        removed := c.removed ++ taken }
  | close : Change c { c with queue := c.queue.close }

theorem setHandle_self {c : Custody ε} {place : Nat} {h : Handle ε}
    (hp : c.handles[place]? = some h) : c.setHandle place h = c := by
  obtain ⟨lt, rfl⟩ := List.getElem?_eq_some_iff.1 hp
  simp only [setHandle, List.set_getElem_self]

/-- To give up or let go of a settled transaction does nothing any more. -/
theorem Change.of_settled {c : Custody ε} (hc : c.Spent) {place : Nat} {h : Handle ε}
    (hp : c.handles[place]? = some h) (hs : h.settled = true) :
    c.step (.abort place) = c ∧ c.step (.drop place) = c := by
  have events : h.events = [] := hc h (List.mem_of_getElem? hp) hs
  have same : { h with events := [] } = h := by rw [← events]
  constructor
  · simp only [step, hp, Handle.abort_of_settled hs, same, setHandle_self hp, events,
      List.append_nil]
  · simp only [step, hp, Handle.drop_of_settled hs, same, setHandle_self hp, events,
      List.append_nil]

theorem step_change {c : Custody ε} (hc : c.Spent) (m : Move ε) : Change c (c.step m) := by
  cases m with
  | enqueue gate event lossy =>
    rcases Queue.enqueue_cases gate event c.queue with ⟨h, isOpen, room⟩ | ⟨cause, h⟩
    · simp only [step, h]
      exact .publish [event] isOpen room
    · cases lossy with
      | true => simpa only [step, h, if_true] using Change.ignore event
      | false =>
        simp only [step, h, Bool.false_eq_true, if_false]
        exact .refuse [event]
  | enqueueMany gate events =>
    rcases Queue.enqueueMany_cases gate events c.queue with ⟨h, isOpen, room⟩ | ⟨cause, h⟩
    · simp only [step, h]
      exact .publish events isOpen room
    · simp only [step, h]
      exact .refuse events
  | prepare gate events =>
    rcases Queue.prepare_cases gate events c.queue with ⟨h, isOpen, room⟩ | ⟨cause, h⟩
    · simp only [step, h]
      exact .prepare events isOpen room
    · simp only [step, h]
      exact .refuse events
  | commit place =>
    cases hp : c.handles[place]? with
    | none => simpa only [step, hp] using Change.nothing
    | some h =>
      cases hs : h.settled with
      | true => simpa only [step, hp, hs, if_true] using Change.nothing
      | false =>
        simp only [step, hp, hs, Bool.false_eq_true, if_false, Handle.commit_eq]
        cases hq : c.queue.closed with
        | true =>
          rw [Queue.commit_of_closed hq]
          exact .giveBack place h hp hs
        | false =>
          rw [Queue.commit_of_open hq]
          exact .commit place h hp hs hq
  | abort place =>
    cases hp : c.handles[place]? with
    | none => simpa only [step, hp] using Change.nothing
    | some h =>
      cases hs : h.settled with
      | true => rw [(Change.of_settled hc hp hs).1]; exact .nothing
      | false =>
        simp only [step, hp, Handle.abort_of_open hs]
        exact .giveBack place h hp hs
  | drop place =>
    cases hp : c.handles[place]? with
    | none => simpa only [step, hp] using Change.nothing
    | some h =>
      cases hs : h.settled with
      | true => rw [(Change.of_settled hc hp hs).2]; exact .nothing
      | false =>
        simp only [step, hp, Handle.drop_of_open hs]
        exact .lose place h hp hs
  | arrive event => exact .arrive event
  | offer place expired =>
    cases hp : c.waiting[place]? with
    | none => simpa only [step, hp] using Change.nothing
    | some event =>
      rcases Queue.offer?_cases event expired c.queue with
        ⟨h, isOpen, room⟩ | ⟨h, -⟩ | ⟨cause, h, -⟩
      · simp only [step, hp, h]
        exact .letIn place event hp isOpen room
      · simp only [step, hp, h]
        exact .nothing
      · simp only [step, hp, h]
        exact .turnAway place event hp
  | dequeue =>
    rcases Queue.dequeue_cases c.queue with ⟨h, -⟩ | ⟨event, rest, front, h⟩
    · simpa only [step, h, Option.toList_none, List.append_nil] using Change.nothing
    · simp only [step, h, Option.toList_some]
      exact .remove [event] rest front
  | dequeueAll => exact .remove c.queue.events [] (List.append_nil _).symm
  | dequeueUpTo most => exact .remove _ _ (List.take_append_drop most _).symm
  | poll most expired =>
    rcases Queue.poll?_cases most expired c.queue with
      ⟨taken, rest, -, front, h⟩ | ⟨h, -⟩ | ⟨h, -⟩ | ⟨h, -⟩
    · simp only [step, h]
      exact .remove taken rest front
    · simp only [step, h]
      exact .nothing
    · simp only [step, h]
      exact .nothing
    · simpa only [step, h, List.append_nil] using Change.nothing
  | close => exact .close

/-- Whoever settles a transaction leaves a handle without events. -/
theorem Change.spent {c c' : Custody ε} (h : Change c c') (hc : c.Spent) : c'.Spent := by
  have settled (place : Nat) : (c.setHandle place ⟨[], true⟩).Spent := by
    intro h' hm
    rcases List.mem_or_eq_of_mem_set hm with hm | rfl
    · exact hc h' hm
    · exact fun _ => rfl
  cases h with
  | prepare events =>
    intro h' hm
    rcases List.mem_append.1 hm with hm | hm
    · exact hc h' hm
    · rw [List.mem_singleton.1 hm]
      exact fun settled => absurd settled Bool.false_ne_true
  | commit place => exact settled place
  | giveBack place => exact settled place
  | lose place => exact settled place
  | _ => exact hc

theorem spent_start (capacity : Option Nat) : (start capacity : Custody ε).Spent := by
  intro h hm
  exact absurd hm List.not_mem_nil

theorem spent_run (capacity : Option Nat) (moves : List (Move ε)) :
    ((start capacity).run moves).Spent :=
  run_induction (P := Spent) (fun _ m hc => (step_change hc m).spent hc)
    (spent_start capacity) moves

/-- What every change keeps holds after every run from the start. -/
theorem run_invariant {P : Custody ε → Prop} (capacity : Option Nat)
    (base : P (start capacity)) (keeps : ∀ c c', Change c c' → P c → P c')
    (moves : List (Move ε)) : P ((start capacity).run moves) := by
  have both := run_induction (P := fun c => c.Spent ∧ P c)
    (fun c m h => ⟨(step_change h.1 m).spent h.1, keeps _ _ (step_change h.1 m) h.2⟩)
    ⟨spent_start capacity, base⟩ moves
  exact both.2

/-! ## One transaction among the others -/

theorem held_append (c : Custody ε) (h : Handle ε) :
    (c.handles ++ [h]).flatMap Handle.held = c.held ++ h.held := by
  simp [held]

/-- A transaction that changes its state takes what it held with it, and brings what it
    then holds. -/
theorem held_setHandle {c : Custody ε} {place : Nat} {h : Handle ε}
    (hp : c.handles[place]? = some h) (h' : Handle ε) :
    ((c.setHandle place h').held : Multiset ε) + h.held = c.held + h'.held := by
  obtain ⟨lt, rfl⟩ := List.getElem?_eq_some_iff.1 hp
  have split : c.handles =
      c.handles.take place ++ c.handles[place] :: c.handles.drop (place + 1) := by
    rw [List.getElem_cons_drop, List.take_append_drop]
  have hset : (c.setHandle place h').handles =
      c.handles.take place ++ h' :: c.handles.drop (place + 1) := by
    rw [setHandle, List.set_eq_take_append_cons_drop, if_pos lt]
  unfold held
  rw [hset]
  conv_rhs => rw [split]
  simp only [List.flatMap_append, List.flatMap_cons, ← Multiset.coe_add]
  abel

theorem held_length_setHandle {c : Custody ε} {place : Nat} {h : Handle ε}
    (hp : c.handles[place]? = some h) (h' : Handle ε) :
    (c.setHandle place h').held.length + h.held.length = c.held.length + h'.held.length := by
  have := congrArg Multiset.card (held_setHandle hp h')
  simpa only [Multiset.card_add, Multiset.coe_card] using this

/-- An open transaction holds part of what all of them hold. -/
theorem events_length_le_held {c : Custody ε} {place : Nat} {h : Handle ε}
    (hp : c.handles[place]? = some h) (hs : h.settled = false) :
    h.events.length ≤ c.held.length := by
  have := held_length_setHandle hp ⟨[], true⟩
  rw [Handle.held_eq_events hs, Handle.held_settled, List.length_nil] at this
  omega

end Custody

end StagedEvents
