import StagedEvents.Proofs.Queue.Custody

/-!
# No event is lost, doubled or overtaken

In every interleaving of its clients a queue gives its events out in the order in which
they were published, each of them once, and every event that was passed in is in exactly
one place. `Change.inOrder` and `Change.placed` say that of one move, `events_conserved`
of every run.
-/

namespace StagedEvents.Custody

variable {ε : Type} {c c' : Custody ε}

/-! ## Order -/

/-- What was removed and what is visible is what was published, in this order. -/
def InOrder (c : Custody ε) : Prop := c.removed ++ c.queue.events = c.published

theorem InOrder.publish (hc : c.InOrder) (events : List ε) :
    c.removed ++ (c.queue.events ++ events) = c.published ++ events := by
  rw [← List.append_assoc, hc]

theorem Change.inOrder (h : Change c c') (hc : c.InOrder) : c'.InOrder := by
  cases h with
  | publish events => exact hc.publish events
  | commit place h => exact hc.publish h.events
  | letIn place event => exact hc.publish [event]
  | remove taken rest front =>
    show (c.removed ++ taken) ++ rest = c.published
    rw [List.append_assoc, ← front, hc]
  | _ => exact hc

/-! ## Places -/

/-- Every event that was passed in is in one place, as often as it was passed in. -/
def Placed (c : Custody ε) : Prop :=
  (c.offered : Multiset ε) =
    ↑c.published + ↑c.held + ↑c.returned + ↑c.dropped + ↑c.waiting

/-- An open transaction that is settled holds its events no more. -/
theorem held_settle {place : Nat} {h : Handle ε} (found : c.handles[place]? = some h)
    (unsettled : h.settled = false) :
    ((c.setHandle place ⟨[], true⟩).held : Multiset ε) + h.events = c.held := by
  have := held_setHandle found ⟨[], true⟩
  rwa [Handle.held_eq_events unsettled, Handle.held_settled, Multiset.coe_nil,
    add_zero] at this

/-- A producer who waits no more takes one event with them. -/
theorem waiting_eraseIdx {place : Nat} {event : ε} (found : c.waiting[place]? = some event) :
    (c.waiting : Multiset ε) = ↑(c.waiting.eraseIdx place) + ↑[event] := by
  obtain ⟨lt, rfl⟩ := List.getElem?_eq_some_iff.1 found
  rw [Multiset.coe_add, Multiset.coe_eq_coe]
  exact (List.getElem_cons_eraseIdx_perm lt).symm.trans (List.perm_append_singleton _ _).symm

theorem Change.placed (h : Change c c') (hc : c.Placed) : c'.Placed := by
  unfold Placed at hc ⊢
  cases h with
  | nothing | remove | close => exact hc
  | publish events =>
    show (↑(c.offered ++ events) : Multiset ε) =
      ↑(c.published ++ events) + ↑c.held + ↑c.returned + ↑c.dropped + ↑c.waiting
    simp only [← Multiset.coe_add, hc]
    abel
  | refuse events =>
    show (↑(c.offered ++ events) : Multiset ε) =
      ↑c.published + ↑c.held + ↑(c.returned ++ events) + ↑c.dropped + ↑c.waiting
    simp only [← Multiset.coe_add, hc]
    abel
  | ignore event =>
    show (↑(c.offered ++ [event]) : Multiset ε) =
      ↑c.published + ↑c.held + ↑c.returned + ↑(c.dropped ++ [event]) + ↑c.waiting
    simp only [← Multiset.coe_add, hc]
    abel
  | prepare events =>
    show (↑(c.offered ++ events) : Multiset ε) = ↑c.published +
      ↑((c.handles ++ [(⟨events, false⟩ : Handle ε)]).flatMap Handle.held) + ↑c.returned +
        ↑c.dropped + ↑c.waiting
    rw [held_append, Handle.held_open]
    simp only [← Multiset.coe_add, hc]
    abel
  | commit place h found unsettled =>
    show (c.offered : Multiset ε) = ↑(c.published ++ h.events) +
      ↑(c.setHandle place ⟨[], true⟩).held + ↑c.returned + ↑c.dropped + ↑c.waiting
    rw [hc, ← held_settle found unsettled, ← Multiset.coe_add]
    abel
  | giveBack place h found unsettled =>
    show (c.offered : Multiset ε) = ↑c.published +
      ↑(c.setHandle place ⟨[], true⟩).held + ↑(c.returned ++ h.events) + ↑c.dropped +
        ↑c.waiting
    rw [hc, ← held_settle found unsettled, ← Multiset.coe_add]
    abel
  | lose place h found unsettled =>
    show (c.offered : Multiset ε) = ↑c.published +
      ↑(c.setHandle place ⟨[], true⟩).held + ↑c.returned + ↑(c.dropped ++ h.events) +
        ↑c.waiting
    rw [hc, ← held_settle found unsettled, ← Multiset.coe_add]
    abel
  | arrive event =>
    show (↑(c.offered ++ [event]) : Multiset ε) =
      ↑c.published + ↑c.held + ↑c.returned + ↑c.dropped + ↑(c.waiting ++ [event])
    simp only [← Multiset.coe_add, hc]
    abel
  | letIn place event found =>
    show (c.offered : Multiset ε) = ↑(c.published ++ [event]) + ↑c.held + ↑c.returned +
      ↑c.dropped + ↑(c.waiting.eraseIdx place)
    rw [hc, waiting_eraseIdx found, ← Multiset.coe_add]
    abel
  | turnAway place event found =>
    show (c.offered : Multiset ε) = ↑c.published + ↑c.held + ↑(c.returned ++ [event]) +
      ↑c.dropped + ↑(c.waiting.eraseIdx place)
    rw [hc, waiting_eraseIdx found, ← Multiset.coe_add]
    abel

/-! ## All runs -/

theorem inOrder_run (capacity : Option Nat) (moves : List (Move ε)) :
    ((start capacity).run moves).InOrder :=
  run_invariant (P := InOrder) capacity rfl (fun _ _ change hc => change.inOrder hc) moves

theorem placed_run (capacity : Option Nat) (moves : List (Move ε)) :
    ((start capacity).run moves).Placed :=
  run_invariant (P := Placed) capacity rfl (fun _ _ change hc => change.placed hc) moves

/-- **Conservation.** After every run of moves of any number of clients, what was removed
    followed by what is visible is what was published, in the order of publication; and
    the events passed in are, as a multiset, those published, those of open transactions,
    those handed back, those dropped, and those of producers who still wait. -/
theorem events_conserved (capacity : Option Nat) (moves : List (Move ε)) :
    ((start capacity).run moves).InOrder ∧ ((start capacity).run moves).Placed :=
  ⟨inOrder_run capacity moves, placed_run capacity moves⟩

end StagedEvents.Custody
