import StagedEvents.Proofs.Queue.Custody

/-!
# Reserved room is accounted for

The room that a queue has reserved is at all times the room of its open transactions, and
a bounded queue never exceeds its capacity. So no room is given free that was not
reserved, a transaction gives its room free once, and a commit, which asks for no room,
needs none.
-/

namespace StagedEvents.Custody

variable {ε : Type} {c c' : Custody ε}

/-- The open transactions. -/
def openHandles (c : Custody ε) : List (Handle ε) := c.handles.filter fun h => !h.settled

/-- The room reserved is the room of the open transactions, and everything fits. -/
structure Accounted (c : Custody ε) : Prop where
  reserved : c.queue.reserved = c.held.length
  fits : c.queue.Fits

theorem held_length (c : Custody ε) :
    c.held.length = (c.openHandles.map fun h => h.events.length).sum := by
  unfold held openHandles
  induction c.handles with
  | nil => rfl
  | cons h rest ih =>
    rw [List.flatMap_cons, List.length_append, ih, List.filter_cons]
    cases hs : h.settled with
    | true => simp [Handle.held_eq_nil hs]
    | false => simp [Handle.held_eq_events hs]

/-- Whoever settles an open transaction gives free what it had reserved. -/
theorem Accounted.settle (hc : c.Accounted) {place : Nat} {h : Handle ε}
    (found : c.handles[place]? = some h) (unsettled : h.settled = false) :
    h.events.length ≤ c.queue.reserved ∧
      (c.queue.release ⟨h.events⟩).reserved = (c.setHandle place ⟨[], true⟩).held.length := by
  have le := events_length_le_held found unsettled
  have set := held_length_setHandle found ⟨[], true⟩
  rw [Handle.held_eq_events unsettled, Handle.held_settled, List.length_nil] at set
  have reserved := hc.reserved
  refine ⟨by omega, ?_⟩
  show c.queue.reserved - h.events.length = _
  omega

/-- The room that was reserved for a transaction is room for its events. -/
theorem Accounted.fits_commit (hc : c.Accounted) {place : Nat} {h : Handle ε}
    (found : c.handles[place]? = some h) (unsettled : h.settled = false) :
    ((c.queue.release ⟨h.events⟩).publish h.events).Fits := by
  refine hc.fits.mono rfl ?_
  have := Queue.occupancy_release (t := ⟨h.events⟩) (hc.settle found unsettled).1
  rw [Queue.occupancy_publish]
  exact this.le

theorem Change.accounted (h : Change c c') (hc : c.Accounted) : c'.Accounted := by
  cases h with
  | nothing => exact hc
  | publish events isOpen room =>
    exact ⟨hc.reserved, hc.fits.add room rfl (Queue.occupancy_publish _ _).le⟩
  | refuse => exact ⟨hc.reserved, hc.fits⟩
  | ignore => exact ⟨hc.reserved, hc.fits⟩
  | prepare events isOpen room =>
    refine ⟨?_, hc.fits.add room rfl ?_⟩
    · show c.queue.reserved + events.length =
        ((c.handles ++ [(⟨events, false⟩ : Handle ε)]).flatMap Handle.held).length
      rw [held_append, Handle.held_open, List.length_append, hc.reserved]
    · show c.queue.events.length + (c.queue.reserved + events.length) ≤ _
      exact (Nat.add_assoc _ _ _).ge
  | commit place h found unsettled =>
    exact ⟨(hc.settle found unsettled).2, hc.fits_commit found unsettled⟩
  | giveBack place h found unsettled =>
    exact ⟨(hc.settle found unsettled).2, hc.fits.mono rfl (Queue.occupancy_release_le _ _)⟩
  | lose place h found unsettled =>
    exact ⟨(hc.settle found unsettled).2, hc.fits.mono rfl (Queue.occupancy_release_le _ _)⟩
  | arrive => exact ⟨hc.reserved, hc.fits⟩
  | letIn place event found isOpen room =>
    exact ⟨hc.reserved, hc.fits.add room rfl (Queue.occupancy_publish _ _).le⟩
  | turnAway => exact ⟨hc.reserved, hc.fits⟩
  | remove taken rest front =>
    refine ⟨hc.reserved, hc.fits.mono rfl ?_⟩
    show rest.length + c.queue.reserved ≤ c.queue.events.length + c.queue.reserved
    rw [front, List.length_append]
    omega
  | close => exact ⟨hc.reserved, hc.fits⟩

theorem accounted_start (capacity : Option Nat) : (start capacity : Custody ε).Accounted :=
  ⟨rfl, fun _ _ => Nat.zero_le _⟩

theorem accounted_run (capacity : Option Nat) (moves : List (Move ε)) :
    ((start capacity).run moves).Accounted :=
  run_invariant capacity (accounted_start capacity) (fun _ _ change hc => change.accounted hc)
    moves

theorem Change.capacity (h : Change c c') : c'.queue.capacity = c.queue.capacity := by
  cases h <;> rfl

theorem capacity_run (capacity : Option Nat) (moves : List (Move ε)) :
    ((start capacity : Custody ε).run moves).queue.capacity = capacity.filter (0 < ·) :=
  run_invariant (P := fun c => c.queue.capacity = capacity.filter (0 < ·)) capacity rfl
    (fun _ _ change hc => change.capacity.trans hc) moves

/-! ## Room is given free once -/

theorem Change.stays_settled (h : Change c c') {place : Nat} {t : Handle ε}
    (found : c.handles[place]? = some t) (settled : t.settled = true) :
    c'.handles[place]? = some t := by
  -- an open transaction is another one, at another place
  have elsewhere {place' : Nat} {t' : Handle ε} (found' : c.handles[place']? = some t')
      (unsettled : t'.settled = false) : (c.handles.set place' ⟨[], true⟩)[place]? = some t := by
    have ne : place' ≠ place := by
      rintro rfl
      rw [found', Option.some.injEq] at found
      rw [found, settled] at unsettled
      exact Bool.noConfusion unsettled
    rw [List.getElem?_set_ne ne, found]
  cases h with
  | prepare events =>
    obtain ⟨lt, -⟩ := List.getElem?_eq_some_iff.1 found
    show (c.handles ++ [(⟨events, false⟩ : Handle ε)])[place]? = some t
    rw [List.getElem?_append_left lt, found]
  | commit _ _ found' unsettled => exact elsewhere found' unsettled
  | giveBack _ _ found' unsettled => exact elsewhere found' unsettled
  | lose _ _ found' unsettled => exact elsewhere found' unsettled
  | _ => exact found

theorem stays_settled (hc : c.Spent) {place : Nat} {t : Handle ε}
    (found : c.handles[place]? = some t) (settled : t.settled = true)
    (later : List (Move ε)) : (c.run later).Spent ∧ (c.run later).handles[place]? = some t :=
  run_induction (P := fun d => d.Spent ∧ d.handles[place]? = some t)
    (fun _ m hd => ⟨(step_change hd.1 m).spent hd.1,
      (step_change hd.1 m).stays_settled hd.2 settled⟩)
    ⟨hc, found⟩ later

/-- Nothing that its holder does with a settled transaction changes anything. -/
theorem step_settled (hc : c.Spent) {place : Nat} {t : Handle ε}
    (found : c.handles[place]? = some t) (settled : t.settled = true) :
    c.step (.commit place) = c ∧ c.step (.abort place) = c ∧ c.step (.drop place) = c := by
  obtain ⟨abort, drop⟩ := Change.of_settled hc found settled
  exact ⟨by simp only [step, found, settled, if_true], abort, drop⟩

/-! ## All runs -/

/-- **Accounting of room.** After every run of moves of any number of clients:
    * the room reserved is the room of the open transactions;
    * a queue of bounded capacity holds and reserves no more than its capacity;
    * an open transaction has no more room than is reserved, and as long as the queue is
      open its commit succeeds and leaves the occupancy as it is;
    * a transaction once settled stays as it is, whatever follows, and neither a commit
      nor giving it up nor letting go of it changes anything any more. -/
theorem room_accounted (capacity : Option Nat) (moves : List (Move ε)) :
    let c := (start capacity : Custody ε).run moves
    c.queue.reserved = (c.openHandles.map fun h => h.events.length).sum ∧
    (∀ most, capacity.filter (0 < ·) = some most → c.queue.occupancy ≤ most) ∧
    (∀ (place : Nat) (h : Handle ε), c.handles[place]? = some h → h.settled = false →
      h.events.length ≤ c.queue.reserved ∧
      (c.queue.closed = false → ∃ q, h.commit c.queue = (⟨[], true⟩, q, .ok ()) ∧
        q.occupancy = c.queue.occupancy ∧ q.Fits)) ∧
    (∀ (place : Nat) (h : Handle ε), c.handles[place]? = some h → h.settled = true → ∀ later,
      (c.run later).handles[place]? = some h ∧
      ∀ m ∈ [.commit place, .abort place, .drop place], (c.run later).step m = c.run later) := by
  intro c
  have accounted : c.Accounted := accounted_run capacity moves
  refine ⟨?_, ?_, ?_, ?_⟩
  · rw [accounted.reserved, held_length]
  · intro most hm
    exact accounted.fits most ((capacity_run capacity moves).trans hm)
  · intro place h found unsettled
    have le := (accounted.settle found unsettled).1
    refine ⟨le, fun isOpen => ⟨(c.queue.release ⟨h.events⟩).publish h.events, ?_, ?_, ?_⟩⟩
    · rw [Handle.commit_eq, Queue.commit_of_open isOpen]
    · rw [Queue.occupancy_publish]
      exact Queue.occupancy_release (t := ⟨h.events⟩) le
    · exact accounted.fits_commit found unsettled
  · intro place h found settled later
    obtain ⟨spent, found'⟩ := stays_settled (spent_run capacity moves) found settled later
    obtain ⟨commit, abort, drop⟩ := step_settled spent found' settled
    refine ⟨found', fun m hm => ?_⟩
    simp only [List.mem_cons, List.not_mem_nil, or_false] at hm
    rcases hm with rfl | rfl | rfl
    · exact commit
    · exact abort
    · exact drop

end StagedEvents.Custody
