import Mathlib.Data.List.ReduceOption
import StagedEvents.Proofs.Channel.Threshold
import StagedEvents.Proofs.Dial.Tokens

/-!
# Many events at once, and one after the other

To offer several events at once is to offer them one after the other: all are let in together
if and only if each of them would be, and then it makes no difference to the sink. Room,
threshold and tokens are looked at once for all events or once for each, against an occupancy
that grows and tokens that become fewer; they agree as far as numbers are exact. To take several
events at once is to take them one after the other, too.

* `Sink.enqueueEach`, `Queue.dequeueTimes`, `Queue.dequeueUntilNone`: one after the other.
* `Gate.Splits`: a gate that lets `n + 1` events in as it does one and then `n`.
* `Sink.admits_succ`, `letIn_cons`: the step from one list to a longer one.
* `batch_operations_iterate`: the result.
-/

namespace StagedEvents

variable {α ε : Type}

/-! ## Producers -/

section Producers

variable [Quantity α]

namespace Gate

/-- To ask the gate about `n + 1` events at once is to ask it about one of them, and then about
    the others with the one let in. -/
def Splits (g : Gate α) : Prop :=
  ∀ occupancy n, 0 < n →
    ((g.accept occupancy (n + 1)).1 = true ↔ (g.accept occupancy 1).1 = true ∧
      ((g.accept occupancy 1).2.accept (occupancy + 1) n).1 = true) ∧
    ((g.accept occupancy (n + 1)).1 = true →
      (g.accept occupancy (n + 1)).2 = ((g.accept occupancy 1).2.accept (occupancy + 1) n).2)

/-- The gate does not count tokens: it is open to all, or has another dial than a rate. -/
def Tokenless : Gate α → Prop
  | guarded (.rate _) => False
  | _ => True

theorem Tokenless.accept {g : Gate α} (h : g.Tokenless) (occupancy n : ℕ) :
    (g.accept occupancy n).2.Tokenless := by
  cases g with
  | openToAll => trivial
  | guarded dial =>
    cases dial with
    | threshold limit => trivial
    | rate bucket => exact h.elim
    | knob value => trivial

theorem Tokenless.splits {g : Gate α} (h : g.Tokenless) : g.Splits := by
  intro occupancy n _
  cases g with
  | openToAll => exact ⟨⟨fun _ => ⟨rfl, rfl⟩, fun _ => rfl⟩, fun _ => rfl⟩
  | guarded dial =>
    cases dial with
    | threshold limit =>
      refine ⟨?_, fun _ => rfl⟩
      show Dial.withinLimit limit occupancy (n + 1) = true ↔
        Dial.withinLimit limit occupancy 1 = true ∧ Dial.withinLimit limit (occupancy + 1) n = true
      simp only [Dial.withinLimit, Bool.or_eq_true_iff, decide_eq_true_iff]
      omega
    | rate bucket => exact h.elim
    | knob value => exact ⟨⟨fun _ => ⟨rfl, rfl⟩, fun _ => rfl⟩, fun _ => rfl⟩

end Gate

namespace Sink

/-- Offers events one after the other; those that are refused do not keep others from being
    offered. -/
def enqueueEach : List ε → Sink α ε → Sink α ε × List (Enqueued ε)
  | [], s => (s, [])
  | event :: rest, s =>
    let (s, answer) := s.enqueue event
    let (s, answers) := s.enqueueEach rest
    (s, answer :: answers)

/-- Nothing keeps `count` events out of the queue. -/
def Admits (s : Sink α ε) (count : ℕ) : Prop := s.queue.refusal? s.admission count = none

/-- The sink after it has let events in. -/
def letIn (s : Sink α ε) (events : List ε) : Sink α ε :=
  s.settle (s.queue.publish events) (s.gateAfter events.length) events.length true

/-- Many events are let in at once as they would be one after the other. -/
def Iterates (s : Sink α ε) : Prop :=
  ∀ events : List ε, events ≠ [] →
    ((s.enqueueMany events).2.isOk = true ↔
      ∀ answer ∈ (s.enqueueEach events).2, answer.isOk = true) ∧
    ((s.enqueueMany events).2.isOk = true → (s.enqueueMany events).1 = (s.enqueueEach events).1)

variable {s : Sink α ε}

theorem enqueueEach_cons (event : ε) (rest : List ε) (s : Sink α ε) :
    s.enqueueEach (event :: rest) = (((s.enqueue event).1.enqueueEach rest).1,
      (s.enqueue event).2 :: ((s.enqueue event).1.enqueueEach rest).2) := rfl

theorem enqueue_of_admits (admits : s.Admits 1) (event : ε) :
    s.enqueue event = (s.letIn [event], .ok ()) := by
  unfold enqueue Queue.enqueue
  rw [show s.queue.refusal? s.admission 1 = none from admits]
  rfl

theorem isOk_enqueue_iff (event : ε) : (s.enqueue event).2.isOk = true ↔ s.Admits 1 := by
  unfold enqueue Queue.enqueue Admits
  cases s.queue.refusal? s.admission 1 with
  | none => exact ⟨fun _ => rfl, fun _ => rfl⟩
  | some cause => exact ⟨fun ok => absurd ok Bool.false_ne_true, fun none => absurd none (by simp)⟩

/-- A batch is for some events, and is checked for a closed queue twice. -/
theorem enqueueMany_cons (event : ε) (rest : List ε) :
    ((s.enqueueMany (event :: rest)).2.isOk = true ↔ s.Admits (rest.length + 1)) ∧
    (s.Admits (rest.length + 1) →
      (s.enqueueMany (event :: rest)).1 = s.letIn (event :: rest)) := by
  unfold enqueueMany Queue.enqueueMany Admits
  rw [List.length_cons]
  cases closed : s.queue.closed with
  | true =>
    have refused := Queue.refusal?_closed closed s.admission (rest.length + 1)
    rw [refused]
    exact ⟨⟨fun ok => absurd ok Bool.false_ne_true, fun none => absurd none (by simp)⟩,
      fun none => absurd none (by simp)⟩
  | false =>
    cases s.queue.refusal? s.admission (rest.length + 1) with
    | none => exact ⟨⟨fun _ => rfl, fun _ => rfl⟩, fun _ => rfl⟩
    | some cause =>
      exact ⟨⟨fun ok => absurd ok Bool.false_ne_true, fun none => absurd none (by simp)⟩,
        fun none => absurd none (by simp)⟩

theorem admits_iff {count : ℕ} :
    s.Admits count ↔ s.queue.closed = false ∧
      (s.gate.accept s.queue.occupancy count).1 = true ∧ s.queue.hasRoom count = true :=
  Queue.refusal?_eq_none_iff s.queue s.admission count

theorem gate_letIn (isOpen : s.queue.closed = false) (events : List ε) :
    (s.letIn events).gate = (s.gate.accept s.queue.occupancy events.length).2 := by
  show s.gateAfter events.length = _
  rw [gateAfter, isOpen, if_neg Bool.false_ne_true]

theorem hasRoom_letIn (s : Sink α ε) (event : ε) {n : ℕ} (some : 0 < n) :
    s.queue.hasRoom (n + 1) = true ↔
      s.queue.hasRoom 1 = true ∧ (s.letIn [event]).queue.hasRoom n = true := by
  have occupancy : (s.letIn [event]).queue.occupancy = s.queue.occupancy + 1 :=
    Queue.occupancy_publish s.queue [event]
  rw [Queue.hasRoom_iff_le n.succ_pos, Queue.hasRoom_iff_le Nat.one_pos,
    Queue.hasRoom_iff_le some, occupancy]
  show (∀ most, s.queue.capacity = _ → _) ↔ _ ∧ (∀ most, s.queue.capacity = _ → _)
  constructor
  · intro fits
    exact ⟨fun most bounded => by have := fits most bounded; omega,
      fun most bounded => by have := fits most bounded; omega⟩
  · rintro ⟨-, fits⟩ most bounded
    have := fits most bounded
    omega

/-- `n + 1` events are let in if one is, and then `n` more. -/
theorem admits_succ (splits : s.gate.Splits) (event : ε) {n : ℕ} (some : 0 < n) :
    s.Admits (n + 1) ↔ s.Admits 1 ∧ (s.letIn [event]).Admits n := by
  obtain ⟨accepts, -⟩ := splits s.queue.occupancy n some
  have occupancy : (s.letIn [event]).queue.occupancy = s.queue.occupancy + 1 :=
    Queue.occupancy_publish s.queue [event]
  have closed : (s.letIn [event]).queue.closed = s.queue.closed := rfl
  rw [admits_iff, admits_iff, admits_iff, closed, occupancy, accepts, s.hasRoom_letIn event some]
  constructor
  · rintro ⟨isOpen, ⟨one, others⟩, room, room'⟩
    rw [gate_letIn isOpen]
    exact ⟨⟨isOpen, one, room⟩, isOpen, others, room'⟩
  · rintro ⟨⟨isOpen, one, room⟩, -, others, room'⟩
    rw [gate_letIn isOpen] at others
    exact ⟨isOpen, ⟨one, others⟩, room, room'⟩

theorem stats_letIn (s : Sink α ε) (event : ε) (rest : List ε) :
    (s.letIn (event :: rest)).stats = ((s.letIn [event]).letIn rest).stats := by
  show s.stats.recordAdmitted (rest.length + 1) =
    (s.stats.recordAdmitted 1).recordAdmitted rest.length
  unfold Stats.recordAdmitted
  simp only [Nat.add_comm rest.length 1, UInt64.ofNat_add, UInt64.add_assoc]

/-- To let events in at once is to let them in one after the other. -/
theorem letIn_cons (splits : s.gate.Splits) {event : ε} {rest : List ε} (some : rest ≠ [])
    (admits : s.Admits (rest.length + 1)) :
    s.letIn (event :: rest) = (s.letIn [event]).letIn rest := by
  obtain ⟨isOpen, accepted, -⟩ := admits_iff.1 admits
  have queue : (s.letIn (event :: rest)).queue = ((s.letIn [event]).letIn rest).queue := by
    show s.queue.publish (event :: rest) = (s.queue.publish [event]).publish rest
    simp only [Queue.publish, List.append_assoc, List.singleton_append]
  have gate : (s.letIn (event :: rest)).gate = ((s.letIn [event]).letIn rest).gate := by
    have isOpen' : (s.letIn [event]).queue.closed = false := isOpen
    rw [gate_letIn isOpen, gate_letIn isOpen', gate_letIn isOpen]
    have occupancy : (s.letIn [event]).queue.occupancy = s.queue.occupancy + 1 :=
      Queue.occupancy_publish s.queue [event]
    rw [occupancy]
    exact (splits _ _ (List.length_pos_iff.2 some)).2 accepted
  show Sink.mk _ _ _ = Sink.mk _ _ _
  rw [Sink.mk.injEq]
  exact ⟨queue, gate, s.stats_letIn event rest⟩

/-- **Many at once as one after the other**, for gates of a kind `P` that split. -/
theorem iterates_of_splits {P : Gate α → Prop} (splits : ∀ g, P g → g.Splits)
    (keeps : ∀ g, P g → ∀ occupancy n, P (g.accept occupancy n).2) (kind : P s.gate) :
    s.Iterates := by
  intro events some
  obtain ⟨event, rest, rfl⟩ := List.exists_cons_of_ne_nil some
  clear some
  -- The gate is of the kind all along, so the induction is for every sink with such a gate.
  induction rest generalizing s event with
  | nil =>
    obtain ⟨ok, after⟩ := s.enqueueMany_cons event []
    have single := s.isOk_enqueue_iff event
    refine ⟨?_, fun accepted => ?_⟩
    · rw [ok, enqueueEach_cons, enqueueEach, List.forall_mem_singleton, single]
      rfl
    · have admits := ok.1 accepted
      rw [after admits, enqueueEach_cons, enqueue_of_admits admits, enqueueEach]
  | cons next rest ih =>
    obtain ⟨ok, after⟩ := s.enqueueMany_cons event (next :: rest)
    have pos : 0 < (next :: rest).length := Nat.succ_pos _
    have split := admits_succ (splits _ kind) event pos
    have single := s.isOk_enqueue_iff event
    by_cases one : s.Admits 1
    · have kind' : P (s.letIn [event]).gate := by
        rw [gate_letIn (admits_iff.1 one).1]
        exact keeps _ kind _ _
      obtain ⟨others, same⟩ := ih kind' next
      obtain ⟨ok', after'⟩ := (s.letIn [event]).enqueueMany_cons next rest
      have each : s.enqueueEach (event :: next :: rest) =
          (((s.letIn [event]).enqueueEach (next :: rest)).1,
            .ok () :: ((s.letIn [event]).enqueueEach (next :: rest)).2) := by
        rw [enqueueEach_cons, enqueue_of_admits one]
      rw [each]
      refine ⟨?_, fun accepted => ?_⟩
      · rw [ok, split, List.forall_mem_cons, ← others, ok']
        exact and_congr_left fun _ => ⟨fun _ => rfl, fun _ => one⟩
      · have admits := ok.1 accepted
        rw [after admits, letIn_cons (splits _ kind) (List.cons_ne_nil _ _) admits,
          ← after' (split.1 admits).2]
        exact same (ok'.2 (split.1 admits).2)
    · have refused : ¬(s.enqueueMany (event :: next :: rest)).2.isOk = true := fun accepted =>
        one (split.1 (ok.1 accepted)).1
      refine ⟨⟨fun accepted => absurd accepted refused, fun all => ?_⟩,
        fun accepted => absurd accepted refused⟩
      exact absurd (single.1 (all _ (List.mem_cons_self))) one

theorem Iterates.ofTokenless (tokenless : s.gate.Tokenless) : s.Iterates :=
  iterates_of_splits (P := Gate.Tokenless) (fun _ h => h.splits) (fun _ h => h.accept) tokenless

end Sink

end Producers

/-! ## Tokens -/

/-- **Every gate splits** when numbers are exact. -/
theorem Gate.splits_of_exact (g : Gate ℚ) : g.Splits := by
  match g with
  | openToAll | guarded (.threshold _) | guarded (.knob _) => exact Tokenless.splits trivial
  | guarded (.rate bucket) =>
    intro occupancy n _
    simp only [accept, Dial.accept, Bucket.accept]
    by_cases free : bucket.rate ≤ 0.0
    · simp only [if_pos free, and_self, implies_true]
    · have limits : ¬(bucket.refill.take 1).2.rate ≤ 0.0 := by
        unfold Bucket.take
        split <;> exact free
      simp only [if_neg free, if_neg limits, bucket.refill_take 1]
      obtain ⟨accepts, same⟩ := bucket.refill.take_succ n
      exact ⟨accepts, fun accepted => congrArg (fun b => guarded (.rate b)) (same accepted)⟩

/-! ## Consumers -/

namespace Queue

/-- Takes the oldest event, a number of times. -/
def dequeueTimes : ℕ → Queue ε → Queue ε × List (Option ε)
  | 0, q => (q, [])
  | n + 1, q =>
    let (q, event?) := q.dequeue
    let (q, events) := q.dequeueTimes n
    (q, event? :: events)

/-- Takes the oldest event until there is none. -/
def dequeueUntilNone (q : Queue ε) : Queue ε × List ε :=
  match _took : q.dequeue with
  | (_, none) => (q, [])
  | (rest, some event) =>
    let (q, events) := rest.dequeueUntilNone
    (q, event :: events)
termination_by q.events.length
decreasing_by
  rcases dequeue_cases q with ⟨none, -⟩ | ⟨_, rest, front, some⟩
  · exact absurd (congrArg Prod.snd (none.symm.trans _took)) (by simp)
  · obtain rfl := congrArg Prod.fst (some.symm.trans _took)
    rw [front, List.length_cons]
    exact Nat.lt_succ_self _

theorem dequeue_nil {q : Queue ε} (empty : q.events = []) : q.dequeue = (q, none) := by
  rw [dequeue, empty]

theorem dequeue_cons {q : Queue ε} {event : ε} {rest : List ε} (front : q.events = event :: rest) :
    q.dequeue = ({ q with events := rest }, some event) := by
  rw [dequeue, front]

theorem dequeueTimes_succ (n : ℕ) (q : Queue ε) :
    q.dequeueTimes (n + 1) =
      ((q.dequeue.1.dequeueTimes n).1, q.dequeue.2 :: (q.dequeue.1.dequeueTimes n).2) := rfl

theorem dequeueTimes_nil {q : Queue ε} (empty : q.events = []) (n : ℕ) :
    q.dequeueTimes n = (q, List.replicate n none) := by
  induction n with
  | zero => rfl
  | succ n ih => rw [dequeueTimes_succ, dequeue_nil empty, ih, List.replicate_succ]

/-- **To take up to `n` events** is to take one `n` times. -/
theorem dequeueUpTo_eq (q : Queue ε) (n : ℕ) :
    q.dequeueUpTo n = ((q.dequeueTimes n).1, (q.dequeueTimes n).2.reduceOption) := by
  induction n generalizing q with
  | zero => rfl
  | succ n ih =>
    cases front : q.events with
    | nil =>
      rw [dequeueTimes_nil front, List.reduceOption_replicate_none, dequeueUpTo, front,
        List.drop_nil, List.take_nil, ← front]
    | cons event rest =>
      obtain ⟨queue, others⟩ := Prod.mk.inj (ih { q with events := rest })
      rw [dequeueTimes_succ, dequeue_cons front, dequeueUpTo, front, List.drop_succ_cons,
        List.take_succ_cons, List.reduceOption_cons_of_some]
      exact Prod.ext queue (congrArg (event :: ·) others)

/-- **To take all events** is to take one until there is none. -/
theorem dequeueAll_eq (q : Queue ε) : q.dequeueAll = q.dequeueUntilNone := by
  fun_induction dequeueUntilNone q with
  | case1 q q' nothing =>
    rcases dequeue_cases q with ⟨-, empty⟩ | ⟨event, rest, -, some⟩
    · rw [dequeueAll, ← empty]
    · exact absurd (congrArg Prod.snd (some.symm.trans nothing)) (by simp)
  | case2 q rest event took q' events others ih =>
    rcases dequeue_cases q with ⟨none, -⟩ | ⟨event', rest', front, some⟩
    · exact absurd (congrArg Prod.snd (none.symm.trans took)) (by simp)
    · obtain ⟨rfl, same⟩ := Prod.mk.inj (some.symm.trans took)
      obtain rfl := Option.some.inj same
      obtain ⟨rfl, rfl⟩ := Prod.mk.inj (ih.trans others)
      rw [dequeueAll, front]

end Queue

/-- **Batch operations are iterated single ones.** Whatever is queued, reserved and counted:

    * events are let in at once if and only if each of them would be, one after the other, and
      then queue, counters and gate are the same: behind a gate that counts tokens when numbers
      are exact and no time passes meanwhile, and behind any other in whatever arithmetic;
    * to take up to `n` events is to take one `n` times;
    * to take all events is to take one until there is none. -/
theorem batch_operations_iterate [Quantity α] :
    (∀ s : Sink ℚ ε, s.Iterates) ∧
    (∀ s : Sink α ε, s.gate.Tokenless → s.Iterates) ∧
    (∀ (q : Queue ε) n,
      q.dequeueUpTo n = ((q.dequeueTimes n).1, (q.dequeueTimes n).2.reduceOption)) ∧
    ∀ q : Queue ε, q.dequeueAll = q.dequeueUntilNone :=
  ⟨fun _ => Sink.iterates_of_splits (P := fun _ => True) (fun g _ => g.splits_of_exact)
    (fun _ _ _ _ => trivial) trivial, fun _ => .ofTokenless, Queue.dequeueUpTo_eq,
    Queue.dequeueAll_eq⟩

/-- A queue with room for two events, behind a bucket with two tokens. -/
def Sink.metered : Sink ℚ Nat :=
  { queue := ⟨some 4, [1], 1, false⟩, gate := .guarded (.rate ⟨5, 3, 2, .zero⟩), stats := .new }

/-- A queue behind a threshold of three. -/
def Sink.bounded : Sink Float Nat :=
  { queue := ⟨none, [1], 1, false⟩, gate := .guarded (.threshold 3), stats := .new }

/-- Two events find room and tokens, at once as one after the other; they are too many for a
    threshold that has room for one. -/
theorem batch_operations_iterate_two :
    (Sink.metered.enqueueMany [7, 8]).2.isOk = true ∧
    (Sink.metered.enqueueMany [7, 8]).1 = (Sink.metered.enqueueEach [7, 8]).1 ∧
    (Sink.bounded.enqueueMany [7, 8]).2.isOk = false ∧
    ¬∀ answer ∈ (Sink.bounded.enqueueEach [7, 8]).2, answer.isOk = true := by
  obtain ⟨exact, tokenless, -⟩ := batch_operations_iterate (α := Float) (ε := Nat)
  have accepted : (Sink.metered.enqueueMany [7, 8]).2.isOk = true := by decide +kernel
  have refused : (Sink.bounded.enqueueMany [7, 8]).2.isOk = false := by rfl
  refine ⟨accepted, (exact _ [7, 8] (by simp)).2 accepted, refused, fun all => ?_⟩
  have all := (tokenless Sink.bounded trivial [7, 8] (by simp)).1.2 all
  exact absurd (refused.symm.trans all) Bool.false_ne_true

end StagedEvents
