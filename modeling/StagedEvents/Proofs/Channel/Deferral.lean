import Mathlib.Order.Monotone.Basic
import StagedEvents.Proofs.Channel.Course

/-!
# A transaction is a deferred enqueue, or nothing

Whoever reserves room for events and publishes them later might as well have published them
all at once at that later moment, and whoever gives the room free again might as well have
done nothing. No one else can tell, unless the reserved room stood in their way: a gate and
the capacity may refuse in a fuller queue what they let into an emptier one, and never the
other way round.

* `Queue.refusal?_reserve`: a queue with more room reserved refuses for the same cause, if not
  for want of room.
* `Channel.step_reserve`: a step on a channel with more room reserved.
* `Course.without_reservation`: a whole course.
* `transaction_deferred`: the result.
-/

namespace StagedEvents

variable {α ε : Type}

/-! ## Queues with more room reserved -/

namespace Queue

/-- The queue with room reserved for `count` more events. -/
def reserve (count : ℕ) (q : Queue ε) : Queue ε := { q with reserved := q.reserved + count }

variable {q : Queue ε} {count : ℕ} {gate : Admission}

theorem le_occupancy_reserve (count : ℕ) (q : Queue ε) :
    q.occupancy ≤ (q.reserve count).occupancy := by
  simp only [occupancy, reserve]
  omega

theorem hasRoom_of_reserve {more : ℕ} (h : (q.reserve count).hasRoom more = true) :
    q.hasRoom more = true := by
  have le := le_occupancy_reserve count q
  unfold hasRoom at h ⊢
  split at h
  · rename_i unbounded
    rw [show q.capacity = none from unbounded]
  · rename_i most bounded
    rw [show q.capacity = some most from bounded]
    have := of_decide_eq_true h
    exact decide_eq_true (by omega)

theorem antitone_all : Antitone Admission.all := antitone_const

theorem refusal?_of_open (isOpen : q.closed = false) (gate : Admission) (more : ℕ) :
    q.refusal? gate more = none ∨ q.refusal? gate more = some .admissionRejected ∨
      q.refusal? gate more = some .full := by
  unfold refusal?
  rw [isOpen, if_neg Bool.false_ne_true]
  split
  · exact .inr (.inl rfl)
  · split
    · exact .inr (.inr rfl)
    · exact .inl rfl

/-- With less room reserved no more is refused. -/
theorem refusal?_reserve (lenient : Antitone gate) {more : ℕ}
    (free : Unhindered ((q.reserve count).refusal? gate more)) :
    (q.reserve count).refusal? gate more = q.refusal? gate more := by
  cases closed : q.closed with
  | true =>
    rw [refusal?_closed closed, refusal?_closed (q := q.reserve count) closed]
  | false =>
    rcases refusal?_of_open (q := q.reserve count) closed gate more with h | h | h
    · obtain ⟨-, accepts, fits⟩ := (refusal?_eq_none_iff _ gate more).1 h
      have accepts : gate q.occupancy more = true :=
        lenient (le_occupancy_reserve count q) more accepts
      rw [h, (refusal?_eq_none_iff q gate more).2 ⟨closed, accepts, hasRoom_of_reserve fits⟩]
    · exact absurd h free.2
    · exact absurd h free.1

theorem refusalOf_enqueue (gate : Admission) (event : ε) :
    refusalOf (q.enqueue gate event).2 = q.refusal? gate 1 := by
  unfold enqueue
  cases q.refusal? gate 1 <;> rfl

theorem refusalOf_prepare (gate : Admission) (events : List ε) :
    refusalOf (q.prepare gate events).2 =
      q.refusal? (if events.isEmpty then .all else gate) events.length := by
  unfold prepare
  cases q.refusal? (if events.isEmpty then .all else gate) events.length <;> rfl

/-- The queue that an operation leaves, with more room reserved, and its answer. -/
def reserveFst {β : Type} (count : ℕ) (result : Queue ε × β) : Queue ε × β :=
  (result.1.reserve count, result.2)

theorem enqueue_reserve (lenient : Antitone gate) {event : ε}
    (free : Unhindered (refusalOf ((q.reserve count).enqueue gate event).2)) :
    (q.reserve count).enqueue gate event = reserveFst count (q.enqueue gate event) := by
  rw [refusalOf_enqueue] at free
  unfold enqueue
  rw [refusal?_reserve lenient free]
  cases q.refusal? gate 1 <;> rfl

theorem enqueueMany_reserve (lenient : Antitone gate) {events : List ε}
    (free : Unhindered (refusalOf ((q.reserve count).enqueueMany gate events).2)) :
    (q.reserve count).enqueueMany gate events = reserveFst count (q.enqueueMany gate events) := by
  unfold enqueueMany at free ⊢
  rw [show (q.reserve count).closed = q.closed from rfl] at free ⊢
  cases closed : q.closed with
  | true => rfl
  | false =>
    cases empty : events.isEmpty with
    | true => rfl
    | false =>
      have free : Unhindered ((q.reserve count).refusal? gate events.length) := by
        simp only [closed, empty, Bool.false_eq_true, if_false] at free
        cases h : (q.reserve count).refusal? gate events.length with
        | none => exact ⟨nofun, nofun⟩
        | some cause =>
          rw [h] at free
          exact free
      rw [refusal?_reserve lenient free]
      cases q.refusal? gate events.length <;> rfl

theorem prepare_reserve (lenient : Antitone gate) {events : List ε}
    (free : Unhindered (refusalOf ((q.reserve count).prepare gate events).2)) :
    (q.reserve count).prepare gate events = reserveFst count (q.prepare gate events) := by
  have lenient' : Antitone (if events.isEmpty then Admission.all else gate) := by
    split
    · exact antitone_all
    · exact lenient
  rw [refusalOf_prepare] at free
  unfold prepare
  rw [refusal?_reserve lenient' free]
  cases q.refusal? (if events.isEmpty then .all else gate) events.length with
  | some cause => rfl
  | none =>
    refine Prod.ext ?_ rfl
    show ({ q with reserved := q.reserved + count + events.length } : Queue ε) =
      { q with reserved := q.reserved + events.length + count }
    rw [Nat.add_right_comm]

theorem release_reserve {t : Transaction ε} (reserved : t.events.length ≤ q.reserved) :
    (q.reserve count).release t = (q.release t).reserve count := by
  show ({ q with reserved := q.reserved + count - t.events.length } : Queue ε) =
    { q with reserved := q.reserved - t.events.length + count }
  rw [Nat.sub_add_comm reserved]

theorem commit_reserve {t : Transaction ε} (reserved : t.events.length ≤ q.reserved) :
    (q.reserve count).commit t = reserveFst count (q.commit t) := by
  cases closed : q.closed with
  | true =>
    rw [commit_of_closed closed, commit_of_closed (q := q.reserve count) closed,
      release_reserve reserved]
    rfl
  | false =>
    rw [commit_of_open closed, commit_of_open (q := q.reserve count) closed,
      release_reserve reserved]
    rfl

theorem offer?_reserve {event : ε} {expired : Bool}
    (free : ∀ answer, ((q.reserve count).offer? event expired).2 = some answer →
      Unhindered (refusalOf answer))
    (awake : ((q.reserve count).offer? event expired).2 ≠ none) :
    (q.reserve count).offer? event expired = reserveFst count (q.offer? event expired) := by
  have same : (q.reserve count).refusal? .all 1 = q.refusal? .all 1 := by
    refine refusal?_reserve antitone_all ?_
    unfold offer? at awake free
    cases h : (q.reserve count).refusal? .all 1 with
    | none => exact ⟨nofun, nofun⟩
    | some cause =>
      simp only [h] at awake free
      cases cause with
      | full =>
        cases expired with
        | true => exact free _ rfl
        | false => exact absurd rfl awake
      | closed | admissionRejected => exact free _ rfl
  unfold offer?
  rw [same]
  cases q.refusal? .all 1 with
  | none => rfl
  | some cause => cases cause <;> rfl

theorem dequeue_reserve : (q.reserve count).dequeue = reserveFst count q.dequeue := by
  unfold dequeue
  rw [show (q.reserve count).events = q.events from rfl]
  cases q.events <;> rfl

theorem poll?_reserve (most : Option ℕ) (expired : Bool) :
    (q.reserve count).poll? most expired = reserveFst count (q.poll? most expired) := by
  unfold poll?
  rw [show (q.reserve count).events = q.events from rfl,
    show (q.reserve count).closed = q.closed from rfl]
  split
  · split <;> rfl
  · cases most <;> rfl

end Queue

/-! ## Channels with more room reserved -/

/-- The limit of a threshold is passed sooner by a fuller queue. -/
theorem antitone_withinLimit (limit : ℤ) : Antitone (Dial.withinLimit limit) := by
  intro occupancy fuller le count accepts
  unfold Dial.withinLimit at accepts ⊢
  rcases Bool.or_eq_true_iff.1 accepts with free | within
  · exact Bool.or_eq_true_iff.2 (.inl free)
  · have within := of_decide_eq_true within
    exact Bool.or_eq_true_iff.2 (.inr (decide_eq_true (by omega)))

namespace Channel

/-- The channel with room reserved for `count` more events. -/
def reserve (count : ℕ) (c : Channel α ε) : Channel α ε := c.withQueue (c.queue.reserve count)

theorem takeSlot_reserve (count : ℕ) (c : Channel α ε) (dropped expired : Bool) :
    (c.reserve count).takeSlot dropped expired =
      { c.takeSlot dropped expired with
        channel := (c.takeSlot dropped expired).channel.reserve count } := by
  obtain ⟨sink, sorter⟩ := c
  cases sorter with
  | drainAll => rfl
  | throttled slots =>
    simp only [takeSlot, reserve, withQueue]
    cases slots.take? with
    | some slots => rfl
    | none => cases expired <;> rfl

theorem releaseSlot_reserve (count : ℕ) (c : Channel α ε) :
    (c.reserve count).releaseSlot = c.releaseSlot.reserve count := by
  obtain ⟨sink, sorter⟩ := c
  cases sorter <;> rfl

theorem fetchedNothing_reserve (count : ℕ) (c : Channel α ε) (dropped : Bool)
    (answer : Except QueueError (Option (Batch ε))) :
    (c.reserve count).fetchedNothing dropped answer =
      { c.fetchedNothing dropped answer with
        channel := (c.fetchedNothing dropped answer).channel.reserve count } := by
  obtain ⟨sink, sorter⟩ := c
  cases sorter <;> rfl

theorem takeEvents_reserve (count : ℕ) (c : Channel α ε) (dropped expired : Bool) :
    (c.reserve count).takeEvents dropped expired =
      { c.takeEvents dropped expired with
        channel := (c.takeEvents dropped expired).channel.reserve count } := by
  have polled : (c.reserve count).queue.poll? c.sorter.maxBatch? expired =
      Queue.reserveFst count (c.queue.poll? c.sorter.maxBatch? expired) :=
    Queue.poll?_reserve _ expired
  simp only [takeEvents]
  rw [show (c.reserve count).sorter = c.sorter from rfl, polled]
  rcases c.queue.poll? c.sorter.maxBatch? expired with ⟨queue, answer⟩
  rcases answer with _ | error | _ | ⟨event, events⟩
  · rfl
  · exact fetchedNothing_reserve count (c.withQueue queue) dropped _
  · exact fetchedNothing_reserve count (c.withQueue queue) dropped _
  · rfl

variable [Quantity α] {c : Channel α ε} {limit : ℤ} {count : ℕ}

theorem antitone_admission (gate : c.sink.gate = .guarded (.threshold limit)) (guarded : Bool) :
    Antitone (c.admission guarded) := by
  cases guarded with
  | false => exact Queue.antitone_all
  | true =>
    rw [admission_threshold gate]
    exact antitone_withinLimit limit

/-- What a producer leaves behind who comes to a threshold, through the sink or not. -/
def offered (c : Channel α ε) (guarded : Bool) (count : ℕ) (queue : Queue ε) (accepted : Bool) :
    Channel α ε :=
  { c with
    sink :=
      { c.sink with
        queue
        stats := if guarded then c.sink.stats.recordOffer count accepted else c.sink.stats } }

theorem step_enqueue_threshold (gate : c.sink.gate = .guarded (.threshold limit)) (guarded : Bool)
    (event : ε) (expired : Bool) :
    c.step (.enqueue guarded event) expired =
      let result := c.queue.enqueue (c.admission guarded) event
      (c.offered guarded 1 result.1 result.2.isOk).finish (.enqueued result.2)
        (if result.2.isOk then publishedSignals 1 else []) := by
  cases guarded with
  | false => rfl
  | true =>
    simp only [step, Sink.enqueue, Sink.settle, gateAfter_threshold gate, if_true]
    rfl

theorem step_enqueueMany_threshold (gate : c.sink.gate = .guarded (.threshold limit))
    (guarded : Bool) (events : List ε) (expired : Bool) :
    c.step (.enqueueMany guarded events) expired =
      let result := c.queue.enqueueMany (c.admission guarded) events
      (c.offered guarded events.length result.1 result.2.isOk).finish (.enqueuedMany result.2)
        (if result.2.isOk then publishedSignals events.length else []) := by
  cases guarded with
  | false => rfl
  | true =>
    simp only [step, Sink.enqueueMany, Sink.settle, gateAfter_threshold gate, ite_self, if_true]
    rfl

theorem step_prepare_threshold (gate : c.sink.gate = .guarded (.threshold limit))
    (guarded : Bool) (events : List ε) (expired : Bool) :
    c.step (.prepare guarded events) expired =
      let result := c.queue.prepare (c.admission guarded) events
      (c.offered guarded events.length result.1 result.2.isOk).finish (.prepared result.2) [] := by
  cases guarded with
  | false => rfl
  | true =>
    simp only [step, Sink.prepare, Sink.settle, gateAfter_threshold gate, ite_self, if_true]
    rfl

theorem progress_offer (c : Channel α ε) (event : ε) (expired : Bool) :
    (c.step (.offer event) expired).progress =
      match (c.queue.offer? event expired).2 with
      | none => .sleep .notFull
      | some answer => .done (.enqueued answer) := by
  simp only [step]
  cases (c.queue.offer? event expired).2 <;> rfl

/-- **A step on a channel with more room reserved** does what it does on the channel itself,
    unless it is refused or sleeps for want of room. -/
theorem step_reserve (gate : c.sink.gate = .guarded (.threshold limit)) {call : Call ε}
    {expired : Bool} (settles : reservedRoom call.settled ≤ c.queue.reserved)
    (free : Unhindered ((c.reserve count).step call expired).progress.refusal?)
    (awake : ((c.reserve count).step call expired).progress ≠ .sleep .notFull) :
    (c.reserve count).step call expired =
      { c.step call expired with channel := (c.step call expired).channel.reserve count } := by
  have gate' : (c.reserve count).sink.gate = .guarded (.threshold limit) := gate
  cases call with
  | enqueue guarded event =>
    rw [step_enqueue_threshold gate'] at free ⊢
    have same : (c.reserve count).queue.enqueue (c.admission guarded) event =
        Queue.reserveFst count (c.queue.enqueue (c.admission guarded) event) :=
      Queue.enqueue_reserve (antitone_admission gate guarded) free
    rw [step_enqueue_threshold gate, show (c.reserve count).admission = c.admission from rfl, same]
    rfl
  | enqueueMany guarded events =>
    rw [step_enqueueMany_threshold gate'] at free ⊢
    have same : (c.reserve count).queue.enqueueMany (c.admission guarded) events =
        Queue.reserveFst count (c.queue.enqueueMany (c.admission guarded) events) :=
      Queue.enqueueMany_reserve (antitone_admission gate guarded) free
    rw [step_enqueueMany_threshold gate, show (c.reserve count).admission = c.admission from rfl,
      same]
    rfl
  | prepare guarded events =>
    rw [step_prepare_threshold gate'] at free ⊢
    have same : (c.reserve count).queue.prepare (c.admission guarded) events =
        Queue.reserveFst count (c.queue.prepare (c.admission guarded) events) :=
      Queue.prepare_reserve (antitone_admission gate guarded) free
    rw [step_prepare_threshold gate, show (c.reserve count).admission = c.admission from rfl, same]
    rfl
  | commit t =>
    rw [Call.settled, reservedRoom_singleton] at settles
    have same : (c.reserve count).queue.commit t = Queue.reserveFst count (c.queue.commit t) :=
      Queue.commit_reserve settles
    simp only [step, same]
    rfl
  | release t =>
    rw [Call.settled, reservedRoom_singleton] at settles
    have same : (c.reserve count).queue.release t = (c.queue.release t).reserve count :=
      Queue.release_reserve settles
    simp only [step, same]
    rfl
  | offer event =>
    have same : (c.reserve count).queue.offer? event expired =
        Queue.reserveFst count (c.queue.offer? event expired) := by
      refine Queue.offer?_reserve (fun answer offered => ?_) fun offered => ?_
      · rw [progress_offer, show ((c.reserve count).queue.offer? event expired).2 = _ from offered]
          at free
        exact free
      · rw [progress_offer, show ((c.reserve count).queue.offer? event expired).2 = _ from offered]
          at awake
        exact awake rfl
    simp only [step, same]
    rcases c.queue.offer? event expired with ⟨queue, answer⟩
    cases answer <;> rfl
  | dequeue =>
    have same : (c.reserve count).queue.dequeue = Queue.reserveFst count c.queue.dequeue :=
      Queue.dequeue_reserve
    simp only [step, same]
    rfl
  | dequeueAll | dequeueUpTo | close => rfl
  | poll most =>
    have same : (c.reserve count).queue.poll? most expired =
        Queue.reserveFst count (c.queue.poll? most expired) := Queue.poll?_reserve most expired
    simp only [step, same]
    rcases c.queue.poll? most expired with ⟨queue, answer⟩
    rcases answer with _ | _ | _ | _ <;> rfl
  | fetch state dropped =>
    cases state with
    | takeSlot => exact takeSlot_reserve count c dropped expired
    | takeEvents => exact takeEvents_reserve count c dropped expired
    | returnSlot answer =>
      simp only [step, fetchStep, releaseSlot_reserve]
      rfl
  | complete completion reply =>
    cases completion with
    | freesSlot =>
      simp only [step, complete, releaseSlot_reserve]
      rfl
    | nothing | counts => rfl

end Channel

/-! ## Courses without a reservation -/

instance (refusal? : Option QueueError) : Decidable (Unhindered refusal?) :=
  inferInstanceAs (Decidable (_ ∧ _))

namespace Queue

theorem release_reserve_self (q : Queue ε) {events : List ε} :
    (q.reserve events.length).release ⟨events⟩ = q := by
  show ({ q with reserved := q.reserved + events.length - events.length } : Queue ε) = q
  rw [Nat.add_sub_cancel]

theorem answer_commit (t : Transaction ε) (q : Queue ε) :
    (q.commit t).2 = if q.closed then .error ⟨.closed, t.events⟩ else .ok () := by
  cases closed : q.closed with
  | true => rw [commit_of_closed closed, if_pos rfl]
  | false => rw [commit_of_open closed, if_neg Bool.false_ne_true]

/-- To commit what was reserved is to publish it at once without the reservation. -/
theorem commit_reserve_self {q : Queue ε} {events : List ε}
    (fits : (q.reserve events.length).Fits) :
    (q.reserve events.length).commit ⟨events⟩ = q.enqueueMany .all events := by
  cases closed : q.closed with
  | true =>
    rw [commit_of_closed (q := q.reserve events.length) closed, release_reserve_self]
    simp only [enqueueMany, closed, if_true]
  | false =>
    rw [commit_of_open (q := q.reserve events.length) closed, release_reserve_self]
    cases events with
    | nil => simp [enqueueMany, closed]
    | cons event rest =>
      have room : q.hasRoom (event :: rest).length = true := by
        unfold hasRoom
        split
        · rfl
        · rename_i most bounded
          have := fits most bounded
          simp only [occupancy, reserve] at this
          exact decide_eq_true (by simp only [occupancy]; omega)
      have letIn : q.refusal? .all (event :: rest).length = none :=
        (refusal?_eq_none_iff q .all _).2 ⟨closed, rfl, room⟩
      simp only [enqueueMany, closed, letIn, List.isEmpty_cons, Bool.false_eq_true, if_false]

end Queue

variable [Quantity α] {limit : ℤ} {count : ℕ}

namespace Channel

variable {c d : Channel α ε}

omit [Quantity α] in
theorem uncounted_ext (queue : c.queue = d.queue) (gate : c.sink.gate = d.sink.gate)
    (sorter : c.sorter = d.sorter) : c.uncounted = d.uncounted := by
  obtain ⟨⟨_, _, _⟩, _⟩ := c
  obtain ⟨⟨_, _, _⟩, _⟩ := d
  obtain rfl : _ = _ := queue
  obtain rfl : _ = _ := gate
  obtain rfl : _ = _ := sorter
  rfl

/-- The queue, the gate and the sorter are all that is seen. -/
theorem seen_withQueue (gate : c.sink.gate = d.sink.gate) (sorter : c.sorter = d.sorter)
    (queue : Queue ε) (later : List (Doing α ε)) :
    seen later (c.withQueue queue) = seen later (d.withQueue queue) :=
  seen_congr (uncounted_ext (c := c.withQueue queue) (d := d.withQueue queue) rfl gate sorter)
    later

/-- A step that finds its call asleep leaves the channel as it was. -/
theorem uncounted_of_sleep (gate : c.sink.gate = .guarded (.threshold limit)) {call : Call ε}
    {expired : Bool} {on : Condition} (asleep : (c.step call expired).progress = .sleep on) :
    call.wants = some on ∧ (c.step call expired).channel.uncounted = c.uncounted := by
  have effect := c.step_effect call expired
  have kept := gate_step gate call expired
  refine ⟨(effect.sleeps asleep).1, ?_⟩
  generalize c.step call expired = o at effect asleep kept
  generalize call.published o.progress = published at effect
  generalize call.taken o.progress = taken at effect
  cases effect with
  | vain _ _ awake | take _ _ _ _ _ _ _ awake => exact absurd asleep (awake on)
  | sleep _ queue sorter => exact uncounted_ext queue kept sorter
  | publish | reserve | free | close | takeSlot | giveSlot => exact absurd asleep (by simp)

theorem reserve_of_prepared (gate : c.sink.gate = .guarded (.threshold limit)) {guarded : Bool}
    {events : List ε} {t : Transaction ε}
    (prepared : (c.step (.prepare guarded events) false).progress = .done (.prepared (.ok t))) :
    t = ⟨events⟩ ∧ (c.step (.prepare guarded events) false).channel.uncounted =
      (c.reserve events.length).uncounted := by
  rw [step_prepare_threshold gate] at prepared ⊢
  rcases Queue.prepare_cases (c.admission guarded) events c.queue with ⟨h, -⟩ | ⟨cause, h⟩
  · simp only [h] at prepared ⊢
    exact ⟨(Except.ok.inj (Reply.prepared.inj (Progress.done.inj prepared))).symm, rfl⟩
  · simp only [h] at prepared
    exact absurd (Reply.prepared.inj (Progress.done.inj prepared)) (by simp)

end Channel

/-- **A course without a reservation.** What was done while room was reserved, and did not fail
    for want of it, is done in the same way without the reservation. A producer who waited for
    room need not have come before there was room. -/
theorem Course.without_reservation {p q : Position α ε} {acts : List (Act ε)}
    (course : Course p acts q) (free : ∀ a ∈ acts, Unhindered a.progress.refusal?)
    {d : Channel α ε} (gate : d.sink.gate = .guarded (.threshold limit))
    (balanced : Position.Balanced ⟨d, p.pending⟩)
    (ahead : p.channel.uncounted = (d.reserve count).uncounted) :
    ∃ d', Course ⟨d, p.pending⟩ (acts.filter fun a => !a.waits) ⟨d', q.pending⟩ ∧
      q.channel.uncounted = (d'.reserve count).uncounted := by
  induction course generalizing d with
  | nil => exact ⟨d, .nil, ahead⟩
  | @cons p q call expired pending acts books others ih =>
    have same : (p.channel.step call expired).uncounted =
        ((d.reserve count).step call expired).uncounted := by
      rw [← Channel.step_uncounted, ahead, Channel.step_uncounted]
    have answer : (p.channel.step call expired).progress =
        ((d.reserve count).step call expired).progress := by
      have := congrArg Outcome.progress same
      exact this
    have left : (p.channel.step call expired).channel.uncounted =
        ((d.reserve count).step call expired).channel.uncounted := by
      have := congrArg Outcome.channel same
      exact this
    have free' := (List.forall_mem_cons.1 free).2
    cases waits : (⟨call, expired, (p.channel.step call expired).progress⟩ : Act ε).waits with
    | true =>
      -- a waiting producer changes nothing, and is left out
      have asleep : ((d.reserve count).step call expired).progress = .sleep .notFull := by
        rw [← answer]
        unfold Act.waits at waits
        split at waits
        · assumption
        · exact absurd waits Bool.false_ne_true
      obtain ⟨wants, still⟩ := Channel.uncounted_of_sleep (c := d.reserve count) gate asleep
      obtain ⟨event, rfl⟩ : ∃ event, call = .offer event := by
        cases call with
        | offer event => exact ⟨event, rfl⟩
        | fetch state => cases state <;> exact absurd wants (by simp [Call.wants])
        | _ => exact absurd wants (by simp [Call.wants])
      obtain rfl : pending = p.pending := by
        have books : pending + 0 = p.pending + 0 := books
        rwa [add_zero, add_zero] at books
      rw [List.filter_cons_of_neg (by rw [waits]; decide)]
      exact ih free' gate balanced (left.trans still)
    | false =>
      have awake : ((d.reserve count).step call expired).progress ≠ .sleep .notFull := by
        rw [← answer]
        intro asleep
        rw [Act.waits, asleep] at waits
        exact absurd waits (by simp)
      have unhindered : Unhindered ((d.reserve count).step call expired).progress.refusal? := by
        rw [← answer]
        exact (List.forall_mem_cons.1 free).1
      have settles : reservedRoom call.settled ≤ d.queue.reserved := balanced.covers books
      have step := Channel.step_reserve gate settles unhindered awake
      rw [step] at answer left
      have books' : pending + call.settled =
          p.pending + call.opened (d.step call expired).progress := by
        rw [books, answer]
      have balanced' := balanced.step books'
      obtain ⟨d', course', ahead'⟩ :=
        ih free' ((Channel.gate_step gate call expired).trans gate) balanced' left
      rw [List.filter_cons_of_pos (by rw [waits]; decide), answer]
      exact ⟨d', .cons books' course', ahead'⟩

/-- **A transaction is a deferred enqueue, or nothing.** Take a course in which a transaction
    is prepared on a queue behind a threshold that no one turns, and in which, until it is
    settled, no call fails for want of room or admission. Without the preparation every other
    call has the same answer, where a producer who waited for room comes when there is some.
    To commit the transaction then has the answer of an `enqueueMany` of its events, and
    leaves the same queue; to release it leaves the queue as it is then without the
    preparation. Whatever is done later has the same results. -/
theorem transaction_deferred {p q : Position α ε} (reached : p.Reached)
    (gate : p.channel.sink.gate = .guarded (.threshold limit)) {guarded : Bool}
    {events : List ε} {t : Transaction ε}
    (prepared : (p.channel.step (.prepare guarded events) false).progress =
      .done (.prepared (.ok t)))
    {between : List (Act ε)}
    (course : Course ⟨(p.channel.step (.prepare guarded events) false).channel, p.pending⟩
      between q)
    (free : ∀ a ∈ between, Unhindered a.progress.refusal?) :
    t = ⟨events⟩ ∧
    ∃ d : Channel α ε, Course p (between.filter fun a => !a.waits) ⟨d, q.pending⟩ ∧
      (let committed := q.channel.step (.commit t) false
       let published := d.step (.enqueueMany false events) false
       committed.progress = published.progress ∧
       committed.progress = .done (.enqueuedMany
         (if q.channel.queue.closed then .error ⟨.closed, events⟩ else .ok ())) ∧
       committed.channel.queue = published.channel.queue ∧
       ∀ later, Channel.seen later committed.channel = Channel.seen later published.channel) ∧
      (let released := q.channel.step (.release t) false
       released.channel.queue = d.queue ∧
       ∀ later, Channel.seen later released.channel = Channel.seen later d) := by
  obtain ⟨rfl, reserved⟩ := Channel.reserve_of_prepared gate prepared
  have balanced : Position.Balanced ⟨p.channel, p.pending⟩ := reached.balanced
  obtain ⟨d, course', ahead⟩ := course.without_reservation free gate balanced reserved
  have queue : q.channel.queue = d.queue.reserve events.length :=
    congrArg (fun c => c.sink.queue) ahead
  have same : q.channel.sink.gate = d.sink.gate := congrArg (fun c => c.sink.gate) ahead
  have sorter : q.channel.sorter = d.sorter := congrArg (fun c => c.sorter) ahead
  -- with its transaction the queue fits
  have opened : Position.Balanced
      ⟨(p.channel.step (.prepare guarded events) false).channel, p.pending + {⟨events⟩}⟩ := by
    refine balanced.step ?_
    rw [prepared]
    exact add_zero _
  have fits : (d.queue.reserve events.length).Fits := by
    rw [← queue]
    exact ((course.frame {⟨events⟩}).balanced opened).fits
  have commit : q.channel.queue.commit ⟨events⟩ = d.queue.enqueueMany .all events := by
    rw [queue]
    exact Queue.commit_reserve_self fits
  have released : q.channel.queue.release ⟨events⟩ = d.queue := by
    rw [queue]
    exact d.queue.release_reserve_self
  refine ⟨rfl, d, course', ⟨?_, ?_, ?_, fun later => ?_⟩, released, fun later => ?_⟩
  · show Progress.done (Reply.enqueuedMany (q.channel.queue.commit ⟨events⟩).2) =
      Progress.done (Reply.enqueuedMany (d.queue.enqueueMany .all events).2)
    rw [commit]
  · show Progress.done (Reply.enqueuedMany (q.channel.queue.commit ⟨events⟩).2) = _
    rw [Queue.answer_commit]
  · exact congrArg Prod.fst commit
  · show Channel.seen later (q.channel.withQueue (q.channel.queue.commit ⟨events⟩).1) =
      Channel.seen later (d.withQueue (d.queue.enqueueMany .all events).1)
    rw [commit]
    exact Channel.seen_withQueue same sorter _ later
  · show Channel.seen later (q.channel.withQueue (q.channel.queue.release ⟨events⟩)) = _
    rw [released]
    exact Channel.seen_withQueue same sorter d.queue later

/-! ## A transaction that fills the queue -/

/-- There is room for three events, and the threshold is three too. -/
def threefold : Channel ℚ ℕ :=
  { sink :=
      { queue := .withCapacity (some 3), gate := .guarded (.threshold 3), stats := .new }
    sorter := .drainAll }

/-- While room for two events is reserved, a producer has to wait until an event is taken. The
    transaction is then committed. -/
theorem transaction_deferred_waiting : ∃ p q : Position ℚ ℕ,
    let between : List (Act ℕ) := [⟨.offer 9, false, .sleep .notFull⟩,
      ⟨.dequeue, false, .done (.event (some 1))⟩, ⟨.offer 9, false, .done (.enqueued (.ok ()))⟩]
    p.Reached ∧ p.channel.sink.gate = .guarded (.threshold 3) ∧
    (p.channel.step (.prepare true [2, 3]) false).progress = .done (.prepared (.ok ⟨[2, 3]⟩)) ∧
    Course ⟨(p.channel.step (.prepare true [2, 3]) false).channel, p.pending⟩ between q ∧
    (∀ a ∈ between, Unhindered a.progress.refusal?) ∧
    ∃ d : Channel ℚ ℕ, Course p between.tail ⟨d, q.pending⟩ ∧
      (q.channel.step (.commit ⟨[2, 3]⟩) false).progress =
        (d.step (.enqueueMany false [2, 3]) false).progress ∧
      (q.channel.step (.commit ⟨[2, 3]⟩) false).channel.queue =
        (d.step (.enqueueMany false [2, 3]) false).channel.queue := by
  have reached : Position.Reached ⟨(threefold.step (.enqueue true 1) false).channel, 0⟩ :=
    ⟨threefold, some 3, [_], rfl, .cons rfl .nil⟩
  let between : List (Act ℕ) := [⟨.offer 9, false, .sleep .notFull⟩,
    ⟨.dequeue, false, .done (.event (some 1))⟩, ⟨.offer 9, false, .done (.enqueued (.ok ()))⟩]
  have course : Course ⟨((threefold.step (.enqueue true 1) false).channel.step
      (.prepare true [2, 3]) false).channel, 0⟩ between ⟨_, 0⟩ :=
    .cons rfl (.cons rfl (.cons rfl .nil))
  have free : ∀ a ∈ between, Unhindered a.progress.refusal? := by decide
  obtain ⟨-, d, course', ⟨answer, -, queue, -⟩, -⟩ :=
    transaction_deferred reached rfl rfl course free
  exact ⟨_, _, reached, rfl, rfl, course, free, d, course', answer, queue⟩

end StagedEvents
