import StagedEvents.Proofs.Exchange.Draining

/-!
# Who is alone with a channel

A client who is alone with a channel takes one step after the other until its call is over, or
until it sleeps and time passes. What comes of a fetch then depends on the queue: a batch of the
first events, or none once the time is over, or that the queue is closed. A batch takes a slot
that its completion gives back, and a fetch without a batch leaves the channel as it was.

* `Exchange.Settles`: the steps of a client, and how many of them there are at most.
* `perform_fetch_some`, `perform_fetch_closed`, `perform_fetch_none`, `perform_fetch_never`: what
  comes of a fetch.
* `perform_complete`: what comes of a completion.
-/

namespace StagedEvents

variable {α ε : Type}

/-! ## The steps of a fetch -/

namespace Channel

variable {c : Channel α ε}

/-- The channel after one more slot is taken, if it has slots. -/
def slotTaken (c : Channel α ε) : Channel α ε :=
  match c.sorter with
  | .drainAll => c
  | .throttled slots => { c with sorter := .throttled { slots with used := slots.used + 1 } }

theorem queue_slotTaken (c : Channel α ε) : c.slotTaken.queue = c.queue := by
  obtain ⟨sink, sorter⟩ := c
  cases sorter with
  | drainAll | throttled => rfl

theorem maxBatch?_slotTaken (c : Channel α ε) :
    c.slotTaken.sorter.maxBatch? = c.sorter.maxBatch? := by
  obtain ⟨sink, sorter⟩ := c
  cases sorter with
  | drainAll | throttled => rfl

theorem batchCompletion_slotTaken (c : Channel α ε) :
    c.slotTaken.batchCompletion = c.batchCompletion := by
  obtain ⟨sink, sorter⟩ := c
  cases sorter with
  | drainAll | throttled => rfl

/-- A slot that is taken and given back leaves the channel as it was. -/
theorem releaseSlot_slotTaken (c : Channel α ε) : c.slotTaken.releaseSlot = c := by
  obtain ⟨sink, sorter⟩ := c
  cases sorter with
  | drainAll | throttled => rfl

theorem takeSlot_of_hasSlot (free : c.HasSlot) (dropped expired : Bool) :
    c.takeSlot dropped expired = ⟨c.slotTaken, .next (.fetch .takeEvents dropped), [], []⟩ := by
  obtain ⟨sink, sorter⟩ := c
  cases sorter with
  | drainAll => rfl
  | throttled slots =>
    have some : slots.take? = some { slots with used := slots.used + 1 } := by
      have := free slots rfl
      exact if_neg (by omega)
    simp only [takeSlot, some]
    rfl

/-- The batch that a fetch would have. -/
def firstBatch (c : Channel α ε) : Batch ε :=
  { events := firstOf c.sorter.maxBatch? c.queue.events, completion := c.batchCompletion }

/-- The channel without the events of that batch. -/
def withoutFirst (c : Channel α ε) : Channel α ε :=
  c.withQueue { c.queue with events := restOf c.sorter.maxBatch? c.queue.events }

theorem takeEvents_some (greedy : c.sorter.maxBatch? ≠ some 0) (left : c.queue.events ≠ [])
    (expired : Bool) :
    c.takeEvents false expired =
      ⟨c.withoutFirst, .done (.fetched (.ok (some c.firstBatch))), [⟨.notFull, true⟩], []⟩ := by
  have answer := Queue.poll?_of_events left c.sorter.maxBatch? expired
  obtain ⟨event, rest, first⟩ := List.exists_cons_of_ne_nil (firstOf_ne_nil greedy left)
  unfold firstBatch
  rw [first] at answer ⊢
  simp only [takeEvents, answer]
  rfl

theorem takeEvents_closed (closed : c.queue.closed = true) (drained : c.queue.events = [])
    (expired : Bool) :
    c.takeEvents false expired = c.fetchedNothing false (.error .closed) := by
  simp only [takeEvents, Queue.poll?_of_closed closed drained]
  rfl

theorem takeEvents_open (isOpen : c.queue.closed = false) (drained : c.queue.events = []) :
    c.takeEvents false false = ⟨c, .sleep .notEmpty, [], []⟩ ∧
    c.takeEvents false true = c.fetchedNothing false (.ok none) := by
  have answer (expired : Bool) : c.queue.poll? c.sorter.maxBatch? expired =
      (c.queue, if expired then some (.ok []) else none) := by
    unfold Queue.poll?
    rw [drained, isOpen]
    rfl
  constructor
  · simp only [takeEvents, answer]
    rfl
  · simp only [takeEvents, answer]
    rfl

/-- A batch that is completed leaves the channel without its events. -/
theorem step_complete_slotTaken [Quantity α] (c : Channel α ε) :
    ∃ late, c.slotTaken.withoutFirst.step (.complete c.batchCompletion .done) false =
      ⟨c.withoutFirst, .done .done, [], late⟩ := by
  obtain ⟨sink, sorter⟩ := c
  cases sorter with
  | drainAll => exact ⟨[], rfl⟩
  | throttled slots => exact ⟨[⟨.slotFreed, false⟩], rfl⟩

end Channel

/-! ## The steps of a client -/

namespace Exchange

variable [Quantity α] {x y z : Exchange α ε} {n : ℕ}

/-- Steps of the first client that can take one lead from `x` to `y`, where no client can, and
    there are at most `n` of them. -/
inductive Settles : Exchange α ε → ℕ → Exchange α ε → Prop where
  | rest {x : Exchange α ε} {n : ℕ} (still : x.stepFirst? = none) : Settles x n x
  | step {x y z : Exchange α ε} {n : ℕ} (stepped : x.stepFirst? = some y)
      (later : Settles y n z) : Settles x (n + 1) z

theorem Settles.settleWithin_eq (h : Settles x n y) {fuel : ℕ} (enough : n ≤ fuel) :
    x.settleWithin fuel = y := by
  induction h generalizing fuel with
  | @rest x n still =>
    cases fuel with
    | zero => rfl
    | succ fuel => rw [settleWithin, still]
  | step stepped _ ih =>
    obtain ⟨fuel, rfl⟩ := Nat.exists_eq_add_one_of_ne_zero (by omega : fuel ≠ 0)
    rw [settleWithin, stepped]
    exact ih (by omega)

/-- The program's bound on steps is enough for one client. -/
theorem Settles.settle_eq (h : Settles x n y) (few : n ≤ 16) : x.settle = y := by
  refine h.settleWithin_eq (few.trans ?_)
  rw [Nat.mul_assoc]
  exact Nat.le_mul_of_pos_right 16 (Nat.mul_pos (Nat.succ_pos _) (Nat.succ_pos _))

/-- A client who is alone with a channel. -/
def alone (channel : Channel α ε) (c : Client ε) (clock : ℕ) : Exchange α ε :=
  { channel, clients := [c], clock }

variable {c c' : Channel α ε} {call call' : Call ε} {expired : Bool} {reply : Reply ε}
  {prompt late : List Signal} {on : Condition} {id clock : ℕ} {deadline : Option ℕ}

omit [Quantity α] in
/-- Signals do not touch a client who is awake. -/
theorem foldl_signalClients_awake {d : Client ε} (awake : ∀ on, d.sleepsOn on = false)
    (signals : List Signal) :
    signals.foldl (fun clients s => signalClients s clients) [d] = [d] := by
  induction signals with
  | nil => rfl
  | cons s rest ih =>
    rw [List.foldl_cons, signalClients, awake s.on, if_neg Bool.false_ne_true]
    exact ih

theorem stepFirst?_alone (c : Channel α ε) (d : Client ε) (clock : ℕ) :
    (alone c d clock).stepFirst? = (alone c d clock).stepClient? d := by
  unfold stepFirst?
  show List.findSome? _ [d] = _
  rw [List.findSome?_cons, List.findSome?_nil]
  cases (alone c d clock).stepClient? d with
  | none => rfl
  | some => rfl

/-- A critical section, with the signals that the client sends in it. -/
theorem stepFirst?_ready (c : Channel α ε) (call : Call ε) (expired : Bool) (id : ℕ)
    (deadline : Option ℕ) (clock : ℕ) :
    (alone c ⟨id, .ready call expired, deadline⟩ clock).stepFirst? =
      some ⟨(c.step call expired).channel,
        (c.step call expired).prompt.foldl (fun clients s => signalClients s clients)
          [⟨id, (c.step call expired).phase call, deadline⟩], clock⟩ := by
  rw [stepFirst?_alone]
  simp only [stepClient?, runCall, alone, setPhase, List.map_cons, List.map_nil, if_true]
  rfl

theorem goes_next (h : c.step call expired = ⟨c', .next call', [], []⟩) :
    (alone c ⟨id, .ready call expired, deadline⟩ clock).stepFirst? =
      some (alone c' ⟨id, .ready call' false, deadline⟩ clock) := by
  rw [stepFirst?_ready, h]
  rfl

theorem goes_to_sleep (h : c.step call expired = ⟨c', .sleep on, [], []⟩) :
    (alone c ⟨id, .ready call expired, deadline⟩ clock).stepFirst? =
      some (alone c' ⟨id, .asleep call on, deadline⟩ clock) := by
  rw [stepFirst?_ready, h]
  rfl

theorem is_done (h : c.step call expired = ⟨c', .done reply, prompt, late⟩) :
    (alone c ⟨id, .ready call expired, deadline⟩ clock).stepFirst? =
      some (alone c' ⟨id, .after late reply, deadline⟩ clock) := by
  have awake (on : Condition) :
      (⟨id, .after late reply, deadline⟩ : Client ε).sleepsOn on = false := by
    unfold Phase.after
    cases late <;> rfl
  rw [stepFirst?_ready, h]
  exact congrArg _ (congrArg (Exchange.mk c' · clock) (foldl_signalClients_awake awake prompt))

/-- A sleeper whose time is over goes on as if it had been woken. -/
theorem goes_on (timeUp : (⟨id, .asleep call on, deadline⟩ : Client ε).isExpired clock = true) :
    (alone c ⟨id, .asleep call on, deadline⟩ clock).stepFirst? =
      (alone c ⟨id, .ready call true, deadline⟩ clock).stepFirst? := by
  rw [stepFirst?_alone, stepFirst?_alone]
  simp only [stepClient?, alone, timeUp, if_true, runCall, setPhase, List.map_cons, List.map_nil]

theorem settles_after (c : Channel α ε) (late : List Signal) :
    Settles (alone c ⟨id, .after late reply, deadline⟩ clock) 1
      (alone c ⟨id, .returned reply, deadline⟩ clock) := by
  cases late with
  | nil => exact .rest rfl
  | cons s rest =>
    refine .step (y := alone c ⟨id, .returned reply, deadline⟩ clock) ?_ (.rest rfl)
    rw [stepFirst?_alone]
    simp only [Phase.after, List.isEmpty_cons, Bool.false_eq_true, if_false, stepClient?, alone,
      setPhase, List.map_cons, List.map_nil, if_true]
    rw [signal]
    exact congrArg _ (congrArg (Exchange.mk c · clock)
      (foldl_signalClients_awake (fun _ => rfl) (s :: rest)))

/-! ## Until a call is over -/

theorem Settles.mono (h : Settles x n y) {m : ℕ} (le : n ≤ m) : Settles x m y := by
  induction h generalizing m with
  | rest still => exact .rest still
  | step stepped _ ih =>
    obtain ⟨m, rfl⟩ := Nat.exists_eq_add_one_of_ne_zero (by omega : m ≠ 0)
    exact .step stepped (ih (by omega))

/-- Whoever takes the same first step settles alike. -/
theorem Settles.congr (h : Settles x n z) (moves : x.stepFirst? ≠ none)
    (same : y.stepFirst? = x.stepFirst?) : Settles y n z := by
  cases h with
  | rest still => exact absurd still moves
  | step stepped later => exact .step (same.trans stepped) later

/-- A fetch that found no events gives its slot back, and leaves the channel as it was. -/
theorem settles_nothing {answer : Except QueueError (Option (Batch ε))}
    (found : c.slotTaken.takeEvents false expired = c.slotTaken.fetchedNothing false answer) :
    Settles (alone c.slotTaken ⟨id, .ready (.fetch .takeEvents false) expired, deadline⟩ clock) 3
      (alone c ⟨id, .returned (.fetched answer), deadline⟩ clock) := by
  have same := c.releaseSlot_slotTaken
  obtain ⟨sink, sorter⟩ := c
  cases sorter with
  | drainAll =>
    have done : Channel.step (.fetch .takeEvents false) expired ⟨sink, .drainAll⟩ =
        ⟨⟨sink, .drainAll⟩, .done (.fetched answer), [], []⟩ := found
    exact Settles.mono (.step (is_done done) (settles_after _ [])) (by omega)
  | throttled slots =>
    have done : Channel.step (.fetch (.returnSlot answer) false) false
        (Channel.slotTaken ⟨sink, .throttled slots⟩) =
        ⟨⟨sink, .throttled slots⟩, .done (.fetched answer), [], [⟨.slotFreed, false⟩]⟩ := by
      show Channel.finish (Channel.releaseSlot _) _ _ = _
      rw [same]
      rfl
    exact .step (goes_next found) (.step (is_done done) (settles_after _ _))

section Fetch

variable (free : c.HasSlot)

include free in
theorem looks_for_events :
    (alone c ⟨id, .ready (.fetch .takeSlot false) expired, deadline⟩ clock).stepFirst? =
      some (alone c.slotTaken ⟨id, .ready (.fetch .takeEvents false) false, deadline⟩ clock) :=
  goes_next (Channel.takeSlot_of_hasSlot free false expired)

include free in
theorem settles_some (greedy : c.sorter.maxBatch? ≠ some 0) (left : c.queue.events ≠ []) :
    Settles (alone c ⟨id, .ready (.fetch .takeSlot false) false, deadline⟩ clock) 3
      (alone c.slotTaken.withoutFirst
        ⟨id, .returned (.fetched (.ok (some c.firstBatch))), deadline⟩ clock) := by
  have same : c.slotTaken.firstBatch = c.firstBatch := by
    unfold Channel.firstBatch
    rw [Channel.maxBatch?_slotTaken, Channel.queue_slotTaken, Channel.batchCompletion_slotTaken]
  rw [← Channel.maxBatch?_slotTaken] at greedy
  rw [← Channel.queue_slotTaken] at left
  have done := Channel.takeEvents_some greedy left false
  rw [same] at done
  exact .step (looks_for_events free) (.step (is_done done) (settles_after _ _))

include free in
theorem settles_closed (closed : c.queue.closed = true) (drained : c.queue.events = []) :
    Settles (alone c ⟨id, .ready (.fetch .takeSlot false) false, deadline⟩ clock) 4
      (alone c ⟨id, .returned (.fetched (.error .closed)), deadline⟩ clock) := by
  rw [← Channel.queue_slotTaken] at closed drained
  exact .step (looks_for_events free)
    (settles_nothing (Channel.takeEvents_closed closed drained false))

variable (isOpen : c.queue.closed = false) (drained : c.queue.events = [])

include isOpen drained in
/-- A client who sleeps for want of events until its time is over has none. -/
theorem settles_sleeper
    (timeUp : (⟨id, .asleep (.fetch .takeEvents false) .notEmpty, deadline⟩ : Client ε).isExpired
      clock = true) :
    Settles
      (alone c.slotTaken ⟨id, .asleep (.fetch .takeEvents false) .notEmpty, deadline⟩ clock) 3
      (alone c ⟨id, .returned (.fetched (.ok none)), deadline⟩ clock) := by
  rw [← c.queue_slotTaken] at isOpen drained
  refine (settles_nothing (Channel.takeEvents_open isOpen drained).2).congr ?_ (goes_on timeUp)
  rw [stepFirst?_alone]
  exact Option.some_ne_none _

include free isOpen drained in
theorem goes_asleep {y : Exchange α ε}
    (settles : Settles
      (alone c.slotTaken ⟨id, .asleep (.fetch .takeEvents false) .notEmpty, deadline⟩ clock) n y) :
    Settles (alone c ⟨id, .ready (.fetch .takeSlot false) false, deadline⟩ clock) (n + 2) y := by
  rw [← c.queue_slotTaken] at isOpen drained
  exact .step (looks_for_events free)
    (.step (goes_to_sleep (Channel.takeEvents_open isOpen drained).1) settles)

end Fetch

theorem rests_asleep
    (timeLeft : (⟨id, .asleep call on, deadline⟩ : Client ε).isExpired clock = false) :
    (alone c ⟨id, .asleep call on, deadline⟩ clock).stepFirst? = none := by
  rw [stepFirst?_alone]
  simp only [stepClient?, alone, timeLeft, Bool.false_eq_true, if_false]

theorem awaitWithin_returned
    (h : Settles x n (alone c ⟨id, .returned reply, deadline⟩ clock)) (few : n ≤ 16)
    (fuel : ℕ) : x.awaitWithin id (fuel + 1) = (⟨c, [], clock⟩, some reply) := by
  rw [awaitWithin, h.settle_eq few]
  simp [alone, client?, Client.reply?, leave]

omit [Quantity α] in
theorem reply?_asleep (c : Channel α ε) (id : ℕ) (call : Call ε) (on : Condition)
    (deadline : Option ℕ) (clock : ℕ) :
    ((alone c ⟨id, .asleep call on, deadline⟩ clock).client? id).bind Client.reply? = none := by
  simp [alone, client?, Client.reply?]

theorem awaitWithin_asleep {alarm : ℕ}
    (h : Settles x n (alone c ⟨id, .asleep call on, some alarm⟩ clock)) (few : n ≤ 16)
    (fuel : ℕ) :
    x.awaitWithin id (fuel + 1) =
      (alone c ⟨id, .asleep call on, some alarm⟩ (max clock alarm)).awaitWithin id fuel := by
  rw [awaitWithin, h.settle_eq few]
  simp only [reply?_asleep]
  rfl

theorem awaitWithin_never (h : Settles x n (alone c ⟨id, .asleep call on, none⟩ clock))
    (few : n ≤ 16) (fuel : ℕ) :
    x.awaitWithin id (fuel + 1) = (alone c ⟨id, .asleep call on, none⟩ clock, none) := by
  rw [awaitWithin, h.settle_eq few]
  simp only [reply?_asleep]
  rfl

/-! ## Calls -/

theorem perform_alone (idle : x.clients = []) (call : Call ε) (patience : Span) :
    x.perform call patience =
      (alone x.channel ⟨1, .ready call false,
        if patience = .longest then none else some (x.clock + patience.nanos)⟩
          x.clock).awaitWithin 1 8 := by
  obtain ⟨channel, clients, clock⟩ := x
  obtain rfl := idle
  rfl

omit [Quantity α] in
theorem eq_of_idle (idle : x.clients = []) (channel : Channel α ε) :
    (⟨channel, [], x.clock⟩ : Exchange α ε) = { x with channel } := by
  rw [← idle]

/-- **A fetch has a batch** of the first events, if there are any. -/
theorem perform_fetch_some (idle : x.clients = []) (free : x.channel.HasSlot)
    (greedy : x.channel.sorter.maxBatch? ≠ some 0) (left : x.queue.events ≠ [])
    (patience : Span) :
    x.perform (.fetch .takeSlot false) patience =
      ({ x with channel := x.channel.slotTaken.withoutFirst },
        some (.fetched (.ok (some x.channel.firstBatch)))) := by
  rw [perform_alone idle, awaitWithin_returned (settles_some free greedy left) (by omega),
    eq_of_idle idle]

/-- **A fetch is told that the queue is closed**, if it is and has no events. -/
theorem perform_fetch_closed (idle : x.clients = []) (free : x.channel.HasSlot)
    (closed : x.queue.closed = true) (drained : x.queue.events = []) (patience : Span) :
    x.perform (.fetch .takeSlot false) patience = (x, some (.fetched (.error .closed))) := by
  rw [perform_alone idle, awaitWithin_returned (settles_closed free closed drained) (by omega),
    eq_of_idle idle]

/-- **A fetch has no batch** when its time is over, if the queue is open and has no events. -/
theorem perform_fetch_none (idle : x.clients = []) (free : x.channel.HasSlot)
    (isOpen : x.queue.closed = false) (drained : x.queue.events = []) {patience : Span}
    (finite : patience ≠ .longest) :
    x.perform (.fetch .takeSlot false) patience =
      ({ x with clock := x.clock + patience.nanos }, some (.fetched (.ok none))) := by
  have after : ({ x with clock := x.clock + patience.nanos } : Exchange α ε) =
      ⟨x.channel, [], x.clock + patience.nanos⟩ := by
    rw [← idle]
  rw [perform_alone idle, if_neg finite, after]
  by_cases zero : patience.nanos = 0
  · -- the time is over before anything happens
    have timeUp : (⟨1, .asleep (.fetch .takeEvents false) .notEmpty,
        some (x.clock + patience.nanos)⟩ : Client ε).isExpired x.clock = true :=
      decide_eq_true (by omega)
    rw [awaitWithin_returned
      (goes_asleep free isOpen drained (settles_sleeper isOpen drained timeUp)) (by omega), zero]
    rfl
  · have timeLeft : (⟨1, .asleep (.fetch .takeEvents false) .notEmpty,
        some (x.clock + patience.nanos)⟩ : Client ε).isExpired x.clock = false :=
      decide_eq_false (by omega)
    have timeUp : (⟨1, .asleep (.fetch .takeEvents false) .notEmpty,
        some (x.clock + patience.nanos)⟩ : Client ε).isExpired
          (max x.clock (x.clock + patience.nanos)) = true :=
      decide_eq_true (le_max_right _ _)
    have later : max x.clock (x.clock + patience.nanos) = x.clock + patience.nanos :=
      max_eq_right (Nat.le_add_right _ _)
    rw [awaitWithin_asleep
        (goes_asleep free isOpen drained (n := 0) (.rest (rests_asleep timeLeft))) (by omega),
      awaitWithin_returned (settles_sleeper isOpen drained timeUp) (by omega), later]

/-- **A fetch never ends** without a bound on its time, if the queue is open and has no
    events. -/
theorem perform_fetch_never (idle : x.clients = []) (free : x.channel.HasSlot)
    (isOpen : x.queue.closed = false) (drained : x.queue.events = []) :
    (x.perform (.fetch .takeSlot false) .longest).2 = none := by
  rw [perform_alone idle, if_pos rfl, awaitWithin_never
    (goes_asleep free isOpen drained (n := 0) (.rest (rests_asleep rfl))) (by omega)]

/-- **A completion** gives the slot of a batch back, if it has one. -/
theorem perform_complete (idle : x.clients = []) (c : Channel α ε) (patience : Span) :
    ({ x with channel := c.slotTaken.withoutFirst } : Exchange α ε).perform
      (.complete c.batchCompletion .done) patience =
        ({ x with channel := c.withoutFirst }, some .done) := by
  obtain ⟨late, done⟩ := c.step_complete_slotTaken
  rw [perform_alone (x := { x with channel := c.slotTaken.withoutFirst }) idle,
    awaitWithin_returned (.step (is_done done) (settles_after _ _)) (by omega), eq_of_idle idle]

end Exchange

end StagedEvents
