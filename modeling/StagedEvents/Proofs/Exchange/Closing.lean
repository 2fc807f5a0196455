import StagedEvents.Proofs.Exchange.Serving
import StagedEvents.Proofs.Exchange.WakeUp

/-!
# What a closed queue tells those who fetch

When the queue is closed and has no events left, a fetch that is past the slots is told so. It
has three steps to go at most, none of them is a sleep, and whatever others do does not keep it
from them. A fetch that looks for a slot gets there if there is one. But no one tells a fetch
that sleeps for want of a slot: it goes on sleeping until a slot comes back or its time is over,
and then it is told that there were no events.

* `Phase.untilClosed?`: how many steps a fetch has to go.
* `Exchange.Ends`: a client is past the slots, and has a number of steps to go at most.
* `closed_fetch_ends`: those who are told, and `closed_fetch_waits`: one who is not.
-/

namespace StagedEvents

variable {α ε : Type}

/-- Whether a fetch was told that the queue is closed. -/
def Reply.tellsClosed : Reply ε → Bool
  | .fetched (.error .closed) => true
  | _ => false

/-- How many steps a fetch has to go until it is told that the queue is closed, if that is all
    that is left to it. -/
def Phase.untilClosed? : Phase ε → Option ℕ
  | .ready (.fetch .takeEvents _) _ => some 3
  | .ready (.fetch (.returnSlot answer) _) _ =>
    if (Reply.fetched answer).tellsClosed then some 2 else none
  | .owing _ reply => if reply.tellsClosed then some 1 else none
  | .returned reply => if reply.tellsClosed then some 0 else none
  | _ => none

theorem Phase.tells_of_returnSlot {answer : Except QueueError (Option (Batch ε))}
    {dropped expired : Bool} {n : ℕ}
    (h : (Phase.ready (.fetch (.returnSlot answer) dropped) expired).untilClosed? = some n) :
    (Reply.fetched answer).tellsClosed = true ∧ n = 2 := by
  unfold untilClosed? at h
  obtain ⟨tells, two⟩ := Option.ite_none_right_eq_some.1 h
  exact ⟨tells, (Option.some.inj two).symm⟩

theorem Phase.tells_of_owing {signals : List Signal} {reply : Reply ε} {n : ℕ}
    (h : (Phase.owing signals reply).untilClosed? = some n) :
    reply.tellsClosed = true ∧ n = 1 := by
  unfold untilClosed? at h
  obtain ⟨tells, one⟩ := Option.ite_none_right_eq_some.1 h
  exact ⟨tells, (Option.some.inj one).symm⟩

theorem Phase.tells_of_returned {reply : Reply ε} {n : ℕ}
    (h : (Phase.returned reply).untilClosed? = some n) : reply.tellsClosed = true ∧ n = 0 := by
  unfold untilClosed? at h
  obtain ⟨tells, none⟩ := Option.ite_none_right_eq_some.1 h
  exact ⟨tells, (Option.some.inj none).symm⟩

theorem Phase.untilClosed?_after (signals : List Signal) {reply : Reply ε}
    (tells : reply.tellsClosed = true) :
    ∃ m ≤ 1, (Phase.after signals reply).untilClosed? = some m := by
  cases signals with
  | nil => exact ⟨0, Nat.zero_le 1, if_pos tells⟩
  | cons => exact ⟨1, le_rfl, if_pos tells⟩

theorem Reply.eq_of_tellsClosed {reply : Reply ε} (tells : reply.tellsClosed = true) :
    reply = .fetched (.error .closed) := by
  unfold tellsClosed at tells
  split at tells
  · rfl
  · exact absurd tells Bool.false_ne_true

theorem Phase.eq_of_untilClosed?_eq_zero {phase : Phase ε} (h : phase.untilClosed? = some 0) :
    phase = .returned (.fetched (.error .closed)) := by
  cases phase with
  | ready call expired =>
    cases call with
    | fetch state dropped =>
      cases state with
      | takeSlot | takeEvents => exact absurd h (by simp [untilClosed?])
      | returnSlot => exact absurd (tells_of_returnSlot h).2 (by simp)
    | _ => exact absurd h (by simp [untilClosed?])
  | asleep => exact absurd h (by simp [untilClosed?])
  | owing => exact absurd (tells_of_owing h).2 (by simp)
  | returned reply => rw [Reply.eq_of_tellsClosed (tells_of_returned h).1]

theorem Queue.poll?_of_closed {q : Queue ε} (closed : q.closed = true) (drained : q.events = [])
    (most : Option ℕ) (expired : Bool) : q.poll? most expired = (q, some (.error .closed)) := by
  unfold poll?
  rw [drained, closed]
  rfl

namespace Channel

variable {c : Channel α ε}

/-- Whoever looks for events goes on to be told that there will be none. -/
theorem untilClosed_takeEvents (closed : c.queue.closed = true) (drained : c.queue.events = [])
    (dropped expired : Bool) :
    ∃ m < 3, ((c.takeEvents dropped expired).phase (.fetch .takeEvents dropped)).untilClosed? =
      some m ∧ (c.takeEvents dropped expired).prompt = [] := by
  simp only [takeEvents, Queue.poll?_of_closed closed drained]
  unfold fetchedNothing
  split
  · exact ⟨0, by omega, rfl, rfl⟩
  · exact ⟨2, by omega, rfl, rfl⟩

variable [Quantity α]

/-- Nothing is published on a closed queue. -/
theorem published_of_closed (closed : c.queue.closed = true) (call : Call ε) (expired : Bool) :
    call.published (c.step call expired).progress = [] := by
  cases call with
  | enqueue guarded event =>
    obtain ⟨gate, sink, -, step⟩ := step_enqueue c guarded event expired
    rw [step, Queue.enqueue, Queue.refusal?_closed closed]
    rfl
  | enqueueMany guarded events =>
    obtain ⟨gate, sink, -, step⟩ := step_enqueueMany c guarded events expired
    rw [step, Queue.enqueueMany, closed]
    rfl
  | commit t =>
    show Call.published _ (.done (.enqueuedMany (c.queue.commit t).2)) = []
    rw [Queue.commit_of_closed closed]
    rfl
  | offer event =>
    simp only [step, Queue.offer?, Queue.refusal?_closed closed]
    rfl
  | _ => rfl

/-- A closed queue that is drained stays so. -/
theorem drained_step (closed : c.queue.closed = true) (drained : c.queue.events = [])
    (call : Call ε) (expired : Bool) : (c.step call expired).channel.queue.events = [] := by
  have contents := (c.step_effect call expired).contents
  rw [drained, published_of_closed closed] at contents
  exact (List.append_eq_nil_iff.1 contents).2

/-- **A step of a fetch that is past the slots** is a step towards its end. -/
theorem untilClosed_step (closed : c.queue.closed = true) (drained : c.queue.events = [])
    {call : Call ε} {expired : Bool} {n : ℕ}
    (h : (Phase.ready call expired).untilClosed? = some n) :
    ∃ m < n, ((c.step call expired).phase call).untilClosed? = some m ∧
      (c.step call expired).prompt = [] := by
  cases call with
  | fetch state dropped =>
    cases state with
    | takeSlot => exact absurd h (by simp [Phase.untilClosed?])
    | takeEvents =>
      obtain rfl := Option.some.inj h
      exact untilClosed_takeEvents closed drained dropped expired
    | returnSlot answer =>
      obtain ⟨tells, rfl⟩ := Phase.tells_of_returnSlot h
      obtain ⟨m, few, until'⟩ := Phase.untilClosed?_after [⟨.slotFreed, false⟩] tells
      exact ⟨m, by omega, until', rfl⟩
  | _ => exact absurd h (by simp [Phase.untilClosed?])

end Channel

/-- Whether a fetch would not have to wait for a slot. -/
def Channel.HasSlot (c : Channel α ε) : Prop :=
  ∀ slots, c.sorter = .throttled slots → slots.limit = 0 ∨ slots.used < slots.limit

theorem Channel.untilClosed_takeSlot {c : Channel α ε} (free : c.HasSlot)
    (dropped expired : Bool) :
    ((c.takeSlot dropped expired).phase (.fetch .takeSlot dropped)).untilClosed? = some 3 ∧
      (c.takeSlot dropped expired).prompt = [] := by
  unfold takeSlot
  split
  · exact ⟨rfl, rfl⟩
  · rename_i slots throttled
    have some : slots.take? = some { slots with used := slots.used + 1 } := by
      have := free slots throttled
      exact if_neg (by omega)
    rw [some]
    exact ⟨rfl, rfl⟩

/-! ## Others -/

/-- A client who is not asleep is the same after a signal. -/
theorem Heard.mem {s : Signal} {clients clients' : List (Client ε)}
    (h : Heard s clients clients') {c : Client ε} (mem : c ∈ clients) (up : c.awaken = c) :
    c ∈ clients' := by
  cases h with
  | all =>
    refine List.mem_map.2 ⟨c, mem, ?_⟩
    split
    · exact up
    · rfl
  | @one before after d =>
    rcases List.mem_append.1 mem with mem | mem
    · exact List.mem_append_left _ mem
    · rcases List.mem_cons.1 mem with rfl | mem
      · rw [up]
        simp
      · simp [mem]
  | lost => exact mem

theorem HeardAll.mem {signals : List Signal} {clients clients' : List (Client ε)}
    (h : HeardAll signals clients clients') {c : Client ε} (mem : c ∈ clients)
    (up : c.awaken = c) : c ∈ clients' := by
  induction h with
  | nil => exact mem
  | cons first _ ih => exact ih (first.mem mem up)

theorem awaken_of_untilClosed {c : Client ε} {n : ℕ} (h : c.phase.untilClosed? = some n) :
    c.awaken = c := by
  obtain ⟨id, phase, deadline⟩ := c
  cases phase with
  | asleep => exact absurd h (by simp [Phase.untilClosed?])
  | ready | owing | returned => rfl

namespace Exchange

/-- The call of a client has at most `n` steps to go until it is told that the queue is
    closed. -/
def Ends (id n : ℕ) (x : Exchange α ε) : Prop :=
  ∃ c ∈ x.clients, c.id = id ∧ ∃ m ≤ n, c.phase.untilClosed? = some m

/-- The queue is closed, and has no events. -/
structure Over (x : Exchange α ε) : Prop where
  closed : x.queue.closed = true
  drained : x.queue.events = []

variable {x y : Exchange α ε} {id n : ℕ}

/-- One client goes on and others hear its signals: those who were about to be told still are,
    and the client is if it was. -/
theorem Ends.replace (h : x.Ends id n) {before after : List (Client ε)} {c c' : Client ε}
    {signals : List Signal} (found : x.clients = before ++ c :: after)
    (heard : HeardAll signals (before ++ c' :: after) y.clients) (same : c'.id = c.id)
    (goesOn : ∀ m, c.phase.untilClosed? = some m →
      ∃ m' ≤ m, c'.phase.untilClosed? = some m') : y.Ends id n := by
  obtain ⟨d, mem, rfl, m, few, ends⟩ := h
  have stays {d' : Client ε} (mem' : d' ∈ before ++ c' :: after) {k : ℕ}
      (ends' : d'.phase.untilClosed? = some k) : d' ∈ y.clients :=
    heard.mem mem' (awaken_of_untilClosed ends')
  rw [found] at mem
  by_cases self : d = c
  · subst self
    obtain ⟨k, fewer, ends'⟩ := goesOn m ends
    exact ⟨c', stays (by simp) ends', same, k, fewer.trans few, ends'⟩
  · have mem' : d ∈ before ++ c' :: after := by grind
    exact ⟨d, stays mem' ends, rfl, m, few, ends⟩

variable [Quantity α] {allowed : Call ε → Prop} {published : List ε}

theorem Step.isOver (h : Step allowed x published y) (isOver : x.Over) : y.Over := by
  cases h with
  | run =>
    exact ⟨x.channel.closed_step _ _ isOver.closed,
      Channel.drained_step isOver.closed isOver.drained _ _⟩
  | enter | wake | signal | finish | around => exact ⟨isOver.closed, isOver.drained⟩

/-- Whatever is done, no one is further from being told. -/
theorem Step.ends (h : Step allowed x published y) (isOver : x.Over) (ends : x.Ends id n) :
    y.Ends id n := by
  cases h with
  | enter =>
    obtain ⟨c, mem, same, m, few, until'⟩ := ends
    exact ⟨c, List.mem_cons_of_mem _ mem, same, m, few, until'⟩
  | run found heard =>
    refine ends.replace found heard rfl fun m until' => ?_
    obtain ⟨m', fewer, until'', -⟩ :=
      Channel.untilClosed_step isOver.closed isOver.drained until'
    exact ⟨m', fewer.le, until''⟩
  | wake expired found =>
    exact ends.replace found .nil rfl fun m asleep => absurd asleep (by simp [Phase.untilClosed?])
  | @signal before after clients id s rest reply deadline found heard =>
    exact ends.replace found (.cons heard .nil) rfl fun m until' => ⟨m, le_rfl, until'⟩
  | @finish before after id reply deadline found =>
    refine ends.replace found .nil rfl fun m until' => ?_
    obtain ⟨tells, -⟩ := Phase.tells_of_owing until'
    exact ⟨0, Nat.zero_le m, if_pos tells⟩
  | around => exact ends

/-! ## A fetch itself -/

theorem mem_runCall {c : Client ε} (mem : c ∈ x.clients) {call : Call ε} {expired : Bool}
    (silent : (x.channel.step call expired).prompt = []) :
    { c with phase := (x.channel.step call expired).phase call } ∈
      (x.runCall c.id call expired).clients := by
  simp only [runCall, silent]
  exact List.mem_map.2 ⟨c, mem, if_pos rfl⟩

/-- A client who has steps to go can take the next. -/
theorem Over.stepClient? (isOver : x.Over) {c : Client ε} (mem : c ∈ x.clients)
    (until' : c.phase.untilClosed? = some (n + 1)) :
    ∃ y, x.stepClient? c = some y ∧ y.Ends c.id n := by
  obtain ⟨id, phase, deadline⟩ := c
  cases phase with
  | ready call expired =>
    obtain ⟨m, fewer, ends, silent⟩ :=
      Channel.untilClosed_step isOver.closed isOver.drained until'
    exact ⟨_, rfl, _, mem_runCall mem silent, rfl, m, by omega, ends⟩
  | owing signals reply =>
    obtain ⟨tells, -⟩ := Phase.tells_of_owing until'
    have told : (⟨id, .returned reply, deadline⟩ : Client ε) ∈
        (x.setPhase id (.returned reply)).clients :=
      List.mem_map.2 ⟨_, mem, if_pos rfl⟩
    exact ⟨_, rfl, _, (heardAll_foldl signals _).mem told rfl, rfl, 0, Nat.zero_le n, if_pos tells⟩
  | asleep => exact absurd until' (by simp [Phase.untilClosed?])
  | returned reply =>
    exact absurd (Phase.tells_of_returned until').2 (Nat.succ_ne_zero n)

omit [Quantity α] in
theorem Ends.told (h : x.Ends id 0) :
    ∃ c ∈ x.clients, c.id = id ∧ c.phase = .returned (.fetched (.error .closed)) := by
  obtain ⟨c, mem, same, m, none, until'⟩ := h
  obtain rfl := Nat.le_zero.1 none
  exact ⟨c, mem, same, Phase.eq_of_untilClosed?_eq_zero until'⟩

/-- **Closing ends a fetch** that is past the slots, in whatever reachable state the queue is
    closed and has no events.

    * A client who is about to be told so can take its next step, and has one fewer to go.
    * Whatever is done, it does not have more of them, until it has its answer.
    * A fetch that looks for a slot has three to go when there is one.
    * If a fetch sleeps on the queue, someone is about to wake all who do. -/
theorem closed_fetch_ends {channel : Channel α ε}
    (steps : Steps channel.Greedy (ofChannel channel) published x) (isOver : x.Over) :
    (∀ c ∈ x.clients, ∀ n, c.phase.untilClosed? = some (n + 1) →
      ∃ y, x.stepClient? c = some y ∧ y.Ends c.id n) ∧
    (∀ id n y later, x.Ends id n → Steps channel.Greedy x later y → y.Over ∧ y.Ends id n) ∧
    (∀ id, x.Ends id 0 →
      ∃ c ∈ x.clients, c.id = id ∧ c.phase = .returned (.fetched (.error .closed))) ∧
    (x.channel.HasSlot → ∀ c ∈ x.clients, ∀ dropped expired,
      c.phase = .ready (.fetch .takeSlot dropped) expired →
        ∃ y, x.stepClient? c = some y ∧ y.Ends c.id 3) ∧
    ∀ c ∈ x.clients, c.sleepsOn .notEmpty = true → ⟨.notEmpty, true⟩ ∈ owed x.clients := by
  refine ⟨fun c mem n until' => isOver.stepClient? mem until', ?_, fun id => Ends.told, ?_, ?_⟩
  · intro id n y later ends more
    exact more.invariant (P := fun x => x.Over ∧ x.Ends id n)
      (fun step h => ⟨step.isOver h.1, step.ends h.1 h.2⟩) ⟨isOver, ends⟩
  · intro free c mem dropped expired looks
    obtain ⟨until', silent⟩ := Channel.untilClosed_takeSlot free dropped expired
    have goesOn : _ ∈ (x.runCall c.id (.fetch .takeSlot dropped) expired).clients :=
      mem_runCall mem silent
    refine ⟨_, ?_, _, goesOn, rfl, 3, le_rfl, until'⟩
    rw [Exchange.stepClient?, looks]
  · intro c mem sleeps
    have attended : x.Attended channel :=
      steps.invariant (fun step => step.attended) (attended_ofChannel channel)
    rcases attended.covered .notEmpty with none | all | waiting | supplies
    · have up := sleepers_eq_zero_iff.1 none c mem
      exact absurd up (by simp [sleeps])
    · exact all
    · exact absurd waiting List.not_mem_nil
    · exact absurd supplies.1 (by simp [show x.channel.queue.closed = true from isOver.closed])

/-- One batch may be out. -/
def single (events : List Nat) : Channel Float Nat :=
  { sink :=
      { queue := { capacity := none, events, reserved := 0, closed := false }
        gate := .openToAll, stats := .new }
    sorter := .ofPolicy (.throttled 1 (some 1)) }

/-- The queue is closed when a fetch has taken its slot. -/
theorem closed_fetch_ends_slot : ∃ (x y : Exchange Float Nat) (c : Client Nat),
    Steps (single []).Greedy (ofChannel (single [])) [] x ∧ x.Over ∧ c ∈ x.clients ∧
    c.phase = .ready (.fetch .takeEvents false) false ∧ x.stepClient? c = some y ∧
    y.Ends c.id 2 := by
  let fetching : Channel Float Nat := { single [] with sorter := .throttled ⟨1, 1, 1⟩ }
  let shut : Channel Float Nat := fetching.withQueue fetching.queue.close
  let fetch : Client Nat := ⟨0, .ready (.fetch .takeEvents false) false, none⟩
  let closer : Client Nat := ⟨1, .owing [⟨.notEmpty, true⟩, ⟨.notFull, true⟩] .done, none⟩
  have begins : Steps (single []).Greedy (.ofChannel (single [])) [] ⟨fetching, [fetch], 0⟩ :=
    .call 0 (.fetch .takeSlot false) (by simp [ofChannel])
      (show (single []).sorter.maxBatch? ≠ some 0 by decide) rfl
  have closes : Steps (single []).Greedy ⟨fetching, [fetch], 0⟩ []
      ⟨shut, [closer, fetch], 0⟩ :=
    .call 1 .close (by simp [fetch]) True.intro rfl
  have isOver : Over ⟨shut, [closer, fetch], 0⟩ := ⟨rfl, rfl⟩
  obtain ⟨goesOn, -⟩ := closed_fetch_ends (begins.trans closes) isOver
  obtain ⟨y, stepped, ends⟩ := goesOn fetch (by simp) 2 rfl
  exact ⟨_, y, fetch, begins.trans closes, isOver, by simp, rfl, stepped, ends⟩

/-- With the only batch out, closing the queue leaves a fetch asleep until its time is over,
    and it is told that there were no events. -/
theorem closed_fetch_waits : ∃ (x y : Exchange Float Nat) (c : Client Nat),
    Steps (single [7]).Greedy (ofChannel (single [7])) [] x ∧ x.Over ∧ x.Quiet ∧ c ∈ x.clients ∧
    c.phase = .asleep (.fetch .takeSlot false) .slotFreed ∧ x.stepClient? c = none ∧
    { x with clock := 5 }.stepClient? c = some y ∧
    { c with phase := .returned (.fetched (.ok none)) } ∈ y.clients := by
  let fetching : Channel Float Nat := { single [7] with sorter := .throttled ⟨1, 1, 1⟩ }
  let drained : Channel Float Nat := fetching.withQueue { fetching.queue with events := [] }
  let shut : Channel Float Nat := drained.withQueue drained.queue.close
  let first : Client Nat := ⟨0, .returned (.fetched (.ok (some ⟨[7], .freesSlot⟩))), none⟩
  let second : Client Nat := ⟨1, .asleep (.fetch .takeSlot false) .slotFreed, some 5⟩
  let closer (phase : Phase Nat) : Client Nat := ⟨2, phase, none⟩
  have greedy : (single [7]).Greedy (.fetch .takeSlot false) :=
    show (single [7]).sorter.maxBatch? ≠ some 0 by decide
  have begins : Steps (single [7]).Greedy (.ofChannel (single [7])) []
      ⟨fetching, [⟨0, .ready (.fetch .takeEvents false) false, none⟩], 0⟩ :=
    .call 0 (.fetch .takeSlot false) (by simp [ofChannel]) greedy rfl
  have heard : HeardAll [⟨.notFull, true⟩] [first] [first] := .cons (.all rfl) .nil
  have fetches : Step (single [7]).Greedy
      ⟨fetching, [⟨0, .ready (.fetch .takeEvents false) false, none⟩], 0⟩ []
      ⟨drained, [first], 0⟩ :=
    @Step.run _ _ _ _ ⟨fetching, _, 0⟩ [] [] _ 0 (.fetch .takeEvents false) false none rfl heard
  have enters : Step (single [7]).Greedy ⟨drained, [first], 0⟩ []
      ⟨drained, [⟨1, .ready (.fetch .takeSlot false) false, some 5⟩, first], 0⟩ :=
    @Step.enter _ _ _ _ ⟨drained, [first], 0⟩ 1 (.fetch .takeSlot false) ⟨5⟩ (by simp [first])
      greedy
  have sleeps : Step (single [7]).Greedy
      ⟨drained, [⟨1, .ready (.fetch .takeSlot false) false, some 5⟩, first], 0⟩ []
      ⟨drained, [second, first], 0⟩ :=
    @Step.run _ _ _ _ ⟨drained, _, 0⟩ [] [first] _ 1 (.fetch .takeSlot false) false (some 5) rfl
      .nil
  have closes : Steps (single [7]).Greedy ⟨drained, [second, first], 0⟩ []
      ⟨shut, [closer (.owing [⟨.notEmpty, true⟩, ⟨.notFull, true⟩] .done), second, first], 0⟩ :=
    .call 2 .close (by simp [first, second]) True.intro rfl
  have wakesTakers : Step (single [7]).Greedy
      ⟨shut, [closer (.owing [⟨.notEmpty, true⟩, ⟨.notFull, true⟩] .done), second, first], 0⟩ []
      ⟨shut, [closer (.owing [⟨.notFull, true⟩] .done), second, first], 0⟩ :=
    @Step.signal _ _ _ _ ⟨shut, _, 0⟩ [] [second, first] _ 2 ⟨.notEmpty, true⟩ _ .done none rfl
      (.all rfl)
  have wakesProducers : Step (single [7]).Greedy
      ⟨shut, [closer (.owing [⟨.notFull, true⟩] .done), second, first], 0⟩ []
      ⟨shut, [closer (.owing [] .done), second, first], 0⟩ :=
    @Step.signal _ _ _ _ ⟨shut, _, 0⟩ [] [second, first] _ 2 ⟨.notFull, true⟩ _ .done none rfl
      (.all rfl)
  have returns : Step (single [7]).Greedy ⟨shut, [closer (.owing [] .done), second, first], 0⟩ []
      ⟨shut, [closer (.returned .done), second, first], 0⟩ :=
    @Step.finish _ _ _ _ ⟨shut, _, 0⟩ [] [second, first] 2 .done none rfl
  have steps := (((((((begins.tail fetches).tail enters).tail sleeps).trans closes).tail
    wakesTakers).tail wakesProducers).tail returns)
  have quiet : Quiet ⟨shut, [closer (.returned .done), second, first], 0⟩ := by
    intro c mem
    simp only [List.mem_cons, List.not_mem_nil, or_false] at mem
    rcases mem with rfl | rfl | rfl
    · exact .inr ⟨_, rfl⟩
    · exact .inl ⟨_, _, rfl⟩
    · exact .inr ⟨_, rfl⟩
  exact ⟨_, _, second, steps, ⟨rfl, rfl⟩, quiet, by simp, rfl, rfl, rfl, .tail _ (.head _)⟩

end Exchange

end StagedEvents
