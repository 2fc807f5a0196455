import StagedEvents.Proofs.Channel.Course
import StagedEvents.Proofs.Exchange.Closing

/-!
# What becomes of the events of a closed queue

Once a queue is closed it only drains. Whoever brings events is refused, transactions that were
open at the time included, and whoever waits for events is told at once: of those that are left,
or that there will be none. A log of the critical sections of a run shows this for all
interleavings: what was taken, one section after the other, is what the queue held from the
front on.

* `Exchange.Logged`: a run with the log of its critical sections, `steps_iff_logged`.
* `Channel.reserved_step_le`, `refusal?_step_of_closed`, `step_poll_drained`: what a section does
  to a closed queue.
* `Logged.drains`, `Logged.at`: what sections take in the course of a run, and what one of them
  finds.
* `closed_queue_drains`: the result.
-/

namespace StagedEvents

variable {α ε : Type}

/-- The events that a step published. -/
def Act.published (a : Act ε) : List ε := a.call.published a.progress

/-- The events that a step took. -/
def Act.taken (a : Act ε) : List ε := a.call.taken a.progress

/-- Whether a call is there to bring events, at once or later. -/
def Call.brings : Call ε → Bool
  | .enqueue _ _ => true
  | .enqueueMany _ _ => true
  | .prepare _ _ => true
  | .commit _ => true
  | .offer _ => true
  | _ => false

/-- The first of the events, at most `most` of them; `none` stands for no bound. -/
def firstOf (most : Option ℕ) (events : List ε) : List ε :=
  match most with
  | none => events
  | some most => events.take most

/-- What is left when they are taken. -/
def restOf (most : Option ℕ) (events : List ε) : List ε :=
  match most with
  | none => []
  | some most => events.drop most

theorem firstOf_append_restOf (most : Option ℕ) (events : List ε) :
    firstOf most events ++ restOf most events = events := by
  cases most with
  | none => exact List.append_nil events
  | some most => exact List.take_append_drop most events

theorem firstOf_ne_nil {most : Option ℕ} {events : List ε} (greedy : most ≠ some 0)
    (left : events ≠ []) : firstOf most events ≠ [] := by
  unfold firstOf
  split
  · exact left
  · rename_i count
    have : count ≠ 0 := fun none => greedy (congrArg some none)
    exact fun none => (List.take_eq_nil_iff.1 none).elim this left

/-! ## Operations on a closed queue -/

namespace Queue

variable {q : Queue ε}

theorem enqueue_of_closed (closed : q.closed = true) (gate : Admission) (event : ε) :
    q.enqueue gate event = (q, .error ⟨.closed, event⟩) := by
  rw [enqueue, refusal?_closed closed]

theorem enqueueMany_of_closed (closed : q.closed = true) (gate : Admission) (events : List ε) :
    q.enqueueMany gate events = (q, .error ⟨.closed, events⟩) := by
  rw [enqueueMany, if_pos closed]

theorem prepare_of_closed (closed : q.closed = true) (gate : Admission) (events : List ε) :
    q.prepare gate events = (q, .error ⟨.closed, events⟩) := by
  rw [prepare, refusal?_closed closed]

theorem offer?_of_closed (closed : q.closed = true) (event : ε) (expired : Bool) :
    q.offer? event expired = (q, some (.error ⟨.closed, event⟩)) := by
  rw [offer?, refusal?_closed closed]

/-- Whoever finds events need not wait. -/
theorem poll?_of_events (left : q.events ≠ []) (most : Option ℕ) (expired : Bool) :
    q.poll? most expired =
      ({ q with events := restOf most q.events }, some (.ok (firstOf most q.events))) := by
  obtain ⟨event, rest, front⟩ := List.exists_cons_of_ne_nil left
  unfold poll?
  rw [front, List.isEmpty_cons, if_neg Bool.false_ne_true, ← front]
  cases most <;> rfl

theorem reserved_poll? (q : Queue ε) (most : Option ℕ) (expired : Bool) :
    (q.poll? most expired).1.reserved = q.reserved := by
  rcases poll?_cases most expired q with ⟨_, _, -, -, h⟩ | ⟨h, -⟩ | ⟨h, -⟩ | ⟨h, -⟩
  all_goals rw [h]

end Queue

/-! ## Critical sections on a closed queue -/

namespace Channel

variable [Quantity α] {c : Channel α ε}

/-- Closing leaves the events where they are. -/
theorem queue_close (c : Channel α ε) (expired : Bool) :
    (c.step .close expired).channel.queue = { c.queue with closed := true } := rfl

/-- Whoever brings events is told that the queue is closed. -/
theorem refusal?_step_of_closed (closed : c.queue.closed = true) {call : Call ε}
    (brings : call.brings = true) (expired : Bool) :
    (c.step call expired).progress.refusal? = some .closed := by
  cases call with
  | enqueue guarded event =>
    obtain ⟨gate, sink, -, step⟩ := step_enqueue c guarded event expired
    rw [step, Queue.enqueue_of_closed closed]
    rfl
  | enqueueMany guarded events =>
    obtain ⟨gate, sink, -, step⟩ := step_enqueueMany c guarded events expired
    rw [step, Queue.enqueueMany_of_closed closed]
    rfl
  | prepare guarded events =>
    obtain ⟨gate, sink, -, step⟩ := step_prepare c guarded events expired
    rw [step, Queue.prepare_of_closed closed]
    rfl
  | commit t =>
    show Progress.refusal? (.done (.enqueuedMany (c.queue.commit t).2)) = _
    rw [Queue.commit_of_closed closed]
    rfl
  | offer event =>
    simp only [step, Queue.offer?_of_closed closed]
    rfl
  | _ => exact absurd brings Bool.false_ne_true

/-- No room is reserved on a closed queue that was not before. -/
theorem reserved_step_le (closed : c.queue.closed = true) (call : Call ε) (expired : Bool) :
    (c.step call expired).channel.queue.reserved ≤ c.queue.reserved := by
  cases call with
  | enqueue guarded event =>
    obtain ⟨gate, sink, queue, step⟩ := step_enqueue c guarded event expired
    rw [step]
    show sink.queue.reserved ≤ _
    rw [queue, Queue.enqueue_of_closed closed]
  | enqueueMany guarded events =>
    obtain ⟨gate, sink, queue, step⟩ := step_enqueueMany c guarded events expired
    rw [step]
    show sink.queue.reserved ≤ _
    rw [queue, Queue.enqueueMany_of_closed closed]
  | prepare guarded events =>
    obtain ⟨gate, sink, queue, step⟩ := step_prepare c guarded events expired
    rw [step]
    show sink.queue.reserved ≤ _
    rw [queue, Queue.prepare_of_closed closed]
  | commit t =>
    show (c.queue.commit t).1.reserved ≤ _
    rw [Queue.commit_of_closed closed]
    exact Nat.sub_le _ _
  | release t => exact Nat.sub_le _ _
  | offer event => rw [queue_offer, Queue.offer?_of_closed closed]
  | dequeue =>
    show c.queue.dequeue.1.reserved ≤ _
    rcases Queue.dequeue_cases c.queue with ⟨h, -⟩ | ⟨event, rest, -, h⟩
    · rw [h]
    · rw [h]
  | dequeueAll | dequeueUpTo | close => exact le_rfl
  | poll most => rw [queue_poll, Queue.reserved_poll?]
  | fetch state dropped =>
    cases state with
    | takeSlot => exact (congrArg Queue.reserved (c.queue_takeSlot dropped expired)).le
    | takeEvents =>
      show (c.takeEvents dropped expired).channel.queue.reserved ≤ _
      rw [queue_takeEvents, Queue.reserved_poll?]
    | returnSlot answer => exact (congrArg Queue.reserved c.releaseSlot_queue).le
  | complete completion reply =>
    cases completion with
    | freesSlot => exact (congrArg Queue.reserved c.releaseSlot_queue).le
    | nothing | counts => exact le_rfl

/-- Whoever waits for events on a closed queue is told at once that none will come, if none is
    left. -/
theorem step_poll_drained (closed : c.queue.closed = true) (drained : c.queue.events = [])
    (most : Option ℕ) (expired : Bool) :
    (c.step (.poll most) expired).progress = .done (.drained (.error .closed)) := by
  simp only [step, Queue.poll?_of_closed closed drained]
  rfl

/-- Whoever waits for events gets some if there are any. -/
theorem step_poll_of_events (left : c.queue.events ≠ []) (most : Option ℕ) (expired : Bool) :
    (c.step (.poll most) expired).progress =
      .done (.drained (.ok (firstOf most c.queue.events))) := by
  have answer := congrArg Prod.snd (Queue.poll?_of_events left most expired)
  simp only [step]
  split
  · rename_i none
    exact absurd (none.symm.trans answer) (by simp)
  · rename_i event events some
    rw [Except.ok.inj (Option.some.inj (some.symm.trans answer))]
  · rename_i reply _ some
    rw [Option.some.inj (some.symm.trans answer)]
    rfl

end Channel

/-! ## Logs of critical sections -/

/-- Whether a client is about to enter a critical section. -/
def Client.isReady (c : Client ε) : Bool :=
  match c.phase with
  | .ready _ _ => true
  | _ => false

theorem Client.awaken_of_isReady {c : Client ε} (ready : c.isReady = true) : c.awaken = c := by
  obtain ⟨id, phase, deadline⟩ := c
  cases phase with
  | asleep => exact absurd ready Bool.false_ne_true
  | ready | owing | returned => rfl

namespace Exchange

variable [Quantity α]

/-- A run of an exchange with the log of its critical sections, in their order. Between two of
    them the queue is left as it is, and whoever is about to enter one does not. -/
inductive Logged (allowed : Call ε → Prop) : Exchange α ε → List (Act ε) → Exchange α ε → Prop
  where
  | refl {x : Exchange α ε} : Logged allowed x [] x
  | enters {x z : Exchange α ε} {before after clients : List (Client ε)} {id : Nat}
      {call : Call ε} {expired : Bool} {deadline : Option Nat} {later : List (Act ε)}
      (found : x.clients = before ++ ⟨id, .ready call expired, deadline⟩ :: after)
      (heard : HeardAll (x.channel.step call expired).prompt
        (before ++ ⟨id, (x.channel.step call expired).phase call, deadline⟩ :: after) clients)
      (others : Logged allowed
        { x with channel := (x.channel.step call expired).channel, clients } later z) :
      Logged allowed x (⟨call, expired, (x.channel.step call expired).progress⟩ :: later) z
  | between {x y z : Exchange α ε} {log : List (Act ε)} (step : Step allowed x [] y)
      (queue : y.queue = x.queue) (stay : ∀ c ∈ x.clients, c.isReady = true → c ∈ y.clients)
      (others : Logged allowed y log z) : Logged allowed x log z

variable {allowed : Call ε → Prop} {x y z : Exchange α ε} {published : List ε}
  {log later before after : List (Act ε)} {a : Act ε}

theorem Logged.trans (h : Logged allowed x log y) (h' : Logged allowed y later z) :
    Logged allowed x (log ++ later) z := by
  induction h with
  | refl => exact h'
  | enters found heard _ ih => exact .enters found heard (ih h')
  | between step queue stay _ ih => exact .between step queue stay (ih h')

/-- One client goes on outside of critical sections: those who are about to enter one stay. -/
theorem mem_replace {clients before after : List (Client ε)} {c c' d : Client ε}
    (found : clients = before ++ c :: after) (busy : c.isReady = false) (mem : d ∈ clients)
    (ready : d.isReady = true) : d ∈ before ++ c' :: after := by
  rw [found] at mem
  rcases List.mem_append.1 mem with mem | mem
  · exact List.mem_append_left _ mem
  · rcases List.mem_cons.1 mem with rfl | mem
    · exact absurd (busy.symm.trans ready) Bool.false_ne_true
    · exact List.mem_append_right _ (List.mem_cons_of_mem _ mem)

/-- A step is a critical section, or is between them. -/
theorem Step.logged (step : Step allowed x published y) :
    ∃ log, Logged allowed x log y ∧ published = log.flatMap Act.published := by
  cases step with
  | run found heard => exact ⟨_, .enters found heard .refl, (List.append_nil _).symm⟩
  | enter patience fresh may =>
    exact ⟨[], .between (.enter patience fresh may) rfl
      (fun c mem _ => List.mem_cons_of_mem _ mem) .refl, rfl⟩
  | wake expired found =>
    exact ⟨[], .between (.wake expired found) rfl
      (fun c mem ready => mem_replace found rfl mem ready) .refl, rfl⟩
  | signal found heard =>
    refine ⟨[], .between (.signal found heard) rfl (fun c mem ready => ?_) .refl, rfl⟩
    exact heard.mem (mem_replace found rfl mem ready) (Client.awaken_of_isReady ready)
  | finish found =>
    exact ⟨[], .between (.finish found) rfl
      (fun c mem ready => mem_replace found rfl mem ready) .refl, rfl⟩
  | around gate clock =>
    exact ⟨[], .between (.around gate clock) rfl (fun c mem _ => mem) .refl, rfl⟩

/-- **Logs are of runs**, and every run has one. -/
theorem steps_iff_logged :
    Steps allowed x published y ↔
      ∃ log, Logged allowed x log y ∧ published = log.flatMap Act.published := by
  constructor
  · intro steps
    induction steps with
    | refl => exact ⟨[], .refl, rfl⟩
    | tail _ step ih =>
      obtain ⟨log, logged, rfl⟩ := ih
      obtain ⟨last, logged', rfl⟩ := step.logged
      exact ⟨log ++ last, logged.trans logged', List.flatMap_append.symm⟩
  · rintro ⟨log, logged, rfl⟩
    induction logged with
    | refl => exact .refl
    | enters found heard _ ih => exact (Steps.single (.run found heard)).trans ih
    | between step _ _ _ ih => exact (Steps.single step).trans ih

/-- The critical section that is logged as `a` was entered at `w`, and left it as `z`. -/
structure Entered (w : Exchange α ε) (a : Act ε) (z : Exchange α ε) : Prop where
  progress : a.progress = (w.channel.step a.call a.expired).progress
  channel : z.channel = (w.channel.step a.call a.expired).channel

theorem entered (x : Exchange α ε) (call : Call ε) (expired : Bool) (clients : List (Client ε)) :
    Entered x ⟨call, expired, (x.channel.step call expired).progress⟩
      { x with channel := (x.channel.step call expired).channel, clients } := ⟨rfl, rfl⟩

/-- Any section of a log was entered in the course of the run. -/
theorem Logged.at (h : Logged allowed x (before ++ a :: after) y) :
    ∃ w z, Logged allowed x before w ∧ Entered w a z ∧ Logged allowed z after y := by
  generalize split : before ++ a :: after = log at h
  -- Only sections are logged, so what is in front of `a` gets shorter with each of them.
  induction h generalizing before with
  | refl => exact absurd split (by simp)
  | enters found heard others ih =>
    cases before with
    | nil =>
      obtain ⟨rfl, rfl⟩ := List.cons.inj split
      exact ⟨_, _, .refl, entered _ _ _ _, others⟩
    | cons first rest =>
      obtain ⟨rfl, behind⟩ := List.cons.inj split
      obtain ⟨w, z, logged, entered, later⟩ := ih behind
      exact ⟨w, z, .enters found heard logged, entered, later⟩
  | between step queue stay _ ih =>
    obtain ⟨w, z, logged, entered, later⟩ := ih split
    exact ⟨w, z, .between step queue stay logged, entered, later⟩

/-! ## Draining -/

/-- What a run leaves of a closed queue, when its sections took the events `taken`. -/
structure Drains (x : Exchange α ε) (taken : List ε) (y : Exchange α ε) : Prop where
  closed : y.queue.closed = true
  reserved : y.queue.reserved ≤ x.queue.reserved
  events : taken ++ y.queue.events = x.queue.events

omit [Quantity α] in
theorem Drains.refl (closed : x.queue.closed = true) : Drains x [] x := ⟨closed, le_rfl, rfl⟩

omit [Quantity α] in
theorem Drains.trans {taken more : List ε} (h : Drains x taken y) (h' : Drains y more z) :
    Drains x (taken ++ more) z := by
  refine ⟨h'.closed, h'.reserved.trans h.reserved, ?_⟩
  rw [List.append_assoc, h'.events, h.events]

/-- **One critical section** takes from the front of a closed queue, and adds nothing. -/
theorem Entered.drains (h : Entered x a y) (closed : x.queue.closed = true) :
    Drains x a.taken y := by
  have contents := (x.channel.step_effect a.call a.expired).contents
  rw [Channel.published_of_closed closed, List.append_nil] at contents
  refine ⟨?_, ?_, ?_⟩
  · rw [queue, h.channel]
    exact x.channel.closed_step a.call a.expired closed
  · rw [queue, h.channel]
    exact Channel.reserved_step_le closed a.call a.expired
  · rw [Act.taken, h.progress, queue, h.channel]
    exact contents

/-- **A run** takes from the front of a closed queue, one section after the other. -/
theorem Logged.drains (h : Logged allowed x log y) (closed : x.queue.closed = true) :
    Drains x (log.flatMap Act.taken) y := by
  induction h with
  | refl => exact .refl closed
  | @enters x _ _ _ clients _ call expired _ _ _ _ _ ih =>
    have first := (entered x call expired clients).drains closed
    exact first.trans (ih first.closed)
  | between step queue stay _ ih =>
    have first : Drains _ [] _ := ⟨queue ▸ closed, (congrArg Queue.reserved queue).le,
      congrArg Queue.events queue⟩
    exact first.trans (ih first.closed)

theorem Logged.published_of_closed (h : Logged allowed x log y) (closed : x.queue.closed = true) :
    log.flatMap Act.published = [] := by
  refine List.flatMap_eq_nil_iff.2 fun a mem => ?_
  obtain ⟨before, after, rfl⟩ := List.append_of_mem mem
  obtain ⟨w, z, logged, entered, -⟩ := h.at
  rw [Act.published, entered.progress]
  exact Channel.published_of_closed (logged.drains closed).closed a.call a.expired

/-- **A closed queue drains once and stays closed.** Closing leaves the events that are there.
    From then on, whoever does what in whatever order:

    * the queue stays closed, nothing is published, and no more room is reserved;
    * what is taken, one critical section after the other, with what is left in the end, is what
      there was; and in front of each section this holds of what was taken so far;
    * whoever brings events is told that the queue is closed, a commit included;
    * whoever waits for events is told so if and only if none is left, and otherwise gets the
      first of those that are. -/
theorem closed_queue_drains (closed : x.queue.closed = true)
    (steps : Steps allowed x published y) :
    (∀ (c : Channel α ε) expired,
      (c.step .close expired).channel.queue = { c.queue with closed := true }) ∧
    y.queue.closed = true ∧ published = [] ∧ y.queue.reserved ≤ x.queue.reserved ∧
    (∃ log, Logged allowed x log y) ∧
    ∀ log, Logged allowed x log y →
      log.flatMap Act.taken ++ y.queue.events = x.queue.events ∧
      ∀ before a after, log = before ++ a :: after →
        ∃ left, before.flatMap Act.taken ++ left = x.queue.events ∧
          (a.call.brings = true → a.progress.refusal? = some .closed) ∧
          ∀ most, a.call = .poll most →
            (a.progress = .done (.drained (.error .closed)) ↔ left = []) ∧
            (left ≠ [] → a.progress = .done (.drained (.ok (firstOf most left)))) ∧
            (left ≠ [] → most ≠ some 0 → firstOf most left ≠ []) := by
  obtain ⟨log, logged, rfl⟩ := steps_iff_logged.1 steps
  have drains := logged.drains closed
  refine ⟨Channel.queue_close, drains.closed, logged.published_of_closed closed,
    drains.reserved, ⟨log, logged⟩, fun log logged => ⟨(logged.drains closed).events, ?_⟩⟩
  rintro before a after rfl
  -- The section was entered at `w`, and what those before it left there is what it finds.
  obtain ⟨w, z, earlier, entered, -⟩ := logged.at
  obtain ⟨closed', -, events⟩ := earlier.drains closed
  refine ⟨w.queue.events, events, fun brings => ?_, fun most polls => ⟨⟨fun told => ?_, ?_⟩, ?_⟩⟩
  · rw [entered.progress]
    exact Channel.refusal?_step_of_closed closed' brings a.expired
  · by_contra left
    rw [entered.progress, polls, Channel.step_poll_of_events left] at told
    exact absurd told (by simp)
  · intro drained
    rw [entered.progress, polls]
    exact Channel.step_poll_drained closed' drained most a.expired
  · refine ⟨fun left => ?_, fun left greedy => firstOf_ne_nil greedy left⟩
    rw [entered.progress, polls]
    exact Channel.step_poll_of_events left most a.expired

/-- Two events and a transaction of two are there when the queue is closed. The commit is
    refused, and someone who waits for one event has the first. -/
theorem closed_queue_drains_one : ∃ (x y : Exchange Float Nat) (log : List (Act Nat)),
    x.queue = ⟨none, [7, 8], 2, true⟩ ∧ Steps (fun _ => True) x [] y ∧
    Logged (fun _ => True) x log y ∧
    log = [⟨.commit ⟨[9, 9]⟩, false, .done (.enqueuedMany (.error ⟨.closed, [9, 9]⟩))⟩,
      ⟨.poll (some 1), false, .done (.drained (.ok [7]))⟩] ∧
    y.queue.closed = true ∧ y.queue.reserved ≤ 2 ∧ [7] ++ y.queue.events = [7, 8] := by
  let shut : Channel Float Nat :=
    { sink := { queue := ⟨none, [7, 8], 2, true⟩, gate := .openToAll, stats := .new }
      sorter := .drainAll }
  let released : Channel Float Nat := shut.withQueue ⟨none, [7, 8], 0, true⟩
  let drained : Channel Float Nat := shut.withQueue ⟨none, [8], 0, true⟩
  let owner (phase : Phase Nat) : Client Nat := ⟨0, phase, none⟩
  let taker (phase : Phase Nat) : Client Nat := ⟨1, phase, none⟩
  let told : Client Nat :=
    owner (.owing [⟨.notFull, true⟩] (.enqueuedMany (.error ⟨.closed, [9, 9]⟩)))
  let has : Client Nat := taker (.returned (.drained (.ok [7])))
  have heard : HeardAll [⟨.notFull, true⟩] [has, told] [has, told] := .cons (.all rfl) .nil
  have polls : Logged (fun _ => True)
      ⟨released, [taker (.ready (.poll (some 1)) false), told], 0⟩
      [⟨.poll (some 1), false, .done (.drained (.ok [7]))⟩] ⟨drained, [has, told], 0⟩ :=
    @Logged.enters _ _ _ _ ⟨released, _, 0⟩ _ [] [told] _ 1 (.poll (some 1)) false none _ rfl
      heard .refl
  have comes : Step (fun _ => True) ⟨released, [told], 0⟩ []
      ⟨released, [taker (.ready (.poll (some 1)) false), told], 0⟩ :=
    @Step.enter _ _ _ _ ⟨released, [told], 0⟩ 1 (.poll (some 1)) .longest
      (by simp [told, owner]) trivial
  have commits : Logged (fun _ => True) ⟨shut, [owner (.ready (.commit ⟨[9, 9]⟩) false)], 0⟩ _
      ⟨drained, [has, told], 0⟩ :=
    @Logged.enters _ _ _ _ ⟨shut, _, 0⟩ _ [] [] _ 0 (.commit ⟨[9, 9]⟩) false none _ rfl .nil
      (.between comes rfl (fun c mem _ => List.mem_cons_of_mem _ mem) polls)
  have steps := steps_iff_logged.2 ⟨_, commits, rfl⟩
  obtain ⟨-, closed, -, less, -, drains⟩ := closed_queue_drains rfl steps
  exact ⟨_, _, _, rfl, steps, commits, rfl, closed, less, (drains _ commits).1⟩

end Exchange

end StagedEvents
