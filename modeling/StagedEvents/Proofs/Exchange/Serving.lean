import StagedEvents.Proofs.Exchange.Carriage

/-!
# What a fetch answers

The clients of workers fetch, and get an answer to a fetch: a batch, none, or a failure. A
fetch fails only when the queue is closed, so as long as the queue is open every worker comes
back with a batch or goes on without one.

* `Client.Fetches`: a client is in the middle of a fetch, or has an answer to it.
* `Channel.fetches_step`: one step of a fetch.
* `Exchange.Serving`: all clients of workers fetch.
-/

namespace StagedEvents

variable {α ε : Type}

/-- An answer to a fetch; it is a failure only if the queue is closed. -/
def Reply.AnswersFetch (closed : Bool) : Reply ε → Prop
  | .fetched (.ok _) => True
  | .fetched (.error _) => closed = true
  | _ => False

/-- The call of a worker who fetches, at one of its steps. -/
def Call.Fetches (closed : Bool) : Call ε → Prop
  | .fetch (.returnSlot answer) false => (Reply.fetched answer).AnswersFetch closed
  | .fetch _ false => True
  | _ => False

/-- A client is in the middle of a fetch, or has an answer to it. -/
def Client.Fetches (closed : Bool) (c : Client ε) : Prop :=
  match c.phase with
  | .ready call _ => call.Fetches closed
  | .asleep call _ => call.Fetches closed
  | .owing _ reply => reply.AnswersFetch closed
  | .returned reply => reply.AnswersFetch closed

/-- A step of a fetch leads on in the fetch, or to an answer. -/
def Progress.Fetches (closed : Bool) (call : Call ε) : Progress (Call ε) (Reply ε) → Prop
  | .done reply => reply.AnswersFetch closed
  | .next call => call.Fetches closed
  | .sleep _ => call.Fetches closed

variable {closed closed' : Bool}

theorem Reply.AnswersFetch.mono {reply : Reply ε} (h : reply.AnswersFetch closed)
    (closes : closed = true → closed' = true) : reply.AnswersFetch closed' := by
  cases reply with
  | fetched answer =>
    cases answer with
    | ok => exact True.intro
    | error => exact closes h
  | _ => exact h.elim

theorem Call.Fetches.mono {call : Call ε} (h : call.Fetches closed)
    (closes : closed = true → closed' = true) : call.Fetches closed' := by
  cases call with
  | fetch state dropped =>
    cases dropped with
    | true => cases state <;> exact h.elim
    | false =>
      cases state with
      | returnSlot answer => exact Reply.AnswersFetch.mono h closes
      | takeSlot | takeEvents => exact True.intro
  | _ => exact h.elim

theorem Client.Fetches.mono {c : Client ε} (h : c.Fetches closed)
    (closes : closed = true → closed' = true) : c.Fetches closed' := by
  obtain ⟨id, phase, deadline⟩ := c
  cases phase with
  | ready | asleep => exact Call.Fetches.mono h closes
  | owing | returned => exact Reply.AnswersFetch.mono h closes

theorem Client.Fetches.awaken {c : Client ε} (h : c.Fetches closed) :
    c.awaken.Fetches closed := by
  obtain ⟨id, phase, deadline⟩ := c
  cases phase <;> exact h

theorem Outcome.fetches_of_phase {o : Outcome α ε} {call : Call ε} {c : Client ε}
    (h : c.phase = o.phase call) (fetches : o.progress.Fetches closed call) :
    c.Fetches closed := by
  unfold Client.Fetches
  rw [h]
  unfold phase
  cases progress : o.progress with
  | next | sleep =>
    rw [progress] at fetches
    exact fetches
  | done =>
    rw [progress] at fetches
    unfold Phase.after
    cases o.late <;> exact fetches

namespace Channel

/-- A queue that is closed stays closed. -/
theorem Effect.stays_closed {c : Channel α ε} {call : Call ε} {o : Outcome α ε}
    {published taken : List ε} (h : Effect c call o published taken)
    (closed : c.queue.closed = true) : o.channel.queue.closed = true := by
  cases h with
  | vain queue | sleep on queue | takeSlot slots throttled queue =>
    show _ = _
    rw [queue]
    exact closed
  | publish events reserved queue | reserve count queue | free count queue
  | take taken rest all found front queue =>
    show _ = _
    rw [queue]
    exact closed
  | close queue =>
    show _ = _
    rw [queue]
    rfl
  | giveSlot =>
    show c.releaseSlot.queue.closed = true
    rw [releaseSlot_queue]
    exact closed

theorem fetches_fetchedNothing (c : Channel α ε) (call : Call ε)
    {answer : Except QueueError (Option (Batch ε))}
    (answers : (Reply.fetched answer).AnswersFetch closed) :
    (c.fetchedNothing false answer).progress.Fetches closed call := by
  unfold fetchedNothing
  split <;> exact answers

theorem fetches_takeSlot (c : Channel α ε) (expired : Bool) :
    (c.takeSlot false expired).progress.Fetches closed (.fetch .takeSlot false) := by
  unfold takeSlot
  split
  · exact True.intro
  · split
    · exact True.intro
    · cases expired <;> exact True.intro

/-- To take events fails only when the queue is closed. -/
theorem fetches_takeEvents (c : Channel α ε) (expired : Bool) :
    (c.takeEvents false expired).progress.Fetches c.queue.closed (.fetch .takeEvents false) := by
  rcases Queue.poll?_cases c.sorter.maxBatch? expired c.queue with
    ⟨taken, rest, some, front, h⟩ | ⟨h, -⟩ | ⟨h, -, closed⟩ | ⟨h, -⟩
  · obtain ⟨event, events, rfl⟩ := List.exists_cons_of_ne_nil some
    simp only [takeEvents, h]
    exact True.intro
  · simp only [takeEvents, h]
    exact True.intro
  · simp only [takeEvents, h]
    exact fetches_fetchedNothing _ _ closed
  · simp only [takeEvents, h]
    exact fetches_fetchedNothing _ _ True.intro

variable [Quantity α]

theorem closed_step (c : Channel α ε) (call : Call ε) (expired : Bool)
    (closed : c.queue.closed = true) : (c.step call expired).channel.queue.closed = true :=
  (c.step_effect call expired).stays_closed closed

/-- **A step of a fetch** leads on in the fetch, or to an answer. -/
theorem fetches_step (c : Channel α ε) {call : Call ε} (h : call.Fetches c.queue.closed)
    (expired : Bool) :
    (c.step call expired).progress.Fetches c.queue.closed call := by
  cases call with
  | fetch state dropped =>
    cases dropped with
    | true => cases state <;> exact h.elim
    | false =>
      cases state with
      | takeSlot => exact fetches_takeSlot c expired
      | takeEvents => exact fetches_takeEvents c expired
      | returnSlot answer => exact h
  | _ => exact h.elim

end Channel

namespace Exchange

/-- Every client has its role, and those of workers fetch. -/
structure Serving (fetching : ℕ → Prop) (x : Exchange α ε) : Prop where
  staffed : Staffed fetching x.clients
  fetches : ∀ c ∈ x.clients, fetching c.id → c.Fetches x.queue.closed

variable {fetching fetching' : ℕ → Prop} {x y : Exchange α ε}

theorem Serving.congr (h : x.Serving fetching) (clients : y.clients = x.clients)
    (queue : y.queue = x.queue) (same : ∀ id, fetching' id ↔ fetching id) :
    y.Serving fetching' := by
  have fetching_eq : fetching' = fetching := funext fun id => propext (same id)
  refine ⟨?_, ?_⟩
  · rw [clients, fetching_eq]
    exact h.staffed
  · rw [clients, queue, fetching_eq]
    exact h.fetches

/-- Clients that hear signals go on with what they are at. -/
theorem fetches_heard {signals : List Signal} {clients clients' : List (Client ε)}
    (heard : HeardAll signals clients clients')
    (all : ∀ c ∈ clients, fetching c.id → c.Fetches closed) :
    ∀ c ∈ clients', fetching c.id → c.Fetches closed :=
  heard.forall (fun c h mine => (h (c.id_awaken ▸ mine)).awaken) all

/-- One client goes on. -/
theorem fetches_replace {clients before after : List (Client ε)} {c c' : Client ε}
    (found : clients = before ++ c :: after) (id : c'.id = c.id)
    (goesOn : c.Fetches closed → c'.Fetches closed') (closes : closed = true → closed' = true)
    (all : ∀ d ∈ clients, fetching d.id → d.Fetches closed) :
    ∀ d ∈ before ++ c' :: after, fetching d.id → d.Fetches closed' := by
  rw [found] at all
  refine forall_replace (c := c) (P := fun d => fetching d.id → d.Fetches closed')
    (fun d mem mine => (all d mem mine).mono closes) fun mine => ?_
  rw [id] at mine
  exact goesOn (all c (by simp) mine)

variable [Quantity α]

theorem Step.serving {published : List ε} (h : Step Call.IsProducer x published y)
    (serving : x.Serving fetching) : y.Serving fetching := by
  refine ⟨(h.staffed serving.staffed).1, ?_⟩
  have fetches := serving.fetches
  cases h with
  | @enter id call patience fresh may =>
    refine List.forall_mem_cons.2 ⟨fun mine => ?_, fetches⟩
    obtain ⟨c, hc, same⟩ := List.mem_map.1 (serving.staffed.present id mine)
    exact absurd same (fresh c hc)
  | @run before after clients id call expired deadline found heard =>
    have closes := x.channel.closed_step call expired
    refine fetches_heard heard (fetches_replace found rfl (fun known => ?_) closes fetches)
    exact Client.Fetches.mono
      (Outcome.fetches_of_phase rfl (x.channel.fetches_step known expired)) closes
  | wake expired found =>
    exact fetches_replace found rfl (fun known => known) (fun closed => closed) fetches
  | signal found heard =>
    exact fetches_heard (.cons heard .nil)
      (fetches_replace found rfl (fun known => known) (fun closed => closed) fetches)
  | finish found =>
    exact fetches_replace found rfl (fun known => known) (fun closed => closed) fetches
  | around gate clock => exact fetches

theorem Steps.serving {published : List ε} (h : Steps Call.IsProducer x published y)
    (serving : x.Serving fetching) : y.Serving fetching :=
  h.invariant Step.serving serving

/-- A client takes its next step. -/
theorem Serving.stepClient? (serving : x.Serving fetching) {c : Client ε} (mem : c ∈ x.clients)
    (h : x.stepClient? c = some y) : y.Serving fetching := by
  obtain ⟨published, steps, -⟩ := steps_of_stepClient? serving.staffed.distinct mem h
  exact steps.serving serving

theorem Serving.atOnce (serving : x.Serving fetching) (call : Call ε) :
    (x.atOnce call).1.Serving fetching := by
  refine ⟨serving.staffed.heard (x.heard_atOnce call), ?_⟩
  refine fetches_heard (x.heard_atOnce call) fun c mem mine => ?_
  refine (serving.fetches c mem mine).mono fun closed => ?_
  rw [queue, atOnce_channel]
  exact x.channel.closed_step call false closed

omit [Quantity α] in
/-- A worker begins to fetch. -/
theorem Serving.enter (serving : x.Serving fetching) (block : Span)
    (joined : ∀ id, fetching' id ↔ id = x.freshId ∨ fetching id) :
    (x.enter x.freshId (.fetch .takeSlot false) block).Serving fetching' := by
  refine ⟨staffed_enter serving.staffed block joined, ?_⟩
  refine List.forall_mem_cons.2 ⟨fun _ => True.intro, fun c mem mine => ?_⟩
  refine serving.fetches c mem (((joined c.id).1 mine).resolve_left fun same => ?_)
  exact absurd same (Nat.ne_of_lt (lt_freshId mem))

omit [Quantity α] in
/-- A client leaves. -/
theorem Serving.leave (serving : x.Serving fetching) {c : Client ε} (mem : c ∈ x.clients)
    (left : ∀ id, fetching' id ↔ fetching id ∧ id ≠ c.id) :
    (x.leave c.id).Serving fetching' := by
  refine ⟨(staffed_leave serving.staffed mem left).1, fun d hd mine => ?_⟩
  exact serving.fetches d (List.mem_of_mem_filter hd) ((left d.id).1 mine).1

end Exchange

end StagedEvents
