import StagedEvents.Proofs.Channel.Deferral
import StagedEvents.Proofs.Exchange.Carriage
import StagedEvents.Proofs.Queue.Answers

/-!
# What producers are told, whether they wait or not

A producer who waits for room tries again whenever it wakes, and others use the queue between
its tries. Whatever it is told in the end it was told in one step, its last, and what it was
told then was true of the queue in that step, as with those who do not wait. The tries before
left the queue as it was.

* `Concludes`: a client takes the last step of its call. `Concluded`: it has done so.
* `concluded_of_reply`: a call that does not lead to another one has its reply from its last
  step.
* `enqueues_allOrNothing`: the result, for all who add events.
-/

namespace StagedEvents

variable {α ε : Type}

/-- A client in this phase is still busy with the call, or has a reply with the property. -/
def Phase.Serves (call : Call ε) (P : Reply ε → Prop) : Phase ε → Prop
  | .ready call' _ => call' = call
  | .asleep call' _ => call' = call
  | .owing _ reply => P reply
  | .returned reply => P reply

theorem Phase.Serves.mono {call : Call ε} {P Q : Reply ε → Prop} {phase : Phase ε}
    (h : phase.Serves call P) (more : ∀ reply, P reply → Q reply) : phase.Serves call Q := by
  cases phase with
  | ready | asleep => exact h
  | owing _ reply | returned reply => exact more reply h

theorem Phase.serves_after {call : Call ε} {P : Reply ε → Prop} (signals : List Signal)
    {reply : Reply ε} (h : P reply) : (Phase.after signals reply).Serves call P := by
  unfold Phase.after
  split <;> exact h

/-- If this is the client with the number, it serves the call. -/
def Client.Serves (id : ℕ) (call : Call ε) (P : Reply ε → Prop) (c : Client ε) : Prop :=
  c.id = id → c.phase.Serves call P

theorem Client.Serves.awaken {id : ℕ} {call : Call ε} {P : Reply ε → Prop} {c : Client ε}
    (h : c.Serves id call P) : c.awaken.Serves id call P := by
  obtain ⟨_, phase, deadline⟩ := c
  cases phase <;> exact h

namespace Exchange

variable [Quantity α] {allowed : Call ε → Prop} {x₀ x y : Exchange α ε} {id : ℕ} {call : Call ε}
  {reply : Reply ε} {published : List ε}

/-! ## Last steps -/

/-- From `x` to `x'` a client takes a step that ends its call with the reply. -/
structure Concludes (id : ℕ) (call : Call ε) (expired : Bool) (reply : Reply ε)
    (x x' : Exchange α ε) : Prop where
  client : ∃ c ∈ x.clients, c.id = id ∧ c.phase = .ready call expired
  reply : (x.channel.step call expired).progress = .done reply
  channel : x'.channel = (x.channel.step call expired).channel

/-- Somewhere on the way from `x₀` to `y` a client has ended its call with the reply. -/
def Concluded (allowed : Call ε → Prop) (x₀ : Exchange α ε) (id : ℕ) (call : Call ε)
    (y : Exchange α ε) (reply : Reply ε) : Prop :=
  ∃ x x' expired first step last, Steps allowed x₀ first x ∧ Step allowed x step x' ∧
    Steps allowed x' last y ∧ Concludes id call expired reply x x'

theorem Concluded.tail (h : Concluded allowed x₀ id call x reply)
    (step : Step allowed x published y) : Concluded allowed x₀ id call y reply := by
  obtain ⟨u, u', expired, first, ending, last, before, ends, after, concludes⟩ := h
  exact ⟨u, u', expired, first, ending, last ++ published, before, ends, after.tail step,
    concludes⟩

/-- Someone has the number, and everyone who has it serves the call. -/
structure Pursues (id : ℕ) (call : Call ε) (P : Reply ε → Prop) (x : Exchange α ε) : Prop where
  present : id ∈ x.clients.map (·.id)
  serves : ∀ c ∈ x.clients, c.Serves id call P

/-- No one who is busy with an exchange leaves it. -/
theorem Step.mem_ids (h : Step allowed x published y) (mem : id ∈ x.clients.map (·.id)) :
    id ∈ y.clients.map (·.id) := by
  cases h with
  | enter => exact List.mem_cons_of_mem _ mem
  | run found heard =>
    rw [found] at mem
    rw [heard.map_eq Client.id_awaken]
    simpa using mem
  | signal found heard =>
    rw [found] at mem
    rw [heard.map_eq Client.id_awaken]
    simpa using mem
  | wake expired found | finish found =>
    rw [found] at mem
    simpa using mem
  | around => exact mem

omit [Quantity α] in
theorem serves_phase (o : Outcome α ε) {P : Reply ε → Prop}
    (stays : ∀ next, o.progress ≠ .next next) (done : ∀ reply, o.progress = .done reply → P reply) :
    (o.phase call).Serves call P := by
  unfold Outcome.phase
  cases progress : o.progress with
  | next next => exact absurd progress (stays next)
  | sleep => rfl
  | done reply => exact Phase.serves_after _ (done reply progress)

/-- The property may grow with the exchange; a reply has it at the latest when it is there. -/
theorem Step.pursues {P Q : Reply ε → Prop} (h : Step allowed x published y)
    (pursues : x.Pursues id call P) (more : ∀ reply, P reply → Q reply)
    (stays : ∀ (c : Channel α ε) expired next, (c.step call expired).progress ≠ .next next)
    (ends : ∀ expired reply, Concludes id call expired reply x y → Q reply) :
    y.Pursues id call Q := by
  refine ⟨h.mem_ids pursues.present, ?_⟩
  have serves : ∀ c ∈ x.clients, c.Serves id call Q :=
    fun c mem same => (pursues.serves c mem same).mono more
  cases h with
  | @enter other _ _ fresh _ =>
    refine List.forall_mem_cons.2 ⟨fun same => ?_, serves⟩
    obtain ⟨c, mem, same'⟩ := List.mem_map.1 pursues.present
    exact absurd (same'.trans same.symm) (fresh c mem)
  | @run before after clients other call' expired deadline found heard =>
    have mem : ⟨other, .ready call' expired, deadline⟩ ∈ x.clients := by
      rw [found]
      simp
    rw [found] at serves
    refine heard.forall (fun c => Client.Serves.awaken) (forall_replace serves fun same => ?_)
    obtain rfl : call' = call := pursues.serves _ mem same
    refine serves_phase _ (stays x.channel expired) fun reply done => ends expired reply ?_
    exact ⟨⟨_, mem, same, rfl⟩, done, rfl⟩
  | @wake before after other call' on deadline expired found =>
    rw [found] at serves
    exact forall_replace serves (serves ⟨other, .asleep call' on, deadline⟩ (by simp))
  | @signal before after clients other s rest reply deadline found heard =>
    rw [found] at serves
    refine heard.forall (fun c => Client.Serves.awaken) (forall_replace serves ?_)
    exact serves ⟨other, .owing (s :: rest) reply, deadline⟩ (by simp)
  | @finish before after other reply deadline found =>
    rw [found] at serves
    exact forall_replace serves (serves ⟨other, .owing [] reply, deadline⟩ (by simp))
  | around => exact serves

/-- **A reply is that of a last step**, if no step of the call leads to another call. -/
theorem concluded_of_reply {patience : Span} (fresh : ∀ c ∈ x.clients, c.id ≠ id)
    (stays : ∀ (c : Channel α ε) expired next, (c.step call expired).progress ≠ .next next)
    (steps : Steps allowed (x.enter id call patience) published y) {c : Client ε}
    (mem : c ∈ y.clients) (same : c.id = id) (replied : c.reply? = some reply) :
    Concluded allowed (x.enter id call patience) id call y reply := by
  have pursues : y.Pursues id call
      (Concluded allowed (x.enter id call patience) id call y) := by
    clear mem
    induction steps with
    | refl =>
      refine ⟨List.mem_cons_self, List.forall_mem_cons.2 ⟨fun _ => rfl, fun c mem same => ?_⟩⟩
      exact absurd same (fresh c mem)
    | tail steps step ih =>
      exact step.pursues ih (fun _ before => before.tail step) stays fun expired reply concludes =>
        ⟨_, _, expired, _, _, _, steps, step, .refl, concludes⟩
  have served := pursues.serves c mem same
  unfold Client.reply? at replied
  split at replied
  · rename_i reply' returned
    obtain rfl := Option.some.inj replied
    rw [returned] at served
    exact served
  · exact absurd replied (by simp)

/-! ## Those who wait for room -/

/-- Where a try of a producer who waits leads to, and the queue it leaves behind. -/
theorem step_offer (c : Channel α ε) (event : ε) (expired : Bool) :
    ((c.step (.offer event) expired).progress = .sleep .notFull ∧
        (c.step (.offer event) expired).channel.queue = c.queue) ∨
      ∃ answer, (c.step (.offer event) expired).progress = .done (.enqueued answer) ∧
        c.queue.AllOrNothing (c.queue.Refuses .all 1) event (c.queue.publish [event], ())
          ((c.step (.offer event) expired).channel.queue, answer) ∧
        ∀ back, answer = .error ⟨.full, back⟩ → expired = true := by
  rw [Channel.progress_offer, Channel.queue_offer]
  cases answered : (c.queue.offer? event expired).2 with
  | none => exact .inl ⟨rfl, (Queue.offer?_waits answered).1⟩
  | some answer =>
    exact .inr ⟨answer, rfl, Queue.allOrNothing_offer? answered, (Queue.offer?_answered answered).2⟩

/-- **Events are let in all or not at all**, and a producer is told exactly what is the case.

    * Of one event, of several and of a reservation for several each reason to refuse them is
      given exactly when it applies; refused events are handed back and nothing has changed,
      others are all let in.
    * No events at all are refused by a closed queue only, and no gate hears of them.
    * A producer who waits for room leaves the queue as it is with every try after which it
      sleeps. What it is told was so in the step in which it was told, whatever others did
      before and after; and that the queue is full is told only to one whose time is over. -/
theorem enqueues_allOrNothing :
    (∀ (q : Queue ε) (gate : Admission),
      (∀ event, q.AllOrNothing (q.Refuses gate 1) event (q.publish [event], ())
        (q.enqueue gate event)) ∧
      (∀ events, events ≠ [] →
        q.AllOrNothing (q.Refuses gate events.length) events (q.publish events, ())
          (q.enqueueMany gate events) ∧
        q.AllOrNothing (q.Refuses gate events.length) events
          ({ q with reserved := q.reserved + events.length }, ⟨events⟩)
          (q.prepare gate events)) ∧
      q.AllOrNothing (fun cause => cause = .closed ∧ q.closed = true) [] (q, ())
        (q.enqueueMany gate []) ∧
      q.AllOrNothing (fun cause => cause = .closed ∧ q.closed = true) [] (q, ⟨[]⟩)
        (q.prepare gate [])) ∧
    (∀ s : Sink α ε, (s.enqueueMany []).1.gate = s.gate ∧ (s.prepare []).1.gate = s.gate) ∧
    (∀ (c : Channel α ε) (event : ε) (expired : Bool) (on : Condition),
      (c.step (.offer event) expired).progress = .sleep on →
      (c.step (.offer event) expired).channel.queue = c.queue) ∧
    ∀ (allowed : Call ε → Prop) (x₀ y : Exchange α ε) (id : ℕ) (event : ε) (patience : Span)
      (published : List ε) (c : Client ε) (reply : Reply ε),
      (∀ c ∈ x₀.clients, c.id ≠ id) →
      Steps allowed (x₀.enter id (.offer event) patience) published y →
      c ∈ y.clients → c.id = id → c.reply? = some reply →
      ∃ answer, reply = .enqueued answer ∧
        ∃ x x' expired first step last,
          Steps allowed (x₀.enter id (.offer event) patience) first x ∧
          Step allowed x step x' ∧ Steps allowed x' last y ∧
          Concludes id (.offer event) expired reply x x' ∧
          x.queue.AllOrNothing (x.queue.Refuses .all 1) event (x.queue.publish [event], ())
            (x'.queue, answer) ∧
          ∀ back, answer = .error ⟨.full, back⟩ → expired = true := by
  refine ⟨fun q gate => ⟨Queue.allOrNothing_enqueue gate, fun events some => ?_,
    Queue.enqueueMany_nil gate, Queue.prepare_nil gate⟩, fun s => ⟨rfl, rfl⟩, ?_, ?_⟩
  · exact ⟨Queue.allOrNothing_enqueueMany gate some, Queue.allOrNothing_prepare gate some⟩
  · intro c event expired on sleeps
    rcases step_offer c event expired with ⟨-, same⟩ | ⟨answer, done, -⟩
    · exact same
    · rw [done] at sleeps
      exact absurd sleeps (by simp)
  · intro allowed x₀ y id event patience published c reply fresh steps mem same replied
    have stays (c : Channel α ε) (expired : Bool) (next : Call ε) :
        (c.step (.offer event) expired).progress ≠ .next next := by
      rcases step_offer c event expired with ⟨sleeps, -⟩ | ⟨answer, done, -⟩
      · simp [sleeps]
      · simp [done]
    obtain ⟨x, x', expired, first, step, last, before, ends, after, concludes⟩ :=
      concluded_of_reply fresh stays steps mem same replied
    have replies := concludes.reply
    rcases step_offer x.channel event expired with ⟨sleeps, -⟩ | ⟨answer, done, told, late⟩
    · rw [sleeps] at replies
      exact absurd replies (by simp)
    · rw [done] at replies
      obtain rfl : Reply.enqueued answer = reply := Progress.done.inj replies
      have queue : x'.queue = (x.channel.step (.offer event) expired).channel.queue :=
        congrArg Channel.queue concludes.channel
      refine ⟨answer, rfl, x, x', expired, first, step, last, before, ends, after, concludes, ?_,
        late⟩
      rw [queue]
      exact told

/-- One event fits in, and is there. -/
def crammed : Channel Float Nat :=
  { sink :=
      { queue := { capacity := some 1, events := [7], reserved := 0, closed := false }
        gate := .openToAll, stats := .new }
    sorter := .drainAll }

/-- A producer sleeps until its time is over and is told that the queue is full; so is at once
    one who brings two events, or would reserve room for them. -/
theorem enqueues_allOrNothing_crammed :
    (∃ (y : Exchange Float Nat) (c : Client Nat), c ∈ y.clients ∧
      c.reply? = some (.enqueued (.error ⟨.full, 9⟩)) ∧ ∃ x x' : Exchange Float Nat,
        Concludes 0 (.offer 9) true (.enqueued (.error ⟨.full, 9⟩)) x x' ∧ x.queue.Lacks 1 ∧
        x'.queue = x.queue) ∧
    crammed.queue.enqueueMany .all [8, 9] = (crammed.queue, .error ⟨.full, [8, 9]⟩) ∧
    (crammed.queue.prepare .all [8, 9]).1 = crammed.queue := by
  let told : Client Nat := ⟨0, .returned (.enqueued (.error ⟨.full, 9⟩)), some 5⟩
  let trying (expired : Bool) : Exchange Float Nat :=
    ⟨crammed, [⟨0, .ready (.offer 9) expired, some 5⟩], 0⟩
  have sleeps : Step (fun _ => True) (trying false) []
      ⟨crammed, [⟨0, .asleep (.offer 9) .notFull, some 5⟩], 0⟩ :=
    @Step.run _ _ _ _ (trying false) [] [] _ 0 (.offer 9) false (some 5) rfl .nil
  have wakes : Step (fun _ => True) ⟨crammed, [⟨0, .asleep (.offer 9) .notFull, some 5⟩], 0⟩ []
      (trying true) :=
    @Step.wake _ _ _ _ ⟨crammed, _, 0⟩ [] [] 0 (.offer 9) .notFull (some 5) true rfl
  have givesUp : Step (fun _ => True) (trying true) [] ⟨crammed, [told], 0⟩ :=
    @Step.run _ _ _ _ (trying true) [] [] _ 0 (.offer 9) true (some 5) rfl .nil
  have steps : Steps (fun _ => True) ((ofChannel crammed).enter 0 (.offer 9) ⟨5⟩) []
      ⟨crammed, [told], 0⟩ := ((Steps.single sleeps).tail wakes).tail givesUp
  obtain ⟨lists, -, -, timed⟩ := @enqueues_allOrNothing Float Nat _
  obtain ⟨answer, same, x, x', expired, -, -, -, -, -, -, concludes, allOrNothing, late⟩ :=
    timed _ _ _ 0 9 ⟨5⟩ _ told _ (by simp [ofChannel]) steps (by simp) rfl rfl
  obtain rfl : .error ⟨.full, 9⟩ = answer := Reply.enqueued.inj same
  obtain rfl : expired = true := late 9 rfl
  obtain ⟨-, -, lacks⟩ := (allOrNothing.cause_iff .full).1 ⟨9, rfl⟩
  have full : crammed.queue.Refuses .all 2 .full := ⟨rfl, rfl, 1, rfl, by decide⟩
  obtain ⟨many, prepared⟩ := (lists crammed.queue .all).2.1 [8, 9] (by simp)
  obtain ⟨_, refused⟩ := (many.cause_iff .full).2 full
  obtain ⟨_, refused'⟩ := (prepared.cause_iff .full).2 full
  obtain ⟨unchanged, rfl⟩ := many.refused refused
  refine ⟨⟨⟨crammed, [told], 0⟩, told, .head _, rfl, x, x', concludes, lacks, ?_⟩,
    Prod.ext unchanged refused, (prepared.refused refused').1⟩
  exact (allOrNothing.refused rfl).1

end Exchange

end StagedEvents
