import Mathlib.Data.List.Basic
import StagedEvents.Exchange
import StagedEvents.Proofs.Channel.Effect

/-!
# All interleavings of an exchange

`Exchange.stepClient?` is one way for a client to go on. `Step` has all of them: any
client may take its next step; a signal for one sleeper may wake any of those who sleep on
its condition; the signals of a call that is out of its last critical section are given
one at a time, with steps of others in between; a sleeper may go on because its time is
over, or for no reason at all; and new clients may come with any `allowed` call.

* `Heard`: the clients after a signal.
* `Step`, `Steps`: one step, and any number of them, each with the events it publishes.
* `steps_of_stepClient?`: the step of the program is among them.
-/

namespace StagedEvents

variable {α ε : Type}

/-- The clients before and after a signal. Which sleeper a signal for one of them wakes is
    left open; it is lost when there is none. -/
inductive Heard (s : Signal) : List (Client ε) → List (Client ε) → Prop where
  | all {clients : List (Client ε)} (toAll : s.all = true) :
      Heard s clients (clients.map fun c => if c.sleepsOn s.on then c.awaken else c)
  | one {before after : List (Client ε)} {c : Client ε} (toOne : s.all = false)
      (sleeps : c.sleepsOn s.on = true) :
      Heard s (before ++ c :: after) (before ++ c.awaken :: after)
  | lost {clients : List (Client ε)} (toOne : s.all = false)
      (awake : ∀ c ∈ clients, c.sleepsOn s.on = false) : Heard s clients clients

/-- The clients before and after signals that are given one after the other. -/
inductive HeardAll : List Signal → List (Client ε) → List (Client ε) → Prop where
  | nil {clients : List (Client ε)} : HeardAll [] clients clients
  | cons {s : Signal} {rest : List Signal} {clients between after : List (Client ε)}
      (first : Heard s clients between) (others : HeardAll rest between after) :
      HeardAll (s :: rest) clients after

/-- The call that a client is in the middle of. -/
def Client.call? (c : Client ε) : Option (Call ε) :=
  match c.phase with
  | .ready call _ => some call
  | .asleep call _ => some call
  | _ => none

namespace Exchange

variable [Quantity α]

/-- The queue of an exchange. -/
def queue (x : Exchange α ε) : Queue ε := x.channel.queue

/-- One step of an exchange, with the events that it publishes. -/
inductive Step (allowed : Call ε → Prop) :
    Exchange α ε → List ε → Exchange α ε → Prop where
  | enter {x : Exchange α ε} {id : Nat} {call : Call ε} (patience : Span)
      (fresh : ∀ c ∈ x.clients, c.id ≠ id) (may : allowed call) :
      Step allowed x [] (x.enter id call patience)
  | run {x : Exchange α ε} {before after clients : List (Client ε)} {id : Nat}
      {call : Call ε} {expired : Bool} {deadline : Option Nat}
      (found : x.clients = before ++ ⟨id, .ready call expired, deadline⟩ :: after)
      (heard : HeardAll (x.channel.step call expired).prompt
        (before ++ ⟨id, (x.channel.step call expired).phase call, deadline⟩ :: after)
        clients) :
      Step allowed x (call.published (x.channel.step call expired).progress)
        { x with channel := (x.channel.step call expired).channel, clients }
  /-- A sleeper goes on without a signal, because its time is over or for no reason. -/
  | wake {x : Exchange α ε} {before after : List (Client ε)} {id : Nat} {call : Call ε}
      {on : Condition} {deadline : Option Nat} (expired : Bool)
      (found : x.clients = before ++ ⟨id, .asleep call on, deadline⟩ :: after) :
      Step allowed x []
        { x with clients := before ++ ⟨id, .ready call expired, deadline⟩ :: after }
  | signal {x : Exchange α ε} {before after clients : List (Client ε)} {id : Nat}
      {s : Signal} {rest : List Signal} {reply : Reply ε} {deadline : Option Nat}
      (found : x.clients = before ++ ⟨id, .owing (s :: rest) reply, deadline⟩ :: after)
      (heard : Heard s (before ++ ⟨id, .owing rest reply, deadline⟩ :: after) clients) :
      Step allowed x [] { x with clients }
  | finish {x : Exchange α ε} {before after : List (Client ε)} {id : Nat} {reply : Reply ε}
      {deadline : Option Nat}
      (found : x.clients = before ++ ⟨id, .owing [] reply, deadline⟩ :: after) :
      Step allowed x [] { x with clients := before ++ ⟨id, .returned reply, deadline⟩ :: after }
  /-- Time passes, and the gate may be turned or replaced. -/
  | around {x : Exchange α ε} (gate : Gate α) (clock : Nat) :
      Step allowed x []
        { x with channel := { x.channel with sink := { x.channel.sink with gate } }, clock }

/-- Any number of steps, with the events that they publish. -/
inductive Steps (allowed : Call ε → Prop) :
    Exchange α ε → List ε → Exchange α ε → Prop where
  | refl {x : Exchange α ε} : Steps allowed x [] x
  | tail {x y z : Exchange α ε} {first last : List ε} (steps : Steps allowed x first y)
      (step : Step allowed y last z) : Steps allowed x (first ++ last) z

theorem Steps.single {allowed : Call ε → Prop} {x y : Exchange α ε} {published : List ε}
    (h : Step allowed x published y) : Steps allowed x published y :=
  .tail .refl h

theorem Steps.trans {allowed : Call ε → Prop} {x y z : Exchange α ε} {first last : List ε}
    (h : Steps allowed x first y) (h' : Steps allowed y last z) :
    Steps allowed x (first ++ last) z := by
  induction h' with
  | refl => rwa [List.append_nil]
  | tail _ step ih => rw [← List.append_assoc]; exact .tail ih step

/-- A client comes and takes the first step of its call. -/
theorem Steps.call {allowed : Call ε → Prop} {x : Exchange α ε} (id : Nat) (call : Call ε)
    (fresh : ∀ c ∈ x.clients, c.id ≠ id) (may : allowed call)
    (silent : (x.channel.step call false).prompt = []) :
    Steps allowed x (call.published (x.channel.step call false).progress)
      { x with
        channel := (x.channel.step call false).channel
        clients := ⟨id, (x.channel.step call false).phase call, none⟩ :: x.clients } := by
  let stepped : Client ε := ⟨id, (x.channel.step call false).phase call, none⟩
  have heard : HeardAll (x.channel.step call false).prompt (stepped :: x.clients)
      (stepped :: x.clients) := by
    rw [silent]
    exact .nil
  have entered : Step allowed x [] (x.enter id call .longest) := .enter .longest fresh may
  have found : (x.enter id call .longest).clients =
      [] ++ ⟨id, .ready call false, none⟩ :: x.clients := rfl
  exact (Steps.single entered).tail (.run found heard)

/-- What every step keeps holds after any number of them. -/
theorem Steps.invariant {allowed : Call ε → Prop} {P : Exchange α ε → Prop}
    (keeps : ∀ {x y : Exchange α ε} {published : List ε}, Step allowed x published y →
      P x → P y)
    {x y : Exchange α ε} {published : List ε} (h : Steps allowed x published y) (hx : P x) :
    P y := by
  induction h with
  | refl => exact hx
  | tail _ step ih => exact keeps step ih

end Exchange

/-! ## What signals and steps leave as it was -/

theorem Client.call?_awaken (c : Client ε) : c.awaken.call? = c.call? := by
  obtain ⟨id, phase, deadline⟩ := c
  cases phase <;> rfl

/-- What holds of all clients holds of them after a signal, if it does of those woken. -/
theorem Heard.forall {s : Signal} {clients clients' : List (Client ε)}
    (h : Heard s clients clients') {P : Client ε → Prop} (keeps : ∀ c, P c → P c.awaken)
    (all : ∀ c ∈ clients, P c) : ∀ c ∈ clients', P c := by
  cases h with
  | all =>
    intro c mem
    obtain ⟨d, hd, rfl⟩ := List.mem_map.1 mem
    split
    · exact keeps d (all d hd)
    · exact all d hd
  | @one before after c =>
    intro d mem
    rcases List.mem_append.1 mem with mem | mem
    · exact all d (List.mem_append_left _ mem)
    · rcases List.mem_cons.1 mem with rfl | mem
      · exact keeps c (all c (by simp))
      · exact all d (by simp [mem])
  | lost => exact all

theorem HeardAll.forall {signals : List Signal}
    {clients clients' : List (Client ε)} (h : HeardAll signals clients clients')
    {P : Client ε → Prop} (keeps : ∀ c, P c → P c.awaken) (all : ∀ c ∈ clients, P c) :
    ∀ c ∈ clients', P c := by
  induction h with
  | nil => exact all
  | cons first _ ih => exact ih (first.forall keeps all)

/-- What is the same of a client who is woken is the same of all clients after a signal. -/
theorem Heard.map_eq {β : Type} {s : Signal} {clients clients' : List (Client ε)}
    (h : Heard s clients clients') {f : Client ε → β} (same : ∀ c, f c.awaken = f c) :
    clients'.map f = clients.map f := by
  cases h with
  | all =>
    rw [List.map_map]
    refine List.map_congr_left fun c _ => ?_
    rw [Function.comp_apply]
    split
    · exact same c
    · rfl
  | one => rw [List.map_append, List.map_cons, same, List.map_append, List.map_cons]
  | lost => rfl

theorem HeardAll.map_eq {β : Type} {signals : List Signal} {clients clients' : List (Client ε)}
    (h : HeardAll signals clients clients') {f : Client ε → β} (same : ∀ c, f c.awaken = f c) :
    clients'.map f = clients.map f := by
  induction h with
  | nil => rfl
  | cons first _ ih => rw [ih, first.map_eq same]

theorem forall_replace {before after : List (Client ε)} {c : Client ε}
    {P : Client ε → Prop} (all : ∀ d ∈ before ++ c :: after, P d) {c' : Client ε} (new : P c') :
    ∀ d ∈ before ++ c' :: after, P d := by
  intro d mem
  rcases List.mem_append.1 mem with mem | mem
  · exact all d (List.mem_append_left _ mem)
  · rcases List.mem_cons.1 mem with rfl | mem
    · exact new
    · exact all d (by simp [mem])

/-- A client goes on with its call, or with the one that its call led to. -/
theorem Outcome.call?_of_phase {o : Outcome α ε} {call : Call ε} {c : Client ε}
    (h : c.phase = o.phase call) {call' : Call ε}
    (busy : c.call? = some call') : call' = call ∨ o.progress = .next call' := by
  unfold Client.call? at busy
  rw [h] at busy
  unfold phase at busy
  cases progress : o.progress with
  | next =>
    rw [progress] at busy
    exact .inr (congrArg _ (Option.some.inj busy))
  | sleep =>
    rw [progress] at busy
    exact .inl (Option.some.inj busy).symm
  | done =>
    rw [progress] at busy
    unfold Phase.after at busy
    cases late : o.late
    all_goals exact absurd busy (by simp [late])

/-! ## Signals as the program gives them -/

theorem Heard.cons {s : Signal} {clients clients' : List (Client ε)} {c : Client ε}
    (awake : c.sleepsOn s.on = false) (h : Heard s clients clients') :
    Heard s (c :: clients) (c :: clients') := by
  cases h with
  | all toAll => simpa [awake] using @Heard.all _ s (c :: clients) toAll
  | @one before _ _ toOne sleeps => exact @Heard.one _ s (c :: before) _ _ toOne sleeps
  | lost toOne others => exact .lost toOne (List.forall_mem_cons.2 ⟨awake, others⟩)

theorem signalClients_toAll {s : Signal} (toAll : s.all = true) (clients : List (Client ε)) :
    signalClients s clients =
      clients.map fun c => if c.sleepsOn s.on then c.awaken else c := by
  induction clients with
  | nil => rfl
  | cons c rest ih =>
    rw [signalClients, List.map_cons, ih]
    cases c.sleepsOn s.on <;> simp [toAll]

theorem heard_signalClients (s : Signal) (clients : List (Client ε)) :
    Heard s clients (signalClients s clients) := by
  cases toAll : s.all with
  | true =>
    rw [signalClients_toAll toAll]
    exact .all toAll
  | false =>
    induction clients with
    | nil => exact .lost toAll (List.forall_mem_nil _)
    | cons c rest ih =>
      cases sleeps : c.sleepsOn s.on with
      | true =>
        simp only [signalClients, sleeps, toAll, if_true, Bool.false_eq_true, if_false]
        exact @Heard.one _ s [] rest c toAll sleeps
      | false =>
        simp only [signalClients, sleeps, Bool.false_eq_true, if_false]
        exact ih.cons sleeps

theorem heardAll_foldl (signals : List Signal) (clients : List (Client ε)) :
    HeardAll signals clients
      (signals.foldl (fun clients s => signalClients s clients) clients) := by
  induction signals generalizing clients with
  | nil => exact .nil
  | cons s rest ih => exact .cons (heard_signalClients s clients) (ih _)

/-- A client who does not sleep takes no part in a signal. -/
theorem signalClients_around (s : Signal) (before after : List (Client ε)) :
    ∃ before' after', ∀ c : Client ε, c.sleepsOn s.on = false →
      signalClients s (before ++ c :: after) = before' ++ c :: after' := by
  induction before with
  | nil =>
    refine ⟨[], signalClients s after, fun c awake => ?_⟩
    simp only [List.nil_append, signalClients, awake, Bool.false_eq_true, if_false]
  | cons d rest ih =>
    obtain ⟨before', after', same⟩ := ih
    cases sleeps : d.sleepsOn s.on with
    | false =>
      refine ⟨d :: before', after', fun c awake => ?_⟩
      simp only [List.cons_append, signalClients, sleeps, Bool.false_eq_true, if_false,
        same c awake]
    | true =>
      cases toAll : s.all with
      | true =>
        refine ⟨d.awaken :: before', after', fun c awake => ?_⟩
        simp only [List.cons_append, signalClients, sleeps, toAll, if_true, same c awake]
      | false =>
        refine ⟨d.awaken :: rest, after, fun c _ => ?_⟩
        simp only [List.cons_append, signalClients, sleeps, toAll, if_true,
          Bool.false_eq_true, if_false]

namespace Exchange

variable [Quantity α] {x y : Exchange α ε} {allowed : Call ε → Prop}

/-! ## The step of the program -/

/-- No two clients have the same number. -/
def Distinct (x : Exchange α ε) : Prop := (x.clients.map (·.id)).Nodup

omit [Quantity α] in
theorem setPhase_clients (distinct : x.Distinct) {before after : List (Client ε)} {id : Nat}
    {phase : Phase ε} {deadline : Option Nat}
    (found : x.clients = before ++ ⟨id, phase, deadline⟩ :: after) (phase' : Phase ε) :
    (x.setPhase id phase').clients = before ++ ⟨id, phase', deadline⟩ :: after := by
  have nodup : (before.map (·.id) ++ id :: after.map (·.id)).Nodup := by
    have := distinct
    rw [Distinct, found, List.map_append, List.map_cons] at this
    exact this
  obtain ⟨-, nodupAfter, apart⟩ := List.nodup_append.1 nodup
  have others (c : Client ε) (hc : c ∈ before) : c.id ≠ id :=
    apart c.id (List.mem_map_of_mem hc) id List.mem_cons_self
  have others' (c : Client ε) (hc : c ∈ after) : c.id ≠ id := fun same =>
    (List.nodup_cons.1 nodupAfter).1 (same ▸ List.mem_map_of_mem hc)
  have keep (clients : List (Client ε)) (h : ∀ c ∈ clients, c.id ≠ id) :
      clients.map (fun c => if c.id = id then { c with phase := phase' } else c) = clients := by
    refine (List.map_congr_left fun c hc => ?_).trans (List.map_id _)
    rw [if_neg (h c hc)]
    rfl
  simp only [setPhase, found, List.map_append, List.map_cons, if_true]
  rw [keep before others, keep after others']

theorem runCall_eq (distinct : x.Distinct) {before after : List (Client ε)} {id : Nat}
    {phase : Phase ε} {deadline : Option Nat}
    (found : x.clients = before ++ ⟨id, phase, deadline⟩ :: after) (call : Call ε)
    (expired : Bool) :
    x.runCall id call expired = { x with
      channel := (x.channel.step call expired).channel
      clients := (x.channel.step call expired).prompt.foldl
        (fun clients s => signalClients s clients)
        (before ++ ⟨id, (x.channel.step call expired).phase call, deadline⟩ :: after) } := by
  rw [← setPhase_clients distinct found]
  rfl

theorem step_runCall (distinct : x.Distinct) {before after : List (Client ε)} {id : Nat}
    {call : Call ε} {expired : Bool} {deadline : Option Nat}
    (found : x.clients = before ++ ⟨id, .ready call expired, deadline⟩ :: after) :
    Step allowed x (call.published (x.channel.step call expired).progress)
      (x.runCall id call expired) := by
  rw [runCall_eq distinct found]
  exact .run found (heardAll_foldl _ _)

theorem steps_owing {before after : List (Client ε)} {id : Nat} {reply : Reply ε}
    {deadline : Option Nat} (signals : List Signal)
    (found : x.clients = before ++ ⟨id, .owing signals reply, deadline⟩ :: after) :
    Steps allowed x [] { x with
      clients := signals.foldl (fun clients s => signalClients s clients)
        (before ++ ⟨id, .returned reply, deadline⟩ :: after) } := by
  induction signals generalizing x before after with
  | nil => exact .single (.finish found)
  | cons s rest ih =>
    obtain ⟨before', after', around⟩ := signalClients_around s before after
    have heard := heard_signalClients s
      (before ++ ⟨id, .owing rest reply, deadline⟩ :: after)
    rw [around _ rfl] at heard
    have first : Step allowed x [] { x with
        clients := before' ++ ⟨id, .owing rest reply, deadline⟩ :: after' } :=
      .signal found heard
    have others := ih (x := { x with
        clients := before' ++ ⟨id, .owing rest reply, deadline⟩ :: after' }) rfl
    rw [List.foldl_cons, around _ rfl]
    exact (Steps.single first).trans others

/-- What the program does with a client are steps of the exchange, and what they publish
    the client's call publishes. -/
theorem steps_of_stepClient? (distinct : x.Distinct) {c : Client ε} (mem : c ∈ x.clients)
    (h : x.stepClient? c = some y) :
    ∃ published, Steps allowed x published y ∧ (published = [] ∨
      ∃ call progress, c.call? = some call ∧ published = call.published progress) := by
  obtain ⟨before, after, found⟩ := List.append_of_mem mem
  obtain ⟨id, phase, deadline⟩ := c
  cases phase with
  | ready call expired =>
    obtain rfl := Option.some.inj h
    exact ⟨_, .single (step_runCall distinct found), .inr ⟨call, _, rfl, rfl⟩⟩
  | asleep call on =>
    simp only [stepClient?] at h
    split at h
    · obtain rfl := Option.some.inj h
      have woken : Step allowed x [] _ := .wake true found
      let x' : Exchange α ε :=
        { x with clients := before ++ ⟨id, .ready call true, deadline⟩ :: after }
      have distinct' : x'.Distinct := by
        have := distinct
        rw [Distinct, found] at this
        simpa only [Distinct, x', List.map_append, List.map_cons] using this
      have found' : x'.clients = before ++ ⟨id, .ready call true, deadline⟩ :: after := rfl
      have ran : Step allowed x' _ (x'.runCall id call true) := step_runCall distinct' found'
      have same : x'.runCall id call true = x.runCall id call true := by
        rw [runCall_eq distinct found, runCall_eq distinct' found']
      exact ⟨_, (Steps.single woken).tail (same ▸ ran), .inr ⟨call, _, rfl, rfl⟩⟩
    · exact absurd h (by simp)
  | owing signals reply =>
    obtain rfl := Option.some.inj h
    have clients := setPhase_clients distinct found (.returned reply)
    have steps : Steps allowed x [] _ := steps_owing signals found
    rw [← clients] at steps
    exact ⟨[], steps, .inl rfl⟩
  | returned reply => exact absurd h (by simp [stepClient?])

end Exchange

end StagedEvents
