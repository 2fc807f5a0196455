import Mathlib.Algebra.Order.Group.Multiset
import Mathlib.Tactic.Abel
import StagedEvents.Proofs.Exchange.Interleaving

/-!
# What the clients of an exchange carry

Between the step that takes the events of a batch off the queue and the moment at which a
worker has the batch, the client of the worker carries them. `Exchange.balance` has the
events of the queue with those carried. Producers add to it what they publish, and nothing
else changes it as long as only workers take events.

* `Client.HasRole`: a client is a worker's, and fetches, or it is a producer.
* `Staffed`: every client has a role, and no two have the same number.
* `Exchange.Step.staffed`: what one step does to the roles and to the balance.
-/

namespace StagedEvents

variable {α ε : Type}

/-- Calls by which workers get batches and are done with them. -/
def Call.IsFetch : Call ε → Prop
  | .fetch _ _ => True
  | .complete _ _ => True
  | _ => False

/-- Calls of those who bring events, or who close the queue. -/
def Call.IsProducer : Call ε → Prop
  | .enqueue _ _ => True
  | .enqueueMany _ _ => True
  | .prepare _ _ => True
  | .commit _ => True
  | .release _ => True
  | .offer _ => True
  | .close => True
  | _ => False

/-- The events of the batch in a reply. -/
def Reply.carried : Reply ε → List ε
  | .fetched (.ok (some batch)) => batch.events
  | _ => []

/-- The events of the batch that a call will reply with. -/
def Call.carried : Call ε → List ε
  | .fetch (.returnSlot answer) _ => (Reply.fetched answer).carried
  | .complete _ reply => reply.carried
  | _ => []

/-- The events that a client carries: taken off the queue, and not yet with a worker. -/
def Client.carried (c : Client ε) : List ε :=
  match c.phase with
  | .ready call _ => call.carried
  | .asleep call _ => call.carried
  | .owing _ reply => reply.carried
  | .returned reply => reply.carried

/-- The events that the clients carry. -/
def carried (clients : List (Client ε)) : List ε := clients.flatMap (·.carried)

theorem Client.carried_awaken (c : Client ε) : c.awaken.carried = c.carried := by
  obtain ⟨id, phase, deadline⟩ := c
  cases phase <;> rfl

theorem Client.id_awaken (c : Client ε) : c.awaken.id = c.id := by
  obtain ⟨id, phase, deadline⟩ := c
  cases phase <;> rfl

/-! ## One step of a call -/

/-- The events that a call carries after its step. -/
def Progress.carried (call : Call ε) : Progress (Call ε) (Reply ε) → List ε
  | .done reply => reply.carried
  | .next call => call.carried
  | .sleep _ => call.carried

theorem Outcome.carried_of_phase {o : Outcome α ε} {call : Call ε} {c : Client ε}
    (h : c.phase = o.phase call) : c.carried = o.progress.carried call := by
  unfold Client.carried
  rw [h]
  unfold phase
  cases o.progress with
  | next | sleep => rfl
  | done =>
    unfold Phase.after
    cases o.late <;> rfl

theorem Call.IsProducer.carried {call : Call ε} (h : call.IsProducer) : call.carried = [] := by
  cases call <;> first | rfl | exact h.elim

theorem Call.IsProducer.taken {call : Call ε} (h : call.IsProducer)
    (progress : Progress (Call ε) (Reply ε)) : call.taken progress = [] := by
  cases call <;> first | rfl | exact h.elim

theorem Call.IsFetch.published {call : Call ε} (h : call.IsFetch)
    (progress : Progress (Call ε) (Reply ε)) : call.published progress = [] := by
  cases call <;> first | rfl | exact h.elim

namespace Channel

theorem carried_fetchedNothing (c : Channel α ε) (call : Call ε) (dropped : Bool)
    (answer : Except QueueError (Option (Batch ε))) :
    (c.fetchedNothing dropped answer).progress.carried call = (Reply.fetched answer).carried := by
  unfold fetchedNothing
  split <;> rfl

/-- A fetch carries what it takes. -/
theorem carried_takeEvents (c : Channel α ε) (dropped expired : Bool) :
    (c.takeEvents dropped expired).progress.carried (.fetch .takeEvents dropped) =
      Call.taken (.fetch .takeEvents dropped) (c.takeEvents dropped expired).progress := by
  simp only [takeEvents]
  split
  · rfl
  · rw [carried_fetchedNothing]
    unfold fetchedNothing
    split <;> rfl
  · rw [carried_fetchedNothing]
    unfold fetchedNothing
    split <;> rfl
  · cases dropped <;> rfl

theorem carried_takeSlot (c : Channel α ε) (dropped expired : Bool) :
    (c.takeSlot dropped expired).progress.carried (.fetch .takeSlot dropped) = [] := by
  unfold takeSlot
  split
  · rfl
  · split
    · rfl
    · cases expired <;> rfl

variable [Quantity α]

theorem carried_step_producer (c : Channel α ε) {call : Call ε} (h : call.IsProducer)
    (expired : Bool) : (c.step call expired).progress.carried call = [] := by
  cases call with
  | enqueue guarded event =>
    obtain ⟨gate, sink, -, step⟩ := step_enqueue c guarded event expired
    rw [step]
    rfl
  | enqueueMany guarded events =>
    obtain ⟨gate, sink, -, step⟩ := step_enqueueMany c guarded events expired
    rw [step]
    rfl
  | prepare guarded events =>
    obtain ⟨gate, sink, -, step⟩ := step_prepare c guarded events expired
    rw [step]
    rfl
  | offer event =>
    simp only [step]
    split <;> rfl
  | commit | release | close => rfl
  | dequeue | dequeueAll | dequeueUpTo | poll | fetch | complete => exact h.elim

/-- **What is taken is carried.** -/
theorem carried_step (c : Channel α ε) {call : Call ε} (h : call.IsFetch ∨ call.IsProducer)
    (expired : Bool) :
    (c.step call expired).progress.carried call =
      call.carried ++ call.taken (c.step call expired).progress := by
  rcases h with fetches | produces
  · cases call with
    | fetch state dropped =>
      cases state with
      | takeSlot => exact carried_takeSlot c dropped expired
      | takeEvents => exact carried_takeEvents c dropped expired
      | returnSlot answer => exact (List.append_nil _).symm
    | complete completion reply => exact (List.append_nil _).symm
    | _ => exact fetches.elim
  · rw [carried_step_producer c produces, produces.carried, produces.taken]
    rfl

end Channel

/-! ## Roles -/

/-- The role of a client: a worker's, whose client fetches, or a producer, who carries
    nothing. -/
def Client.HasRole (fetching : Nat → Prop) (c : Client ε) : Prop :=
  (fetching c.id ∧ ∀ call, c.call? = some call → call.IsFetch) ∨
    (¬ fetching c.id ∧ c.carried = [] ∧ ∀ call, c.call? = some call → call.IsProducer)

/-- Clients of whom no two have the same number, who all have their role, and among whom
    are those who fetch for a worker. -/
structure Staffed (fetching : Nat → Prop) (clients : List (Client ε)) : Prop where
  distinct : (clients.map (·.id)).Nodup
  present : ∀ id, fetching id → id ∈ clients.map (·.id)
  roles : ∀ c ∈ clients, c.HasRole fetching

variable {fetching : Nat → Prop} {clients clients' : List (Client ε)}

theorem Client.HasRole.awaken {c : Client ε} (h : c.HasRole fetching) :
    c.awaken.HasRole fetching := by
  unfold HasRole
  rwa [c.id_awaken, c.carried_awaken, c.call?_awaken]

theorem Client.HasRole.known {c : Client ε} (h : c.HasRole fetching) {call : Call ε}
    (busy : c.call? = some call) : call.IsFetch ∨ call.IsProducer :=
  h.imp (fun fetches => fetches.2 call busy) fun produces => produces.2.2 call busy

theorem Staffed.heard {signals : List Signal} (h : Staffed fetching clients)
    (heard : HeardAll signals clients clients') : Staffed fetching clients' where
  distinct := by
    rw [heard.map_eq Client.id_awaken]
    exact h.distinct
  present id hid := by
    rw [heard.map_eq Client.id_awaken]
    exact h.present id hid
  roles := heard.forall (fun _ => Client.HasRole.awaken) h.roles

theorem Staffed.replace {before after : List (Client ε)} {c c' : Client ε}
    (h : Staffed fetching (before ++ c :: after)) (id : c'.id = c.id)
    (role : c'.HasRole fetching) : Staffed fetching (before ++ c' :: after) := by
  have same : (before ++ c' :: after).map (·.id) = (before ++ c :: after).map (·.id) := by
    rw [List.map_append, List.map_append, List.map_cons, List.map_cons, id]
  refine ⟨?_, fun id hid => ?_, forall_replace h.roles role⟩
  · rw [same]
    exact h.distinct
  · rw [same]
    exact h.present id hid

theorem HeardAll.carried_eq {signals : List Signal} (heard : HeardAll signals clients clients') :
    carried clients' = carried clients := by
  simp only [carried, List.flatMap, heard.map_eq Client.carried_awaken]

theorem carried_replace {before after : List (Client ε)} {c c' : Client ε} :
    (carried (before ++ c' :: after) : Multiset ε) + c.carried =
      carried (before ++ c :: after) + c'.carried := by
  simp only [carried, List.flatMap_append, List.flatMap_cons, ← Multiset.coe_add]
  abel

/-! ## Counters -/

/-- The counters of what was handled: events, batches and failures. -/
def Stats.handled (s : Stats) : UInt64 × UInt64 × UInt64 := (s.processed, s.batches, s.failures)

theorem Stats.handled_recordOffer (s : Stats) (count : Nat) (accepted : Bool) :
    (s.recordOffer count accepted).handled = s.handled := by
  cases accepted <;> rfl

theorem Channel.sink_releaseSlot (c : Channel α ε) : c.releaseSlot.sink = c.sink := by
  unfold releaseSlot
  split <;> rfl

section Step

variable [Quantity α]

/-- Offers are counted as let in or refused, and no call counts as handled. -/
theorem Channel.handled_step (c : Channel α ε) (call : Call ε) (expired : Bool) :
    (c.step call expired).channel.sink.stats.handled = c.sink.stats.handled := by
  cases call with
  | enqueue guarded | enqueueMany guarded | prepare guarded =>
    cases guarded
    · rfl
    · exact c.sink.stats.handled_recordOffer _ _
  | commit | release | dequeue | dequeueAll | dequeueUpTo | close => rfl
  | offer | poll =>
    simp only [step]
    split <;> rfl
  | fetch state dropped =>
    cases state with
    | takeSlot =>
      simp only [step, fetchStep, takeSlot]
      split
      · rfl
      · split
        · rfl
        · split <;> rfl
    | takeEvents =>
      simp only [step, fetchStep, takeEvents, fetchedNothing]
      split
      · rfl
      · split <;> rfl
      · split <;> rfl
      · rfl
    | returnSlot => exact congrArg (·.stats.handled) c.sink_releaseSlot
  | complete completion =>
    cases completion with
    | freesSlot => exact congrArg (·.stats.handled) c.sink_releaseSlot
    | nothing | counts => rfl

/-- A step of a call keeps the role of its client. -/
theorem Client.HasRole.step {c c' : Client ε} {channel : Channel α ε} {call : Call ε}
    {expired : Bool} (h : c.HasRole fetching) (busy : c.call? = some call) (id : c'.id = c.id)
    (stepped : c'.phase = (channel.step call expired).phase call) : c'.HasRole fetching := by
  have known := h.known busy
  rcases h with ⟨fetches, calls⟩ | ⟨stranger, -, calls⟩
  · refine .inl ⟨id ▸ fetches, fun call' busy' => ?_⟩
    rcases Outcome.call?_of_phase stepped busy' with rfl | next
    · exact calls call' busy
    · obtain ⟨state, dropped, rfl, ⟨state', rfl⟩ | ⟨completion, reply, rfl⟩⟩ :=
        Channel.next_of_step next
      · exact True.intro
      · exact True.intro
  · have produces := calls call busy
    refine .inr ⟨id ▸ stranger, ?_, fun call' busy' => ?_⟩
    · rw [Outcome.carried_of_phase stepped, channel.carried_step_producer produces]
    · rcases Outcome.call?_of_phase stepped busy' with rfl | next
      · exact produces
      · obtain ⟨state, dropped, rfl, -⟩ := Channel.next_of_step next
        exact produces.elim

namespace Exchange

variable {x y : Exchange α ε} {published : List ε}

omit [Quantity α] in
/-- The events in the queue and those that clients carry. -/
def balance (x : Exchange α ε) : Multiset ε := ↑x.queue.events + ↑(carried x.clients)

omit [Quantity α] in
theorem balance_of_replace {before after : List (Client ε)} {c c' : Client ε}
    (found : x.clients = before ++ c :: after)
    (clients : carried y.clients = carried (before ++ c' :: after))
    (events : (y.queue.events : Multiset ε) + c'.carried =
      x.queue.events + published + c.carried) : y.balance = x.balance + published := by
  have replaced : (carried y.clients : Multiset ε) + c.carried =
      carried x.clients + c'.carried := by
    rw [clients, found]
    exact carried_replace
  refine add_right_cancel (b := (c.carried : Multiset ε)) ?_
  calc y.balance + ↑c.carried
      = ↑y.queue.events + (↑(carried x.clients) + ↑c'.carried) := by
        rw [balance, add_assoc, replaced]
    _ = (↑x.queue.events + ↑published + ↑c.carried) + ↑(carried x.clients) := by
        rw [← events]
        abel
    _ = x.balance + ↑published + ↑c.carried := by
        rw [balance]
        abel

omit [Quantity α] in
/-- One client goes on, and others hear its signals. -/
theorem staffed_replace (staffed : Staffed fetching x.clients) {before after : List (Client ε)}
    {c c' : Client ε} {signals : List Signal} (found : x.clients = before ++ c :: after)
    (heard : HeardAll signals (before ++ c' :: after) y.clients) (id : c'.id = c.id)
    (role : c.HasRole fetching → c'.HasRole fetching)
    (events : (y.queue.events : Multiset ε) + c'.carried =
      x.queue.events + published + c.carried) :
    Staffed fetching y.clients ∧ y.balance = x.balance + published := by
  have staffed' : Staffed fetching (before ++ c :: after) := found ▸ staffed
  have replaced : Staffed fetching (before ++ c' :: after) :=
    staffed'.replace id (role (staffed'.roles c (by simp)))
  exact ⟨replaced.heard heard, balance_of_replace found heard.carried_eq events⟩

/-- A step of an exchange keeps the roles and adds to the balance what it publishes. -/
theorem Step.staffed (h : Step Call.IsProducer x published y)
    (staffed : Staffed fetching x.clients) :
    Staffed fetching y.clients ∧ y.balance = x.balance + published := by
  -- apart from `run`, no step touches the queue
  have untouched (carried : List ε) : (x.queue.events : Multiset ε) + carried =
      x.queue.events + ↑([] : List ε) + carried :=
    congrArg (· + _) (add_zero _).symm
  cases h with
  | @enter id call patience fresh may =>
    have stranger : ¬ fetching id := fun hid => by
      obtain ⟨c, hc, same⟩ := List.mem_map.1 (staffed.present id hid)
      exact fresh c hc same
    refine ⟨⟨?_, fun id hid => List.mem_cons_of_mem _ (staffed.present id hid), ?_⟩, ?_⟩
    · refine List.nodup_cons.2 ⟨fun mem => ?_, staffed.distinct⟩
      obtain ⟨c, hc, same⟩ := List.mem_map.1 mem
      exact fresh c hc same
    · refine List.forall_mem_cons.2 ⟨.inr ⟨stranger, may.carried, fun _ busy => ?_⟩, staffed.roles⟩
      exact Option.some.inj busy ▸ may
    · show (x.queue.events : Multiset ε) + ↑(call.carried ++ carried x.clients) = _
      rw [may.carried]
      exact (add_zero _).symm
  | @run before after clients id call expired deadline found heard =>
    let ready : Client ε := ⟨id, .ready call expired, deadline⟩
    let stepped : Client ε := ⟨id, (x.channel.step call expired).phase call, deadline⟩
    have role : ready.HasRole fetching := staffed.roles ready (by simp [found, ready])
    have contents := (x.channel.step_effect call expired).contents
    have carries : stepped.carried = call.carried ++
        call.taken (x.channel.step call expired).progress :=
      (Outcome.carried_of_phase rfl).trans (x.channel.carried_step (role.known rfl) expired)
    refine staffed_replace staffed found heard rfl (fun role => role.step rfl rfl rfl) ?_
    show ((x.channel.step call expired).channel.queue.events : Multiset ε) + ↑stepped.carried =
      ↑x.channel.queue.events +
        ↑(call.published (x.channel.step call expired).progress) + ↑call.carried
    rw [Multiset.coe_add x.channel.queue.events, ← contents, carries, ← Multiset.coe_add,
      ← Multiset.coe_add]
    abel
  | wake expired found => exact staffed_replace staffed found .nil rfl id (untouched _)
  | signal found heard =>
    exact staffed_replace staffed found (.cons heard .nil) rfl id (untouched _)
  | finish found => exact staffed_replace staffed found .nil rfl id (untouched _)
  | around gate clock => exact ⟨staffed, (add_zero _).symm⟩

/-- No step counts anything as handled. -/
theorem Step.handled (h : Step Call.IsProducer x published y) :
    y.channel.sink.stats.handled = x.channel.sink.stats.handled := by
  cases h with
  | run => exact Channel.handled_step _ _ _
  | enter | wake | signal | finish | around => rfl

/-! ## Calls that need no client -/

theorem atOnce_channel (x : Exchange α ε) (call : Call ε) :
    (x.atOnce call).1.channel = (x.channel.step call false).channel := by
  simp only [atOnce]
  split <;> rfl

theorem heard_atOnce (x : Exchange α ε) (call : Call ε) :
    HeardAll ((x.channel.step call false).prompt ++ (x.channel.step call false).late) x.clients
      (x.atOnce call).1.clients := by
  have heard := heardAll_foldl
    ((x.channel.step call false).prompt ++ (x.channel.step call false).late) x.clients
  simp only [atOnce]
  split
  · exact heard
  · exact heard

/-- A call that takes no events and needs no client. -/
theorem staffed_atOnce (staffed : Staffed fetching x.clients) {call : Call ε}
    (nothing : ∀ progress, call.taken progress = []) :
    Staffed fetching (x.atOnce call).1.clients ∧ (x.atOnce call).1.balance =
      x.balance + ↑(call.published (x.channel.step call false).progress) := by
  refine ⟨staffed.heard (x.heard_atOnce call), ?_⟩
  have contents := (x.channel.step_effect call false).contents
  rw [nothing, List.nil_append] at contents
  unfold balance queue
  rw [(x.heard_atOnce call).carried_eq, atOnce_channel, contents, ← Multiset.coe_add]
  abel

/-! ## Workers' clients come and go -/

omit [Quantity α] in
theorem lt_freshId {c : Client ε} (mem : c ∈ x.clients) : c.id < x.freshId := by
  have bound (ids : List Nat) (start : Nat) :
      start ≤ ids.foldl max start ∧ ∀ id ∈ ids, id ≤ ids.foldl max start := by
    induction ids generalizing start with
    | nil => exact ⟨Nat.le_refl _, fun _ h => absurd h List.not_mem_nil⟩
    | cons first rest ih =>
      obtain ⟨ge, all⟩ := ih (max start first)
      rw [List.foldl_cons]
      refine ⟨by omega, List.forall_mem_cons.2 ⟨by omega, all⟩⟩
  exact Nat.lt_succ_of_le ((bound _ 0).2 c.id (List.mem_map_of_mem mem))

omit [Quantity α] in
/-- A worker's client comes. -/
theorem staffed_enter (staffed : Staffed fetching x.clients) (block : Span)
    {fetching' : Nat → Prop} (joined : ∀ id, fetching' id ↔ id = x.freshId ∨ fetching id) :
    Staffed fetching' (x.enter x.freshId (.fetch .takeSlot false) block).clients := by
  refine ⟨?_, fun id hid => ?_, ?_⟩
  · refine List.nodup_cons.2 ⟨fun mem => ?_, staffed.distinct⟩
    obtain ⟨c, hc, same⟩ := List.mem_map.1 mem
    exact absurd same (Nat.ne_of_lt (lt_freshId hc))
  · rcases (joined id).1 hid with rfl | before
    · exact List.mem_cons_self
    · exact List.mem_cons_of_mem _ (staffed.present id before)
  · refine List.forall_mem_cons.2 ⟨.inl ⟨(joined _).2 (.inl rfl), fun _ busy => ?_⟩, ?_⟩
    · exact Option.some.inj busy ▸ True.intro
    · refine fun c mem => (staffed.roles c mem).imp
        (fun fetches => ⟨(joined _).2 (.inr fetches.1), fetches.2⟩) fun stranger => ?_
      refine ⟨fun hid => ?_, stranger.2⟩
      rcases (joined _).1 hid with same | fetches
      · exact absurd same (Nat.ne_of_lt (lt_freshId mem))
      · exact stranger.1 fetches

omit [Quantity α] in
theorem leave_clients (distinct : (x.clients.map (·.id)).Nodup) {c : Client ε}
    (mem : c ∈ x.clients) :
    ∃ before after, x.clients = before ++ c :: after ∧
      (x.leave c.id).clients = before ++ after ∧ ∀ d ∈ before ++ after, d.id ≠ c.id := by
  obtain ⟨before, after, found⟩ := List.append_of_mem mem
  rw [found, List.map_append, List.map_cons] at distinct
  have apart := (List.nodup_middle.1 distinct)
  rw [← List.map_append, List.nodup_cons] at apart
  have others : ∀ d ∈ before ++ after, d.id ≠ c.id := fun d hd same =>
    apart.1 (same ▸ List.mem_map_of_mem hd)
  refine ⟨before, after, found, ?_, others⟩
  have keep (l : List (Client ε)) (h : ∀ d ∈ l, d.id ≠ c.id) :
      l.filter (·.id != c.id) = l :=
    List.filter_eq_self.2 fun d hd => bne_iff_ne.2 (h d hd)
  rw [leave, found, List.filter_append, List.filter_cons, if_neg (by simp),
    keep before fun d hd => others d (List.mem_append_left _ hd),
    keep after fun d hd => others d (List.mem_append_right _ hd)]

omit [Quantity α] in
/-- A client leaves, and takes with it what it carries. -/
theorem staffed_leave (staffed : Staffed fetching x.clients) {c : Client ε}
    (mem : c ∈ x.clients) {fetching' : Nat → Prop}
    (left : ∀ id, fetching' id ↔ fetching id ∧ id ≠ c.id) :
    Staffed fetching' (x.leave c.id).clients ∧
      (x.leave c.id).balance + ↑c.carried = x.balance := by
  obtain ⟨before, after, found, rest, others⟩ := leave_clients staffed.distinct mem
  refine ⟨⟨?_, fun id hid => ?_, fun d hd => ?_⟩, ?_⟩
  · have distinct := staffed.distinct
    rw [found, List.map_append, List.map_cons] at distinct
    rw [rest, List.map_append]
    exact (List.nodup_cons.1 (List.nodup_middle.1 distinct)).2
  · obtain ⟨was, ne⟩ := (left id).1 hid
    have present := staffed.present id was
    rw [found, List.map_append, List.map_cons, List.mem_append, List.mem_cons] at present
    rw [rest, List.map_append, List.mem_append]
    exact present.imp_right fun h => h.resolve_left ne
  · rw [rest] at hd
    have known : d ∈ x.clients := by
      rw [found]
      simp only [List.mem_append, List.mem_cons] at hd ⊢
      exact hd.imp_right .inr
    exact (staffed.roles d known).imp
      (fun fetches => ⟨(left _).2 ⟨fetches.1, others d hd⟩, fetches.2⟩)
      fun stranger => ⟨fun hid => stranger.1 ((left _).1 hid).1, stranger.2⟩
  · show (x.queue.events : Multiset ε) + ↑(carried (x.leave c.id).clients) + ↑c.carried = _
    rw [balance, rest, found]
    simp only [carried, List.flatMap_append, List.flatMap_cons, ← Multiset.coe_add]
    abel

end Exchange

end Step

end StagedEvents
