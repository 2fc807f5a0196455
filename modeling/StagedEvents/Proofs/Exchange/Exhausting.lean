import Mathlib.Algebra.Order.Floor.Div
import StagedEvents.Proofs.Exchange.Alone

/-!
# What sorters deliver

Whoever fetches again and again until nothing comes, and completes each batch before the next
fetch, has all events of the queue in their order, whatever the sorter. A sorter that drains the
queue has them in one batch, and a throttled one in batches of its size, the last of which may be
smaller. So the two cannot be told apart by the events they deliver, when their queues are fed
alike.

* `Exchange.Exhausts`: someone fetches until nothing comes.
* `Exhausts.delivers`, `Exhausts.full`: what they have then, and in which batches.
* `exists_exhausts`: it does come to an end, when every fetch has a bound on its time.
* `Exchange.Rounds`: a queue is fed and exhausted, round after round.
* `sorters_deliver_alike`: the result.
-/

namespace StagedEvents

variable {α ε : Type}

/-! ## Batches of a size -/

/-- The batches have `most` events each, but for the last, which has some. -/
structure FullBatches (most : ℕ) (batches : List (Batch ε)) : Prop where
  some : ∀ b ∈ batches, 1 ≤ b.events.length ∧ b.events.length ≤ most
  full : ∀ b ∈ batches.dropLast, b.events.length = most

namespace FullBatches

variable {most : ℕ} {b : Batch ε} {batches : List (Batch ε)}

theorem nil : FullBatches most ([] : List (Batch ε)) :=
  ⟨List.forall_mem_nil _, List.forall_mem_nil _⟩

theorem cons (some : 1 ≤ b.events.length) (few : b.events.length ≤ most)
    (full : batches ≠ [] → b.events.length = most) (others : FullBatches most batches) :
    FullBatches most (b :: batches) := by
  refine ⟨List.forall_mem_cons.2 ⟨⟨some, few⟩, others.some⟩, ?_⟩
  cases batches with
  | nil => exact List.forall_mem_nil _
  | cons next rest =>
    rw [List.dropLast_cons_cons]
    exact List.forall_mem_cons.2 ⟨full (List.cons_ne_nil _ _), others.full⟩

theorem tail (h : FullBatches most (b :: batches)) : FullBatches most batches := by
  refine ⟨(List.forall_mem_cons.1 h.some).2, fun d mem => h.full d ?_⟩
  cases batches with
  | nil => exact absurd mem List.not_mem_nil
  | cons => exact List.mem_cons_of_mem _ mem

/-- So many events make so many batches. -/
theorem length_eq (h : FullBatches most batches) :
    batches.length = (batches.flatMap Batch.events).length ⌈/⌉ most := by
  induction batches with
  | nil => exact (zero_ceilDiv most).symm
  | cons b batches ih =>
    obtain ⟨some, few⟩ := h.some b List.mem_cons_self
    rw [List.flatMap_cons, List.length_append, Nat.ceilDiv_eq_add_pred_div]
    cases batches with
    | nil =>
      rw [List.flatMap_nil, List.length_nil, List.length_singleton]
      exact (Nat.div_eq_of_lt_le (by omega) (by omega)).symm
    | cons next rest =>
      have full : b.events.length = most := h.full b List.mem_cons_self
      have others := ih h.tail
      rw [Nat.ceilDiv_eq_add_pred_div] at others
      rw [List.length_cons, others, full]
      have shift : most + ((next :: rest).flatMap Batch.events).length + most - 1 =
          (((next :: rest).flatMap Batch.events).length + most - 1) + most := by omega
      rw [shift, Nat.add_div_right _ (by omega)]

end FullBatches

namespace Exchange

variable [Quantity α] {x y : Exchange α ε} {batches : List (Batch ε)}
  {answer : Except QueueError (Option (Batch ε))}

/-! ## Until nothing comes -/

/-- Someone fetches until nothing comes, completes each batch before the next fetch, and is given
    an `answer` without a batch in the end. -/
inductive Exhausts : Exchange α ε → List (Batch ε) → Except QueueError (Option (Batch ε)) →
    Exchange α ε → Prop where
  | ends {x y : Exchange α ε} {patience : Span} {answer : Except QueueError (Option (Batch ε))}
      (fetched : x.perform (.fetch .takeSlot false) patience = (y, some (.fetched answer)))
      (nothing : ∀ b, answer ≠ .ok (some b)) : Exhausts x [] answer y
  | batch {x y z w : Exchange α ε} {patience patience' : Span} {b : Batch ε}
      {batches : List (Batch ε)} {answer : Except QueueError (Option (Batch ε))}
      (fetched : x.perform (.fetch .takeSlot false) patience =
        (y, some (.fetched (.ok (some b)))))
      (completed : y.perform (.complete b.completion .done) patience' = (z, some .done))
      (others : Exhausts z batches answer w) : Exhausts x (b :: batches) answer w

/-- No one is busy with the exchange, and a fetch would not have to wait for a slot, and would
    take some events. -/
structure Unused (x : Exchange α ε) : Prop where
  idle : x.clients = []
  free : x.channel.HasSlot
  greedy : x.channel.sorter.maxBatch? ≠ some 0

omit [Quantity α] in
theorem Unused.congr (unused : x.Unused) (idle : y.clients = [])
    (sorter : y.channel.sorter = x.channel.sorter) : y.Unused := by
  refine ⟨idle, fun slots throttled => unused.free slots (sorter.symm.trans throttled), ?_⟩
  rw [sorter]
  exact unused.greedy

/-- What someone is told who finds no events. -/
def lastAnswer (q : Queue ε) : Except QueueError (Option (Batch ε)) :=
  if q.closed then .error .closed else .ok none

omit [Quantity α] in
theorem Unused.withoutFirst (unused : x.Unused) :
    Unused { x with channel := x.channel.withoutFirst } :=
  unused.congr unused.idle rfl

theorem lastAnswer_ne (q : Queue ε) (b : Batch ε) : lastAnswer q ≠ .ok (some b) := by
  unfold lastAnswer
  split
  · exact nofun
  · exact nofun

/-- Whoever finds no events is told so, and the exchange is left as it was. -/
theorem fetched_nothing (unused : x.Unused) (drained : x.queue.events = []) {patience : Span}
    (fetched : x.perform (.fetch .takeSlot false) patience = (y, some (.fetched answer))) :
    answer = lastAnswer x.queue ∧ y.channel = x.channel ∧ y.clients = [] := by
  obtain ⟨idle, free, -⟩ := unused
  unfold lastAnswer
  cases closed : x.queue.closed with
  | true =>
    have told := perform_fetch_closed idle free closed drained patience
    obtain ⟨rfl, same⟩ := Prod.mk.inj (told.symm.trans fetched)
    exact ⟨(Reply.fetched.inj (Option.some.inj same)).symm, rfl, idle⟩
  | false =>
    by_cases forever : patience = .longest
    · have never := perform_fetch_never idle free closed drained
      rw [← forever, fetched] at never
      exact absurd never (Option.some_ne_none _)
    · have told := perform_fetch_none idle free closed drained forever
      obtain ⟨rfl, same⟩ := Prod.mk.inj (told.symm.trans fetched)
      exact ⟨(Reply.fetched.inj (Option.some.inj same)).symm, rfl, idle⟩

/-- **A fetch and what follows**: the first batch, if there are events, and the same with the
    others; or nothing. -/
theorem Exhausts.inversion (h : Exhausts x batches answer y) (unused : x.Unused) :
    (x.queue.events = [] ∧ batches = [] ∧ answer = lastAnswer x.queue ∧ y.channel = x.channel ∧
      y.clients = []) ∨
    (x.queue.events ≠ [] ∧ ∃ rest, batches = x.channel.firstBatch :: rest ∧
      Exhausts { x with channel := x.channel.withoutFirst } rest answer y) := by
  by_cases drained : x.queue.events = []
  · refine .inl ⟨drained, ?_⟩
    cases h with
    | ends fetched => exact ⟨rfl, fetched_nothing unused drained fetched⟩
    | batch fetched =>
      exact absurd (fetched_nothing unused drained fetched).1.symm (lastAnswer_ne _ _)
  · refine .inr ⟨drained, ?_⟩
    have told := perform_fetch_some unused.idle unused.free unused.greedy drained
    cases h with
    | ends fetched nothing =>
      have same := congrArg Prod.snd ((told _).symm.trans fetched)
      exact absurd (Reply.fetched.inj (Option.some.inj same)).symm (nothing _)
    | batch fetched completed others =>
      obtain ⟨rfl, same⟩ := Prod.mk.inj ((told _).symm.trans fetched)
      obtain rfl := Option.some.inj (Except.ok.inj (Reply.fetched.inj (Option.some.inj same)))
      have gone := perform_complete unused.idle x.channel
      obtain ⟨rfl, -⟩ := Prod.mk.inj ((gone _).symm.trans completed)
      exact ⟨_, rfl, others⟩

/-- **Whoever fetches until nothing comes** has all events in their order, and leaves the channel
    without them. -/
theorem Exhausts.delivers (h : Exhausts x batches answer y) (unused : x.Unused) :
    batches.flatMap Batch.events = x.queue.events ∧ answer = lastAnswer x.queue ∧
    y.channel = x.channel.withQueue { x.queue with events := [] } ∧ y.clients = [] := by
  induction batches generalizing x with
  | nil =>
    rcases h.inversion unused with ⟨drained, -, told, same, idle⟩ | ⟨-, rest, shape, -⟩
    · refine ⟨drained.symm, told, ?_, idle⟩
      rw [same, ← drained]
      rfl
    · exact absurd shape (List.cons_ne_nil _ _).symm
  | cons b batches ih =>
    rcases h.inversion unused with ⟨-, shape, -⟩ | ⟨-, rest, same, others⟩
    · exact absurd shape (List.cons_ne_nil _ _)
    · obtain ⟨rfl, rfl⟩ := List.cons.inj same
      obtain ⟨events, told, channel, idle⟩ := ih others unused.withoutFirst
      refine ⟨?_, told, channel, idle⟩
      rw [List.flatMap_cons, events]
      exact firstOf_append_restOf _ _

/-- Every batch has events. -/
theorem Exhausts.each (h : Exhausts x batches answer y) (unused : x.Unused) :
    ∀ b ∈ batches, 1 ≤ b.events.length := by
  induction batches generalizing x with
  | nil => exact List.forall_mem_nil _
  | cons b batches ih =>
    rcases h.inversion unused with ⟨-, shape, -⟩ | ⟨left, rest, same, others⟩
    · exact absurd shape (List.cons_ne_nil _ _)
    · obtain ⟨rfl, rfl⟩ := List.cons.inj same
      exact List.forall_mem_cons.2
        ⟨List.length_pos_iff.2 (firstOf_ne_nil unused.greedy left), ih others unused.withoutFirst⟩

/-- **Batches of a throttled sorter** are full but for the last. -/
theorem Exhausts.full (h : Exhausts x batches answer y) (unused : x.Unused) {most : ℕ}
    (bounded : x.channel.sorter.maxBatch? = some most) : FullBatches most batches := by
  induction batches generalizing x with
  | nil => exact .nil
  | cons b batches ih =>
    have some := h.each unused b List.mem_cons_self
    rcases h.inversion unused with ⟨-, shape, -⟩ | ⟨left, rest, same, others⟩
    · exact absurd shape (List.cons_ne_nil _ _)
    · obtain ⟨rfl, rfl⟩ := List.cons.inj same
      have events : x.channel.firstBatch.events = x.queue.events.take most := by
        show firstOf x.channel.sorter.maxBatch? x.channel.queue.events = _
        rw [bounded]
        rfl
      refine .cons some ?_ (fun more => ?_) (ih others unused.withoutFirst bounded)
      · rw [events]
        exact List.length_take_le _ _
      · -- there is another batch only if events are left
        have behind : restOf x.channel.sorter.maxBatch? x.channel.queue.events ≠ [] := by
          rcases others.inversion unused.withoutFirst with ⟨-, none, -⟩ | ⟨behind, -⟩
          · exact absurd none more
          · exact behind
        rw [bounded] at behind
        have : most < x.queue.events.length := by
          by_contra few
          exact behind (List.drop_eq_nil_of_le (not_lt.1 few))
        rw [events, List.length_take]
        omega

/-- It comes to an end, whatever the bound on the time of each fetch. -/
theorem exists_exhausts (unused : x.Unused) {patience : Span} (finite : patience ≠ .longest) :
    ∃ batches answer y, Exhausts x batches answer y := by
  generalize count : x.queue.events.length = n
  induction n using Nat.strong_induction_on generalizing x with
  | _ n ih =>
    by_cases drained : x.queue.events = []
    · cases closed : x.queue.closed with
      | true =>
        exact ⟨_, _, _, .ends (perform_fetch_closed unused.idle unused.free closed drained patience)
          nofun⟩
      | false =>
        exact ⟨_, _, _, .ends (perform_fetch_none unused.idle unused.free closed drained finite)
          nofun⟩
    · have fewer : (x.channel.withoutFirst).queue.events.length < n := by
        have taken := firstOf_append_restOf x.channel.sorter.maxBatch? x.queue.events
        have some := List.length_pos_iff.2 (firstOf_ne_nil unused.greedy drained)
        have whole := congrArg List.length taken
        rw [List.length_append] at whole
        show (restOf x.channel.sorter.maxBatch? x.queue.events).length < n
        omega
      obtain ⟨batches, answer, y, others⟩ := ih _ fewer unused.withoutFirst rfl
      exact ⟨_, answer, y, .batch
        (perform_fetch_some unused.idle unused.free unused.greedy drained patience)
        (perform_complete unused.idle x.channel patience) others⟩

end Exchange

/-! ## Queues that are fed -/

/-- Whether a call is of those who publish events, at once or later, or close the queue. -/
def Call.feeds : Call ε → Bool
  | .enqueue _ _ => true
  | .enqueueMany _ _ => true
  | .prepare _ _ => true
  | .commit _ => true
  | .release _ => true
  | .offer _ => true
  | .close => true
  | _ => false

section Feed

variable [Quantity α]

/-- Whoever feeds a queue has nothing to do with the sorter. -/
theorem Channel.step_feeds {call : Call ε} (feeds : call.feeds = true) (sink : Sink α ε) :
    ∃ sink', ∀ sorter, (Channel.step call false ⟨sink, sorter⟩).channel = ⟨sink', sorter⟩ := by
  refine ⟨(Channel.step call false ⟨sink, .drainAll⟩).channel.sink, fun sorter => ?_⟩
  cases call with
  | enqueue guarded event | enqueueMany guarded events | prepare guarded events => rfl
  | commit | release | close => rfl
  | offer event =>
    simp only [Channel.step, Channel.queue]
    cases (sink.queue.offer? event false).2 with
    | none | some => rfl
  | _ => exact absurd feeds Bool.false_ne_true

namespace Exchange

variable {x y : Exchange α ε} {calls : List (Call ε)}

/-- The exchange after calls that do not wait, one after the other. -/
def feed (calls : List (Call ε)) (x : Exchange α ε) : Exchange α ε :=
  calls.foldl (fun x call => (x.atOnce call).1) x

/-- Two queues behind the same gate with the same events, and no one busy with them. -/
structure Alike (x y : Exchange α ε) : Prop where
  idle : x.clients = []
  idle' : y.clients = []
  sink : x.channel.sink = y.channel.sink

theorem clients_atOnce (idle : x.clients = []) (call : Call ε) :
    (x.atOnce call).1.clients = [] := by
  have heard := (x.heard_atOnce call).map_eq (f := fun _ => ()) fun _ => rfl
  rw [idle, List.map_nil, List.map_eq_nil_iff] at heard
  exact heard

/-- Queues that are alike stay so when they are fed alike, and no sorter notices. -/
theorem Alike.feed (h : Alike x y) (feeds : ∀ call ∈ calls, call.feeds = true) :
    Alike (x.feed calls) (y.feed calls) ∧
    (x.feed calls).channel.sorter = x.channel.sorter ∧
    (y.feed calls).channel.sorter = y.channel.sorter := by
  induction calls generalizing x y with
  | nil => exact ⟨h, rfl, rfl⟩
  | cons call rest ih =>
    obtain ⟨first, others⟩ := List.forall_mem_cons.1 feeds
    obtain ⟨sink', step⟩ := Channel.step_feeds first x.channel.sink
    have after : (x.atOnce call).1.channel = ⟨sink', x.channel.sorter⟩ :=
      (x.atOnce_channel call).trans (step _)
    have after' : (y.atOnce call).1.channel = ⟨sink', y.channel.sorter⟩ := by
      refine (y.atOnce_channel call).trans ?_
      rw [← step, h.sink]
    obtain ⟨alike, sorter, sorter'⟩ := ih ⟨clients_atOnce h.idle call, clients_atOnce h.idle' call,
      by rw [after, after']⟩ others
    exact ⟨alike, sorter.trans (by rw [after]), sorter'.trans (by rw [after'])⟩

/-- What a round of fetches found, and what came of it. -/
structure Round (ε : Type) where
  pending : List ε
  batches : List (Batch ε)
  answer : Except QueueError (Option (Batch ε))

/-- The events that a round delivered, and the last answer. -/
def Round.outcome (r : Round ε) : List ε × Except QueueError (Option (Batch ε)) :=
  (r.batches.flatMap Batch.events, r.answer)

/-- A queue is fed with the calls of a schedule, and exhausted after each part of it. -/
inductive Rounds : Exchange α ε → List (List (Call ε)) → List (Round ε) → Exchange α ε → Prop where
  | nil {x : Exchange α ε} : Rounds x [] [] x
  | cons {x y z : Exchange α ε} {calls : List (Call ε)} {schedule : List (List (Call ε))}
      {batches : List (Batch ε)} {answer : Except QueueError (Option (Batch ε))}
      {rounds : List (Round ε)} (exhausts : Exhausts (x.feed calls) batches answer y)
      (others : Rounds y schedule rounds z) :
      Rounds x (calls :: schedule) (⟨(x.feed calls).queue.events, batches, answer⟩ :: rounds) z

end Exchange

/-- The sorter of a throttled policy, with whatever bound on the batches that are out, before its
    stage is served or when it begins to be. -/
def Sorter.Throttles (most : ℕ) (s : Sorter) : Prop :=
  ∃ outstanding, s = .ofPolicy (.throttled most outstanding) ∨
    ∃ workers, s = (Sorter.ofPolicy (.throttled most outstanding)).init workers

/-- No batch is out. -/
theorem Sorter.Throttles.eq {most : ℕ} {s : Sorter} (h : s.Throttles most) :
    ∃ limit, s = .throttled { maxBatch := max most 1, limit, used := 0 } := by
  obtain ⟨outstanding, rfl | ⟨workers, rfl⟩⟩ := h
  · exact ⟨_, rfl⟩
  · show ∃ limit, (if outstanding.getD 0 = 0 ∧ workers ≠ largestCount then Sorter.throttled _
      else _) = _
    split
    · exact ⟨workers, rfl⟩
    · exact ⟨_, rfl⟩

namespace Exchange

variable {x y x' y' : Exchange α ε} {most : ℕ} {schedule : List (List (Call ε))}
  {rounds rounds' : List (Round ε)}

omit [Quantity α] in
theorem unused_drainAll (idle : x.clients = []) (drains : x.channel.sorter = .drainAll) :
    x.Unused := by
  refine ⟨idle, fun slots throttled => ?_, ?_⟩
  · exact absurd (drains.symm.trans throttled) (by simp)
  · rw [drains]
    exact nofun

omit [Quantity α] in
theorem unused_throttles (idle : x.clients = []) (throttles : x.channel.sorter.Throttles most) :
    x.Unused ∧ x.channel.sorter.maxBatch? = some (max most 1) := by
  obtain ⟨limit, sorter⟩ := throttles.eq
  refine ⟨⟨idle, fun slots throttled => ?_, ?_⟩, ?_⟩
  · obtain rfl := Sorter.throttled.inj (sorter.symm.trans throttled)
    exact Nat.eq_zero_or_pos limit
  · have : max most 1 ≠ 0 := by omega
    rw [sorter]
    exact fun none => this (Option.some.inj none)
  · rw [sorter]
    rfl

/-- Every schedule can be carried out to its end. -/
theorem exists_rounds (unused : x.Unused)
    (feeds : ∀ calls ∈ schedule, ∀ call ∈ calls, call.feeds = true) {patience : Span}
    (finite : patience ≠ .longest) : ∃ rounds z, Rounds x schedule rounds z := by
  induction schedule generalizing x with
  | nil => exact ⟨[], x, .nil⟩
  | cons calls schedule ih =>
    obtain ⟨first, later⟩ := List.forall_mem_cons.1 feeds
    obtain ⟨fed, sorter, -⟩ := Alike.feed ⟨unused.idle, unused.idle, rfl⟩ first
    have unused' : (x.feed calls).Unused := unused.congr fed.idle sorter
    obtain ⟨batches, answer, y, exhausts⟩ := exists_exhausts unused' finite
    obtain ⟨-, -, channel, idle⟩ := exhausts.delivers unused'
    have same : y.channel.sorter = (x.feed calls).channel.sorter := by
      rw [channel]
      rfl
    obtain ⟨rounds, z, others⟩ := ih (unused'.congr idle same) later
    exact ⟨_, z, .cons exhausts others⟩

/-- What is true of a round with a throttled sorter. -/
structure Round.Throttled (most : ℕ) (r : Round ε) : Prop where
  answer : r.answer = .ok none ∨ r.answer = .error .closed
  delivered : r.batches.flatMap Batch.events = r.pending
  batches : FullBatches most r.batches

/-- **Round by round**, both sorters deliver the same events and say the same in the end. -/
theorem Rounds.alike (h : Rounds x schedule rounds x') (h' : Rounds y schedule rounds' y')
    (alike : Alike x y) (drains : x.channel.sorter = .drainAll)
    (throttles : y.channel.sorter.Throttles most)
    (feeds : ∀ calls ∈ schedule, ∀ call ∈ calls, call.feeds = true) :
    rounds.map Round.outcome = rounds'.map Round.outcome ∧
    (∀ r ∈ rounds, ∀ b ∈ r.batches, 1 ≤ b.events.length) ∧
    ∀ r ∈ rounds', r.Throttled (max most 1) := by
  induction h generalizing y rounds' with
  | nil =>
    cases h'
    exact ⟨rfl, List.forall_mem_nil _, List.forall_mem_nil _⟩
  | @cons x _ _ calls _ _ _ _ exhausts _ ih =>
    cases h' with
    | cons exhausts' others' =>
      obtain ⟨first, later⟩ := List.forall_mem_cons.1 feeds
      obtain ⟨fed, sorter, sorter'⟩ := alike.feed first
      have unused := unused_drainAll fed.idle (sorter.trans drains)
      obtain ⟨unused', bounded⟩ := unused_throttles fed.idle' (sorter' ▸ throttles)
      obtain ⟨events, told, channel, idle⟩ := exhausts.delivers unused
      obtain ⟨events', told', channel', idle'⟩ := exhausts'.delivers unused'
      have queue : (x.feed calls).queue = (y.feed calls).queue := congrArg Sink.queue fed.sink
      -- both are left with the same sink, since each is left with its own without events
      have left := congrArg (fun s : Sink α ε =>
        ({ s with queue := { s.queue with events := [] } } : Sink α ε)) fed.sink
      have sink := (congrArg Channel.sink channel).trans
        (left.trans (congrArg Channel.sink channel').symm)
      have drains' := (congrArg Channel.sorter channel).trans (sorter.trans drains)
      have same := (congrArg Channel.sorter channel').trans sorter'
      obtain ⟨outcomes, each, full⟩ :=
        ih others' ⟨idle, idle', sink⟩ drains' (same ▸ throttles) later
      refine ⟨?_, List.forall_mem_cons.2 ⟨exhausts.each unused, each⟩,
        List.forall_mem_cons.2 ⟨⟨?_, events', exhausts'.full unused' bounded⟩, full⟩⟩
      · rw [List.map_cons, List.map_cons, outcomes]
        simp only [Round.outcome, events, events', told, told', queue]
      · show _ = _ ∨ _ = _
        rw [told', lastAnswer]
        split
        · exact .inr rfl
        · exact .inl rfl

/-- **Throttled and draining sorters deliver the same events.** Take two queues that are alike,
    one with a sorter that drains it and one with a throttled sorter of whatever bounds, feed both
    with the calls of a schedule, and fetch until nothing comes after each part of it, with every
    batch completed before the next fetch.

    * Both can be done, whatever the schedule.
    * Round by round both deliver the same events, and say the same in the end: that there are
      none, or that the queue is closed.
    * No batch is empty. Those of the throttled sorter have as many events as it allows, but for
      the last, and so many events as are pending take so many fetches. -/
theorem sorters_deliver_alike (alike : Alike x y) (drains : x.channel.sorter = .drainAll)
    (throttles : y.channel.sorter.Throttles most)
    (feeds : ∀ calls ∈ schedule, ∀ call ∈ calls, call.feeds = true) :
    (∃ rounds z, Rounds x schedule rounds z) ∧ (∃ rounds z, Rounds y schedule rounds z) ∧
    ∀ rounds x' rounds' y', Rounds x schedule rounds x' → Rounds y schedule rounds' y' →
      rounds.map Round.outcome = rounds'.map Round.outcome ∧
      (∀ r ∈ rounds, ∀ b ∈ r.batches, 1 ≤ b.events.length) ∧
      ∀ r ∈ rounds',
        (r.answer = .ok none ∨ r.answer = .error .closed) ∧
        r.batches.flatMap Batch.events = r.pending ∧
        (∀ b ∈ r.batches, 1 ≤ b.events.length ∧ b.events.length ≤ max most 1) ∧
        (∀ b ∈ r.batches.dropLast, b.events.length = max most 1) ∧
        r.batches.length = r.pending.length ⌈/⌉ max most 1 := by
  have finite : Span.zero ≠ .longest := by decide
  refine ⟨exists_rounds (unused_drainAll alike.idle drains) feeds finite,
    exists_rounds (unused_throttles alike.idle' throttles).1 feeds finite,
    fun rounds x' rounds' y' h h' => ?_⟩
  obtain ⟨outcomes, each, throttled⟩ := h.alike h' alike drains throttles feeds
  refine ⟨outcomes, each, fun r mem => ?_⟩
  obtain ⟨answer, delivered, batches⟩ := throttled r mem
  refine ⟨answer, delivered, batches.some, batches.full, ?_⟩
  rw [← delivered]
  exact batches.length_eq

/-- One event is queued, for a sorter. -/
def stocked (sorter : Sorter) : Exchange Float Nat :=
  { channel := { sink := { queue := ⟨some 4, [7], 0, false⟩, gate := .openToAll, stats := .new }
                 sorter }
    clients := []
    clock := 0 }

/-- Two events come in addition, and then the queue is closed. The sorters deliver all three, in
    one batch and in two. -/
theorem sorters_deliver_alike_three :
    ∃ (r r' last : Round Nat) (x' y' : Exchange Float Nat),
      Rounds (stocked .drainAll) [[.enqueueMany false [8, 9]], [.close]] [r, last] x' ∧
      Rounds (stocked (.ofPolicy (.throttled 2 (some 1)))) [[.enqueueMany false [8, 9]], [.close]]
        [r', last] y' ∧
      r.batches.map Batch.events = [[7, 8, 9]] ∧ r'.batches.map Batch.events = [[7, 8], [9]] ∧
      r.outcome = r'.outcome ∧ r'.batches.length = 2 ∧ last.answer = .error .closed := by
  have drains : Rounds (stocked .drainAll) [[.enqueueMany false [8, 9]], [.close]] _ _ :=
    .cons (@Exhausts.batch _ _ _ _ _ _ _ .zero .zero _ _ _ rfl rfl
      (@Exhausts.ends _ _ _ _ _ .zero _ rfl nofun))
      (.cons (@Exhausts.ends _ _ _ _ _ .zero _ rfl nofun) .nil)
  have throttles : Rounds (stocked (.ofPolicy (.throttled 2 (some 1))))
      [[.enqueueMany false [8, 9]], [.close]] _ _ :=
    .cons (@Exhausts.batch _ _ _ _ _ _ _ .zero .zero _ _ _ rfl rfl
      (@Exhausts.batch _ _ _ _ _ _ _ .zero .zero _ _ _ rfl rfl
        (@Exhausts.ends _ _ _ _ _ .zero _ rfl nofun)))
      (.cons (@Exhausts.ends _ _ _ _ _ .zero _ rfl nofun) .nil)
  have alike : Alike (stocked .drainAll) (stocked (.ofPolicy (.throttled 2 (some 1)))) :=
    ⟨rfl, rfl, rfl⟩
  have throttled : (Sorter.ofPolicy (.throttled 2 (some 1))).Throttles 2 := ⟨some 1, .inl rfl⟩
  have feeds : ∀ calls ∈ [[.enqueueMany false [8, 9]], [.close]], ∀ call ∈ calls,
      (call : Call Nat).feeds = true :=
    List.forall_mem_cons.2 ⟨List.forall_mem_singleton.2 rfl,
      List.forall_mem_singleton.2 (List.forall_mem_singleton.2 rfl)⟩
  obtain ⟨-, -, same⟩ := sorters_deliver_alike alike rfl throttled feeds
  obtain ⟨outcomes, -, full⟩ := same _ _ _ _ drains throttles
  obtain ⟨-, -, -, -, many⟩ := full _ List.mem_cons_self
  exact ⟨_, _, _, _, _, drains, throttles, rfl, rfl, (List.cons.inj outcomes).1,
    many.trans (Nat.ceilDiv_eq_add_pred_div 3 2), rfl⟩

end Exchange

end Feed

end StagedEvents
