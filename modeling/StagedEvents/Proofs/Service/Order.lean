import StagedEvents.Proofs.Pool.Lone
import StagedEvents.Proofs.Service.Strength

/-!
# The order of events

A stage for one batch at a time is served by a pool with at most one worker in its round, so
at most one client takes events off the queue. What the handler was given, what that client
carries and what waits in the queue are then, in this order, the events as they were published.

* `Exchange.pending`, `Exchange.Step.pending_eq`: what is carried and what waits, in this order.
* `Stage.course`, `Service.course_step?`: with what the handler was given before.
* `Watched.InOrder`, `Watched.Move.inOrder`: what is so of a service with a pool of one worker.
* `handled_in_order`: the result.
-/

namespace StagedEvents

variable {ε : Type}

/-! ## Events on their way to the handler -/

/-- At most one client fetches. -/
def OneFetches (fetching : ℕ → Prop) : Prop := ∀ a b, fetching a → fetching b → a = b

namespace Exchange

section

variable {α : Type} {x y : Exchange α ε} {fetching : ℕ → Prop} {published : List ε}

/-- The events that clients carry, and after them those in the queue. -/
def pending (x : Exchange α ε) : List ε := carried x.clients ++ x.queue.events

/-- If one client fetches, no other carries anything. -/
theorem carried_around (staffed : Staffed fetching x.clients) (one : OneFetches fetching)
    {before after : List (Client ε)} {c : Client ε} (found : x.clients = before ++ c :: after)
    (fetches : fetching c.id) (c' : Client ε) :
    carried (before ++ c' :: after) = c'.carried := by
  have distinct := staffed.distinct
  rw [found, List.map_append, List.map_cons] at distinct
  have apart := (List.nodup_cons.1 (List.nodup_middle.1 distinct)).1
  rw [← List.map_append] at apart
  have none (others : List (Client ε)) (mem : ∀ d ∈ others, d ∈ before ++ after) :
      carried others = [] := by
    refine List.flatMap_eq_nil_iff.2 fun d hd => ?_
    have listed : d ∈ x.clients := by
      rw [found]
      have := mem d hd
      simp only [List.mem_append, List.mem_cons] at this ⊢
      exact this.imp_right .inr
    rcases staffed.roles d listed with ⟨too, -⟩ | ⟨-, nothing, -⟩
    · exact absurd (List.mem_map.2 ⟨d, mem d hd, one _ _ too fetches⟩) apart
    · exact nothing
  show carried (before ++ c' :: after) = _
  rw [carried, List.flatMap_append, List.flatMap_cons]
  show carried before ++ (c'.carried ++ carried after) = _
  rw [none before fun d hd => List.mem_append_left _ hd,
    none after fun d hd => List.mem_append_right _ hd, List.nil_append, List.append_nil]

theorem carried_insert {before after : List (Client ε)} {c c' : Client ε}
    (same : c'.carried = c.carried) :
    carried (before ++ c' :: after) = carried (before ++ c :: after) := by
  simp only [carried, List.flatMap_append, List.flatMap_cons, same]

/-- A client goes on that keeps what it carries, and others hear its signals. -/
theorem pending_replace {before after : List (Client ε)} {c c' : Client ε}
    {signals : List Signal} (found : x.clients = before ++ c :: after)
    (heard : HeardAll signals (before ++ c' :: after) y.clients)
    (same : c'.carried = c.carried) (queue : y.queue.events = x.queue.events) :
    y.pending = x.pending ++ [] := by
  rw [pending, pending, heard.carried_eq, carried_insert same, found, queue, List.append_nil]

variable [Quantity α]

/-- **A step of an exchange** in which one client fetches keeps the order of the events, and
    puts what it publishes behind them. -/
theorem Step.pending_eq (h : Step Call.IsProducer x published y)
    (staffed : Staffed fetching x.clients) (one : OneFetches fetching) :
    y.pending = x.pending ++ published := by
  cases h with
  | @enter id call patience fresh may =>
    show (call.carried ++ carried x.clients) ++ x.queue.events = _
    rw [may.carried, List.nil_append, List.append_nil]
    rfl
  | @run before after clients id call expired deadline found heard =>
    let ready : Client ε := ⟨id, .ready call expired, deadline⟩
    let stepped : Client ε := ⟨id, (x.channel.step call expired).phase call, deadline⟩
    have role : ready.HasRole fetching := staffed.roles ready (by simp [found, ready])
    have contents := (x.channel.step_effect call expired).contents
    have carries : stepped.carried = call.carried ++
        call.taken (x.channel.step call expired).progress :=
      (Outcome.carried_of_phase rfl).trans (x.channel.carried_step (role.known rfl) expired)
    show carried clients ++ (x.channel.step call expired).channel.queue.events =
      (carried x.clients ++ x.channel.queue.events) ++ _
    rw [heard.carried_eq]
    rcases role with ⟨fetches, calls⟩ | ⟨-, -, calls⟩
    · -- the one client that fetches has taken from the front what it carries now
      have silent := (calls call rfl).published (x.channel.step call expired).progress
      rw [silent, List.append_nil] at contents
      rw [silent, List.append_nil, carried_around staffed one found fetches stepped, carries,
        List.append_assoc, contents, found, carried_around staffed one found fetches ready]
      rfl
    · -- a producer takes nothing, and what it publishes comes behind
      have produces := calls call rfl
      have same : stepped.carried = ready.carried := by
        rw [carries, produces.taken, List.append_nil]
        rfl
      rw [produces.taken, List.nil_append] at contents
      rw [carried_insert same, ← found, contents, List.append_assoc]
  | wake expired found => exact pending_replace found .nil rfl rfl
  | signal found heard => exact pending_replace found (.cons heard .nil) rfl rfl
  | finish found => exact pending_replace found .nil rfl rfl
  | around gate clock => exact (List.append_nil _).symm

theorem Steps.pending_eq (h : Steps Call.IsProducer x published y)
    (staffed : Staffed fetching x.clients) (one : OneFetches fetching) :
    Staffed fetching y.clients ∧ y.pending = x.pending ++ published := by
  induction h with
  | refl => exact ⟨staffed, (List.append_nil _).symm⟩
  | tail _ step ih =>
    obtain ⟨between, first⟩ := ih
    refine ⟨(step.staffed between).1, ?_⟩
    rw [step.pending_eq between one, first, List.append_assoc]

/-- A call that takes no events and needs no client. -/
theorem pending_atOnce (x : Exchange α ε) {call : Call ε}
    (nothing : ∀ progress, call.taken progress = []) :
    (x.atOnce call).1.pending =
      x.pending ++ call.published (x.channel.step call false).progress := by
  have contents := (x.channel.step_effect call false).contents
  rw [nothing, List.nil_append] at contents
  rw [pending, (x.heard_atOnce call).carried_eq, pending, List.append_assoc]
  refine congrArg _ ?_
  rw [queue, atOnce_channel]
  exact contents

omit [Quantity α] in
/-- A client that carries nothing leaves. -/
theorem pending_leave (distinct : x.Distinct) {c : Client ε} (mem : c ∈ x.clients)
    (nothing : c.carried = []) : (x.leave c.id).pending = x.pending := by
  obtain ⟨before, after, found, rest, -⟩ := leave_clients distinct mem
  rw [pending, pending, rest, found]
  simp only [carried, List.flatMap_append, List.flatMap_cons, nothing, List.nil_append]
  rfl

omit [Quantity α] in
/-- The client that fetches leaves, with all that is carried. -/
theorem pending_leave_fetching (staffed : Staffed fetching x.clients)
    (one : OneFetches fetching) {c : Client ε} (mem : c ∈ x.clients) (fetches : fetching c.id) :
    c.carried ++ (x.leave c.id).pending = x.pending := by
  obtain ⟨before, after, found, rest, -⟩ := leave_clients staffed.distinct mem
  have all := carried_around staffed one found fetches
  have alone : carried (before ++ after) = [] := by
    have nothing := all ⟨c.id, .returned .done, none⟩
    simp only [carried, List.flatMap_append, List.flatMap_cons] at nothing ⊢
    exact nothing
  rw [pending, pending, rest, alone, found, all c]
  rfl

end

end Exchange

/-! ## The steps of workers -/

namespace Stage

/-- What the handler was given, what is carried to it, and what waits, in this order. -/
def course (s : Stage ε) : List ε := s.journal.flatMap (·.events) ++ s.exchange.pending

theorem course_congr {s s' : Stage ε} (latest : s'.latest = s.latest)
    (pending : s'.exchange.pending = s.exchange.pending) : s'.course = s.course := by
  rw [course, course, journal, journal, latest, pending]

end Stage

namespace Service

variable {s s' : Service ε} {pool worker : ℕ} {p : Pool ε}

theorem mem_fetching_of_isAt {client : ℕ} (listed : s.IsAt pool worker (.fetching client)) :
    client ∈ s.fetching := by
  obtain ⟨p, found, mem⟩ := listed
  exact List.mem_flatMap.2 ⟨p, List.mem_of_getElem? found, List.mem_filterMap.2 ⟨_, mem, rfl⟩⟩

/-- A worker hands what was carried to it to the handler. -/
theorem course_endFetch (crewed : s.Crewed) (one : OneFetches (· ∈ s.fetching)) {c : Client ε}
    (mem : c ∈ s.stage.exchange.clients) (fetches : c.id ∈ s.fetching) {reply : Reply ε}
    (returned : c.phase = .returned reply) (number : ℕ) :
    (s.endFetch number pool worker c.id reply).stage.course = s.stage.course := by
  have carries : c.carried = reply.carried := by rw [Client.carried, returned]
  have left := Exchange.pending_leave_fetching crewed.serving.staffed one mem fetches
  rw [carries] at left
  have misses (empty : reply.carried = []) :
      (s.stage.mapExchange fun x => x.leave c.id).course = s.stage.course := by
    refine Stage.course_congr rfl ?_
    rw [← left, empty, List.nil_append]
    rfl
  unfold endFetch
  split
  · rename_i batch
    let entry : JournalEntry ε := ⟨pool, worker, batch.events⟩
    show (s.stage.enter entry).journal.flatMap (·.events) ++
      (s.stage.exchange.leave c.id).pending = _
    rw [Stage.journal_enter, List.flatMap_append, List.append_assoc, Stage.course, ← left]
    simp only [List.flatMap_cons, List.flatMap_nil, List.append_nil]
    rfl
  · exact misses rfl
  · rename_i noBatch noMiss
    refine misses ?_
    unfold Reply.carried
    split
    · exact absurd rfl (noBatch _)
    · rfl

theorem course_stepFetch? (crewed : s.Crewed) (one : OneFetches (· ∈ s.fetching)) {client : ℕ}
    (listed : client ∈ s.fetching) {number : ℕ}
    (h : s.stepFetch? number pool worker client = some s') :
    s'.stage.course = s.stage.course := by
  obtain ⟨c, mem, rfl, ⟨reply, returned, rfl⟩ | ⟨x, stepped, rfl⟩⟩ := stepFetch?_cases h
  · exact course_endFetch crewed one mem listed returned number
  · obtain ⟨more, steps, silent⟩ :=
      Exchange.steps_of_stepClient? crewed.serving.staffed.distinct mem stepped
    have none : more = [] := by
      rcases silent with none | ⟨call, progress, busy, rfl⟩
      · exact none
      · rcases crewed.serving.staffed.roles c mem with ⟨-, fetches⟩ | ⟨stranger, -⟩
        · exact (fetches call busy).published progress
        · exact absurd listed stranger
    obtain ⟨-, order⟩ := steps.pending_eq crewed.serving.staffed one
    rw [none, List.append_nil] at order
    exact Stage.course_congr rfl order

/-- **A step of a worker** keeps the order of the events. -/
theorem course_step? (crewed : s.Crewed) (one : OneFetches (· ∈ s.fetching)) {number : ℕ}
    {refusals : ThreadRefusals} (h : s.step? number pool worker refusals = some s') :
    s'.stage.course = s.stage.course := by
  obtain ⟨p, v, found, mem, -, h⟩ := step?_cases h
  unfold stepIn? at h
  cases here : v.duty with
  | checking =>
    simp only [here, Option.some.injEq] at h
    subst h
    cases v.stop with
    | true => rfl
    | false => exact Stage.course_congr rfl rfl
  | fetching client =>
    simp only [here] at h
    refine course_stepFetch? crewed one ?_ h
    exact mem_fetching_of_isAt ⟨p, found, List.mem_map.2 ⟨v, mem, congrArg (v.id, ·) here⟩⟩
  | handling batch plan since =>
    simp only [here] at h
    cases plan with
    | finish verdict =>
      obtain rfl := Option.some.inj h
      rfl
    | hold next =>
      obtain ⟨latch, -, rfl⟩ := Option.map_eq_some_iff.1 h
      rfl
    | send => exact absurd h (by simp [stepPlan?])
  | recording batch verdict elapsed =>
    simp only [here, Option.some.injEq] at h
    subst h
    unfold record
    split
    · rfl
    · cases p.policy <;> rfl
  | observing batch =>
    simp only [here, Option.some.injEq] at h
    subst h
    obtain ⟨clients, queue, -, latest⟩ := s.stage.observe_keeps
    refine Stage.course_congr latest ?_
    show carried s.stage.observe.1.exchange.clients ++ s.stage.observe.1.exchange.queue.events = _
    rw [clients, queue]
    rfl
  | completing batch leaves =>
    simp only [here, Option.some.injEq] at h
    subst h
    let call : Call ε := .complete batch.completion .done
    have fetches : call.IsFetch := True.intro
    have order : (s.stage.exchange.atOnce call).1.pending = _ :=
      s.stage.exchange.pending_atOnce fun _ => rfl
    rw [fetches.published, List.append_nil] at order
    cases leaves <;> exact Stage.course_congr rfl order
  | measuring | adding | leaving | reporting =>
    simp only [here, Option.some.injEq] at h
    subst h
    rfl
  | idling =>
    simp only [here, Option.some.injEq] at h
    subst h
    unfold rest
    split
    · split <;> rfl
    · rfl
  | gone | crashing => exact absurd h (by simp [here])

end Service

/-! ## A pool of one worker -/

/-- No more workers of a pool fetch than are in their rounds. -/
theorem Pool.length_fetching_le (p : Pool ε) :
    p.fetching.length ≤ p.workers.countP Worker.isInRound := by
  rw [fetching, roll, List.filterMap_map, List.length_filterMap_eq_countP]
  refine List.countP_mono_left fun v _ fetches => ?_
  obtain ⟨client, known⟩ := Option.isSome_iff_exists.1 fetches
  exact Worker.isInRound_of_duty (Duty.eq_fetching known) rfl

namespace Watched

variable {number : ℕ} {w w' : Watched ε}

/-- A move changes pools, and brings none. -/
theorem Move.length_pools (move : Move number w w') (crewed : w.service.Crewed) :
    w'.service.pools.length = w.service.pools.length := by
  cases move with
  | trade | atOnce | leave | around => rfl
  | worker pool worker refusals step =>
    obtain ⟨p, p', d, d', took⟩ := Service.step?_took crewed.numbered step
    exact (congrArg List.length took.pools).trans List.length_set
  | start pool refusals started =>
    obtain ⟨p, started, -, -, rfl⟩ := Service.startPool?_cases started
    exact List.length_modify ..
  | resize pool size refusals =>
    show (w.service.resizePool pool size refusals).1.pools.length = _
    rw [Service.resizePool_eq]
    exact List.length_modify ..
  | send | beginStop | reap | endStop => exact List.length_modify ..

/-- One pool serves the stage, at most one of its workers is in its round, and the events are
    where they are in the order in which they were published. -/
structure InOrder (w : Watched ε) : Prop where
  crewed : w.service.Crewed
  lone : ∃ p, w.service.pools = [p] ∧ p.Lone
  published : w.published = w.service.stage.course

theorem InOrder.oneFetches (order : w.InOrder) : OneFetches (· ∈ w.service.fetching) := by
  obtain ⟨p, pools, lone⟩ := order.lone
  have same : w.service.fetching = p.fetching := by
    rw [Service.fetching, pools, List.flatMap_cons, List.flatMap_nil, List.append_nil]
  have few : w.service.fetching.length ≤ 1 :=
    same ▸ Nat.le_trans p.length_fetching_le lone.inRound_le
  intro a b ha hb
  obtain ⟨i, hi, rfl⟩ := List.getElem_of_mem ha
  obtain ⟨j, hj, rfl⟩ := List.getElem_of_mem hb
  have same : i = j := by omega
  subst same
  rfl

theorem InOrder.published_prefix (order : w.InOrder) :
    w.service.stage.journal.flatMap (·.events) <+: w.published :=
  order.published ▸ List.prefix_append _ _

theorem InOrder.handling_le (order : w.InOrder) :
    (w.service.workers.countP fun v => v.2.isHandling) ≤ 1 := by
  obtain ⟨p, pools, lone⟩ := order.lone
  have workers : w.service.workers.map (·.2) = p.workers := by
    rw [w.service.workers_eq, pools, List.flatMap_cons, List.flatMap_nil, List.append_nil]
  have same : (w.service.workers.countP fun v => v.2.isHandling) =
      p.workers.countP Worker.isHandling := by
    rw [← workers, List.countP_map]
    rfl
  rw [same]
  exact Nat.le_trans (List.countP_mono_left fun v _ => Worker.isInRound_of_isHandling)
    lone.inRound_le

/-- **Every move keeps the order.** -/
theorem Move.inOrder (move : Move number w w') (order : w.InOrder) : w'.InOrder := by
  have crewed := order.crewed
  have staffed := crewed.serving.staffed
  refine ⟨move.crewed crewed, ?_, ?_⟩
  · obtain ⟨p, pools, lone⟩ := order.lone
    have length := move.length_pools crewed
    rw [pools] at length
    obtain ⟨q, pools'⟩ := List.length_eq_one_iff.1 length
    have first : w.service.pools[0]? = some p := congrArg (·[0]?) pools
    obtain ⟨p', found, change⟩ := move.change crewed first
    rw [pools'] at found
    obtain rfl := Option.some.inj found
    exact ⟨q, pools', change.elim (fun same => same ▸ lone) fun change => change.lone lone⟩
  have extended {x : Exchange Float ε} {more : List ε}
      (pending : x.pending = w.service.stage.exchange.pending ++ more) :
      w.published ++ more = ({ w.service.stage with exchange := x } : Stage ε).course := by
    rw [order.published, Stage.course, Stage.course, List.append_assoc, ← pending]
    rfl
  cases move with
  | trade step => exact extended (step.pending_eq staffed order.oneFetches)
  | atOnce call produces =>
    exact extended (w.service.stage.exchange.pending_atOnce produces.taken)
  | @leave c mem stranger =>
    refine extended ?_
    rw [List.append_nil]
    refine Exchange.pending_leave staffed.distinct mem ?_
    rcases staffed.roles c mem with ⟨fetches, -⟩ | ⟨-, nothing, -⟩
    · obtain ⟨v, hv, here⟩ := Service.exists_worker_of_fetching fetches
      exact absurd here (stranger v hv)
    · exact nothing
  | worker pool worker refusals step =>
    exact order.published.trans (Service.course_step? crewed order.oneFetches step).symm
  | start pool refusals started =>
    obtain ⟨p, started, -, -, rfl⟩ := Service.startPool?_cases started
    exact order.published
  | resize pool size refusals =>
    show w.published = (w.service.resizePool pool size refusals).1.stage.course
    rw [Service.resizePool_eq]
    exact order.published
  | send | beginStop | reap | endStop => exact order.published
  | around stage exchange latest =>
    refine order.published.trans (Stage.course_congr latest ?_).symm
    rw [exchange]

end Watched

/-! ## Stages for one batch at a time -/

theorem Blueprint.capability_of_build? {b : Blueprint ε} {defaults : Resolved} {stage : Stage ε}
    (built : b.build? defaults = .ok stage) : stage.capability = b.capability := by
  rcases frame_of_build? built with rfl | ⟨console, rfl⟩
  · rfl
  · unfold Stage.putConsole
    simp only
    split <;> rfl

/-- A stage for one batch at a time, as it is built, and a pool that has not started. -/
theorem Watched.inOrder_built {b : Blueprint ε} {defaults : Resolved} {stage : Stage ε}
    (single : b.capability = .singleThreaded) (built : b.build? defaults = .ok stage)
    (policy : FailurePolicy) :
    InOrder ⟨({ stage, pools := [] } : Service ε).addPool policy, [], []⟩ := by
  have new := Service.isNew_of_build? built
  have alone : (stage.capability == .singleThreaded) = true := by
    rw [Blueprint.capability_of_build? built, single]
    rfl
  refine ⟨Service.Unstarted.crewed ⟨new.clients, fun p mem => ?_⟩, ?_, ?_⟩
  · exact ⟨_, _, _, _, List.mem_singleton.1 mem⟩
  · refine ⟨.new stage.name stage.pool true policy, ?_, Pool.lone_new _ _ _⟩
    rw [← alone]
    rfl
  · have journal : stage.latest = [] := new.journal
    have clients : stage.exchange.clients = [] := new.clients
    have empty : stage.exchange.queue.events = [] := new.empty
    show [] = stage.course
    rw [Stage.course, Stage.journal, journal, Exchange.pending, clients, empty]
    rfl

/-- **A stage for one batch at a time handles events in order.** However starts, resizes, stops,
    producers, transactions and the steps of workers interleave, at most one call of the handler
    goes on; what the handler was given is, in this order, the beginning of the events as they
    were published; and so the events of any one producer are handled in the order in which it
    brought them. -/
theorem handled_in_order {number : ℕ} {b : Blueprint ε} {defaults : Resolved} {stage : Stage ε}
    (single : b.capability = .singleThreaded) (built : b.build? defaults = .ok stage)
    (policy : FailurePolicy) {w : Watched ε}
    (run : Relation.ReflTransGen (Watched.Move number)
      ⟨({ stage, pools := [] } : Service ε).addPool policy, [], []⟩ w) :
    (w.service.workers.countP fun v => v.2.isHandling) ≤ 1 ∧
      w.service.stage.journal.flatMap (·.events) <+: w.published ∧
      ∀ mine : ε → Bool, (w.service.stage.journal.flatMap (·.events)).filter mine <+:
        w.published.filter mine := by
  have order : w.InOrder := by
    induction run with
    | refl => exact Watched.inOrder_built single built policy
    | tail _ move ih => exact move.inOrder ih
  exact ⟨order.handling_le, order.published_prefix, fun mine => order.published_prefix.filter mine⟩

/-- While the handler has the first of two events, the second waits, and a resize of the pool
    brings no worker that could have it. -/
theorem handled_in_order_waiting : ∃ w : Watched ℕ, w.published = [1, 2] ∧
    w.service.stage.journal.flatMap (·.events) = [1] ∧
    (w.service.workers.countP fun v => v.2.isHandling) = 1 ∧
    w.service.stage.journal.flatMap (·.events) <+: w.published := by
  let b : Blueprint ℕ := { Blueprint.new "stage" .holding with capability := .singleThreaded }
  let defaults := Config.empty.resolve "stage"
  let new : Watched ℕ :=
    ⟨({ stage := b.frame defaults (b.rigging defaults), pools := [] } : Service ℕ).addPool .carryOn,
      [], []⟩
  let cues : List (Watched.Cue ℕ) := .start 0 :: .offer 1 :: List.replicate 4 (.worker 0 0) ++
    [.offer 2, .resize 0 5, .resize 0 0]
  have played : (new.play? 0 cues).map (fun w => (w.published,
      w.service.stage.journal.flatMap (·.events),
      w.service.workers.countP fun v => v.2.isHandling)) = some ([1, 2], [1], 1) := by
    decide +kernel
  obtain ⟨w, ran, seen⟩ := Option.map_eq_some_iff.1 played
  simp only [Prod.mk.injEq] at seen
  obtain ⟨published, journal, handling⟩ := seen
  have built : b.build? defaults = .ok (b.frame defaults (b.rigging defaults)) := rfl
  obtain ⟨-, order, -⟩ := handled_in_order rfl built .carryOn (Watched.run_of_play? ran)
  exact ⟨w, published, journal, handling, order⟩

end StagedEvents
