import StagedEvents.Proofs.Pool.Sizes
import StagedEvents.Proofs.Service.Conduct

/-!
# What is left alone

Workers handle batches, pools are resized, producers bring events, time passes: none of it
gives a stage another name or handler, tells the handler anything about its stage, opens a
queue again, or starts or stops a pool. And without a pool nothing reaches the handler.

* `Service.Undisturbed`: a service in a later state, with all that left alone.
* `Service.undisturbed_step?`: a step of a worker.
* `Application.Undisturbed`, `Application.undisturbed_stepWorker?`: the same of all services.
-/

namespace StagedEvents

variable {ε : Type}

/-! ## Queues stay closed -/

theorem Exchange.closed_stepClient? {x y : Exchange Float ε} {c : Client ε}
    (stepped : x.stepClient? c = some y) (closed : x.queue.closed = true) :
    y.queue.closed = true := by
  unfold stepClient? at stepped
  split at stepped
  · obtain rfl := Option.some.inj stepped
    exact x.channel.closed_step _ _ closed
  · split at stepped
    · obtain rfl := Option.some.inj stepped
      exact x.channel.closed_step _ _ closed
    · exact absurd stepped (by simp)
  · obtain rfl := Option.some.inj stepped
    exact closed
  · exact absurd stepped (by simp)

theorem Exchange.closed_atOnce {x : Exchange Float ε} (call : Call ε)
    (closed : x.queue.closed = true) : (x.atOnce call).1.queue.closed = true := by
  rw [queue, atOnce_channel]
  exact x.channel.closed_step call false closed

/-! ## Stages -/

namespace Stage

/-- The stage in a later state: it has its name and its handler, no one has told the handler
    anything about it, and if its queue was closed it is. -/
structure Undisturbed (s s' : Stage ε) : Prop where
  name : s'.name = s.name
  handler : s'.handler = s.handler
  life : s'.life = s.life
  closed : s.queue.closed = true → s'.queue.closed = true

variable {s s' s'' : Stage ε}

theorem Undisturbed.refl (s : Stage ε) : s.Undisturbed s := ⟨rfl, rfl, rfl, id⟩

theorem Undisturbed.trans (first : s.Undisturbed s') (second : s'.Undisturbed s'') :
    s.Undisturbed s'' :=
  ⟨second.name.trans first.name, second.handler.trans first.handler,
    second.life.trans first.life, second.closed ∘ first.closed⟩

theorem undisturbed_mapExchange {f : Exchange Float ε → Exchange Float ε}
    (closed : s.queue.closed = true → (f s.exchange).queue.closed = true) :
    s.Undisturbed (s.mapExchange f) :=
  ⟨rfl, rfl, rfl, closed⟩

theorem undisturbed_atOnce (s : Stage ε) (call : Call ε) :
    s.Undisturbed (s.mapExchange fun x => (x.atOnce call).1) :=
  undisturbed_mapExchange (Exchange.closed_atOnce call)

theorem undisturbed_enterClient (s : Stage ε) (client : ℕ) (call : Call ε) (patience : Span) :
    s.Undisturbed (s.mapExchange fun x => x.enter client call patience) :=
  ⟨rfl, rfl, rfl, id⟩

theorem undisturbed_leave (s : Stage ε) (client : ℕ) :
    s.Undisturbed (s.mapExchange fun x => x.leave client) :=
  ⟨rfl, rfl, rfl, id⟩

theorem undisturbed_mapStats (s : Stage ε) (f : Stats → Stats) : s.Undisturbed (s.mapStats f) :=
  ⟨rfl, rfl, rfl, id⟩

theorem undisturbed_enter (s : Stage ε) (entry : JournalEntry ε) :
    s.Undisturbed (s.enter entry) :=
  ⟨rfl, rfl, rfl, id⟩

theorem undisturbed_latch (s : Stage ε) (latch : Latch) : s.Undisturbed { s with latch } :=
  ⟨rfl, rfl, rfl, id⟩

/-- Loops turn dials, and nothing else. -/
theorem undisturbed_observe (s : Stage ε) : s.Undisturbed s.observe.1 := by
  simp only [observe, control]
  split
  · exact .refl s
  · simp only [putConsole]
    split <;> exact ⟨rfl, rfl, rfl, id⟩

end Stage

/-! ## Services -/

namespace Service

/-- The service in a later state: its stage is undisturbed, none of its pools was started or
    stopped, none is new, and without any no batch was handed to the handler. -/
structure Undisturbed (s s' : Service ε) : Prop where
  stage : s.stage.Undisturbed s'.stage
  states : s'.pools.map Pool.state = s.pools.map Pool.state
  latest : s.pools = [] → s'.stage.latest = s.stage.latest

variable {s s' s'' : Service ε} {pool worker : ℕ}

theorem Undisturbed.pools_eq_nil (same : s.Undisturbed s') : s'.pools = [] ↔ s.pools = [] := by
  rw [← List.map_eq_nil_iff (f := Pool.state), same.states, List.map_eq_nil_iff]

theorem Undisturbed.refl (s : Service ε) : s.Undisturbed s := ⟨.refl s.stage, rfl, fun _ => rfl⟩

theorem Undisturbed.trans (first : s.Undisturbed s') (second : s'.Undisturbed s'') :
    s.Undisturbed s'' :=
  ⟨first.stage.trans second.stage, second.states.trans first.states, fun empty =>
    (second.latest (first.pools_eq_nil.2 empty)).trans (first.latest empty)⟩

theorem undisturbed_withStage {stage : Stage ε} (same : s.stage.Undisturbed stage)
    (latest : s.pools = [] → stage.latest = s.stage.latest) :
    s.Undisturbed { s with stage } :=
  ⟨same, rfl, latest⟩

/-- A section of a pool that neither starts nor stops it. -/
theorem undisturbed_mapPool (s : Service ε) (pool : ℕ) (f : Pool ε → Pool ε)
    (state : ∀ p, s.pools[pool]? = some p → (f p).state = p.state) :
    s.Undisturbed (s.mapPool pool f) := by
  refine ⟨.refl s.stage, ?_, fun _ => rfl⟩
  cases found : s.pools[pool]? with
  | none => rw [mapPool_of_none found]
  | some p =>
    obtain ⟨lt, rfl⟩ := List.getElem?_eq_some_iff.1 found
    calc (s.mapPool pool f).pools.map Pool.state
        = (s.pools.set pool s.pools[pool]).map Pool.state := by
          rw [mapPool_set found, List.map_set, List.map_set, state _ found]
      _ = s.pools.map Pool.state := by rw [List.set_getElem_self]

theorem undisturbed_mapWorker (s : Service ε) (pool worker : ℕ) (f : Worker ε → Worker ε) :
    s.Undisturbed (s.mapWorker pool worker f) :=
  s.undisturbed_mapPool pool (Pool.mapWorker worker f) fun _ _ => rfl

theorem undisturbed_setDuty (s : Service ε) (pool worker : ℕ) (duty : Duty ε) :
    s.Undisturbed (s.setDuty pool worker duty) :=
  s.undisturbed_mapWorker pool worker _

/-- The stage changes, and then a worker goes on. -/
theorem undisturbed_turn {stage : Stage ε} (same : s.stage.Undisturbed stage)
    (latest : s.pools = [] → stage.latest = s.stage.latest) (pool worker : ℕ)
    (f : Worker ε → Worker ε) :
    s.Undisturbed (({ s with stage } : Service ε).mapWorker pool worker f) :=
  (undisturbed_withStage same latest).trans (undisturbed_mapWorker _ pool worker f)

theorem undisturbed_resizePool (s : Service ε) (pool size : ℕ) (refusals : ThreadRefusals) :
    s.Undisturbed (s.resizePool pool size refusals).1 := by
  rw [resizePool_eq]
  exact s.undisturbed_mapPool pool _ fun p _ =>
    congrArg (·.2.2) (p.frame_resize s.clock refusals size)

/-! ## Workers -/

theorem undisturbed_endFetch (served : s.pools ≠ []) (number client : ℕ) (reply : Reply ε) :
    s.Undisturbed (s.endFetch number pool worker client reply) := by
  unfold endFetch
  simp only
  split
  · exact undisturbed_turn ((s.stage.undisturbed_leave client).trans (Stage.undisturbed_enter _ _))
      (fun empty => absurd empty served) pool worker _
  · exact undisturbed_turn (s.stage.undisturbed_leave client) (fun _ => rfl) pool worker _
  · exact undisturbed_turn (s.stage.undisturbed_leave client) (fun _ => rfl) pool worker _

theorem undisturbed_stepFetch? (served : s.pools ≠ []) {number client : ℕ}
    (h : s.stepFetch? number pool worker client = some s') : s.Undisturbed s' := by
  obtain ⟨c, -, rfl, ⟨reply, -, rfl⟩ | ⟨x, stepped, rfl⟩⟩ := stepFetch?_cases h
  · exact undisturbed_endFetch served number c.id reply
  · exact undisturbed_withStage
      (Stage.undisturbed_mapExchange (Exchange.closed_stepClient? stepped)) fun _ => rfl

theorem undisturbed_stepPlan? {batch : Batch ε} {plan : Plan ε} {since : ℕ}
    (h : s.stepPlan? pool worker batch plan since = some s') : s.Undisturbed s' := by
  cases plan with
  | finish verdict =>
    obtain rfl := Option.some.inj h
    exact undisturbed_setDuty s pool worker _
  | hold next =>
    obtain ⟨latch, passed, rfl⟩ := Option.map_eq_some_iff.1 h
    exact undisturbed_turn (s.stage.undisturbed_latch latch) (fun _ => rfl) pool worker _
  | send => exact absurd h (by simp [stepPlan?])

theorem undisturbed_record (policy : FailurePolicy) (batch : Batch ε) (verdict : Verdict)
    (elapsed : Span) : s.Undisturbed (s.record pool worker policy batch verdict elapsed) := by
  unfold record
  simp only
  split
  · exact undisturbed_turn (s.stage.undisturbed_mapStats _) (fun _ => rfl) pool worker _
  · have failed := s.stage.undisturbed_mapStats Stats.recordFailure
    cases policy with
    | crash => exact undisturbed_turn failed (fun _ => rfl) pool worker _
    | carryOn =>
      exact undisturbed_turn (failed.trans (Stage.undisturbed_mapStats _ _)) (fun _ => rfl)
        pool worker _

theorem undisturbed_observe (s : Service ε) (pool worker : ℕ) (batch : Batch ε) :
    s.Undisturbed (s.observe pool worker batch) :=
  undisturbed_turn s.stage.undisturbed_observe (fun _ => s.stage.observe_keeps.2.2.2) pool worker _

theorem undisturbed_complete (s : Service ε) (pool worker : ℕ) (batch : Batch ε) (leaves : Bool) :
    s.Undisturbed (s.complete pool worker batch leaves) := by
  cases leaves with
  | true => exact undisturbed_turn (s.stage.undisturbed_atOnce _) (fun _ => rfl) pool worker _
  | false => exact undisturbed_turn (s.stage.undisturbed_atOnce _) (fun _ => rfl) pool worker _

theorem undisturbed_rest (s : Service ε) (pool : ℕ) (p : Pool ε) (w : Worker ε)
    (found : s.pools[pool]? = some p) : s.Undisturbed (s.rest pool p w) := by
  unfold rest
  split
  · split
    · rename_i q retired
      unfold Pool.retire? at retired
      split at retired
      · exact absurd retired (by simp)
      · obtain rfl := Option.some.inj retired
        refine (s.undisturbed_mapPool pool _ fun q same => ?_).trans
          (undisturbed_setDuty _ pool w.id .leaving)
        obtain rfl := Option.some.inj (found.symm.trans same)
        rfl
    · exact undisturbed_setDuty s pool w.id .checking
  · exact undisturbed_setDuty s pool w.id .checking

theorem undisturbed_stepIn? {p : Pool ε} {w : Worker ε} (found : s.pools[pool]? = some p)
    {number : ℕ} {refusals : ThreadRefusals} (h : s.stepIn? number pool p w refusals = some s') :
    s.Undisturbed s' := by
  have served : s.pools ≠ [] := List.ne_nil_of_mem (List.mem_of_getElem? found)
  obtain ⟨id, stop, membership, duty, idleSince⟩ := w
  cases duty with
  | checking =>
    obtain rfl := Option.some.inj h
    cases stop with
    | true => exact undisturbed_setDuty s pool id .leaving
    | false =>
      exact undisturbed_turn (s.stage.undisturbed_enterClient _ _ _) (fun _ => rfl) pool id _
  | fetching client => exact undisturbed_stepFetch? served h
  | handling batch plan since => exact undisturbed_stepPlan? h
  | recording batch verdict elapsed =>
    obtain rfl := Option.some.inj h
    exact undisturbed_record p.policy batch verdict elapsed
  | observing batch =>
    obtain rfl := Option.some.inj h
    exact s.undisturbed_observe pool id batch
  | completing batch leaves =>
    obtain rfl := Option.some.inj h
    exact s.undisturbed_complete pool id batch leaves
  | measuring =>
    obtain rfl := Option.some.inj h
    exact undisturbed_setDuty s pool id _
  | adding =>
    obtain rfl := Option.some.inj h
    exact (s.undisturbed_mapPool pool _ fun p _ =>
      congrArg (·.2.2) (p.frame_grow s.clock refusals)).trans
      (undisturbed_setDuty _ pool id .checking)
  | idling =>
    obtain rfl := Option.some.inj h
    exact s.undisturbed_rest pool p _ found
  | leaving =>
    obtain rfl := Option.some.inj h
    exact s.undisturbed_mapWorker pool id _
  | reporting =>
    obtain rfl := Option.some.inj h
    exact (s.undisturbed_mapPool pool (fun p => { p with exits := p.exits ++ [id] })
      fun _ _ => rfl).trans (undisturbed_setDuty _ pool id .gone)
  | gone | crashing => exact absurd h (by simp [stepIn?])

/-- **A step of a worker** leaves alone what is not for workers to change. -/
theorem undisturbed_step? {number : ℕ} {refusals : ThreadRefusals}
    (h : s.step? number pool worker refusals = some s') : s.Undisturbed s' := by
  obtain ⟨p, w, found, -, -, stepped⟩ := step?_cases h
  exact undisturbed_stepIn? found stepped

end Service

end StagedEvents
