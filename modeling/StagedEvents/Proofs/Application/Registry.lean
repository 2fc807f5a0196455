import Mathlib.Algebra.Order.Group.Multiset
import Mathlib.Tactic.Abel
import StagedEvents.Proofs.Application.PendingCall
import StagedEvents.Proofs.Service.Strength

/-!
# The registry and the served pools agree

Callers make stages, tear them down and shut the application down, in any interleaving of
their chores with each other, with the steps of workers, with resizes and with producers. The
registry and the table of served pools have locks of their own, and yet a stage in the
registry is served under its name by a pool of its own, no teardown stops the pool of another
stage, and when no call is in progress the two tables have the same names.

* `SharedApplication.RegistryStep`: all that callers and workers do, with no one who turns to pools
  directly.
* `SharedApplication.Managed`, `RegistryStep.managed`: each caller has a pending call, and each
  stage a phase.
* `registry_agrees`: the result.
-/

namespace StagedEvents

variable {ε : Type}

namespace SharedApplication

/-! ## All that happens -/

/-- All that happens to an application whose callers make stages, tear them down and shut the
    application down. Who serves a stage gets the threads for it. -/
inductive RegistryStep : SharedApplication ε → SharedApplication ε → Prop where
  /-- A caller comes. -/
  | call {h : SharedApplication ε} {chore : Chore ε} (asks : chore.Asks) :
      RegistryStep h { h with callers := h.callers ++ [[chore]] }
  /-- A caller tries its next chore. -/
  | chore {h : SharedApplication ε} {caller : ℕ} {chore : Chore ε} {rest : List (Chore ε)}
      (next : h.callers[caller]? = some (chore :: rest)) :
      RegistryStep h (h.attempt caller chore rest)
  /-- A worker takes its next step. -/
  | worker {h : SharedApplication ε} {a : Application ε} (number pool worker : ℕ)
      (refusals : ThreadRefusals)
      (step : h.application.stepWorker? number pool worker refusals = some a) :
      RegistryStep h (h.withApplication a)
  | resize {h : SharedApplication ε} (ref : PoolRef) (size : ℕ) (refusals : ThreadRefusals) :
      RegistryStep h (h.withApplication (h.application.resizePool ref size refusals).1)
  /-- Something else of a stage changes: producers act on its queue, time passes, its latch
      opens, its gate is turned. -/
  | around {h : SharedApplication ε} (number : ℕ) {f : Stage ε → Stage ε}
      (same : ∀ s ∈ h.application.stage? number, s.Undisturbed (f s) ∧ (f s).latest = s.latest) :
      RegistryStep h (h.withApplication (h.application.mapStage number f))

/-- An application without stages, and without callers. -/
def vacant (config : Config) : SharedApplication ε := { application := .new config, callers := [] }

/-! ## Pending calls and phases -/

/-- Every caller has a pending call, one of them holds the registry if anyone does, and the stages
    of all calls, of the registry and of the past are all stages there are. -/
structure Managed (h : SharedApplication ε) (calls : List (PendingCall ε))
    (past : List StageStatus) : Prop where
  callers : h.callers = calls.map PendingCall.chores
  held : calls.countP PendingCall.holds = h.application.registryHeld.toNat
  ended : ∀ status ∈ past, status.phase.isOver = true
  tracked : h.application.Tracked
    (calls.flatMap PendingCall.statuses ++ (h.application.listing ++ past))

variable {h h' : SharedApplication ε} {calls : List (PendingCall ε)} {past : List StageStatus}

theorem managed_vacant (config : Config) : (vacant config : SharedApplication ε).Managed [] [] :=
  ⟨rfl, rfl, nofun, ⟨.refl _, nofun, .refl _, List.nodup_nil⟩⟩

/-- What leaves services and tables alone leaves all calls alone. -/
theorem Managed.undisturbed (managed : h.Managed calls past) {a : Application ε}
    (same : h.application.Undisturbed a) : (h.withApplication a).Managed calls past where
  callers := managed.callers
  held := managed.held.trans (congrArg Bool.toNat same.held.symm)
  ended := managed.ended
  tracked := by
    have listing : a.listing = h.application.listing := by
      rw [Application.listing, Application.labels, same.registry]
      rfl
    show a.Tracked (calls.flatMap PendingCall.statuses ++ (a.listing ++ past))
    rw [listing]
    exact managed.tracked.undisturbed same

theorem Managed.call (managed : h.Managed calls past) {chore : Chore ε} (asks : chore.Asks) :
    ({ h with callers := h.callers ++ [[chore]] } : SharedApplication ε).Managed
      (calls ++ [.asking chore asks]) past where
  callers := by
    rw [managed.callers, List.map_append]
    rfl
  held := by
    rw [List.countP_append]
    exact managed.held
  ended := managed.ended
  tracked := by
    rw [List.flatMap_append]
    exact (List.append_nil (calls.flatMap PendingCall.statuses)).symm ▸ managed.tracked

/-- The chore of one caller. -/
theorem Managed.chore (managed : h.Managed calls past) {caller : ℕ} {chore : Chore ε}
    {rest : List (Chore ε)} (next : h.callers[caller]? = some (chore :: rest)) :
    ∃ calls' past', (h.attempt caller chore rest).Managed calls' past' := by
  rw [managed.callers, List.getElem?_map] at next
  obtain ⟨pending, known, chores⟩ := Option.map_eq_some_iff.1 next
  obtain ⟨lt, rfl⟩ := List.getElem?_eq_some_iff.1 known
  let front := calls.take caller
  let back := calls.drop (caller + 1)
  have split : calls = front ++ calls[caller] :: back := by
    rw [List.getElem_cons_drop, List.take_append_drop]
  let others := front.flatMap PendingCall.statuses ++ back.flatMap PendingCall.statuses
  -- the statuses of this caller in front, and then those of all others
  have sorted (pending : PendingCall ε) (listing ended : List StageStatus) :
      (pending.statuses ++ (listing ++ (ended ++ (others ++ past)))).Perm
        ((front ++ pending :: back).flatMap PendingCall.statuses ++
          (listing ++ (ended ++ past))) := by
    rw [← Multiset.coe_eq_coe]
    simp only [others, List.flatMap_append, List.flatMap_cons, ← Multiset.coe_add]
    abel
  have held := managed.held
  have tracked := managed.tracked
  rw [split] at held tracked
  rw [List.countP_append, List.countP_cons] at held
  have free : calls[caller].holds = true → h.application.registryHeld = true := fun holds => by
    rw [if_pos holds] at held
    exact Bool.toNat_eq_one.1 (by have := h.application.registryHeld.toNat_le; omega)
  obtain ⟨pending', ended, chores', isOver, tracked', kept⟩ :=
    PendingCall.leads_doChore chores (tracked.perm (sorted calls[caller] _ []).symm) free
  refine ⟨front ++ pending' :: back, ended ++ past, ?_, ?_, ?_, ?_⟩
  · have callers : (h.attempt caller chore rest).callers =
        h.callers.set caller ((h.application.doChore chore).2.remaining chore rest) := rfl
    rw [callers, managed.callers, chores', ← List.map_set, List.set_eq_take_append_cons_drop,
      if_pos lt]
  · show _ = (h.application.doChore chore).1.registryHeld.toNat
    rw [List.countP_append, List.countP_cons]
    revert held kept
    cases calls[caller].holds <;> cases pending'.holds <;> simp <;> omega
  · exact List.forall_mem_append.2 ⟨isOver, managed.ended⟩
  · exact tracked'.perm (sorted pending' _ ended)

/-- **Whatever happens**, every caller has a pending call and every stage a phase. -/
theorem RegistryStep.managed (step : h.RegistryStep h') (managed : h.Managed calls past) :
    ∃ calls' past', h'.Managed calls' past' := by
  cases step with
  | call asks => exact ⟨_, past, managed.call asks⟩
  | chore next => exact managed.chore next
  | worker number pool worker refusals step =>
    exact ⟨calls, past, managed.undisturbed (Application.undisturbed_stepWorker? step)⟩
  | resize ref size refusals =>
    exact ⟨calls, past, managed.undisturbed
      (Application.undisturbed_resizePool ref size refusals _)⟩
  | around number same =>
    exact ⟨calls, past, managed.undisturbed (Application.undisturbed_mapStage same)⟩

theorem managed_of_run {config : Config}
    (run : Relation.ReflTransGen RegistryStep (vacant config) h) :
    ∃ calls past, h.Managed calls past := by
  induction run with
  | refl => exact ⟨[], [], managed_vacant config⟩
  | tail _ step ih =>
    obtain ⟨calls, past, managed⟩ := ih
    exact step.managed managed

end SharedApplication

/-! ## What is left to do -/

/-- The stage that a chore is about, if it has its number. -/
def Chore.stage? : Chore ε → Option ℕ
  | .introduce number | .serve number | .enter number | .close number | .dismiss number =>
    some number
  | .beginStop ref | .awaitExits ref _ | .endStop ref => some ref.stage
  | _ => none

namespace PendingCall

/-- There is something to do about each stage of a pending call. -/
theorem exists_chore {pending : PendingCall ε} {status : StageStatus}
    (mem : status ∈ pending.statuses) :
    ∃ chore ∈ pending.chores, chore.stage? = some status.stage := by
  have torn {later : List Label} (mem : status ∈ later.map (Label.status .closing)) :
      ∃ chore ∈ (later.flatMap Label.tearDown : List (Chore ε)),
        chore.stage? = some status.stage := by
    obtain ⟨stage, listed, rfl⟩ := List.mem_map.1 mem
    exact ⟨.close stage.1, List.mem_flatMap.2 ⟨stage, listed, .head _⟩, rfl⟩
  -- a stage that is being torn down is dismissed in the end, before those that come later
  have tearing (front : List (Chore ε)) {stage : Label} {phase : StagePhase} {later : List Label}
      (mem : status ∈ stage.status phase :: later.map (Label.status .closing)) :
      ∃ chore ∈ front ++ .dismiss stage.1 :: later.flatMap Label.tearDown,
        chore.stage? = some status.stage := by
    rcases List.mem_cons.1 mem with rfl | mem
    · exact ⟨.dismiss stage.1, List.mem_append_right _ (.head _), rfl⟩
    · obtain ⟨chore, listed, about⟩ := torn mem
      exact ⟨chore, List.mem_append_right _ (.tail _ listed), about⟩
  cases pending with
  | asking | yielding => cases mem
  | introducing | serving | entering | withdrawing | withdrawn =>
    obtain rfl := List.mem_singleton.1 mem
    exact ⟨_, .head _, rfl⟩
  | tearing closes later =>
    obtain ⟨chore, listed, about⟩ := torn mem
    exact ⟨chore, List.mem_append_right _ listed, about⟩
  | leaving | stopping | ending => exact tearing [_] mem
  | awaiting => exact tearing [_, _] mem
  | parting => exact tearing [] mem

/-- A caller without chores is done. -/
theorem eq_done {pending : PendingCall ε} (none : pending.chores = []) :
    pending.statuses = [] ∧ pending.holds = false := by
  cases pending with
  | tearing closes later =>
    obtain ⟨rfl, empty⟩ := List.append_eq_nil_iff.1 none |>.imp_left List.map_eq_nil_iff.1
    cases later with
    | nil => exact ⟨rfl, rfl⟩
    | cons => cases empty
  | _ => cases none

end PendingCall

namespace Application

/-- The next chore of a teardown is about the stage that is torn down: the entry it takes off
    the table of served pools, and the pool it stops, are those of the stage that it tells the
    handler of at last, with its queue closed and its pools stopped. -/
def KeepsToStage (a : Application ε) : List (Chore ε) → Prop
  | .unserve name :: rest => ∃ number s later, rest = .dismiss number :: later ∧
      a.services[number]? = some s ∧ s.stage.name = name ∧ s.stage.queue.closed = true ∧
      a.served.lookup name = some ⟨number, 0⟩
  | .beginStop ref :: rest => ∃ later, rest = .dismiss ref.stage :: later
  | .awaitExits ref _ :: rest => ∃ later, rest = .endStop ref :: .dismiss ref.stage :: later
  | .endStop ref :: rest => ∃ later, rest = .dismiss ref.stage :: later
  | .dismiss number :: _ => ∃ s, a.services[number]? = some s ∧ s.stage.queue.closed = true ∧
      ∀ p ∈ s.pools, p.state = .terminated
  | _ => True

theorem Tracked.keepsToStage {a : Application ε} {pending : PendingCall ε}
    {others : List StageStatus}
    (tracked : a.Tracked (pending.statuses ++ others)) : a.KeepsToStage pending.chores := by
  -- what is known of the first stage of a pending call
  have first {label : Label} {phase : StagePhase} {rest : List StageStatus}
      (tracked : a.Tracked (label.status phase :: rest)) :
      ∃ s, a.services[label.1]? = some s ∧ (label.status phase).Holds s :=
    tracked.exists_service (.head _)
  have parting {label : Label} {rest : List StageStatus}
      (tracked : a.Tracked (label.status .parting :: rest)) :
      ∃ s, a.services[label.1]? = some s ∧ s.stage.queue.closed = true ∧
        ∀ p ∈ s.pools, p.state = .terminated := by
    obtain ⟨s, known, holds⟩ := first tracked
    exact ⟨s, known, holds.closed rfl, fun p mem => holds.pools _ (List.mem_map_of_mem mem)⟩
  cases pending with
  | asking chore asks => cases asks <;> exact True.intro
  | introducing | serving | entering | withdrawing | yielding => exact True.intro
  | withdrawn stage cause => exact parting tracked
  | tearing closes later =>
    cases closes with
    | cons => exact True.intro
    | nil => cases later <;> exact True.intro
  | leaving stage later =>
    obtain ⟨s, known, holds⟩ := first tracked
    exact ⟨stage.1, s, _, rfl, known, holds.name, holds.closed rfl,
      tracked.lookup_served (.head _) rfl⟩
  | stopping | awaiting | ending => exact ⟨_, rfl⟩
  | parting stage later => exact parting tracked

end Application

namespace Service

/-- What the handler of a stage was told, and what it was given. -/
structure Told (s : Service ε) : Prop where
  once : s.stage.life = [] ∨ s.stage.life = [.made] ∨ s.stage.life = [.made, .tornDown]
  first : .made ∉ s.stage.life → s.pools = [] ∧ s.stage.journal = []
  refused : s.stage.handler.refusal? ≠ none → .tornDown ∉ s.stage.life ∧ s.stage.journal = []
  last : .tornDown ∈ s.stage.life → ∀ p ∈ s.pools, p.state = .terminated
  stopped : ∀ p ∈ s.pools, p.state ≠ .running → s.stage.queue.closed = true

end Service

theorem StageStatus.Holds.told_of_phase {status : StageStatus} {s : Service ε}
    (holds : status.Holds s) :
    s.Told := by
  obtain ⟨number, name, phase⟩ := status
  have life : s.stage.life = phase.life := holds.life
  have states {p : Pool ε} (mem : p ∈ s.pools) : p.state ∈ s.pools.map Pool.state :=
    List.mem_map_of_mem mem
  have unserved (none : s.pools.map Pool.state = []) : s.pools = [] ∧ s.stage.journal = [] := by
    have empty := List.map_eq_nil_iff.1 none
    exact ⟨empty, by rw [Stage.journal, holds.idle empty]; rfl⟩
  refine ⟨?_, fun unmade => ?_, fun refusal => ?_, fun tornDown p mem => ?_, fun p mem stopped => ?_⟩
  · rw [life]
    cases phase <;> simp [StagePhase.life]
  · obtain rfl := StagePhase.eq_introducing (life ▸ unmade)
    exact unserved holds.pools
  · rw [life]
    cases phase with
    | introducing | refused => exact ⟨by simp [StagePhase.life], (unserved holds.pools).2⟩
    | _ => exact absurd ((holds.welcome (by simp)).2 (by simp)) refusal
  · obtain rfl := StagePhase.eq_dismissed (life ▸ tornDown)
    exact holds.pools p.state (states mem)
  · cases closed : phase.isClosed with
    | true => exact holds.closed closed
    | false => exact absurd (holds.pools.eq_running closed p.state (states mem)) stopped

/-! ## The two tables -/

namespace SharedApplication

variable {h : SharedApplication ε} {calls : List (PendingCall ε)} {past : List StageStatus}
  {number : ℕ} {name : String}
  {s : Service ε}

theorem mem_listing (calls : List (PendingCall ε)) (past : List StageStatus)
    (listed : (name, number) ∈ h.application.registry) :
    ⟨number, name, .listed⟩ ∈
      calls.flatMap PendingCall.statuses ++ (h.application.listing ++ past) := by
  refine List.mem_append_right _ (List.mem_append_left _ ?_)
  exact List.mem_map_of_mem (List.mem_map_of_mem listed)

/-- A stage in the registry is served under its name by its own pool, which runs. -/
theorem Managed.exists_pool (managed : h.Managed calls past)
    (listed : (name, number) ∈ h.application.registry) :
    ∃ s p, h.application.services[number]? = some s ∧ s.stage.name = name ∧
      s.stage.life = [.made] ∧ h.application.served.lookup name = some ⟨number, 0⟩ ∧
      s.pools = [p] ∧ p.state = .running := by
  have mem := mem_listing calls past listed
  obtain ⟨s, known, holds⟩ := managed.tracked.exists_service mem
  obtain ⟨p, pools, running⟩ := holds.pool fun _ => id
  exact ⟨s, p, known, holds.name, holds.life, managed.tracked.lookup_served mem rfl, pools, running⟩

theorem Managed.keepsToStage (managed : h.Managed calls past) {chores : List (Chore ε)}
    (mem : chores ∈ h.callers) : h.application.KeepsToStage chores := by
  rw [managed.callers] at mem
  obtain ⟨pending, listed, rfl⟩ := List.mem_map.1 mem
  obtain ⟨before, after, rfl⟩ := List.append_of_mem listed
  have tracked := managed.tracked
  rw [List.flatMap_append, List.flatMap_cons, List.append_assoc] at tracked
  have mine : h.application.Tracked (pending.statuses ++ (after.flatMap PendingCall.statuses ++
      (h.application.listing ++ past) ++ before.flatMap PendingCall.statuses)) := by
    refine tracked.perm ?_
    rw [← Multiset.coe_eq_coe]
    simp only [← Multiset.coe_add]
    abel
  exact mine.keepsToStage

/-- A stage that no one has anything to do about is in the registry, or done with: its handler
    would not have it, or was told that it is torn down. -/
theorem Managed.settled (managed : h.Managed calls past)
    (known : h.application.services[number]? = some s)
    (idle : ∀ chores ∈ h.callers, ∀ chore ∈ chores, chore.stage? ≠ some number)
    (unlisted : ∀ name, (name, number) ∉ h.application.registry) :
    s.stage.life = if s.stage.handler.refusal? = none then [.made, .tornDown] else [.made] := by
  obtain ⟨status, mem, rfl, holds⟩ := managed.tracked.exists_status known
  rcases List.mem_append.1 mem with busy | mem
  · obtain ⟨pending, listed, mem⟩ := List.mem_flatMap.1 busy
    obtain ⟨chore, waiting, about⟩ := PendingCall.exists_chore mem
    refine absurd about (idle pending.chores ?_ chore waiting)
    rw [managed.callers]
    exact List.mem_map_of_mem listed
  · rcases List.mem_append.1 mem with listed | gone
    · obtain ⟨label, labelled, rfl⟩ := List.mem_map.1 listed
      obtain ⟨⟨name, number⟩, entered, rfl⟩ := List.mem_map.1 labelled
      exact absurd entered (unlisted name)
    · have ended := managed.ended status gone
      obtain ⟨number, name, phase⟩ := status
      cases phase with
      | refused =>
        exact holds.life.trans (if_neg fun welcome => (holds.welcome nofun).1 welcome rfl).symm
      | dismissed => exact holds.life.trans (if_pos ((holds.welcome nofun).2 nofun)).symm
      | _ => cases ended

/-- When no call is in progress the two tables have the same names. -/
theorem Managed.quiet (managed : h.Managed calls past)
    (quiet : ∀ chores ∈ h.callers, chores = []) :
    h.application.registryHeld = false ∧
      (h.application.registry.map Prod.fst).Perm (h.application.served.map Prod.fst) := by
  have none (pending : PendingCall ε) (mem : pending ∈ calls) :
      pending.statuses = [] ∧ pending.holds = false := by
    refine PendingCall.eq_done (quiet _ ?_)
    rw [managed.callers]
    exact List.mem_map_of_mem mem
  constructor
  · have held := managed.held
    rw [List.countP_eq_zero.2 fun pending mem => by simp [(none pending mem).2]] at held
    exact Bool.toNat_eq_zero.1 held.symm
  · have busy : calls.flatMap PendingCall.statuses = [] :=
      List.flatMap_eq_nil_iff.2 fun pending mem => (none pending mem).1
    have ended : past.filterMap StageStatus.service? = [] := by
      refine List.filterMap_eq_nil_iff.2 fun status mem => ?_
      have ended := managed.ended status mem
      obtain ⟨number, name, phase⟩ := status
      cases phase with
      | refused | dismissed => rfl
      | _ => cases ended
    have served := managed.tracked.served
    rw [busy, List.nil_append, List.filterMap_append, ended, List.append_nil] at served
    rw [← h.application.names_listing]
    exact (served.map Prod.fst).symm

/-- **The registry and the served pools agree.** Whatever callers do who make stages, tear them
    down and shut the application down: no name is in the registry twice, and a stage in it is
    served under its name by its own pool, which runs; a teardown takes off the table and stops
    the pool of the stage that it is for, and only a stage that is closed has a pool that was
    stopped; a handler is told once that its stage is made, before it gets any batch, and is told
    once that it is torn down if it would have the stage, by the time when nothing more is to be
    done about a stage that is not in the registry, and otherwise never; and when no call is in
    progress the two tables have the same names. -/
theorem registry_agrees {config : Config}
    (run : Relation.ReflTransGen RegistryStep (vacant config) h) :
    (h.application.registry.map Prod.fst).Nodup ∧
    (∀ name number, (name, number) ∈ h.application.registry →
      ∃ s p, h.application.services[number]? = some s ∧ s.stage.name = name ∧
        s.stage.life = [.made] ∧ h.application.served.lookup name = some ⟨number, 0⟩ ∧
        s.pools = [p] ∧ p.state = .running) ∧
    (∀ chores ∈ h.callers, h.application.KeepsToStage chores) ∧
    (∀ number s, h.application.services[number]? = some s → s.Told ∧
      ((∀ chores ∈ h.callers, ∀ chore ∈ chores, chore.stage? ≠ some number) →
        (∀ name, (name, number) ∉ h.application.registry) →
          s.stage.life =
            if s.stage.handler.refusal? = none then [.made, .tornDown] else [.made])) ∧
    ((∀ chores ∈ h.callers, chores = []) → h.application.registryHeld = false ∧
      (h.application.registry.map Prod.fst).Perm (h.application.served.map Prod.fst)) := by
  obtain ⟨calls, past, managed⟩ := managed_of_run run
  refine ⟨managed.tracked.unique_registry _, fun name number => managed.exists_pool,
    fun chores => managed.keepsToStage, fun number s known => ⟨?_, managed.settled known⟩,
    managed.quiet⟩
  obtain ⟨status, -, -, holds⟩ := managed.tracked.exists_status known
  exact holds.told_of_phase

/-! ## A run that can be played -/

/-- The application after callers have tried their next chores, one after the other. -/
def attempts? (callers : List ℕ) (h : SharedApplication ε) : Option (SharedApplication ε) :=
  callers.foldlM (fun h caller =>
    match h.callers[caller]? with
    | some (chore :: rest) => some (h.attempt caller chore rest)
    | _ => none) h

theorem run_of_attempts? {callers : List ℕ} {h' : SharedApplication ε}
    (tried : h.attempts? callers = some h') :
    Relation.ReflTransGen RegistryStep h h' := by
  refine run_of_foldlM (fun h caller h' attempted => ?_) tried
  split at attempted
  · rename_i next
    obtain rfl := Option.some.inj attempted
    exact .chore next
  · cases attempted

/-- A stage whose pools do not wait for their workers when they are stopped. -/
def hasty : Blueprint ℕ :=
  { Blueprint.new "stage" .holding with
    pool? := some { PoolSettings.default with termination := ⟨0⟩ } }

/-- Two callers make a stage of the same name, and one tears it down. -/
def rivals : SharedApplication ℕ :=
  { vacant .empty with callers := [[.build hasty], [.remove "stage"], [.build hasty]] }

theorem run_rivals : Relation.ReflTransGen RegistryStep (vacant .empty) rivals :=
  Relation.ReflTransGen.refl.tail (.call (.create hasty (by decide))) |>.tail
    (.call (.destroy "stage")) |>.tail (.call (.create hasty (by decide)))

/-- The registry, the table of served pools, and the stages that the next chores are about. -/
def tables (h : SharedApplication ε) :
    List (String × ℕ) × List (String × PoolRef) × List (Option ℕ) :=
  (h.application.registry, h.application.served,
    h.callers.map fun chores => chores.head?.bind Chore.stage?)

/-- A stage is in the registry and served while a caller is about to stop the pool of an earlier
    stage of the same name, which a teardown took off the table. -/
theorem registry_agrees_rivals : ∃ h : SharedApplication ℕ,
    Relation.ReflTransGen RegistryStep (vacant .empty) h ∧
    h.tables = ([("stage", 1)], [("stage", ⟨1, 0⟩)], [none, some 0, none]) ∧
    ∃ s p, h.application.services[1]? = some s ∧ s.stage.name = "stage" ∧
      s.stage.life = [.made] ∧ h.application.served.lookup "stage" = some ⟨1, 0⟩ ∧
      s.pools = [p] ∧ p.state = .running := by
  have played : (rivals.attempts?
      (List.replicate 4 0 ++ List.replicate 3 1 ++ List.replicate 4 2)).map tables =
        some ([("stage", 1)], [("stage", ⟨1, 0⟩)], [none, some 0, none]) := by decide +kernel
  obtain ⟨h, tried, same⟩ := Option.map_eq_some_iff.1 played
  have run := run_rivals.trans (run_of_attempts? tried)
  obtain ⟨-, served, -⟩ := registry_agrees run
  have registry : h.application.registry = [("stage", 1)] := congrArg (·.1) same
  exact ⟨h, run, same, served "stage" 1 (registry ▸ .head _)⟩

end SharedApplication

end StagedEvents
