import StagedEvents.Proofs.Application.Turns
import StagedEvents.Proofs.Pool.Lone
import StagedEvents.Proofs.Service.Strength

/-!
# One batch at a time

The handler of a single-threaded stage is given one batch at a time by each pool that serves
the stage, whatever callers and workers do. Several pools keep to that together as long as
each gets its worker only when none of an earlier pool is in its round any more. A stop that
no longer waits, and leaves a worker in the handler to itself, lets the next pool of the stage
start too early.

* `Service.Pinned`, `Turn.pinned`: each pool has one worker.
* `Service.Sole`, `Turn.sole`: only the last pool has a worker in its round.
* `single_threaded_one_at_a_time`: the result.
-/

namespace StagedEvents

variable {ε : Type}

namespace Service

variable {may : Service ε → Prop} {s s' : Service ε}

/-! ## Each pool -/

/-- Pools keep to what pools keep to, and those of a single-threaded stage have one worker. -/
structure Pinned (s : Service ε) : Prop where
  kept : ∀ p ∈ s.pools, p.Kept
  lone : s.stage.capability = .singleThreaded → ∀ p ∈ s.pools, p.Lone

theorem Turn.capability_eq (turn : s.Turn may s') : s'.stage.capability = s.stage.capability := by
  cases turn with
  | around stage capability => exact capability
  | change stage capability => exact capability
  | add => rfl

theorem Turn.pinned (turn : s.Turn may s') (pinned : s.Pinned) : s'.Pinned := by
  have capability := turn.capability_eq
  cases turn with
  | around stage => exact ⟨pinned.kept, fun single => pinned.lone (capability.symm.trans single)⟩
  | @change pool p p' stage _ found change =>
    exact ⟨forall_set pinned.kept found change.kept,
      fun single => forall_set (pinned.lone (capability.symm.trans single)) found change.lone⟩
  | add policy allowed =>
    refine ⟨List.forall_mem_append.2 ⟨pinned.kept, fun q listed => ?_⟩,
      fun single => List.forall_mem_append.2 ⟨pinned.lone single, fun q listed => ?_⟩⟩
    · obtain rfl := List.mem_singleton.1 listed
      exact Pool.kept_new _ _ _ _
    · obtain rfl := List.mem_singleton.1 listed
      rw [show (s.stage.capability == .singleThreaded) = true from beq_iff_eq.2 single]
      exact Pool.lone_new _ _ _

/-! ## All pools of a stage -/

/-- A stop has begun for every pool there has been, and every worker is out of its round. -/
def Vacant (s : Service ε) : Prop := ∀ p ∈ s.pools, p.WoundUp

instance : DecidablePred (Vacant (ε := ε)) :=
  fun s => inferInstanceAs (Decidable (∀ p ∈ s.pools, p.WoundUp))

/-- All pools of a single-threaded stage but the last are wound up. -/
structure Sole (s : Service ε) : Prop extends Pinned s where
  earlier : s.stage.capability = .singleThreaded → ∀ i p, s.pools[i]? = some p →
    i + 1 < s.pools.length → p.WoundUp

theorem Turn.sole (turn : s.Turn Vacant s') (sole : s.Sole) : s'.Sole := by
  have capability := turn.capability_eq
  refine ⟨turn.pinned sole.toPinned, fun single i q known before => ?_⟩
  have earlier := sole.earlier (capability.symm.trans single)
  cases turn with
  | around stage => exact earlier i q known before
  | @change pool p p' stage _ found change =>
    rw [List.length_set] at before
    by_cases here : pool = i
    · subst here
      obtain ⟨lt, -⟩ := List.getElem?_eq_some_iff.1 found
      obtain rfl := Option.some.inj ((List.getElem?_set_self lt).symm.trans known)
      exact change.woundUp (sole.kept p (List.mem_of_getElem? found)) (earlier pool p found before)
    · exact earlier i q ((List.getElem?_set_ne here).symm.trans known) before
  | add policy vacant =>
    rw [addPool, List.length_append] at before
    exact vacant q (List.mem_of_getElem?
      ((List.getElem?_append_left (Nat.lt_of_succ_lt_succ before)).symm.trans known))

/-- Only the last pool of a single-threaded stage has a worker in its round, and only one. -/
theorem Sole.inRound_le (sole : s.Sole) (single : s.stage.capability = .singleThreaded) :
    (s.pools.flatMap Pool.workers).countP Worker.isInRound ≤ 1 := by
  rw [List.countP_flatMap]
  obtain empty | ⟨front, last, split⟩ := s.pools.eq_nil_or_concat
  · rw [empty]
    exact Nat.zero_le 1
  rw [List.concat_eq_append] at split
  have front_eq : (front.map (List.countP Worker.isInRound ∘ Pool.workers)).sum = 0 := by
    refine List.sum_eq_zero fun count mem => ?_
    obtain ⟨p, listed, rfl⟩ := List.mem_map.1 mem
    obtain ⟨i, lt, rfl⟩ := List.mem_iff_getElem.1 listed
    refine (sole.earlier single i front[i] ?_ ?_).inRound_eq
    · rw [split, List.getElem?_append_left lt, List.getElem?_eq_getElem lt]
    · rw [split, List.length_append]
      exact Nat.succ_lt_succ lt
  have lone : last.Lone := sole.lone single last (split ▸ List.mem_append_right front (.head _))
  rw [split, List.map_append, List.sum_append, front_eq, Nat.zero_add]
  exact lone.inRound_le

end Service

namespace SharedApplication

/-! ## Runs that can be played -/

/-- A move that is told by who makes it. -/
inductive Cue (ε : Type) where
  | register (number : ℕ)
  | deregister (name : String)
  /-- A caller tries its next chore. -/
  | chore (caller : ℕ)
  | offer (number : ℕ) (event : ε)
  | worker (number pool worker : ℕ)

instance (may : Service ε → Prop) [DecidablePred may] (number : ℕ) (a : Application ε) :
    Decidable (a.MayServe may number) :=
  inferInstanceAs (Decidable (_ → ∀ s ∈ a.services[number]?, may s))

/-- The application after a move, if the move is possible. -/
def cue? (may : Service ε → Prop) [DecidablePred may] (h : SharedApplication ε) :
    Cue ε → Option (SharedApplication ε)
  | .register number =>
    if h.application.MayServe may number then
      some (h.withApplication (h.application.register number).1)
    else none
  | .deregister name => some { h with callers := h.callers ++ [[.unserve name]] }
  | .chore caller =>
    match h.callers[caller]? with
    | some (chore :: rest) =>
      if ∀ number ∈ chore.served?, h.application.MayServe may number then
        some (h.attempt caller chore rest)
      else none
    | _ => none
  | .offer number event => some (h.withApplication (h.application.mapStage number fun stage =>
      { stage with exchange := (stage.exchange.atOnce (.enqueue true event)).1 }))
  | .worker number pool worker =>
    (h.application.stepWorker? number pool worker).map h.withApplication

/-- The application after several moves, if all are possible. -/
def play? (may : Service ε → Prop) [DecidablePred may] (cues : List (Cue ε))
    (h : SharedApplication ε) : Option (SharedApplication ε) :=
  cues.foldlM (cue? may) h

variable {may : Service ε → Prop} [DecidablePred may] {h₀ h h' : SharedApplication ε}
  {s : Service ε}

theorem move_of_cue? {cue : Cue ε} (moved : h.cue? may cue = some h') : Move may h h' := by
  unfold cue? at moved
  split at moved
  · split at moved
    · rename_i allowed
      obtain rfl := Option.some.inj moved
      exact .register _ allowed noRefusals
    · exact absurd moved (by simp)
  · obtain rfl := Option.some.inj moved
    exact .call (.deregister _)
  · split at moved
    · rename_i next
      split at moved
      · rename_i allowed
        obtain rfl := Option.some.inj moved
        exact .chore next allowed noRefusals
      · exact absurd moved (by simp)
    · exact absurd moved (by simp)
  · obtain rfl := Option.some.inj moved
    exact .around _ fun _ => rfl
  · obtain ⟨a, stepped, rfl⟩ := Option.map_eq_some_iff.1 moved
    exact .worker _ _ _ noRefusals stepped

theorem run_of_play? {cues : List (Cue ε)} (played : h.play? may cues = some h') :
    Relation.ReflTransGen (Move may) h h' :=
  run_of_foldlM (fun _ _ _ => move_of_cue?) played

/-! ## The workers of a stage in the handler -/

/-- **One batch at a time.** Stages get pools and lose them again, pools are resized, workers
    are left to themselves, in any order: each pool of a single-threaded stage has at most one
    worker in the handler; and so have all pools of the stage together, if the stage never got
    another pool before every pool it had was being stopped, with no worker in its round. -/
theorem single_threaded_one_at_a_time (new : ∀ s ∈ h₀.application.services, s.pools = [])
    (run : Relation.ReflTransGen (Move fun _ => True) h₀ h) (mem : s ∈ h.application.services)
    (single : s.stage.capability = .singleThreaded) :
    (∀ p ∈ s.pools, p.workers.countP Worker.isHandling ≤ 1) ∧
    (Relation.ReflTransGen (Move Service.Vacant) h₀ h →
      (s.workers.countP fun v => v.2.isHandling) ≤ 1) := by
  have handles (workers : List (Worker ε)) :
      workers.countP Worker.isHandling ≤ workers.countP Worker.isInRound :=
    List.countP_mono_left fun _ _ => Worker.isInRound_of_isHandling
  refine ⟨fun p listed => ?_, fun orderly => ?_⟩
  · have pinned := forall_services (P := Service.Pinned)
      (fun s empty => by constructor <;> simp [empty])
      (fun s pinned p listed => (pinned.kept p listed).numbered)
      (fun s s' turn => turn.pinned) new run s mem
    exact Nat.le_trans (handles p.workers) (pinned.lone single p listed).inRound_le
  · have sole := forall_services (P := Service.Sole)
      (fun s empty => by refine ⟨⟨?_, ?_⟩, ?_⟩ <;> simp [empty])
      (fun s sole p listed => (sole.kept p listed).numbered)
      (fun s s' turn => turn.sole) new orderly s mem
    have counted : (s.workers.countP fun v => v.2.isHandling) =
        (s.pools.flatMap Pool.workers).countP Worker.isHandling := by
      rw [← s.workers_eq, List.countP_map]
      rfl
    exact counted ▸ Nat.le_trans (handles _) (sole.inRound_le single)

/-- A single-threaded stage whose handler holds every batch, and whose pools do not wait for it
    when they are stopped. -/
def loneStage : Stage ℕ :=
  { (Service.plain "stage" { PoolSettings.default with termination := ⟨0⟩ } .holding).stage with
    capability := .singleThreaded }

/-- An application with one stage, which no pool serves. -/
def unserved : SharedApplication ℕ :=
  { application :=
      { config := .empty, services := [{ stage := loneStage, pools := [] }], registry := []
        registryHeld := false, served := [] }
    callers := [] }

/-- The stage is served, and a worker of its newest pool goes on until it is in the handler. -/
def serve (pool : ℕ) : List (Cue ℕ) :=
  .register 0 :: .offer 0 pool :: List.replicate 4 (.worker 0 pool 0)

/-- The stage is no longer served. -/
def release : List (Cue ℕ) := .deregister "stage" :: List.replicate 4 (.chore 0)

/-- What the first service is for, and how many workers it has in the handler. -/
def load? (h : SharedApplication ε) : Option (Capability × ℕ) :=
  (h.application.services[0]?).map fun s =>
    (s.stage.capability, s.workers.countP fun v => v.2.isHandling)

/-- What the load says of an application that was played. -/
theorem exists_of_load? {may : Service ℕ → Prop} [DecidablePred may] {cues : List (Cue ℕ)}
    {capability : Capability} {handling : ℕ}
    (loaded : (unserved.play? may cues).bind load? = some (capability, handling)) :
    ∃ h s, Relation.ReflTransGen (Move may) unserved h ∧ s ∈ h.application.services ∧
      s.stage.capability = capability ∧ (s.workers.countP fun v => v.2.isHandling) = handling := by
  obtain ⟨h, played, loaded⟩ := Option.bind_eq_some_iff.1 loaded
  obtain ⟨s, found, same⟩ := Option.map_eq_some_iff.1 loaded
  obtain ⟨single, handles⟩ := Prod.mk.inj same
  exact ⟨h, s, run_of_play? played, List.mem_of_getElem? found, single, handles⟩

/-- The stage is served a second time once the worker of its first pool has left its round. -/
theorem single_threaded_one_at_a_time_again : ∃ (h : SharedApplication ℕ) (s : Service ℕ),
    s ∈ h.application.services ∧ s.stage.capability = .singleThreaded ∧
      (s.workers.countP fun v => v.2.isHandling) = 1 ∧
      (∀ p ∈ s.pools, p.workers.countP Worker.isHandling ≤ 1) ∧
      (s.workers.countP fun v => v.2.isHandling) ≤ 1 := by
  have loaded : (unserved.play? Service.Vacant
      (.register 0 :: release ++ List.replicate 3 (.worker 0 0 0) ++ serve 1)).bind load? =
        some (.singleThreaded, 1) := by decide +kernel
  obtain ⟨h, s, orderly, mem, single, handling⟩ := exists_of_load? loaded
  have run : Relation.ReflTransGen (Move fun _ => True) unserved h :=
    Relation.ReflTransGen.mono (fun _ _ move => move.mono fun _ _ => True.intro) _ _ orderly
  obtain ⟨each, all⟩ := single_threaded_one_at_a_time (fun s known => by
    rw [List.mem_singleton.1 known]) run mem single
  exact ⟨h, s, mem, single, handling, each, all orderly⟩

/-- Two workers are in the handler of a single-threaded stage that is served a second time while
    a worker of its first pool, left to itself by the shutdown, is still in the handler. -/
theorem single_threaded_two_at_a_time : ∃ (h₀ h : SharedApplication ℕ) (s : Service ℕ),
    (∀ s ∈ h₀.application.services, s.pools = []) ∧
      Relation.ReflTransGen (Move fun _ => True) h₀ h ∧ s ∈ h.application.services ∧
      s.stage.capability = .singleThreaded ∧
      1 < s.workers.countP fun v => v.2.isHandling := by
  have loaded : (unserved.play? (fun _ => True) (serve 0 ++ release ++ serve 1)).bind load? =
      some (.singleThreaded, 2) := by decide +kernel
  obtain ⟨h, s, run, mem, single, handling⟩ := exists_of_load? loaded
  refine ⟨unserved, h, s, fun s known => ?_, run, mem, single, ?_⟩
  · rw [List.mem_singleton.1 known]
  · rw [handling]
    decide

end SharedApplication

end StagedEvents
