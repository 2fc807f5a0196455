import StagedEvents.Proofs.Pool.Sizes

/-!
# Pools of one worker

A pool for a single-threaded stage has one worker at all times, and none but that one is in
its round: when it leaves, for whatever reason, another may be hired, but not before. Once a
stop has begun and every worker is out of its round, none will be in one again.

* `Pool.Lone`, `Change.lone`: at most one worker of the pool is in its round.
* `Pool.WoundUp`, `Change.woundUp`: no worker of the pool is.
-/

namespace StagedEvents.Pool

variable {ε : Type} {p p' : Pool ε} {quits : Worker ε → Prop} {shrinks fails : Prop}

/-! ## Workers in their rounds -/

theorem inRound_map {f : Worker ε → Worker ε} (same : ∀ w, (f w).duty = w.duty)
    (workers : List (Worker ε)) :
    (workers.map f).countP Worker.isInRound = workers.countP Worker.isInRound := by
  rw [List.countP_map]
  refine List.countP_congr fun w _ => ?_
  rw [Function.comp_apply, Worker.isInRound, same, Worker.isInRound]

/-- Only a running pool gets workers. -/
theorem Change.inRound_le (change : p.Change quits shrinks fails p') (kept : p.Kept)
    (ended : p'.state ≠ .running) :
    p'.workers.countP Worker.isInRound ≤ p.workers.countP Worker.isInRound := by
  cases change with
  | act mem act => exact countP_mapWorker_le kept.numbered mem act.isInRound_of_isInRound
  | @report w mem reports =>
    exact countP_mapWorker_le (p := { p with exits := p.exits ++ [w.id] }) kept.numbered mem
      fun inRound => absurd inRound (by simp [Worker.isInRound, Duty.isOut])
  | @grow w mem inRound clock refusals =>
    have state : (p.grow clock refusals).state = p.state :=
      congrArg (·.2.2) (p.frame_grow clock refusals)
    have still : p.grow clock refusals = p :=
      if_pos (.inl fun running => ended (state.trans running))
    rw [still]
    exact countP_mapWorker_le kept.numbered mem fun _ => inRound
  | retire mem inRound spare =>
    exact countP_mapWorker_le kept.numbered mem fun _ => inRound
  | start started =>
    exact absurd (congrArg (·.2.2) (frame_start? started).2) ended
  | resize clock refusals size =>
    have state : (p.resize clock refusals size).1.state = p.state :=
      congrArg (·.2.2) (p.frame_resize clock refusals size)
    have still : p.resize clock refusals size = (p, .ok (.ok p.active)) :=
      if_pos fun running => ended (state.trans running)
    exact Nat.le_of_eq (congrArg (fun r => r.1.workers.countP Worker.isInRound) still)
  | beginStop =>
    unfold Pool.beginStop
    split
    · exact Nat.le_refl _
    · refine Nat.le_of_eq (inRound_map (fun w => ?_) p.workers)
      split <;> rfl
    · exact Nat.le_refl _
    · exact Nat.le_refl _
  | reap =>
    rw [reapAll_eq]
    exact Nat.le_of_eq (inRound_map (fun w => w.attended_duty) p.workers)
  | endStop =>
    refine Nat.le_of_eq (inRound_map (fun w => ?_) p.workers)
    split <;> rfl

/-! ## One worker -/

/-- At most one worker of the pool is in its round. -/
structure Lone (p : Pool ε) : Prop where
  kept : p.Kept
  most_eq : p.settings.most = 1
  unhurried : p.state = .running → p.Unhurried
  inRound_le : p.workers.countP Worker.isInRound ≤ 1

theorem lone_new (stageName : String) (settings : PoolSettings) (policy : FailurePolicy) :
    (new stageName settings true policy : Pool ε).Lone := by
  refine ⟨kept_new stageName settings true policy, ?_, fun h => absurd h (by simp [new]),
    Nat.zero_le _⟩
  show settings.singleThreaded.normalized.most = 1
  rw [PoolSettings.singleThreaded_normalized]
  rfl

/-- **Whatever happens to a pool of one worker**, at most one worker is in its round. -/
theorem Change.lone (change : p.Change quits shrinks fails p') (lone : p.Lone) : p'.Lone := by
  have kept := change.kept lone.kept
  have most : p'.settings.most = 1 := by rw [change.frame_eq.2, lone.most_eq]
  -- the least number is one too, so no resize makes a pool of one worker shrink
  have grows (size : ℕ) : p.active ≤ p.settings.clampSize size := by
    have active := lone.kept.active_le_most
    have least := p.settings.least_le_clampSize size
    have some := lone.kept.inOrder.1
    have most := lone.most_eq
    omega
  have unhurried := change.unhurried lone.kept (fun _ => grows) lone.unhurried
  refine ⟨kept, most, unhurried, ?_⟩
  by_cases running : p'.state = .running
  · exact most ▸ kept.inRound_le running (unhurried running)
  · exact Nat.le_trans (change.inRound_le lone.kept running) lone.inRound_le

/-! ## The end -/

/-- A stop of the pool has begun, and none of its workers is in its round. -/
structure WoundUp (p : Pool ε) : Prop where
  stopped : p.state = .shuttingDown ∨ p.state = .terminated
  inRound_eq : p.workers.countP Worker.isInRound = 0

instance (p : Pool ε) : Decidable p.WoundUp :=
  decidable_of_iff ((p.state = .shuttingDown ∨ p.state = .terminated) ∧
    p.workers.countP Worker.isInRound = 0) ⟨fun h => ⟨h.1, h.2⟩, fun h => ⟨h.1, h.2⟩⟩

/-- What has stopped does not start again. -/
theorem Change.stopped (change : p.Change quits shrinks fails p')
    (h : p.state = .shuttingDown ∨ p.state = .terminated) :
    p'.state = .shuttingDown ∨ p'.state = .terminated := by
  have of_frame (same : p'.frame = p.frame) : p'.state = .shuttingDown ∨ p'.state = .terminated :=
    (congrArg (·.2.2) same : p'.state = p.state) ▸ h
  cases change with
  | act | report | retire => exact h
  | grow mem inRound clock refusals => exact of_frame (p.frame_grow clock refusals)
  | start started => exact absurd (frame_start? started).1 (by rcases h with h | h <;> simp [h])
  | resize clock refusals size => exact of_frame (p.frame_resize clock refusals size)
  | beginStop =>
    unfold Pool.beginStop
    split
    · exact .inr rfl
    · exact .inl rfl
    · exact h
    · exact h
  | reap => exact of_frame p.frame_reapAll
  | endStop => exact .inr rfl

/-- **What is over is over.** -/
theorem Change.woundUp (change : p.Change quits shrinks fails p') (kept : p.Kept) (h : p.WoundUp) :
    p'.WoundUp := by
  have stopped := change.stopped h.stopped
  have ended : p'.state ≠ .running := by rcases stopped with h | h <;> simp [h]
  exact ⟨stopped, Nat.le_zero.1 (h.inRound_eq ▸ change.inRound_le kept ended)⟩

end StagedEvents.Pool
