import StagedEvents.Proofs.Pool.Conduct

/-!
# How many workers a pool has

A running pool that has as many workers as it must have, such as one that got all those it was
to start with, keeps as many as long as none of them leaves its round for a reason of its own;
and it has no more in the handler than it may have as long as it is never told to shrink.

* `Change.frame_eq`: settings do not change.
* `Change.enough_of_running`, `Change.enough`: the least number of workers.
* `resize_of_grants`, `resize_of_refused`: what a resize answers, and how many workers count
  from then on.
* `Change.successor`: only those who were told to stop are taken off the table.
* `Change.unhurried`, `Kept.inRound_le`: the greatest number of workers in their rounds.
-/

namespace StagedEvents

variable {ε : Type}

namespace Pool

variable {p p' : Pool ε} {quits : Worker ε → Prop} {shrinks fails : Prop} {clock : ℕ}
  {refusals : ThreadRefusals}

/-! ## Settings -/

theorem frame_grow (clock : ℕ) (refusals : ThreadRefusals) (p : Pool ε) :
    (p.grow clock refusals).frame = p.frame := by
  unfold grow
  split
  · rfl
  · exact p.frame_spawn? clock refusals

theorem frame_resize (clock : ℕ) (refusals : ThreadRefusals) (size : ℕ) (p : Pool ε) :
    (p.resize clock refusals size).1.frame = p.frame := by
  unfold resize
  simp only
  split
  · rfl
  · split
    · exact p.frame_spawnMany? clock refusals _
    · rfl

theorem frame_start? {answer : Except Fault (Except StageError Unit)}
    (h : p.start? clock refusals = some (p', answer)) :
    p.state = .notStarted ∧ p'.frame = (p.stageName, p.settings, .running) := by
  unfold start? at h
  split at h
  · rename_i unstarted
    obtain rfl := congrArg Prod.fst (Option.some.inj h)
    exact ⟨unstarted, frame_spawnMany? clock refusals _ _⟩
  · exact absurd h (by simp)

/-- The name of the stage and the settings never change. -/
theorem Change.frame_eq (change : p.Change quits shrinks fails p') :
    p'.stageName = p.stageName ∧ p'.settings = p.settings := by
  have of_frame {q : Pool ε} {state : PoolState} (h : q.frame = (p.stageName, p.settings, state)) :
      q.stageName = p.stageName ∧ q.settings = p.settings :=
    ⟨congrArg (·.1) h, congrArg (·.2.1) h⟩
  cases change with
  | act | report | retire | endStop => exact ⟨rfl, rfl⟩
  | grow mem inRound clock refusals => exact of_frame (p.frame_grow clock refusals)
  | start started => exact of_frame (frame_start? started).2
  | resize clock refusals size => exact of_frame (p.frame_resize clock refusals size)
  | beginStop =>
    unfold Pool.beginStop
    split <;> exact ⟨rfl, rfl⟩
  | reap => exact of_frame p.frame_reapAll

/-- A pool that runs was running, unless it was just started. -/
theorem Change.state_eq (change : p.Change quits shrinks fails p')
    (running : p'.state = .running) :
    p.state = .running ∨ p.state = .notStarted ∧ ∃ clock refusals answer,
      p.start? clock refusals = some (p', answer) ∧ (answer ≠ .ok (.ok ()) → fails) := by
  have of_frame (h : p'.frame = p.frame) : p.state = .running :=
    (congrArg (·.2.2) h).symm.trans running
  cases change with
  | act | report | retire => exact .inl running
  | grow mem inRound clock refusals => exact .inl (of_frame (p.frame_grow clock refusals))
  | @start _ clock refusals answer started may =>
    exact .inr ⟨(frame_start? started).1, clock, refusals, answer, started, may⟩
  | resize clock refusals size => exact .inl (of_frame (p.frame_resize clock refusals size))
  | beginStop => exact absurd running p.state_beginStop
  | reap => exact .inl (of_frame p.frame_reapAll)
  | endStop => exact absurd running (by simp [Pool.endStop])

/-! ## The least number -/

/-- Whoever is out of its round was told to stop. -/
def Poised (p : Pool ε) : Prop := ∀ w ∈ p.workers, w.duty.isOut = true → w.stop = true

theorem Change.poised (change : p.Change quits shrinks fails p') (kept : p.Kept)
    (calm : ∀ w ∈ p.workers, ¬ quits w) (poised : p.Poised) : p'.Poised := by
  refine change.flags kept (P := fun stop duty => duty.isOut = true → stop = true)
    (fun h => absurd h (by simp [Duty.isOut])) (fun _ _ _ _ _ => rfl) ?_ ?_ (fun _ => rfl)
    (fun _ => rfl) (fun stop h _ => h rfl) poised
  · intro stop duty duty' _ inRound _ out
    exact absurd (inRound.symm.trans out) (by simp)
  · exact fun w mem cause _ => cause.resolve_right (calm w mem)

/-- What a worker does by itself leaves the number of workers as it is, if it was told to stop
    before it left its round. -/
theorem active_act (kept : p.Kept) (poised : p.Poised) {w : Worker ε}
    (mem : w ∈ p.workers) {f : Worker ε → Worker ε} (act : w.Act quits (f w)) :
    (p.mapWorker w.id f).active = p.active := by
  have counted := countP_mapWorker kept.numbered mem f Worker.isActive
  have same : (f w).isActive = w.isActive := by
    generalize f w = w' at act
    cases act with
    | turn | quit => rfl
    | stop leaves => simp [Worker.isActive, poised w mem (by rw [leaves]; rfl)]
  rw [same] at counted
  exact Nat.add_right_cancel counted

theorem active_setDuty (kept : p.Kept) {w : Worker ε} (mem : w ∈ p.workers) (duty : Duty ε) :
    (p.mapWorker w.id fun w => { w with duty }).active = p.active :=
  Nat.add_right_cancel
    (countP_mapWorker kept.numbered mem (fun w => { w with duty }) Worker.isActive)

theorem active_retire (kept : p.Kept) {w : Worker ε} (mem : w ∈ p.workers) (duty : Duty ε) :
    p.active ≤ (p.mapWorker w.id fun w => { w with stop := true, duty }).active + 1 := by
  have counted := countP_mapWorker kept.numbered mem (fun w => { w with stop := true, duty })
    Worker.isActive
  have told : Worker.isActive { w with stop := true, duty } = false := Bool.and_false _
  rw [told] at counted
  refine Nat.le_trans (Nat.le_add_right p.active 0) (Nat.le_trans (Nat.le_of_eq counted.symm) ?_)
  refine Nat.add_le_add_left ?_ _
  split <;> omega

theorem active_grow (kept : p.Kept) (clock : ℕ) (refusals : ThreadRefusals) :
    p.active ≤ (p.grow clock refusals).active := by
  unfold grow
  split
  · exact Nat.le_refl _
  · exact active_spawn? kept.exitsTold clock refusals

/-- A pool whose start succeeds has the workers it is to start with. -/
theorem active_start? (kept : p.Kept) (h : p.start? clock refusals = some (p', .ok (.ok ()))) :
    p'.active = p.settings.initial := by
  unfold start? at h
  split at h
  · rename_i unstarted
    have none : p.workers = [] := kept.unstarted unstarted
    have answer := congrArg Prod.snd (Option.some.inj h)
    obtain rfl := congrArg Prod.fst (Option.some.inj h)
    have told : ({ p with state := .running } : Pool ε).ExitsTold := kept.exitsTold
    have hired := (active_spawnMany? told clock refusals p.settings.initial).2.2 answer
    have empty : ({ p with state := .running } : Pool ε).active = 0 := by
      show p.workers.countP Worker.isActive = 0
      rw [none]
      rfl
    rw [empty, Nat.zero_add] at hired
    exact hired
  · exact absurd h (by simp)

theorem resize_of_lt (running : p.state = .running) {size : ℕ}
    (more : p.active < p.settings.clampSize size) : p.resize clock refusals size =
      ((p.spawnMany? clock refusals (p.settings.clampSize size - p.active)).1,
        (p.spawnMany? clock refusals (p.settings.clampSize size - p.active)).2.map fun added =>
          added.map fun _ => p.settings.clampSize size) := by
  unfold resize
  simp only
  rw [if_neg (by simp [running]), if_pos more]

theorem resize_of_le (running : p.state = .running) {size : ℕ}
    (fewer : p.settings.clampSize size ≤ p.active) :
    (p.resize clock refusals size).2 = .ok (.ok (p.settings.clampSize size)) ∧
      (p.resize clock refusals size).1.active = p.settings.clampSize size := by
  unfold resize
  simp only
  rw [if_neg (by simp [running]), if_neg (Nat.not_lt.2 fewer)]
  refine ⟨rfl, ?_⟩
  have stopped := countP_stopSome (p.active - p.settings.clampSize size) p.workers
  have count : p.workers.countP Worker.isActive = p.active := rfl
  rw [count] at stopped
  refine stopped.trans ?_
  omega

/-- **A resize of a running pool** answers the size it was asked for, moved between the bounds,
    if the system gives the threads that it takes, and this is how many workers count from then
    on. -/
theorem resize_of_grants (kept : p.Kept) (running : p.state = .running) {size : ℕ}
    (grants : p.Grants refusals (p.settings.clampSize size - p.active)) (clock : ℕ) :
    (p.resize clock refusals size).2 = .ok (.ok (p.settings.clampSize size)) ∧
      (p.resize clock refusals size).1.active = p.settings.clampSize size := by
  rcases Nat.lt_or_ge p.active (p.settings.clampSize size) with more | fewer
  · obtain ⟨able, hired⟩ := spawnMany?_of_grants kept.exitsTold grants clock
    rw [resize_of_lt running more, hired, able]
    exact ⟨rfl, by omega⟩
  · exact resize_of_le running fewer

/-- **A resize that is refused a thread** answers why, and the workers that it added before count
    from then on as well. -/
theorem resize_of_refused (kept : p.Kept) (running : p.state = .running)
    (named : namesWorkers p.stageName = true) {size count : ℕ}
    (lt : count < p.settings.clampSize size - p.active) (grants : p.Grants refusals count)
    {reason : String} (refused : refusals (p.next + count) = some reason) (clock : ℕ) :
    (p.resize clock refusals size).2 = .ok (.error (.threadSpawn reason)) ∧
      (p.resize clock refusals size).1.active = p.active + count := by
  obtain ⟨failed, active⟩ := spawnMany?_of_refused kept.exitsTold named lt grants refused clock
  rw [resize_of_lt running (by omega), failed, active]
  exact ⟨rfl, rfl⟩

/-- A resize never leaves fewer workers than there must be. -/
theorem least_le_resize (kept : p.Kept) (running : p.state = .running)
    (enough : p.settings.least ≤ p.active) (clock : ℕ) (refusals : ThreadRefusals) (size : ℕ) :
    p.settings.least ≤ (p.resize clock refusals size).1.active := by
  rcases Nat.lt_or_ge p.active (p.settings.clampSize size) with more | fewer
  · rw [resize_of_lt running more]
    exact Nat.le_trans enough (active_spawnMany? kept.exitsTold clock refusals _).1
  · rw [(resize_of_le running fewer).2]
    exact p.settings.least_le_clampSize size

/-- **Enough workers.** If no worker leaves its round for a reason of its own, a running pool
    that has as many workers as it must have keeps as many. -/
theorem Change.enough_of_running (change : p.Change quits shrinks fails p') (kept : p.Kept)
    (poised : p.Poised) (was : p.state = .running) (enough : p.settings.least ≤ p.active)
    (running : p'.state = .running) : p'.settings.least ≤ p'.active := by
  rw [change.frame_eq.2]
  cases change with
  | act mem act => exact active_act kept poised mem act ▸ enough
  | @report w mem reports =>
    have counted := countP_mapWorker (p := { p with exits := p.exits ++ [w.id] }) kept.numbered
      mem (fun w => { w with duty := .gone }) Worker.isActive
    exact Nat.le_trans enough (Nat.le_of_eq (Nat.add_right_cancel counted).symm)
  | @grow w mem inRound clock refusals =>
    obtain ⟨v, hv, id, -⟩ := (p.hires_grow clock refusals).exists_mem mem
    rw [← id, active_setDuty (kept.grow clock refusals) hv]
    exact Nat.le_trans enough (active_grow kept clock refusals)
  | @retire w mem inRound spare =>
    have left := active_retire kept mem .leaving
    omega
  | start started => exact absurd ((frame_start? started).1.symm.trans was) (by simp)
  | resize clock refusals size => exact least_le_resize kept was enough clock refusals size
  | beginStop => exact absurd running p.state_beginStop
  | reap => exact active_reapAll kept.exitsTold ▸ enough
  | endStop => exact absurd running (by simp [Pool.endStop])

/-- A pool whose start did not fail has as many from the start. -/
theorem Change.enough (change : p.Change quits shrinks fails p') (kept : p.Kept)
    (poised : p.Poised) (succeeds : ¬ fails)
    (enough : p.state = .running → p.settings.least ≤ p.active)
    (running : p'.state = .running) : p'.settings.least ≤ p'.active := by
  rcases change.state_eq running with was | ⟨-, clock, refusals, answer, started, may⟩
  · exact change.enough_of_running kept poised was (enough was) running
  · have succeeded : answer = .ok (.ok ()) := Classical.not_not.1 fun failed =>
      succeeds (may failed)
    rw [change.frame_eq.2, active_start? kept (succeeded ▸ started)]
    exact kept.inOrder.2.1

/-! ## The table -/

theorem mem_grow (told : p.ExitsTold) {w : Worker ε} (mem : w ∈ p.workers) (clock : ℕ)
    (refusals : ThreadRefusals) : ∃ v ∈ (p.grow clock refusals).workers, w.Remains v := by
  unfold grow
  split
  · exact ⟨w, mem, rfl, fun _ => rfl⟩
  · exact mem_spawn? told mem clock refusals

theorem mem_resize (told : p.ExitsTold) {w : Worker ε} (mem : w ∈ p.workers) (clock : ℕ)
    (refusals : ThreadRefusals) (size : ℕ) :
    ∃ v ∈ (p.resize clock refusals size).1.workers, v.id = w.id ∧
      (w.membership = .listed → w.stop = false → v.membership = .listed) := by
  unfold resize
  simp only
  split
  · exact ⟨w, mem, rfl, fun listed _ => listed⟩
  · split
    · obtain ⟨v, hv, id, same⟩ :=
        mem_spawnMany? told mem clock refusals (p.settings.clampSize size - p.active)
      exact ⟨v, hv, id, fun listed goes => by rw [same goes, listed]⟩
    · obtain ⟨v, hv, id, membership⟩ := mem_stopSome (p.active - p.settings.clampSize size) mem
      exact ⟨v, hv, id, fun listed _ => membership.trans listed⟩

/-- **No worker is forgotten**, and as long as the pool runs, only those who were told to stop
    are taken off the table. -/
theorem Change.successor (change : p.Change quits shrinks fails p') (kept : p.Kept) {w : Worker ε}
    (mem : w ∈ p.workers) :
    ∃ v ∈ p'.workers, v.id = w.id ∧ (p'.state = .running → w.membership = .listed →
      w.stop = false → v.membership = .listed) := by
  have replaced {q : Pool ε} (numbered : q.Numbered) {u v : Worker ε} (hu : u ∈ q.workers)
      (hv : v ∈ q.workers) {f : Worker ε → Worker ε} (same : (f u).id = u.id)
      (membership : (f u).membership = u.membership) :
      ∃ v' ∈ (q.mapWorker u.id f).workers, v'.id = v.id ∧ v'.membership = v.membership := by
    rcases mem_mapWorker numbered hu hv f with still | ⟨rfl, changed⟩
    · exact ⟨v, still, rfl, rfl⟩
    · exact ⟨f v, changed, same, membership⟩
  have stays {q : Pool ε} (h : ∃ v ∈ q.workers, v.id = w.id ∧ v.membership = w.membership) :
      ∃ v ∈ q.workers, v.id = w.id ∧ (q.state = .running → w.membership = .listed →
        w.stop = false → v.membership = .listed) := by
    obtain ⟨v, hv, id, same⟩ := h
    exact ⟨v, hv, id, fun _ listed _ => same.trans listed⟩
  have ends {q : Pool ε} (hires : p.Hires q) (ended : q.state ≠ .running) :
      ∃ v ∈ q.workers, v.id = w.id ∧ (q.state = .running → w.membership = .listed →
        w.stop = false → v.membership = .listed) := by
    obtain ⟨v, hv, id, -⟩ := hires.exists_mem mem
    exact ⟨v, hv, id, fun running => absurd running ended⟩
  cases change with
  | act actor act => exact stays (replaced kept.numbered actor mem act.id_eq act.membership_eq)
  | @report u actor reports =>
    exact stays (replaced (q := { p with exits := p.exits ++ [u.id] }) kept.numbered actor mem rfl
      rfl)
  | @grow u actor inRound clock refusals =>
    obtain ⟨v, hv, id, same⟩ := mem_grow kept.exitsTold mem clock refusals
    obtain ⟨u', hu, id', -⟩ := (p.hires_grow clock refusals).exists_mem actor
    rw [← id']
    obtain ⟨v', hv', id'', membership⟩ := replaced (f := fun w => { w with duty := .checking })
      (kept.grow clock refusals).numbered hu hv rfl rfl
    refine ⟨v', hv', id''.trans id, fun _ listed goes => ?_⟩
    rw [membership, same goes, listed]
  | retire actor => exact stays (replaced kept.numbered actor mem rfl rfl)
  | start started =>
    rw [kept.unstarted (frame_start? started).1] at mem
    exact absurd mem List.not_mem_nil
  | resize clock refusals size =>
    obtain ⟨v, hv, id, listed⟩ := mem_resize kept.exitsTold mem clock refusals size
    exact ⟨v, hv, id, fun _ => listed⟩
  | beginStop => exact ends p.hires_beginStop p.state_beginStop
  | reap =>
    obtain ⟨v, hv, id, same⟩ := mem_reapAll kept.exitsTold mem
    exact ⟨v, hv, id, fun _ listed goes => by rw [same goes, listed]⟩
  | endStop => exact ends p.hires_endStop (by simp [Pool.endStop])

/-! ## The greatest number -/

/-- Whoever was told to stop is out of its round. -/
def Unhurried (p : Pool ε) : Prop := ∀ w ∈ p.workers, w.stop = true → w.duty.isOut = true

theorem Change.unhurried (change : p.Change quits shrinks fails p') (kept : p.Kept)
    (grows : shrinks → ∀ size, p.active ≤ p.settings.clampSize size)
    (unhurried : p.state = .running → p.Unhurried) (running : p'.state = .running) :
    p'.Unhurried := by
  have before : p.Unhurried := by
    rcases change.state_eq running with was | ⟨unstarted, -⟩
    · exact unhurried was
    · intro w mem
      rw [kept.unstarted unstarted] at mem
      exact absurd mem List.not_mem_nil
  refine change.flags kept (P := fun stop duty => stop = true → duty.isOut = true)
    (fun h => absurd h (by simp)) (fun told => ?_) ?_ (fun _ _ _ _ => rfl) (fun _ => rfl)
    (fun _ => rfl) (fun _ _ _ => rfl) before
  · rcases told with ⟨may, size, fewer⟩ | ended
    · exact absurd fewer (Nat.not_lt.2 (grows may size))
    · exact absurd running ended
  · intro stop duty duty' inRound _ h told
    exact absurd (inRound.symm.trans (h told)) (by simp)

/-- Workers in their rounds that were not told to stop count. -/
theorem Kept.going_le (kept : p.Kept) (running : p.state = .running) :
    (p.workers.countP fun w => w.isInRound && !w.stop) ≤ p.settings.most := by
  refine Nat.le_trans (List.countP_mono_left fun w mem goes => ?_) kept.active_le_most
  obtain ⟨inRound, goes⟩ := Bool.and_eq_true_iff.1 goes
  rw [Worker.isActive, kept.listed running mem inRound, goes]
  rfl

/-- **No more in their rounds than there may be.** -/
theorem Kept.inRound_le (kept : p.Kept) (running : p.state = .running) (unhurried : p.Unhurried) :
    p.workers.countP Worker.isInRound ≤ p.settings.most := by
  refine Nat.le_trans (List.countP_mono_left fun w mem inRound => ?_) (kept.going_le running)
  cases told : w.stop with
  | false => simp [inRound]
  | true => simp [Worker.isInRound, unhurried w mem told] at inRound

end Pool

end StagedEvents
