import StagedEvents.Proofs.Pool.Roll

/-!
# What the sections of a pool do to its workers

To attend to reported exits takes workers off the table; to hire puts new ones on it; to
shrink a pool tells some workers to stop. Each is told here for the workers one by one, and
for the number of those that count.

* `reapAll_eq`, `workers_spawn`: the workers after these sections.
* `Grants`, `spawnMany?_of_grants`, `spawnMany?_of_refused`, `spawnMany?_cause`: what is answered
  to who adds workers.
* `active_reapAll`, `active_spawnMany?`, `countP_stopSome`: how many of them count.
* `mapWorker_split`: one worker among the others.
-/

namespace StagedEvents

variable {ε : Type}

namespace Worker

/-- The worker after reported exits were attended to. -/
def attended (exits : List ℕ) (w : Worker ε) : Worker ε :=
  if w.id ∈ exits ∧ w.membership = .listed then { w with membership := .joined } else w

/-- A worker that was just added. -/
def hired (id clock : ℕ) : Worker ε :=
  { id, stop := false, membership := .listed, duty := .checking, idleSince := clock }

variable {exits : List ℕ} {w : Worker ε}

@[simp]
theorem attended_id : (w.attended exits).id = w.id := by
  unfold attended
  split <;> rfl

@[simp]
theorem attended_stop : (w.attended exits).stop = w.stop := by
  unfold attended
  split <;> rfl

@[simp]
theorem attended_duty : (w.attended exits).duty = w.duty := by
  unfold attended
  split <;> rfl

theorem attended_nil : w.attended [] = w := if_neg fun h => absurd h.1 List.not_mem_nil

/-- To attend to exits in two parts is to attend to all of them. -/
theorem attended_cons (id : ℕ) :
    (if w.id = id then if w.membership = .listed then { w with membership := .joined } else w
      else w).attended exits = w.attended (id :: exits) := by
  by_cases same : w.id = id <;> by_cases listed : w.membership = .listed
  · simp [attended, same, listed]
  · simp [attended, same, listed]
  · simp [attended, same, listed]
  · simp [attended, same, listed]

/-- Only workers on the table that reported their exit are taken off it. -/
theorem attended_of_unreported (h : w.id ∉ exits) : w.attended exits = w :=
  if_neg fun reported => h reported.1

/-- The later worker is the earlier one, and nothing has been done to it unless it was told
    to stop. -/
def Remains (w v : Worker ε) : Prop := v.id = w.id ∧ (w.stop = false → v = w)

theorem Remains.trans {u v w : Worker ε} (h : w.Remains v) (h' : v.Remains u) :
    w.Remains u := by
  refine ⟨h'.1.trans h.1, fun goes => ?_⟩
  obtain rfl := h.2 goes
  exact h'.2 goes

theorem isActive_attended (told : w.id ∈ exits → w.stop = true) :
    (w.attended exits).isActive = w.isActive := by
  by_cases reported : w.id ∈ exits
  · simp [isActive, told reported]
  · rw [attended_of_unreported reported]

end Worker

namespace Pool

variable {p : Pool ε}

/-! ## Exits -/

theorem reapAll_eq (p : Pool ε) :
    p.reapAll = { p with workers := p.workers.map (Worker.attended p.exits), exits := [] } := by
  have all (ids : List ℕ) (q : Pool ε) : ids.foldl (fun p id => p.reap id) q =
      { q with workers := q.workers.map (Worker.attended ids) } := by
    induction ids generalizing q with
    | nil =>
      have same : q.workers.map (Worker.attended []) = q.workers :=
        (List.map_congr_left fun _ _ => Worker.attended_nil).trans (List.map_id _)
      rw [same]
      rfl
    | cons id rest ih =>
      have both : (q.reap id).workers.map (Worker.attended rest) =
          q.workers.map (Worker.attended (id :: rest)) := by
        refine List.map_map.trans (List.map_congr_left fun w _ => ?_)
        exact Worker.attended_cons id
      rw [List.foldl_cons, ih, both]
      rfl
  exact all p.exits _

/-- Whoever reported an exit was told to stop. -/
def ExitsTold (p : Pool ε) : Prop := ∀ w ∈ p.workers, w.id ∈ p.exits → w.stop = true

theorem active_reapAll (told : p.ExitsTold) : p.reapAll.active = p.active := by
  rw [reapAll_eq]
  show (p.workers.map (Worker.attended p.exits)).countP Worker.isActive = _
  rw [List.countP_map]
  exact List.countP_congr fun w mem => by
    rw [Function.comp_apply, Worker.isActive_attended (told w mem)]

/-- Whoever is not told to stop is left as it is when exits are attended to. -/
theorem mem_reapAll (told : p.ExitsTold) {w : Worker ε} (mem : w ∈ p.workers) :
    ∃ v ∈ p.reapAll.workers, w.Remains v := by
  rw [reapAll_eq]
  refine ⟨w.attended p.exits, List.mem_map_of_mem mem, Worker.attended_id, fun goes => ?_⟩
  refine Worker.attended_of_unreported fun reported => ?_
  simp [told w mem reported] at goes

/-- What is so of all workers whether or not they are on the table is so after exits were
    attended to. -/
theorem forall_reapAll {P : Worker ε → Prop} (keeps : ∀ w, P w → P (w.attended p.exits))
    (all : ∀ w ∈ p.workers, P w) : ∀ w ∈ p.reapAll.workers, P w := by
  rw [reapAll_eq]
  intro w mem
  obtain ⟨v, hv, rfl⟩ := List.mem_map.1 mem
  exact keeps v (all v hv)

/-! ## Hiring -/

variable {clock : ℕ} {refusals : ThreadRefusals}

theorem workers_spawn (clock : ℕ) (p : Pool ε) :
    (p.spawn clock).workers = p.reapAll.workers ++ [.hired p.next clock] :=
  rfl

/-- No exit is left to attend to once a number was taken. -/
theorem exitsTold_of_exits (none : p.exits = []) : p.ExitsTold := by
  intro w _ reported
  rw [none] at reported
  exact absurd reported List.not_mem_nil

theorem exits_takeNumber (p : Pool ε) : p.takeNumber.exits = [] :=
  congrArg Pool.exits p.reapAll_eq

theorem exits_spawn (clock : ℕ) (p : Pool ε) : (p.spawn clock).exits = [] :=
  p.exits_takeNumber

theorem exitsTold_takeNumber (p : Pool ε) : p.takeNumber.ExitsTold :=
  exitsTold_of_exits p.exits_takeNumber

theorem exitsTold_spawn (clock : ℕ) (p : Pool ε) : (p.spawn clock).ExitsTold :=
  exitsTold_of_exits (p.exits_spawn clock)

theorem active_takeNumber (told : p.ExitsTold) : p.takeNumber.active = p.active :=
  active_reapAll told

theorem active_spawn (told : p.ExitsTold) (clock : ℕ) :
    (p.spawn clock).active = p.active + 1 := by
  have hired : (p.spawn clock).active = p.reapAll.active + 1 := by
    show ((p.spawn clock).workers).countP Worker.isActive = _
    rw [workers_spawn, List.countP_append]
    rfl
  rw [hired, active_reapAll told]

theorem largest_spawn (told : p.ExitsTold) (clock : ℕ) :
    (p.spawn clock).largest = max p.largest (p.active + 1) := by
  have hired : (p.spawn clock).largest = max p.reapAll.largest (p.spawn clock).active := rfl
  rw [hired, active_spawn told, reapAll_eq]

/-- The name of the stage, the settings and the state. -/
def frame (p : Pool ε) : String × PoolSettings × PoolState := (p.stageName, p.settings, p.state)

theorem frame_reapAll (p : Pool ε) : p.reapAll.frame = p.frame := by
  rw [reapAll_eq]
  rfl

theorem frame_takeNumber (p : Pool ε) : p.takeNumber.frame = p.frame := p.frame_reapAll

theorem frame_spawn (clock : ℕ) (p : Pool ε) : (p.spawn clock).frame = p.frame :=
  p.frame_reapAll

theorem frame_spawn? (clock : ℕ) (refusals : ThreadRefusals) (p : Pool ε) :
    (p.spawn? clock refusals).1.frame = p.frame :=
  spawn?_keeps (P := fun q => q.frame = p.frame) (fun q same => q.frame_takeNumber.trans same)
    (fun q same => (q.frame_spawn clock).trans same) rfl

theorem frame_spawnMany? (clock : ℕ) (refusals : ThreadRefusals) (count : ℕ) (p : Pool ε) :
    (p.spawnMany? clock refusals count).1.frame = p.frame :=
  spawnMany?_keeps (P := fun q => q.frame = p.frame) (fun q same => q.frame_takeNumber.trans same)
    (fun q same => (q.frame_spawn clock).trans same) count rfl

/-- Whoever is not told to stop is still there as it was, and only those who were told have
    exits that no one has attended to. -/
def Retains (w : Worker ε) (p : Pool ε) : Prop := p.ExitsTold ∧ ∃ v ∈ p.workers, w.Remains v

theorem retains_of_mem (told : p.ExitsTold) {w : Worker ε} (mem : w ∈ p.workers) :
    p.Retains w :=
  ⟨told, w, mem, rfl, fun _ => rfl⟩

theorem Retains.takeNumber {w : Worker ε} (h : p.Retains w) : p.takeNumber.Retains w := by
  obtain ⟨told, v, hv, remains⟩ := h
  obtain ⟨u, hu, remains'⟩ := mem_reapAll told hv
  exact ⟨p.exitsTold_takeNumber, u, hu, remains.trans remains'⟩

theorem Retains.spawn {w : Worker ε} (h : p.Retains w) (clock : ℕ) :
    (p.spawn clock).Retains w := by
  obtain ⟨-, v, hv, remains⟩ := h.takeNumber
  exact ⟨p.exitsTold_spawn clock, v, List.mem_append_left _ hv, remains⟩

theorem mem_spawn? (told : p.ExitsTold) {w : Worker ε} (mem : w ∈ p.workers) (clock : ℕ)
    (refusals : ThreadRefusals) :
    ∃ v ∈ (p.spawn? clock refusals).1.workers, w.Remains v :=
  (spawn?_keeps (P := Retains w) (fun _ => Retains.takeNumber) (fun _ h => h.spawn clock)
    (retains_of_mem told mem)).2

theorem mem_spawnMany? (told : p.ExitsTold) {w : Worker ε} (mem : w ∈ p.workers) (clock : ℕ)
    (refusals : ThreadRefusals) (count : ℕ) :
    ∃ v ∈ (p.spawnMany? clock refusals count).1.workers, w.Remains v :=
  (spawnMany?_keeps (P := Retains w) (fun _ => Retains.takeNumber) (fun _ h => h.spawn clock)
    count (retains_of_mem told mem)).2

/-! ## Threads -/

/-- Each of the next `count` workers can be named, and the system gives it a thread. -/
def Grants (refusals : ThreadRefusals) (count : ℕ) (p : Pool ε) : Prop :=
  ∀ i < count, namesWorkers p.stageName = true ∧ refusals (p.next + i) = none

theorem grants_zero (refusals : ThreadRefusals) (p : Pool ε) : p.Grants refusals 0 :=
  fun _ lt => absurd lt (Nat.not_lt_zero _)

theorem namesWorkers_spawn (clock : ℕ) (p : Pool ε) :
    namesWorkers (p.spawn clock).stageName = namesWorkers p.stageName := by
  have same : (p.spawn clock).stageName = p.stageName := congrArg Prod.fst (p.frame_spawn clock)
  rw [same]

theorem next_spawn_add (clock : ℕ) (p : Pool ε) (i : ℕ) :
    (p.spawn clock).next + i = p.next + (i + 1) := by
  have next : (p.spawn clock).next = p.next + 1 := rfl
  rw [next, Nat.add_assoc, Nat.add_comm 1 i]

/-- Once a worker was added, the others come next. -/
theorem Grants.spawn {count : ℕ} (grants : p.Grants refusals (count + 1)) (clock : ℕ) :
    (p.spawn clock).Grants refusals count := by
  intro i lt
  obtain ⟨named, granted⟩ := grants (i + 1) (Nat.succ_lt_succ lt)
  refine ⟨(p.namesWorkers_spawn clock).trans named, ?_⟩
  rw [next_spawn_add]
  exact granted

theorem spawn?_of_grants {count : ℕ} (grants : p.Grants refusals (count + 1)) (clock : ℕ) :
    p.spawn? clock refusals = (p.spawn clock, .ok (.ok ())) := by
  obtain ⟨named, granted⟩ := grants 0 (Nat.succ_pos count)
  rw [Nat.add_zero] at granted
  simp only [spawn?, named, granted, Bool.true_eq_false, if_false]

theorem spawn?_of_refused (named : namesWorkers p.stageName = true) {reason : String}
    (refused : refusals p.next = some reason) (clock : ℕ) :
    p.spawn? clock refusals = (p.takeNumber, .ok (.error (.threadSpawn reason))) := by
  simp only [spawn?, named, refused, Bool.true_eq_false, if_false]

/-- **All workers that were asked for** are added if the system gives the threads. -/
theorem spawnMany?_of_grants (told : p.ExitsTold) {count : ℕ} (grants : p.Grants refusals count)
    (clock : ℕ) : (p.spawnMany? clock refusals count).2 = .ok (.ok ()) ∧
      (p.spawnMany? clock refusals count).1.active = p.active + count := by
  induction count generalizing p with
  | zero => exact ⟨rfl, rfl⟩
  | succ count ih =>
    rw [spawnMany?_of_added (spawn?_of_grants grants clock)]
    obtain ⟨added, active⟩ := ih (p.exitsTold_spawn clock) (grants.spawn clock)
    refine ⟨added, active.trans ?_⟩
    rw [active_spawn told, Nat.add_assoc, Nat.add_comm 1 count]

/-- **The first thread that is refused** ends it: whoever asked for the workers is told why, and
    those that were added before stay. -/
theorem spawnMany?_of_refused (told : p.ExitsTold) (named : namesWorkers p.stageName = true)
    {count k : ℕ} (lt : k < count) (grants : p.Grants refusals k) {reason : String}
    (refused : refusals (p.next + k) = some reason) (clock : ℕ) :
    (p.spawnMany? clock refusals count).2 = .ok (.error (.threadSpawn reason)) ∧
      (p.spawnMany? clock refusals count).1.active = p.active + k := by
  induction k generalizing p count with
  | zero =>
    obtain ⟨count, rfl⟩ := Nat.exists_eq_add_one_of_ne_zero (Nat.ne_of_gt lt)
    rw [spawnMany?_of_failed (by simp) (spawn?_of_refused named refused clock)]
    exact ⟨rfl, active_takeNumber told⟩
  | succ k ih =>
    obtain ⟨count, rfl⟩ := Nat.exists_eq_add_one_of_ne_zero (Nat.ne_of_gt (Nat.zero_lt_of_lt lt))
    rw [spawnMany?_of_added (spawn?_of_grants grants clock)]
    have later : refusals ((p.spawn clock).next + k) = some reason := by
      rw [next_spawn_add]
      exact refused
    obtain ⟨failed, active⟩ := ih (p.exitsTold_spawn clock)
      ((p.namesWorkers_spawn clock).trans named) (Nat.lt_of_succ_lt_succ lt) (grants.spawn clock)
      later
    refine ⟨failed, active.trans ?_⟩
    rw [active_spawn told, Nat.add_assoc, Nat.add_comm 1 k]

theorem spawn?_cause {cause : StageError}
    (failed : (p.spawn? clock refusals).2 = .ok (.error cause)) :
    ∃ reason, cause = .threadSpawn reason := by
  unfold spawn? at failed
  split at failed
  · cases failed
  · split at failed
    · rename_i reason _
      cases failed
      exact ⟨reason, rfl⟩
    · cases failed

/-- Whoever is told why workers could not be added is told that a thread was refused. -/
theorem spawnMany?_cause {count : ℕ} {cause : StageError}
    (failed : (p.spawnMany? clock refusals count).2 = .ok (.error cause)) :
    ∃ reason, cause = .threadSpawn reason := by
  induction count generalizing p with
  | zero => cases failed
  | succ count ih =>
    unfold spawnMany? at failed
    split at failed
    · exact ih failed
    · exact spawn?_cause failed

/-- Whoever adds workers takes none away, and adds no more than there were to be. -/
theorem active_spawnMany? (told : p.ExitsTold) (clock : ℕ) (refusals : ThreadRefusals)
    (count : ℕ) : p.active ≤ (p.spawnMany? clock refusals count).1.active ∧
      (p.spawnMany? clock refusals count).1.active ≤ p.active + count ∧
      ((p.spawnMany? clock refusals count).2 = .ok (.ok ()) →
        (p.spawnMany? clock refusals count).1.active = p.active + count) := by
  induction count generalizing p with
  | zero => exact ⟨Nat.le_refl _, Nat.le_refl _, fun _ => rfl⟩
  | succ count ih =>
    rcases spawn?_cases clock refusals p with added | ⟨answer, failed, taken⟩
    · have active := active_spawn told clock
      obtain ⟨least, most, all⟩ := ih (p.exitsTold_spawn clock)
      rw [spawnMany?_of_added added]
      refine ⟨by omega, by omega, fun ok => ?_⟩
      have all := all ok
      omega
    · have active := active_takeNumber told
      rw [spawnMany?_of_failed failed taken]
      refine ⟨Nat.le_of_eq active.symm, ?_, fun ok => absurd ok failed⟩
      exact Nat.le_trans (Nat.le_of_eq active) (Nat.le_add_right _ _)

theorem active_spawn? (told : p.ExitsTold) (clock : ℕ) (refusals : ThreadRefusals) :
    p.active ≤ (p.spawn? clock refusals).1.active := by
  rcases spawn?_cases clock refusals p with added | ⟨answer, -, failed⟩
  · rw [added]
    exact Nat.le_trans (Nat.le_succ _) (Nat.le_of_eq (active_spawn told clock).symm)
  · rw [failed]
    exact Nat.le_of_eq (active_takeNumber told).symm

/-! ## Shrinking -/

theorem countP_stopSome (count : ℕ) (workers : List (Worker ε)) :
    (stopSome count workers).countP Worker.isActive =
      workers.countP Worker.isActive - count := by
  induction workers generalizing count with
  | nil =>
    cases count with
    | zero => rfl
    | succ count => exact (Nat.zero_sub _).symm
  | cons w rest ih =>
    cases count with
    | zero => rfl
    | succ count =>
      unfold stopSome
      cases active : w.isActive with
      | true =>
        have stopped : Worker.isActive { w with stop := true } = false := Bool.and_false _
        rw [if_pos rfl, List.countP_cons, stopped, List.countP_cons, active, ih]
        simp
      | false =>
        rw [if_neg (by simp), List.countP_cons, active, List.countP_cons, active, ih]
        simp

/-- What is so of all workers, told to stop or not, is so after some were told. -/
theorem forall_stopSome {P : Worker ε → Prop} (keeps : ∀ w, P w → P { w with stop := true })
    (count : ℕ) {workers : List (Worker ε)} (all : ∀ w ∈ workers, P w) :
    ∀ w ∈ stopSome count workers, P w := by
  induction workers generalizing count with
  | nil => cases count <;> exact all
  | cons w rest ih =>
    obtain ⟨first, others⟩ := List.forall_mem_cons.1 all
    cases count with
    | zero => exact all
    | succ count =>
      unfold stopSome
      split
      · exact List.forall_mem_cons.2 ⟨keeps w first, ih count others⟩
      · exact List.forall_mem_cons.2 ⟨first, ih (count + 1) others⟩

/-- To shrink a pool takes no one off the table. -/
theorem mem_stopSome (count : ℕ) {workers : List (Worker ε)} {w : Worker ε} (mem : w ∈ workers) :
    ∃ v ∈ stopSome count workers, v.id = w.id ∧ v.membership = w.membership := by
  have same : (stopSome count workers).map (fun w => (w.id, w.membership)) =
      workers.map fun w => (w.id, w.membership) := map_stopSome (fun _ => rfl) count workers
  have tagged : (w.id, w.membership) ∈ workers.map fun w => (w.id, w.membership) :=
    List.mem_map.2 ⟨w, mem, rfl⟩
  rw [← same] at tagged
  obtain ⟨v, hv, tag⟩ := List.mem_map.1 tagged
  exact ⟨v, hv, Prod.mk.inj tag⟩

/-! ## What is so of all workers

A property of workers that does not depend on the table, and that new workers have, is kept by
all sections, if those keep it who are told to stop. -/

section Forall

variable {P : Worker ε → Prop} (keeps : ∀ exits w, P w → P (w.attended exits))
  (new : ∀ id clock, P (.hired id clock))
include keeps new

theorem forall_spawn (clock : ℕ) (all : ∀ w ∈ p.workers, P w) :
    ∀ w ∈ (p.spawn clock).workers, P w := by
  intro w mem
  rw [workers_spawn] at mem
  rcases List.mem_append.1 mem with mem | mem
  · exact forall_reapAll (keeps p.exits) all w mem
  · exact List.mem_singleton.1 mem ▸ new _ _

theorem forall_spawnMany? (clock : ℕ) (refusals : ThreadRefusals) (count : ℕ)
    (all : ∀ w ∈ p.workers, P w) : ∀ w ∈ (p.spawnMany? clock refusals count).1.workers, P w :=
  spawnMany?_keeps (P := fun q => ∀ w ∈ q.workers, P w)
    (fun q => forall_reapAll (keeps q.exits)) (fun _ => forall_spawn keeps new clock) count all

theorem forall_grow (clock : ℕ) (refusals : ThreadRefusals) (all : ∀ w ∈ p.workers, P w) :
    ∀ w ∈ (p.grow clock refusals).workers, P w := by
  unfold grow
  split
  · exact all
  · exact spawn?_keeps (P := fun q => ∀ w ∈ q.workers, P w)
      (fun q => forall_reapAll (keeps q.exits)) (fun _ => forall_spawn keeps new clock) all

theorem forall_start? {p' : Pool ε} {clock : ℕ} {refusals : ThreadRefusals}
    {answer : Except Fault (Except StageError Unit)}
    (h : p.start? clock refusals = some (p', answer)) (all : ∀ w ∈ p.workers, P w) :
    ∀ w ∈ p'.workers, P w := by
  unfold start? at h
  split at h
  · obtain rfl := congrArg Prod.fst (Option.some.inj h)
    exact forall_spawnMany? keeps new clock refusals _ (p := { p with state := .running }) all
  · exact absurd h (by simp)

theorem forall_resize (clock : ℕ) (refusals : ThreadRefusals) (size : ℕ)
    (told : p.settings.clampSize size < p.active → ∀ w, P w → P { w with stop := true })
    (all : ∀ w ∈ p.workers, P w) : ∀ w ∈ (p.resize clock refusals size).1.workers, P w := by
  unfold resize
  simp only
  split
  · exact all
  · split
    · exact forall_spawnMany? keeps new clock refusals _ all
    · rename_i most
      rcases Nat.eq_or_lt_of_le (Nat.le_of_not_lt most) with same | fewer
      · show ∀ w ∈ stopSome (p.active - p.settings.clampSize size) p.workers, P w
        rw [same, Nat.sub_self]
        unfold stopSome
        exact all
      · exact forall_stopSome (told fewer) _ all

end Forall

/-- A shutdown has begun. -/
theorem state_beginStop (p : Pool ε) : p.beginStop.1.state ≠ .running := by
  unfold beginStop
  split
  · simp
  · simp
  · rename_i state
    simp [state]
  · rename_i state
    simp [state]

theorem forall_beginStop {P : Worker ε → Prop} (told : ∀ w, P w → P { w with stop := true })
    (all : ∀ w ∈ p.workers, P w) : ∀ w ∈ p.beginStop.1.workers, P w := by
  unfold beginStop
  split
  · exact all
  · intro w mem
    obtain ⟨v, hv, rfl⟩ := List.mem_map.1 mem
    split
    · exact told v (all v hv)
    · exact all v hv
  · exact all
  · exact all

theorem forall_endStop {P : Worker ε → Prop}
    (left : ∀ w, P w → P { w with membership := .detached }) (all : ∀ w ∈ p.workers, P w) :
    ∀ w ∈ p.endStop.workers, P w := by
  intro w mem
  obtain ⟨v, hv, rfl⟩ := List.mem_map.1 mem
  split
  · exact left v (all v hv)
  · exact all v hv

/-! ## One worker among the others -/

theorem map_fst_roll (p : Pool ε) : p.roll.map Prod.fst = p.workers.map (·.id) := List.map_map

theorem Numbered.nodup (numbered : p.Numbered) : (p.workers.map (·.id)).Nodup :=
  p.map_fst_roll ▸ numbered.1

/-- The other workers stay as they are. -/
theorem mapWorker_split (numbered : p.Numbered) {w : Worker ε} (mem : w ∈ p.workers)
    (f : Worker ε → Worker ε) :
    ∃ before after, p.workers = before ++ w :: after ∧
      (p.mapWorker w.id f).workers = before ++ f w :: after ∧
      ∀ v ∈ before ++ after, v.id ≠ w.id := by
  obtain ⟨before, after, found⟩ := List.append_of_mem mem
  have distinct := numbered.nodup
  rw [found, List.map_append, List.map_cons] at distinct
  have apart := (List.nodup_cons.1 (List.nodup_middle.1 distinct)).1
  rw [← List.map_append] at apart
  have others (v : Worker ε) (hv : v ∈ before ++ after) : v.id ≠ w.id := fun same =>
    apart (same ▸ List.mem_map_of_mem hv)
  have keep (l : List (Worker ε)) (sub : ∀ v ∈ l, v ∈ before ++ after) :
      l.map (fun v => if v.id = w.id then f v else v) = l := by
    refine (List.map_congr_left fun v hv => ?_).trans (List.map_id _)
    rw [if_neg (others v (sub v hv))]
    rfl
  refine ⟨before, after, found, ?_, others⟩
  rw [mapWorker, found, List.map_append, List.map_cons, if_pos rfl,
    keep before fun v hv => List.mem_append_left _ hv,
    keep after fun v hv => List.mem_append_right _ hv]

theorem mem_mapWorker (numbered : p.Numbered) {v w : Worker ε} (mem : w ∈ p.workers)
    (hv : v ∈ p.workers) (f : Worker ε → Worker ε) :
    v ∈ (p.mapWorker w.id f).workers ∨ v = w ∧ f w ∈ (p.mapWorker w.id f).workers := by
  obtain ⟨before, after, found, changed, -⟩ := mapWorker_split numbered mem f
  rw [found, List.mem_append, List.mem_cons] at hv
  rw [changed]
  rcases hv with hv | rfl | hv
  · exact .inl (by simp [hv])
  · exact .inr ⟨rfl, by simp⟩
  · exact .inl (by simp [hv])

/-- What is so of all workers is so after one of them has changed. -/
theorem forall_mapWorker (numbered : p.Numbered) {w : Worker ε} (mem : w ∈ p.workers)
    {f : Worker ε → Worker ε} {P Q : Worker ε → Prop} (one : P w → Q (f w))
    (others : ∀ v, v.id ≠ w.id → P v → Q v) (all : ∀ v ∈ p.workers, P v) :
    ∀ v ∈ (p.mapWorker w.id f).workers, Q v := by
  obtain ⟨before, after, found, changed, apart⟩ := mapWorker_split numbered mem f
  rw [found, List.forall_mem_append, List.forall_mem_cons] at all
  rw [List.forall_mem_append] at apart
  rw [changed, List.forall_mem_append, List.forall_mem_cons]
  exact ⟨fun v hv => others v (apart.1 v hv) (all.1 v hv), one all.2.1,
    fun v hv => others v (apart.2 v hv) (all.2.2 v hv)⟩

/-- Of those counted before and after, only the one that has changed makes a difference. -/
theorem countP_mapWorker (numbered : p.Numbered) {w : Worker ε} (mem : w ∈ p.workers)
    (f : Worker ε → Worker ε) (counts : Worker ε → Bool) :
    (p.mapWorker w.id f).workers.countP counts + (if counts w then 1 else 0) =
      p.workers.countP counts + (if counts (f w) then 1 else 0) := by
  obtain ⟨before, after, found, changed, -⟩ := mapWorker_split numbered mem f
  rw [changed, found, List.countP_append, List.countP_append, List.countP_cons, List.countP_cons]
  omega

theorem countP_mapWorker_le (numbered : p.Numbered) {w : Worker ε} (mem : w ∈ p.workers)
    {f : Worker ε → Worker ε} {counts : Worker ε → Bool}
    (le : counts (f w) = true → counts w = true) :
    (p.mapWorker w.id f).workers.countP counts ≤ p.workers.countP counts := by
  have counted := countP_mapWorker numbered mem f counts
  have fewer : (if counts (f w) then 1 else 0) ≤ if counts w then 1 else 0 := by
    split
    · rename_i after
      exact Nat.le_of_eq (if_pos (le after)).symm
    · exact Nat.zero_le _
  omega

end Pool

end StagedEvents
