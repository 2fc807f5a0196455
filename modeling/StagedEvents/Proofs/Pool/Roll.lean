import Mathlib.Data.List.Nodup
import StagedEvents.Pool

/-!
# The roll of a pool

The roll of a pool lists its workers by number, with what each of them is at. No section of
a pool sends a worker elsewhere in its round: a pool can tell workers to stop, take them off
its table and leave them to themselves, and it can hire (`Hires`).

* `spawnMany?_keeps`: what is so whether or not the system gives the threads it is asked for.
* `hires_start?`, `hires_resize`, `hires_grow`, `hires_retire?`, `hires_beginStop`,
  `hires_reapAll`, `hires_endStop`: the sections of a pool.
* `roll_mapWorker`: what one worker does shows in its own entry alone.
-/

namespace StagedEvents.Pool

variable {ε : Type}

/-- The workers by number, with what they are at. -/
def roll (p : Pool ε) : List (Nat × Duty ε) := p.workers.map fun w => (w.id, w.duty)

/-- Every worker has a number of its own, and the next one will have another. -/
def Numbered (p : Pool ε) : Prop :=
  (p.roll.map Prod.fst).Nodup ∧ ∀ id ∈ p.roll.map Prod.fst, id < p.next

/-- New workers, about to look around, are all that is new on the roll, each with a number that
    was taken for it. -/
structure Hires (p p' : Pool ε) : Prop where
  policy : p'.policy = p.policy
  next_le : p.next ≤ p'.next
  exists_roll : ∃ ids : List Nat, ids.Nodup ∧ (∀ id ∈ ids, p.next ≤ id ∧ id < p'.next) ∧
    p'.roll = p.roll ++ ids.map fun id => (id, .checking)

variable {p p' p'' : Pool ε}

theorem Numbered.of_ids (numbered : p.Numbered)
    (ids : p'.roll.map Prod.fst = p.roll.map Prod.fst) (next : p.next ≤ p'.next) :
    p'.Numbered := by
  obtain ⟨unique, below⟩ := numbered
  exact ⟨ids ▸ unique, fun id mem => Nat.lt_of_lt_of_le (below id (ids ▸ mem)) next⟩

/-- A pool that has had no workers. -/
theorem numbered_of_empty (none : p.workers = []) : p.Numbered := by
  have ids : p.roll.map Prod.fst = [] := by
    rw [roll, none]
    rfl
  refine ⟨ids ▸ List.nodup_nil, fun id mem => ?_⟩
  rw [ids] at mem
  exact absurd mem List.not_mem_nil

theorem Hires.of_same (policy : p'.policy = p.policy) (next : p.next ≤ p'.next)
    (roll : p'.roll = p.roll) : p.Hires p' :=
  ⟨policy, next, [], List.nodup_nil, fun _ mem => absurd mem List.not_mem_nil,
    by rw [roll, List.map_nil, List.append_nil]⟩

theorem Hires.refl (p : Pool ε) : p.Hires p := .of_same rfl (Nat.le_refl _) rfl

theorem Hires.trans (h : p.Hires p') (h' : p'.Hires p'') : p.Hires p'' := by
  obtain ⟨ids, unique, fresh, roll⟩ := h.exists_roll
  obtain ⟨ids', unique', fresh', roll'⟩ := h'.exists_roll
  refine ⟨h'.policy.trans h.policy, Nat.le_trans h.next_le h'.next_le, ids ++ ids', ?_, ?_, ?_⟩
  · refine List.nodup_append.2 ⟨unique, unique', fun id mem id' mem' => Nat.ne_of_lt ?_⟩
    exact Nat.lt_of_lt_of_le (fresh id mem).2 (fresh' id' mem').1
  · refine List.forall_mem_append.2 ⟨fun id mem => ?_, fun id mem => ?_⟩
    · exact ⟨(fresh id mem).1, Nat.lt_of_lt_of_le (fresh id mem).2 h'.next_le⟩
    · exact ⟨Nat.le_trans h.next_le (fresh' id mem).1, (fresh' id mem).2⟩
  · rw [roll', roll, List.map_append, List.append_assoc]

theorem Hires.numbered (h : p.Hires p') (numbered : p.Numbered) : p'.Numbered := by
  obtain ⟨distinct, below⟩ := numbered
  obtain ⟨ids, unique, fresh, roll⟩ := h.exists_roll
  have hired : (ids.map fun id => (id, (.checking : Duty ε))).map Prod.fst = ids := by
    rw [List.map_map]
    exact List.map_id ids
  have all : p'.roll.map Prod.fst = p.roll.map Prod.fst ++ ids := by
    rw [roll, List.map_append, hired]
  refine ⟨?_, ?_⟩
  · rw [all]
    refine List.nodup_append.2 ⟨distinct, unique, fun id mem id' mem' => Nat.ne_of_lt ?_⟩
    exact Nat.lt_of_lt_of_le (below id mem) (fresh id' mem').1
  · rw [all]
    refine List.forall_mem_append.2 ⟨fun id mem => ?_, fun id mem => (fresh id mem).2⟩
    exact Nat.lt_of_lt_of_le (below id mem) h.next_le

theorem Hires.mem (h : p.Hires p') {entry : Nat × Duty ε} (mem : entry ∈ p.roll) :
    entry ∈ p'.roll := by
  obtain ⟨ids, -, -, roll⟩ := h.exists_roll
  rw [roll]
  exact List.mem_append_left _ mem

/-- Every worker there was is on the roll as before. -/
theorem Hires.exists_mem (h : p.Hires p') {w : Worker ε} (mem : w ∈ p.workers) :
    ∃ v ∈ p'.workers, v.id = w.id ∧ v.duty = w.duty := by
  have listed : (w.id, w.duty) ∈ p'.roll := h.mem (List.mem_map.2 ⟨w, mem, rfl⟩)
  obtain ⟨v, hv, same⟩ := List.mem_map.1 listed
  exact ⟨v, hv, Prod.mk.inj same⟩

/-! ## Adding workers -/

section Spawn

variable {clock : Nat} {refusals : ThreadRefusals}

/-- A worker is added, or its number is used up for nothing, and then there is an answer that
    says why. -/
theorem spawn?_cases (clock : Nat) (refusals : ThreadRefusals) (p : Pool ε) :
    p.spawn? clock refusals = (p.spawn clock, .ok (.ok ())) ∨
      ∃ answer, answer ≠ .ok (.ok ()) ∧ p.spawn? clock refusals = (p.takeNumber, answer) := by
  unfold spawn?
  split
  · exact .inr ⟨_, by simp, rfl⟩
  · split
    · exact .inr ⟨_, by simp, rfl⟩
    · exact .inl rfl

/-- The others come after a worker that was added. -/
theorem spawnMany?_of_added (added : p.spawn? clock refusals = (p.spawn clock, .ok (.ok ())))
    (count : Nat) : p.spawnMany? clock refusals (count + 1) =
      (p.spawn clock).spawnMany? clock refusals count := by
  rw [spawnMany?, added]

/-- No other comes after one that could not be added. -/
theorem spawnMany?_of_failed {answer : Except Fault (Except StageError Unit)}
    (failed : answer ≠ .ok (.ok ())) (taken : p.spawn? clock refusals = (p.takeNumber, answer))
    (count : Nat) : p.spawnMany? clock refusals (count + 1) = (p.takeNumber, answer) := by
  rw [spawnMany?, taken]
  cases answer with
  | error fault => rfl
  | ok answer =>
    cases answer with
    | error cause => rfl
    | ok => exact absurd rfl failed

/-- What is so of a pool, and still is when a number was taken or a worker added, is so whether
    or not a worker could be added. -/
theorem spawn?_keeps {P : Pool ε → Prop} (take : ∀ q, P q → P q.takeNumber)
    (add : ∀ q, P q → P (q.spawn clock)) (h : P p) : P (p.spawn? clock refusals).1 := by
  rcases spawn?_cases clock refusals p with added | ⟨answer, -, failed⟩
  · rw [added]
    exact add p h
  · rw [failed]
    exact take p h

/-- The same for several workers, however many of them could be added. -/
theorem spawnMany?_keeps {P : Pool ε → Prop} (take : ∀ q, P q → P q.takeNumber)
    (add : ∀ q, P q → P (q.spawn clock)) (count : Nat) (h : P p) :
    P (p.spawnMany? clock refusals count).1 := by
  induction count generalizing p with
  | zero => exact h
  | succ count ih =>
    rcases spawn?_cases clock refusals p with added | ⟨answer, failed, taken⟩
    · rw [spawnMany?_of_added added]
      exact ih (add p h)
    · rw [spawnMany?_of_failed failed taken]
      exact take p h

end Spawn

/-! ## Sections -/

theorem roll_map_of_same {f : Worker ε → Worker ε}
    (same : ∀ w, (f w).id = w.id ∧ (f w).duty = w.duty) (workers : List (Worker ε)) :
    (workers.map f).map (fun w => (w.id, w.duty)) = workers.map fun w => (w.id, w.duty) := by
  rw [List.map_map]
  refine List.map_congr_left fun w _ => ?_
  rw [Function.comp_apply, (same w).1, (same w).2]

theorem roll_mapWorker_of_same {f : Worker ε → Worker ε} (id : Nat)
    (same : ∀ w, (f w).id = w.id ∧ (f w).duty = w.duty) : (p.mapWorker id f).roll = p.roll := by
  refine roll_map_of_same (fun w => ?_) p.workers
  split
  · exact same w
  · exact ⟨rfl, rfl⟩

theorem hires_reap (id : Nat) (p : Pool ε) : p.Hires (p.reap id) := by
  refine .of_same rfl (Nat.le_refl _) (roll_mapWorker_of_same id fun w => ?_)
  split
  · exact ⟨rfl, rfl⟩
  · exact ⟨rfl, rfl⟩

theorem hires_reapAll (p : Pool ε) : p.Hires p.reapAll := by
  have all (ids : List Nat) (q : Pool ε) : q.Hires (ids.foldl (fun p id => p.reap id) q) := by
    induction ids generalizing q with
    | nil => exact .refl q
    | cons id rest ih => exact (q.hires_reap id).trans (ih _)
  have attended : p.Hires { p with exits := [] } := .of_same rfl (Nat.le_refl _) rfl
  exact attended.trans (all p.exits _)

theorem next_reapAll (p : Pool ε) : p.reapAll.next = p.next := by
  have all (ids : List Nat) (q : Pool ε) :
      (ids.foldl (fun p id => p.reap id) q).next = q.next := by
    induction ids generalizing q with
    | nil => rfl
    | cons id rest ih => exact ih _
  exact all p.exits _

theorem hires_takeNumber (p : Pool ε) : p.Hires p.takeNumber := by
  refine p.hires_reapAll.trans (.of_same rfl ?_ rfl)
  rw [next_reapAll]
  exact Nat.le_succ p.next

theorem hires_spawn (clock : Nat) (p : Pool ε) : p.Hires (p.spawn clock) := by
  refine p.hires_reapAll.trans ⟨rfl, ?_, [p.next], List.nodup_singleton _, fun id mem => ?_, ?_⟩
  · rw [next_reapAll]
    exact Nat.le_succ p.next
  · rw [next_reapAll, List.mem_singleton.1 mem]
    exact ⟨Nat.le_refl _, Nat.lt_succ_self p.next⟩
  · simp only [roll, spawn, takeNumber, List.map_append]
    rfl

theorem hires_spawn? (clock : Nat) (refusals : ThreadRefusals) (p : Pool ε) :
    p.Hires (p.spawn? clock refusals).1 :=
  spawn?_keeps (fun q h => h.trans q.hires_takeNumber) (fun q h => h.trans (q.hires_spawn clock))
    (.refl p)

theorem hires_spawnMany? (clock : Nat) (refusals : ThreadRefusals) (count : Nat) (p : Pool ε) :
    p.Hires (p.spawnMany? clock refusals count).1 :=
  spawnMany?_keeps (fun q h => h.trans q.hires_takeNumber)
    (fun q h => h.trans (q.hires_spawn clock)) count (.refl p)

theorem hires_start? {clock : Nat} {refusals : ThreadRefusals}
    {answer : Except Fault (Except StageError Unit)}
    (h : p.start? clock refusals = some (p', answer)) : p.Hires p' := by
  unfold start? at h
  split at h
  · have started : p' = _ := (congrArg Prod.fst (Option.some.inj h)).symm
    rw [started]
    have running : p.Hires { p with state := .running } := .of_same rfl (Nat.le_refl _) rfl
    exact running.trans (hires_spawnMany? clock refusals _ _)
  · exact absurd h (by simp)

/-- To shrink a pool changes stop flags alone. -/
theorem map_stopSome {β : Type} {f : Worker ε → β} (same : ∀ w, f { w with stop := true } = f w)
    (count : Nat) (workers : List (Worker ε)) :
    (stopSome count workers).map f = workers.map f := by
  induction workers generalizing count with
  | nil => cases count <;> rfl
  | cons w rest ih =>
    cases count with
    | zero => rfl
    | succ count =>
      unfold stopSome
      split
      · rw [List.map_cons, List.map_cons, ih, same]
      · rw [List.map_cons, List.map_cons, ih]

theorem roll_stopSome (count : Nat) (workers : List (Worker ε)) :
    (stopSome count workers).map (fun w => (w.id, w.duty)) =
      workers.map fun w => (w.id, w.duty) :=
  map_stopSome (fun _ => rfl) count workers

theorem hires_resize (clock : Nat) (refusals : ThreadRefusals) (size : Nat) (p : Pool ε) :
    p.Hires (p.resize clock refusals size).1 := by
  unfold resize
  simp only
  split
  · exact .refl p
  · split
    · exact p.hires_spawnMany? clock refusals _
    · exact .of_same rfl (Nat.le_refl _) (roll_stopSome _ p.workers)

theorem hires_grow (clock : Nat) (refusals : ThreadRefusals) (p : Pool ε) :
    p.Hires (p.grow clock refusals) := by
  unfold grow
  split
  · exact .refl p
  · exact p.hires_spawn? clock refusals

theorem hires_retire? {id : Nat} (h : p.retire? id = some p') : p.Hires p' := by
  unfold retire? at h
  split at h
  · exact absurd h (by simp)
  · rw [← Option.some.inj h]
    exact .of_same rfl (Nat.le_refl _) (roll_mapWorker_of_same id fun _ => ⟨rfl, rfl⟩)

theorem hires_beginStop (p : Pool ε) : p.Hires p.beginStop.1 := by
  unfold beginStop
  split
  · exact .of_same rfl (Nat.le_refl _) rfl
  · refine .of_same rfl (Nat.le_refl _) (roll_map_of_same (fun w => ?_) p.workers)
    split
    · exact ⟨rfl, rfl⟩
    · exact ⟨rfl, rfl⟩
  · exact .refl p
  · exact .refl p

theorem hires_endStop (p : Pool ε) : p.Hires p.endStop := by
  refine .of_same rfl (Nat.le_refl _) (roll_map_of_same (fun w => ?_) p.workers)
  split
  · exact ⟨rfl, rfl⟩
  · exact ⟨rfl, rfl⟩

/-! ## One worker -/

/-- What one worker does shows in its own entry alone. -/
theorem roll_mapWorker (numbered : p.Numbered) {id : Nat} {d d' : Duty ε}
    (mem : (id, d) ∈ p.roll) {f : Worker ε → Worker ε}
    (moves : ∀ w, (f w).id = w.id ∧ (f w).duty = d') :
    ∃ before after, p.roll = before ++ (id, d) :: after ∧
      (p.mapWorker id f).roll = before ++ (id, d') :: after := by
  have mapped : (p.mapWorker id f).roll =
      p.roll.map fun entry => if entry.1 = id then (entry.1, d') else entry := by
    simp only [roll, mapWorker, List.map_map]
    refine List.map_congr_left fun w _ => ?_
    simp only [Function.comp_apply]
    split
    · rw [(moves w).1, (moves w).2]
    · rfl
  obtain ⟨before, after, found⟩ := List.append_of_mem mem
  have distinct := numbered.1
  rw [found, List.map_append, List.map_cons] at distinct
  have apart := List.nodup_middle.1 distinct
  rw [← List.map_append, List.nodup_cons] at apart
  have keep (l : List (Nat × Duty ε)) (sub : ∀ e ∈ l, e ∈ before ++ after) :
      l.map (fun entry => if entry.1 = id then (entry.1, d') else entry) = l := by
    refine (List.map_congr_left fun e he => ?_).trans (List.map_id _)
    have ne : e.1 ≠ id := by
      intro same
      have mem : e.1 ∈ (before ++ after).map Prod.fst := List.mem_map_of_mem (sub e he)
      exact apart.1 (same ▸ mem)
    rw [if_neg ne]
    rfl
  refine ⟨before, after, found, ?_⟩
  rw [mapped, found, List.map_append, List.map_cons, if_pos rfl,
    keep before fun e he => List.mem_append_left _ he,
    keep after fun e he => List.mem_append_right _ he]

end StagedEvents.Pool
