import StagedEvents.Proofs.Pool.Later
import StagedEvents.Proofs.Service.Strength

/-!
# The life of a pool among its callers and workers

Callers start a pool, resize it and shut it down, several of them at the same time; its workers
grow it and retire, and report their exits. A shutdown lets go of the pool between its sections:
after it has told all workers to stop it attends to reports as they come, one at a time or all
that are there, until it leaves the workers that are still on the table to themselves. The other
pools of the service, and its stage, may change in any way meanwhile.

* `PoolWithShutdowns`, `PoolWithShutdowns.Step`: a service whose pool is started and shut down, and
  all that can happen.
* `Service.moves_step?`: what a step of a worker does to its pool.
* `PoolWithShutdowns.Sound`, `PoolWithShutdowns.Step.sound`: what relates the shutdowns under way
  to the pool.
* `PoolWithShutdowns.lifecycle`: the result.
-/

namespace StagedEvents

open Relation (ReflTransGen)

variable {ε : Type}

/-! ## Steps of workers -/

namespace Service

variable {s s' : Service ε} {pool worker number : ℕ} {p p' : Pool ε} {d d' : Duty ε}

/-- What a worker has done leaves its pool kept. -/
theorem Acted.carries (acted : s.Acted s' pool p p' d d') (kept : p.Kept) :
    ∃ p', s'.pools[pool]? = some p' ∧ p.Moves p' ∧ p'.Kept ∧ p'.state = p.state := by
  obtain ⟨lt, -⟩ := List.getElem?_eq_some_iff.1 acted.found
  refine ⟨p', ?_, acted.moves kept, ?_, acted.state⟩
  · rw [acted.pools]
    exact List.getElem?_set_self lt
  · rcases acted.change with rfl | change
    · exact kept
    · exact change.kept kept

/-- **A step of a worker** moves its pool, and neither starts nor stops it. -/
theorem moves_step? (kept : p.Kept) (found : s.pools[pool]? = some p)
    {refusals : ThreadRefusals} (h : s.step? number pool worker refusals = some s') :
    ∃ p', s'.pools[pool]? = some p' ∧ p.Moves p' ∧ p'.Kept ∧ p'.state = p.state := by
  obtain ⟨q, v, known, mem, -, stepped⟩ := step?_cases h
  obtain rfl := Option.some.inj (found.symm.trans known)
  obtain ⟨p', d', acted⟩ := acted_stepIn? kept.numbered found mem stepped
  exact acted.carries kept

theorem getElem?_mapPool (found : s.pools[pool]? = some p) (f : Pool ε → Pool ε) :
    (s.mapPool pool f).pools[pool]? = some (f p) := by
  obtain ⟨lt, -⟩ := List.getElem?_eq_some_iff.1 found
  rw [mapPool_set found]
  exact List.getElem?_set_self lt

end Service

/-! ## Everything that can happen -/

/-- A service one of whose pools is started and shut down. -/
structure PoolWithShutdowns (ε : Type) where
  service : Service ε
  /-- The shutdowns that wait for workers, each with the report that it has in hand. -/
  stops : List (Option ℕ)

namespace PoolWithShutdowns

/-- The service in another state. -/
def withService (t : PoolWithShutdowns ε) (service : Service ε) : PoolWithShutdowns ε :=
  { t with service }

/-- A shutdown begins, and goes on if it is the one to wait for the workers. -/
def beginStop (pool : ℕ) (p : Pool ε) (t : PoolWithShutdowns ε) : PoolWithShutdowns ε :=
  { service := t.service.mapPool pool fun p => p.beginStop.1
    stops := if p.beginStop.2 then none :: t.stops else t.stops }

/-- A shutdown that has let go of the pool takes a report in hand; these are left. -/
def takeReport (pool i id : ℕ) (left : List ℕ) (t : PoolWithShutdowns ε) : PoolWithShutdowns ε :=
  { service := t.service.mapPool pool fun p => { p with exits := left }
    stops := t.stops.set i (some id) }

/-- A shutdown takes the worker whose report it has in hand off the table. -/
def joinWorker (pool i id : ℕ) (t : PoolWithShutdowns ε) : PoolWithShutdowns ε :=
  { service := t.service.mapPool pool (Pool.reap id), stops := t.stops.set i none }

/-- A shutdown ends, whoever is still on the table. -/
def endStop (pool i : ℕ) (t : PoolWithShutdowns ε) : PoolWithShutdowns ε :=
  { service := t.service.mapPool pool Pool.endStop, stops := t.stops.eraseIdx i }

/-- All that can happen to a pool of a service with the given number, whether or not the system
    gives the threads that are asked for. -/
inductive Step (number pool : ℕ) : PoolWithShutdowns ε → PoolWithShutdowns ε → Prop where
  /-- A worker takes its next step: among others it may retire, grow the pool or report its
      exit. -/
  | worker {t : PoolWithShutdowns ε} {s : Service ε} (worker : ℕ) (refusals : ThreadRefusals)
      (step : t.service.step? number pool worker refusals = some s) :
      Step number pool t (t.withService s)
  /-- A handler has sent events, and goes on knowing whether they were let in. -/
  | send {t : PoolWithShutdowns ε} {batch : Batch ε} {target : ℕ} {events : List ε}
      {next : Bool → Plan ε} {since : ℕ} (worker : ℕ)
      (sends : t.service.IsAt pool worker (.handling batch (.send target events next) since))
      (accepted : Bool) :
      Step number pool t
        (t.withService (t.service.setDuty pool worker (.handling batch (next accepted) since)))
  | start {t : PoolWithShutdowns ε} {s : Service ε} {answer : Except Fault (Except StageError Unit)}
      (refusals : ThreadRefusals)
      (started : t.service.startPool? pool refusals = some (s, answer)) :
      Step number pool t (t.withService s)
  | resize {t : PoolWithShutdowns ε} (size : ℕ) (refusals : ThreadRefusals) :
      Step number pool t (t.withService (t.service.resizePool pool size refusals).1)
  | beginStop {t : PoolWithShutdowns ε} {p : Pool ε} (found : t.service.pools[pool]? = some p) :
      Step number pool t (t.beginStop pool p)
  /-- A shutdown attends to all reports that are there. -/
  | attend {t : PoolWithShutdowns ε} {i : ℕ} (waits : t.stops[i]? = some none) :
      Step number pool t (t.withService (t.service.mapPool pool Pool.reapAll))
  | take {t : PoolWithShutdowns ε} {p : Pool ε} {i id : ℕ} {left : List ℕ}
      (found : t.service.pools[pool]? = some p) (waits : t.stops[i]? = some none)
      (reports : p.exits = id :: left) : Step number pool t (t.takeReport pool i id left)
  | join {t : PoolWithShutdowns ε} {i id : ℕ} (holds : t.stops[i]? = some (some id)) :
      Step number pool t (t.joinWorker pool i id)
  /-- The workers that a shutdown waits for are all off the table, or it waits no longer. -/
  | endStop {t : PoolWithShutdowns ε} {i : ℕ} (waits : t.stops[i]? = some none) :
      Step number pool t (t.endStop pool i)
  /-- The stage changes, or another of its pools. -/
  | elsewhere {t : PoolWithShutdowns ε} {s : Service ε}
      (same : s.pools[pool]? = t.service.pools[pool]?) : Step number pool t (t.withService s)

/-- What relates a pool to the shutdowns under way. -/
structure Sound (pool : ℕ) (t : PoolWithShutdowns ε) (p : Pool ε) : Prop where
  found : t.service.pools[pool]? = some p
  kept : p.Kept
  stops : t.stops.length = if p.state = .shuttingDown then 1 else 0
  told : p.Ending → ∀ w ∈ p.workers, w.stop = true
  bare : p.state = .terminated → ∀ w ∈ p.workers, w.membership ≠ .listed
  hands : ∀ id, some id ∈ t.stops → ∀ w ∈ p.workers, w.id = id → w.duty = .gone

variable {number pool : ℕ} {t₀ t t' : PoolWithShutdowns ε} {p p' : Pool ε}
  {refusals : ThreadRefusals}

/-- A shutdown is under way only while the pool is shutting down, and only one. -/
theorem Sound.state_of_getElem? (sound : t.Sound pool p) {i : ℕ} {hand : Option ℕ}
    (waits : t.stops[i]? = some hand) : p.state = .shuttingDown ∧ t.stops = [hand] := by
  obtain ⟨lt, here⟩ := List.getElem?_eq_some_iff.1 waits
  have stops := sound.stops
  by_cases state : p.state = .shuttingDown
  · rw [if_pos state] at stops
    obtain ⟨only, one⟩ := List.length_eq_one_iff.1 stops
    rw [one] at waits
    have first : i = 0 := by
      rw [one, List.length_singleton] at lt
      exact Nat.lt_one_iff.1 lt
    rw [first] at waits
    exact ⟨state, one.trans (congrArg (fun hand => [hand]) (Option.some.inj waits))⟩
  · rw [if_neg state] at stops
    exact absurd lt (by omega)

/-- The pool moves, and neither starts nor stops. -/
theorem Sound.carry (sound : t.Sound pool p) {s : Service ε} {stops : List (Option ℕ)}
    (found : s.pools[pool]? = some p') (moves : p.Moves p') (kept : p'.Kept)
    (state : p'.state = p.state) (length : stops.length = t.stops.length)
    (hands : ∀ id, some id ∈ stops → ∀ w ∈ p.workers, w.id = id → w.duty = .gone) :
    (⟨s, stops⟩ : PoolWithShutdowns ε).Sound pool p' := by
  have later := moves.later
  have ending : p'.Ending → p.Ending := fun ends => by
    unfold Pool.Ending at ends ⊢
    rwa [state] at ends
  have origin (ends : p.Ending) {w' : Worker ε} (mem : w' ∈ p'.workers) :
      ∃ w ∈ p.workers, w.Later w' := later.each.exists_of_mem (later.closed ends) mem
  refine ⟨found, kept, ?_, fun ends w' mem => ?_, fun ended w' mem => ?_,
    fun id held w' mem same => ?_⟩
  · rw [state]
    exact length.trans sound.stops
  · obtain ⟨w, hw, became⟩ := origin (ending ends) mem
    exact became.told (sound.told (ending ends) w hw)
  · obtain ⟨w, hw, became⟩ := origin (ending (.inr ended)) mem
    have off := sound.bare (state ▸ ended) w hw
    rw [became.left off]
    exact off
  · have shutting : p.state = .shuttingDown := by
      obtain ⟨i, lt, -⟩ := List.mem_iff_getElem.1 held
      exact (sound.state_of_getElem? (List.getElem?_eq_getElem (length ▸ lt))).1
    obtain ⟨w, hw, became⟩ := origin (.inl shutting) mem
    exact became.gone (hands id held w hw (became.id_eq.symm.trans same))

/-- While the pool is not shutting down, no shutdown waits. -/
theorem Sound.stops_eq_nil (sound : t.Sound pool p) (still : p.state ≠ .shuttingDown) :
    t.stops = [] :=
  List.eq_nil_of_length_eq_zero (sound.stops.trans (if_neg still))

/-- **A pool starts**, and has not been shut down. -/
theorem Sound.start (sound : t.Sound pool p) {s : Service ε}
    {answer : Except Fault (Except StageError Unit)}
    (started : t.service.startPool? pool refusals = some (s, answer)) :
    ∃ p', (t.withService s).Sound pool p' ∧ p.Moves p' ∧ p'.state = .running := by
  obtain ⟨q, p', known, start, rfl⟩ := Service.startPool?_cases started
  obtain rfl := Option.some.inj (sound.found.symm.trans known)
  obtain ⟨unstarted, frame⟩ := Pool.frame_start? start
  have running : p'.state = .running := congrArg (·.2.2) frame
  have none : t.stops = [] := sound.stops_eq_nil (by simp [unstarted])
  refine ⟨p', ⟨Service.getElem?_mapPool sound.found _, sound.kept.start? start, ?_, fun ends => ?_,
    fun ended => ?_, fun id held => ?_⟩, Pool.moves_start? sound.kept.reported start, running⟩
  · rw [running]
    exact congrArg List.length none
  · exact absurd ends (by simp [Pool.Ending, running])
  · exact absurd (running.symm.trans ended) (by simp)
  · have held : some id ∈ t.stops := held
    rw [none] at held
    exact absurd held List.not_mem_nil

/-- **A shutdown begins**, and all workers are told to stop. -/
theorem Sound.beginStop (sound : t.Sound pool p) :
    (t.beginStop pool p).Sound pool p.beginStop.1 := by
  have found := Service.getElem?_mapPool sound.found fun p => p.beginStop.1
  have kept := sound.kept.beginStop
  have same (ended : p.beginStop = (p, false)) : (t.beginStop pool p).Sound pool p.beginStop.1 := by
    unfold PoolWithShutdowns.beginStop
    rw [ended] at found ⊢
    exact ⟨found, sound.kept, sound.stops, sound.told, sound.bare, sound.hands⟩
  unfold PoolWithShutdowns.beginStop at same ⊢
  cases state : p.state with
  | notStarted =>
    have none : t.stops = [] := sound.stops_eq_nil (by simp [state])
    have empty : p.workers = [] := sound.kept.unstarted state
    have begun : p.beginStop = ({ p with state := .terminated }, false) := by
      simp [Pool.beginStop, state]
    have unmanned {P : Worker ε → Prop} : ∀ w ∈ p.workers, P w := by
      rw [empty]
      exact fun w mem => absurd mem List.not_mem_nil
    rw [begun] at found kept ⊢
    refine ⟨found, kept, ?_, fun _ => unmanned, fun _ => unmanned, fun id _ => unmanned⟩
    rw [none]
    rfl
  | running =>
    have none : t.stops = [] := sound.stops_eq_nil (by simp [state])
    have begun : p.beginStop = ({ p with
        state := .shuttingDown
        workers := p.workers.map fun w =>
          if w.membership = .listed then { w with stop := true } else w }, true) := by
      simp [Pool.beginStop, state]
    rw [begun] at found kept ⊢
    refine ⟨found, kept, ?_, fun _ w mem => ?_, fun ended => absurd ended (by simp),
      fun id held => ?_⟩
    · rw [none]
      rfl
    · obtain ⟨v, hv, rfl⟩ := List.mem_map.1 mem
      have fits := sound.kept.fits v hv
      -- whoever is off the table of a running pool was joined, and so had been told to stop
      cases membership : v.membership with
      | listed => rw [if_pos rfl]
      | joined =>
        rw [if_neg (by simp)]
        exact fits.gone (fits.joined membership)
      | detached => exact absurd (state.symm.trans (fits.detached membership)) (by simp)
    · rw [none] at held
      exact absurd held (by simp)
  | shuttingDown => exact same (by simp [Pool.beginStop, state])
  | terminated => exact same (by simp [Pool.beginStop, state])

/-- **A shutdown ends**, and no worker is on the table. -/
theorem Sound.endStop (sound : t.Sound pool p) {i : ℕ} (waits : t.stops[i]? = some none) :
    (t.endStop pool i).Sound pool p.endStop := by
  obtain ⟨state, one⟩ := sound.state_of_getElem? waits
  have others : (t.endStop pool i).stops = [] := by
    obtain ⟨lt, -⟩ := List.getElem?_eq_some_iff.1 waits
    refine List.eq_nil_of_length_eq_zero ((List.length_eraseIdx_of_lt lt).trans ?_)
    rw [one]
    rfl
  refine ⟨Service.getElem?_mapPool sound.found _, sound.kept.endStop, congrArg List.length others,
    fun _ => ?_, fun _ w mem => ?_, fun id held => ?_⟩
  · exact Pool.forall_endStop (fun _ told => told) (sound.told (.inl state))
  · obtain ⟨v, hv, rfl⟩ := List.mem_map.1 mem
    by_cases listed : v.membership = .listed
    · rw [if_pos listed]
      simp
    · rw [if_neg listed]
      exact listed
  · rw [others] at held
    exact absurd held List.not_mem_nil

/-- **A step keeps the shutdowns and the pool in accord**, and moves the pool. -/
theorem Step.sound (step : Step number pool t t') (sound : t.Sound pool p) :
    ∃ p', t'.Sound pool p' ∧ p.Moves p' := by
  have kept := sound.kept
  cases step with
  | worker worker refusals step =>
    obtain ⟨p', found, moves, kept', state⟩ := Service.moves_step? kept sound.found step
    exact ⟨p', sound.carry found moves kept' state rfl sound.hands, moves⟩
  | @send batch target events next since worker sends accepted =>
    obtain ⟨q, acted⟩ := Service.acted_of_isAt sound.found kept.numbered sends
      (.handling batch (next accepted) since) rfl rfl rfl rfl
    obtain ⟨p', found, moves, kept', state⟩ := acted.carries kept
    exact ⟨p', sound.carry found moves kept' state rfl sound.hands, moves⟩
  | start refusals started =>
    obtain ⟨p', sound', moves, -⟩ := sound.start started
    exact ⟨p', sound', moves⟩
  | resize size refusals =>
    rw [Service.resizePool_eq]
    have moves := Pool.moves_resize kept.reported t.service.clock refusals size
    refine ⟨_, sound.carry (Service.getElem?_mapPool sound.found _) moves
      (kept.resize _ refusals size) ?_ rfl sound.hands, moves⟩
    exact congrArg (·.2.2) (p.frame_resize t.service.clock refusals size)
  | beginStop found =>
    obtain rfl := Option.some.inj (sound.found.symm.trans found)
    exact ⟨_, sound.beginStop, p.moves_beginStop⟩
  | attend waits =>
    have moves := Pool.moves_reapAll kept.reported
    refine ⟨_, sound.carry (Service.getElem?_mapPool sound.found _) moves kept.reapAll ?_ rfl
      sound.hands, moves⟩
    exact congrArg (·.2.2) p.frame_reapAll
  | @take q i id left found waits reports =>
    obtain rfl := Option.some.inj (sound.found.symm.trans found)
    have moves := p.moves_exits left
    have fewer : ({ p with exits := left } : Pool ε).Kept := kept.withExits left fun w mem there =>
      kept.reported w mem (reports ▸ List.mem_cons_of_mem id there)
    refine ⟨_, sound.carry (Service.getElem?_mapPool sound.found _) moves fewer rfl
      List.length_set fun other held w mem same => ?_, moves⟩
    rcases List.mem_or_eq_of_mem_set held with before | now
    · exact sound.hands other before w mem same
    · obtain rfl := Option.some.inj now
      exact kept.reported w mem (by rw [same, reports]; exact List.mem_cons_self)
  | @join i id holds =>
    have gone := sound.hands id (List.mem_of_getElem? holds)
    have moves := Pool.moves_reap gone
    refine ⟨_, sound.carry (Service.getElem?_mapPool sound.found _) moves (kept.reap gone) rfl
      List.length_set fun other held => ?_, moves⟩
    rcases List.mem_or_eq_of_mem_set held with before | now
    · exact sound.hands other before
    · exact absurd now (by simp)
  | endStop waits => exact ⟨_, sound.endStop waits, p.moves_endStop⟩
  | elsewhere same =>
    exact ⟨p, ⟨same.trans sound.found, kept, sound.stops, sound.told, sound.bare, sound.hands⟩,
      .refl p⟩

/-- What becomes of a pool in any number of steps. -/
theorem Sound.run (sound : t.Sound pool p) (run : ReflTransGen (Step number pool) t t') :
    ∃ p', t'.Sound pool p' ∧ p.Later p' := by
  induction run with
  | refl => exact ⟨p, sound, .refl p⟩
  | tail _ step ih =>
    obtain ⟨between, sound', later⟩ := ih
    obtain ⟨p', sound'', moves⟩ := step.sound sound'
    exact ⟨p', sound'', later.trans moves.later⟩

/-- A pool that is new, with no shutdown under way. -/
theorem sound_new {name : String} {settings : PoolSettings} {single : Bool}
    {policy : FailurePolicy} (stops : t.stops = [])
    (new : t.service.pools[pool]? = some (.new name settings single policy)) :
    t.Sound pool (.new name settings single policy) := by
  refine ⟨new, Pool.kept_new name settings single policy, ?_, fun _ w mem => ?_, fun _ w mem => ?_,
    fun id _ w mem => ?_⟩
  · rw [stops]
    rfl
  · exact absurd mem List.not_mem_nil
  · exact absurd mem List.not_mem_nil
  · exact absurd mem List.not_mem_nil

/-- Only a pool that has not been started can be. -/
theorem Sound.isSome_startPool? (sound : t.Sound pool p) (refusals : ThreadRefusals) :
    (t.service.startPool? pool refusals).isSome = true ↔ p.state = .notStarted := by
  by_cases unstarted : p.state = .notStarted
  · simp [Service.startPool?, sound.found, Pool.start?, unstarted]
  · simp [Service.startPool?, sound.found, Pool.start?, unstarted]

theorem Sound.unmanned (sound : t.Sound pool p) (ended : p.state = .terminated) :
    p.isManned = false ∧ p.active = 0 := by
  have off := sound.bare ended
  constructor
  · refine List.any_eq_false.2 fun w mem listed => ?_
    exact off w mem (beq_iff_eq.1 listed)
  · refine List.countP_eq_zero.2 fun w mem active => ?_
    exact off w mem (beq_iff_eq.1 (Bool.and_eq_true_iff.1 active).1)

/-- **After a shutdown has begun**, every worker has its stop flag set for good, and no worker
    is hired. -/
theorem Sound.closed (sound : t.Sound pool p)
    (run : ReflTransGen (Step number pool) (t.beginStop pool p) t') :
    ∃ p', t'.service.pools[pool]? = some p' ∧ p.beginStop.1.Later p' ∧
      p'.workers.length = p.workers.length ∧ ∀ w ∈ p'.workers, w.stop = true := by
  obtain ⟨p', sound', later⟩ := sound.beginStop.run run
  have ending := p.ending_beginStop
  exact ⟨p', sound'.found, later, (later.closed ending).trans p.length_beginStop,
    sound'.told (later.ending ending)⟩

/-- **A pool is started once**, whether or not it got the workers it was to start with. -/
theorem Sound.startsOnce (sound : t.Sound pool p) {s : Service ε}
    {answer : Except Fault (Except StageError Unit)}
    (started : t.service.startPool? pool refusals = some (s, answer))
    (run : ReflTransGen (Step number pool) (t.withService s) t') (refusals' : ThreadRefusals) :
    t'.service.startPool? pool refusals' = none := by
  obtain ⟨p', sound', -, running⟩ := sound.start started
  obtain ⟨q, sound'', later⟩ := sound'.run run
  refine Option.eq_none_iff_forall_ne_some.2 fun again started => ?_
  have unstarted : q.state = .notStarted :=
    (sound''.isSome_startPool? refusals').1 (Option.isSome_of_eq_some started)
  have forward := later.forward
  rw [running, unstarted] at forward
  exact absurd forward (by decide)

/-- **The life of a pool.** However calls that start the pool, resize it and shut it down interleave
    with the steps of its workers and with everything else, and whatever threads the system
    refuses:

    * once a shutdown has taken effect every worker has its stop flag set, and a pool that has
      terminated has no worker on the table, and none that counts;
    * every step moves the state forward or leaves it, hires only into a running pool, and joins
      only who has reported its exit;
    * whatever happens later, a worker that is told to stop begins no other fetch, and one that
      was joined or left to itself stays so;
    * a pool can be started only if it has not been, runs then, and is not started again;
    * a shutdown that begins makes a running pool shut down, and is the one that waits for the
      workers; it leaves all workers with their stop flags set, and in all that happens later
      they stay set and no worker is hired;
    * a shutdown that no longer waits leaves the pool terminated. -/
theorem lifecycle {name : String} {settings : PoolSettings} {single : Bool}
    {policy : FailurePolicy} (stops : t₀.stops = [])
    (new : t₀.service.pools[pool]? = some (.new name settings single policy))
    (run : ReflTransGen (Step number pool) t₀ t) :
    ∃ p, t.service.pools[pool]? = some p ∧
      (p.Ending → ∀ w ∈ p.workers, w.stop = true) ∧
      (p.state = .terminated → p.isManned = false ∧ p.active = 0) ∧
      (∀ t', Step number pool t t' →
        ∃ p', t'.service.pools[pool]? = some p' ∧ p.Moves p') ∧
      (∀ t', ReflTransGen (Step number pool) t t' →
        ∃ p', t'.service.pools[pool]? = some p' ∧ p.Later p') ∧
      (∀ refusals,
        ((t.service.startPool? pool refusals).isSome = true ↔ p.state = .notStarted) ∧
        ∀ s answer, t.service.startPool? pool refusals = some (s, answer) →
          (∃ p', s.pools[pool]? = some p' ∧ p'.state = .running) ∧
          ∀ t' refusals', ReflTransGen (Step number pool) (t.withService s) t' →
            t'.service.startPool? pool refusals' = none) ∧
      ((t.beginStop pool p).stops =
          (if p.state = .running then none :: t.stops else t.stops) ∧
        ∃ p', (t.beginStop pool p).service.pools[pool]? = some p' ∧
          p'.state = p.state.afterStop ∧ p'.workers.length = p.workers.length ∧
          (∀ w ∈ p'.workers, w.stop = true) ∧
          ∀ t', ReflTransGen (Step number pool) (t.beginStop pool p) t' →
            ∃ p'', t'.service.pools[pool]? = some p'' ∧ p'.Later p'' ∧
              p''.workers.length = p.workers.length ∧ ∀ w ∈ p''.workers, w.stop = true) ∧
      ∀ i, t.stops[i]? = some none →
        ∃ p', (t.endStop pool i).service.pools[pool]? = some p' ∧ p'.state = .terminated := by
  obtain ⟨p, sound, -⟩ := (sound_new stops new).run run
  refine ⟨p, sound.found, sound.told, sound.unmanned, fun t' step => ?_, fun t' later => ?_,
    fun refusals => ⟨sound.isSome_startPool? refusals, fun s answer started => ⟨?_, ?_⟩⟩,
    ⟨?_, ?_⟩, fun i waits => ?_⟩
  · obtain ⟨p', sound', moves⟩ := step.sound sound
    exact ⟨p', sound'.found, moves⟩
  · obtain ⟨p', sound', later⟩ := sound.run later
    exact ⟨p', sound'.found, later⟩
  · obtain ⟨p', sound', -, running⟩ := sound.start started
    exact ⟨p', sound'.found, running⟩
  · exact fun t' refusals' run => sound.startsOnce started run refusals'
  · unfold PoolWithShutdowns.beginStop Pool.beginStop
    cases state : p.state <;> rfl
  · have begun := sound.beginStop
    exact ⟨_, begun.found, p.state_beginStop_eq, p.length_beginStop,
      begun.told p.ending_beginStop, fun t' run => sound.closed run⟩
  · exact ⟨_, (sound.endStop waits).found, rfl⟩

/-! ## A life that can be played -/

/-- A step that is told by who takes it. -/
inductive Cue where
  | worker (worker : ℕ)
  | start
  | beginStop
  | take
  | join
  | endStop

/-- The service after a step, if the step is possible. -/
def cue? (number pool : ℕ) (t : PoolWithShutdowns ε) : Cue → Option (PoolWithShutdowns ε)
  | .worker worker => (t.service.step? number pool worker).map t.withService
  | .start => (t.service.startPool? pool).map fun s => t.withService s.1
  | .beginStop => (t.service.pools[pool]?).map fun p => t.beginStop pool p
  | .take =>
    match t.service.pools[pool]?, t.stops[0]? with
    | some p, some none =>
      match p.exits with
      | id :: left => some (t.takeReport pool 0 id left)
      | [] => none
    | _, _ => none
  | .join =>
    match t.stops[0]? with
    | some (some id) => some (t.joinWorker pool 0 id)
    | _ => none
  | .endStop =>
    match t.stops[0]? with
    | some none => some (t.endStop pool 0)
    | _ => none

theorem step_of_cue? {cue : Cue} (h : t.cue? number pool cue = some t') :
    Step number pool t t' := by
  cases cue with
  | worker worker =>
    obtain ⟨s, step, rfl⟩ := Option.map_eq_some_iff.1 h
    exact .worker worker noRefusals step
  | start =>
    obtain ⟨⟨s, answer⟩, started, rfl⟩ := Option.map_eq_some_iff.1 h
    exact .start noRefusals started
  | beginStop =>
    obtain ⟨p, found, rfl⟩ := Option.map_eq_some_iff.1 h
    exact .beginStop found
  | take =>
    unfold cue? at h
    simp only at h
    split at h
    · rename_i found waits
      split at h
      · rename_i reports
        obtain rfl := Option.some.inj h
        exact .take found waits reports
      · exact absurd h (by simp)
    · exact absurd h (by simp)
  | join =>
    unfold cue? at h
    simp only at h
    split at h
    · rename_i holds
      obtain rfl := Option.some.inj h
      exact .join holds
    · exact absurd h (by simp)
  | endStop =>
    unfold cue? at h
    simp only at h
    split at h
    · rename_i waits
      obtain rfl := Option.some.inj h
      exact .endStop waits
    · exact absurd h (by simp)

/-- A pool is started and has one worker; a shutdown begins and tells it to stop; the worker
    reports its exit and is joined. -/
theorem lifecycle_joined : ∃ (t₀ t t' : PoolWithShutdowns ℕ) (p p₁ p' : Pool ℕ),
    ReflTransGen (Step 0 0) t₀ t ∧ t.service.pools[0]? = some p ∧ p.state = .running ∧
      p.workers.map (·.stop) = [false] ∧
      (t.beginStop 0 p).service.pools[0]? = some p₁ ∧ p₁.state = .shuttingDown ∧
      p₁.workers.length = 1 ∧ (∀ w ∈ p₁.workers, w.stop = true) ∧
      ReflTransGen (Step 0 0) (t.beginStop 0 p) t' ∧ t'.service.pools[0]? = some p' ∧
      p'.state = .terminated ∧ p'.workers.map (·.membership) = [.joined] ∧
      p'.workers.length = 1 ∧ p'.isManned = false ∧ p'.active = 0 := by
  let t₀ : PoolWithShutdowns ℕ := ⟨.plain "stage" .default .idle, []⟩
  let cues : List Cue := [.worker 0, .worker 0, .worker 0, .take, .join, .endStop]
  have opened : (t₀.cue? 0 0 .start).bind (fun t => (t.service.pools[0]?).map fun p =>
      (p.state, p.workers.map (·.stop), ((cues.foldlM (cue? 0 0) (t.beginStop 0 p)).bind
        fun t => (t.service.pools[0]?).map fun p => (p.state, p.workers.map (·.membership))))) =
        some (.running, [false], some (.terminated, [.joined])) := by decide +kernel
  obtain ⟨t, began, loaded⟩ := Option.bind_eq_some_iff.1 opened
  obtain ⟨p, found, same⟩ := Option.map_eq_some_iff.1 loaded
  obtain ⟨running, rest⟩ := Prod.mk.inj same
  obtain ⟨goes, played⟩ := Prod.mk.inj rest
  obtain ⟨t', ran, loaded⟩ := Option.bind_eq_some_iff.1 played
  obtain ⟨p', found', same⟩ := Option.map_eq_some_iff.1 loaded
  obtain ⟨ended, joined⟩ := Prod.mk.inj same
  have first : ReflTransGen (Step 0 0) t₀ t := .single (step_of_cue? began)
  have later : ReflTransGen (Step 0 0) (t.beginStop 0 p) t' :=
    run_of_foldlM (fun _ _ _ => step_of_cue?) ran
  have one : p.workers.length = 1 := by
    rw [← List.length_map (·.stop), goes]
    rfl
  obtain ⟨q, known, -, -, -, -, -, ⟨-, p₁, found₁, state₁, length₁, told₁, closed⟩, -⟩ :=
    lifecycle rfl rfl first
  obtain rfl := Option.some.inj (found.symm.trans known)
  obtain ⟨q', known', -, length', -⟩ := closed t' later
  obtain rfl := Option.some.inj (found'.symm.trans known')
  have shut : p₁.state = .shuttingDown := by
    rw [state₁, running]
    rfl
  obtain ⟨q'', known'', -, bare, -⟩ :=
    lifecycle rfl rfl ((first.tail (.beginStop found)).trans later)
  obtain rfl := Option.some.inj (found'.symm.trans known'')
  exact ⟨t₀, t, t', p, p₁, p', first, found, running, goes, found₁, shut, length₁.trans one, told₁,
    later, found', ended, joined, length'.trans one, bare ended⟩

end PoolWithShutdowns

end StagedEvents
