import StagedEvents.Proofs.Service.Crew

/-!
# How many workers serve a stage

What the settings of a pool promise, in whatever order producers, workers, resizes and the
backlog act on it, and whichever threads the system refuses.

* `workers_between_bounds`: as long as its queue is open and no worker breaks off, a running
  pool has as many workers as its settings allow, no number is given twice, only workers that
  were told to stop are taken off the table, and a resize has the effect that it answers.
* `FallsShort`, `fewer_than_least_failed`: a pool whose start failed has fewer than it must have.
* `handling_within_most`: no more workers are in the handler than there may be, but for those
  that were told to stop by a resize and are not done yet.
-/

namespace StagedEvents

variable {ε : Type}

/-- What is carried out step by step is a run of all that the steps do. -/
theorem run_of_foldlM {σ κ : Type} {R : σ → σ → Prop} {step : σ → κ → Option σ}
    (moves : ∀ s k s', step s k = some s' → R s s') {cues : List κ} {s s' : σ}
    (h : cues.foldlM step s = some s') : Relation.ReflTransGen R s s' := by
  induction cues generalizing s with
  | nil =>
    obtain rfl := Option.some.inj h
    exact .refl
  | cons cue rest ih =>
    rw [List.foldlM_cons] at h
    obtain ⟨between, first, others⟩ := Option.bind_eq_some_iff.1 h
    exact .head (moves s cue between first) (ih others)

/-- A service with one pool, an unbounded queue behind an open gate, and no loops. -/
def Service.plain (name : String) (settings : PoolSettings) (handler : Handler ε) : Service ε :=
  let channel : Channel Float ε :=
    { sink := { queue := .withCapacity none, gate := .openToAll, stats := .new }
      sorter := .drainAll }
  let stage : Stage ε :=
    { name, capability := .concurrent, exchange := .ofChannel channel, loops := [], dials := []
      gateDial? := none, pool := settings, handler, latch := .shut, latest := [], life := [] }
  { stage, pools := [.new name settings false .carryOn] }

theorem Service.unstarted_plain (name : String) (settings : PoolSettings) (handler : Handler ε) :
    (plain name settings handler).Unstarted :=
  ⟨rfl, fun _ mem => ⟨name, settings, false, .carryOn, List.mem_singleton.1 mem⟩⟩

theorem Service.calm_plain (name : String) (settings : PoolSettings) (handler : Handler ε) :
    (plain name settings handler).Calm 0 := by
  refine ⟨rfl, fun p found v mem => ?_⟩
  obtain rfl := Option.some.inj found
  exact absurd mem List.not_mem_nil

/-- A handler that holds every batch at the latch of its stage. -/
def Handler.holding : Handler ε :=
  { refusal? := none, plan := fun _ _ => .hold (.finish .handled), lastFailure? := none }

namespace Watched

/-! ## Runs that can be played -/

/-- A move that is told by who makes it. -/
inductive Cue (ε : Type) where
  | offer (event : ε)
  | worker (pool worker : ℕ)
  | start (pool : ℕ)
  | resize (pool size : ℕ)

/-- The service after a move, if the move is possible. -/
def cue? (number : ℕ) (w : Watched ε) : Cue ε → Option (Watched ε)
  | .offer event =>
    let call : Call ε := .enqueue true event
    some (w.withExchange (w.service.stage.exchange.atOnce call).1
      (call.published (w.service.stage.exchange.channel.step call false).progress))
  | .worker pool worker => (w.service.step? number pool worker).map fun s =>
    w.judged s ((w.service.worker? pool worker).bind Worker.verdict?)
  | .start pool => (w.service.startPool? pool).map fun s => w.withService s.1
  | .resize pool size => some (w.withService (w.service.resizePool pool size).1)

/-- The service after several moves, if all are possible. -/
def play? (number : ℕ) (cues : List (Cue ε)) (w : Watched ε) : Option (Watched ε) :=
  cues.foldlM (cue? number) w

theorem move_of_cue? {number : ℕ} {w w' : Watched ε} {cue : Cue ε}
    (h : w.cue? number cue = some w') : Move number w w' := by
  cases cue with
  | offer event =>
    obtain rfl := Option.some.inj h
    exact .atOnce (.enqueue true event) True.intro
  | worker pool worker =>
    obtain ⟨s, step, rfl⟩ := Option.map_eq_some_iff.1 h
    exact .worker pool worker noRefusals step
  | start pool =>
    obtain ⟨⟨s, answer⟩, started, rfl⟩ := Option.map_eq_some_iff.1 h
    exact .start pool noRefusals started
  | resize pool size =>
    obtain rfl := Option.some.inj h
    exact .resize pool size noRefusals

theorem run_of_play? {number : ℕ} {cues : List (Cue ε)} {w w' : Watched ε}
    (h : w.play? number cues = some w') : Relation.ReflTransGen (Move number) w w' :=
  run_of_foldlM (fun _ _ _ => move_of_cue?) h

/-! ## The size of a pool -/

variable {number pool : ℕ} {w₀ w w' : Watched ε} {p : Pool ε} {name : String}
  {settings : PoolSettings} {single : Bool} {policy : FailurePolicy}

/-- What is so of a pool in every state of a service. -/
structure Serves (pool : ℕ) (name : String) (settings : PoolSettings) (P : Pool ε → Prop)
    (w : Watched ε) : Prop where
  crewed : w.service.Crewed
  served : ∃ p, w.service.pools[pool]? = some p ∧ p.stageName = name ∧ p.settings = settings ∧ P p

/-- What every change of a pool keeps is so in every state that the moves lead to. -/
theorem Serves.run {P : Pool ε → Prop} {allowed : Watched ε → Watched ε → Prop}
    (start : Serves pool name settings P w₀)
    (keeps : ∀ w w' p p', allowed w w' → w.service.Crewed → w.service.pools[pool]? = some p →
      P p → p.Change w.service.Quits (Shrinks pool w w') (StartFails pool w w') p' → P p')
    (run : Relation.ReflTransGen (fun w w' => allowed w w' ∧ Move number w w') w₀ w) :
    Serves pool name settings P w := by
  induction run with
  | refl => exact start
  | tail _ step ih =>
    obtain ⟨may, move⟩ := step
    obtain ⟨p, found, named, set, h⟩ := ih.served
    obtain ⟨p', found', same | change⟩ := move.change ih.crewed found
    · exact ⟨move.crewed ih.crewed, p', found', same ▸ ⟨named, set, h⟩⟩
    · obtain ⟨named', set'⟩ := change.frame_eq
      exact ⟨move.crewed ih.crewed, p', found', named'.trans named, set'.trans set,
        keeps _ _ p p' may ih.crewed found h change⟩

/-- **The size of a pool.** However starts, resizes, retirements, growth for the backlog, exits
    and all that producers do interleave, and whatever threads the system refuses, as long as
    the queue is open and no worker breaks off: a running pool has no more workers than it may
    have, and the most it ever had is between; unless its start failed, it has no fewer than it
    must have; no two workers have the same number; whatever happens next, once there are
    enough workers there still are, no worker is forgotten, and none is taken off the table of
    the running pool but those that were told to stop; and a resize answers the number it was
    asked for, moved between the bounds, and leaves so many workers, if the system gives the
    threads it takes. Refused one, it answers why, and leaves those there were and those it
    added before. -/
theorem workers_between_bounds (unstarted : w₀.service.Unstarted)
    (new : w₀.service.pools[pool]? = some (.new name settings single policy))
    (run : Relation.ReflTransGen (fun w w' => w.service.Calm pool ∧ Move number w w') w₀ w)
    (found : w.service.pools[pool]? = some p) (running : p.state = .running) :
    (p.settings = (Pool.new name settings single policy : Pool ε).settings ∧
      p.active ≤ p.settings.most ∧ p.active ≤ p.largest ∧ p.largest ≤ p.settings.most) ∧
    (Relation.ReflTransGen (fun w w' => (w.service.Calm pool ∧ ¬ StartFails pool w w') ∧
      Move number w w') w₀ w → p.settings.least ≤ p.active) ∧
    (p.workers.map (·.id)).Nodup ∧
    (∀ w' p', Move number w w' → w'.service.pools[pool]? = some p' →
      (w.service.Calm pool → p.settings.least ≤ p.active → p'.state = .running →
        p'.settings.least ≤ p'.active) ∧
      ∀ v ∈ p.workers, ∃ v' ∈ p'.workers, v'.id = v.id ∧ (p'.state = .running →
        v.membership = .listed → v.stop = false → v'.membership = .listed)) ∧
    ∀ size refusals, ∃ p', (w.service.resizePool pool size refusals).1.pools[pool]? = some p' ∧
      (p.Grants refusals (p.settings.clampSize size - p.active) →
        (w.service.resizePool pool size refusals).2 = .ok (.ok (p.settings.clampSize size)) ∧
          p'.active = p.settings.clampSize size) ∧
      ∀ count reason, namesWorkers name = true → p.Grants refusals count →
        count < p.settings.clampSize size - p.active → refusals (p.next + count) = some reason →
        (w.service.resizePool pool size refusals).2 = .ok (.error (.threadSpawn reason)) ∧
          p'.active = p.active + count := by
  let config := (Pool.new name settings single policy : Pool ε).settings
  have start : Serves pool name config Pool.Poised w₀ :=
    ⟨unstarted.crewed, _, new, rfl, rfl, fun _ mem => absurd mem List.not_mem_nil⟩
  have serves := start.run (fun w w' p p' calm crewed found poised change =>
    change.poised (crewed.kept p (List.mem_of_getElem? found)) (calm.noQuits crewed found)
      poised) run
  obtain ⟨crewed, q, found', known, set, poised⟩ := serves
  obtain rfl := Option.some.inj (found.symm.trans found')
  have kept := crewed.kept p (List.mem_of_getElem? found)
  refine ⟨⟨set, kept.active_le_most, kept.active_le, kept.largest_le⟩, fun succeeds => ?_,
    kept.numbered.nodup, fun w' p' move found' => ?_, fun size refusals => ?_⟩
  · have start : Serves pool name config
        (fun p => p.Poised ∧ (p.state = .running → p.settings.least ≤ p.active)) w₀ :=
      ⟨unstarted.crewed, _, new, rfl, rfl, fun _ mem => absurd mem List.not_mem_nil,
        fun running => absurd running (by simp [Pool.new])⟩
    have serves := start.run (fun w w' p p' may crewed found h change => by
      have kept := crewed.kept p (List.mem_of_getElem? found)
      exact ⟨change.poised kept (may.1.noQuits crewed found) h.1,
        change.enough kept h.1 may.2 h.2⟩) succeeds
    obtain ⟨-, q, found', -, -, -, enough⟩ := serves
    obtain rfl := Option.some.inj (found.symm.trans found')
    exact enough running
  · obtain ⟨q, known', same | change⟩ := move.change crewed found
    · obtain rfl := Option.some.inj (found'.symm.trans known')
      exact ⟨fun _ enough _ => same ▸ enough, fun v mem =>
        ⟨v, same ▸ mem, rfl, fun _ listed _ => listed⟩⟩
    · obtain rfl := Option.some.inj (found'.symm.trans known')
      exact ⟨fun _ => change.enough_of_running kept poised running,
        fun v => change.successor kept⟩
  · have here : (w.service.resizePool pool size refusals).1.pools[pool]? =
        some (p.resize w.service.clock refusals size).1 := by
      obtain ⟨lt, -⟩ := List.getElem?_eq_some_iff.1 found
      rw [Service.resizePool_eq, Service.mapPool_set found]
      exact List.getElem?_set_self lt
    have answer : (w.service.resizePool pool size refusals).2 =
        (p.resize w.service.clock refusals size).2 := by
      rw [Service.resizePool, found]
    rw [answer]
    refine ⟨_, here, fun grants => ?_, fun count reason named grants lt refused => ?_⟩
    · exact Pool.resize_of_grants kept running grants w.service.clock
    · exact Pool.resize_of_refused kept running (known ▸ named) lt grants refused w.service.clock

/-- A pool with room for three starts with two workers. A resize to five gives it three, and
    is told why if there is no thread for the third. -/
theorem workers_between_bounds_started : ∃ (w : Watched ℕ) (p : Pool ℕ),
    w.service.pools[0]? = some p ∧ p.state = .running ∧ p.active = 2 ∧ p.active ≤ p.largest ∧
      (w.service.resizePool 0 5).2 = .ok (.ok 3) ∧
      (w.service.resizePool 0 5 fun _ => some "no thread").2 =
        .ok (.error (.threadSpawn "no thread")) := by
  let w₀ : Watched ℕ :=
    ⟨.plain "stage" { PoolSettings.default with initial := 2, most := 3 } .idle, [], []⟩
  obtain ⟨w, p, run, found, running, active, size, named⟩ : ∃ w p,
      Relation.ReflTransGen (fun w w' => w.service.Calm 0 ∧ Move 0 w w') w₀ w ∧
        w.service.pools[0]? = some p ∧ p.state = .running ∧ p.active = 2 ∧
        p.settings.clampSize 5 = 3 ∧ namesWorkers p.stageName = true :=
    ⟨_, _, .single ⟨Service.calm_plain _ _ _, .start 0 noRefusals rfl⟩, rfl, by decide, by decide,
      by decide, by decide⟩
  obtain ⟨⟨-, -, largest, -⟩, -, -, -, resized⟩ := workers_between_bounds
    (Service.unstarted_plain "stage" _ .idle) rfl run found running
  obtain ⟨p', -, granted, -⟩ := resized 5 noRefusals
  obtain ⟨p'', -, -, refused⟩ := resized 5 fun _ => some "no thread"
  refine ⟨w, p, found, running, active, largest, ?_, ?_⟩
  · rw [(granted fun _ _ => ⟨named, rfl⟩).1, size]
  · have more : 0 < p.settings.clampSize 5 - p.active := by rw [size, active]; decide
    exact (refused 0 "no thread" (by decide) (Pool.grants_zero _ _) more rfl).1

/-- A pool with default settings is started for the named stage, and the system refuses its
    threads if there is a refusal. It runs then with fewer workers than it must have, and a
    resize does not answer that there is one. -/
def FallsShort (name : String) (refusal? : Option String) : Prop :=
  ∃ (w₀ w : Watched ℕ) (p : Pool ℕ), w₀.service.Unstarted ∧
    w₀.service.pools[0]? = some (.new name .default false .carryOn) ∧
    Relation.ReflTransGen (fun w w' => w.service.Calm 0 ∧ Move 0 w w') w₀ w ∧
    w.service.pools[0]? = some p ∧ p.state = .running ∧ p.active < p.settings.least ∧
    (w.service.resizePool 0 1 fun _ => refusal?).2 ≠ .ok (.ok 1)

/-- A pool whose first worker cannot be named falls short, and so does one whose first worker
    gets no thread. -/
theorem fewer_than_least_failed :
    FallsShort "\x00" none ∧ FallsShort "stage" (some "no thread") := by
  constructor
  · exact ⟨⟨.plain "\x00" .default .idle, [], []⟩, _, _, Service.unstarted_plain _ _ _, rfl,
      .single ⟨Service.calm_plain _ _ _, .start 0 (fun _ => none) rfl⟩, rfl, rfl, Nat.zero_lt_one,
      by decide⟩
  · exact ⟨⟨.plain "stage" .default .idle, [], []⟩, _, _, Service.unstarted_plain _ _ _, rfl,
      .single ⟨Service.calm_plain _ _ _, .start 0 (fun _ => some "no thread") rfl⟩, rfl, rfl,
      Nat.zero_lt_one, by decide⟩

/-! ## The number of workers in the handler -/

/-- **The number of workers in the handler.** However starts, resizes, growth for the backlog,
    retirements and steps of workers interleave: no more workers of a running pool that were not
    told to stop are in the handler than there may be; and if the pool was never told to have
    fewer workers than count, no more workers are in the handler than there may be. -/
theorem handling_within_most (unstarted : w₀.service.Unstarted)
    (new : w₀.service.pools[pool]? = some (.new name settings single policy))
    (run : Relation.ReflTransGen (Move number) w₀ w)
    (found : w.service.pools[pool]? = some p) (running : p.state = .running) :
    p.settings = (Pool.new name settings single policy : Pool ε).settings ∧
    (p.workers.countP fun v => v.isHandling && !v.stop) ≤ p.settings.most ∧
    (Relation.ReflTransGen (fun w w' => ¬ Shrinks pool w w' ∧ Move number w w') w₀ w →
      p.workers.countP Worker.isHandling ≤ p.settings.most) := by
  let config := (Pool.new name settings single policy : Pool ε).settings
  have start : Serves pool name config (fun _ => True) w₀ :=
    ⟨unstarted.crewed, _, new, rfl, rfl, True.intro⟩
  have steps : Relation.ReflTransGen (fun w w' => True ∧ Move number w w') w₀ w :=
    Relation.ReflTransGen.mono (fun _ _ move => ⟨True.intro, move⟩) w₀ w run
  obtain ⟨crewed, q, found', -, set, -⟩ := start.run (fun _ _ _ _ _ _ _ _ _ => True.intro) steps
  obtain rfl := Option.some.inj (found.symm.trans found')
  have kept := crewed.kept p (List.mem_of_getElem? found)
  refine ⟨set, ?_, fun grows => ?_⟩
  · refine Nat.le_trans (List.countP_mono_left fun v _ goes => ?_) (kept.going_le running)
    obtain ⟨handles, goes⟩ := Bool.and_eq_true_iff.1 goes
    exact Bool.and_eq_true_iff.2 ⟨Worker.isInRound_of_isHandling handles, goes⟩
  · have start : Serves pool name config (fun p => p.state = .running → p.Unhurried) w₀ :=
      ⟨unstarted.crewed, _, new, rfl, rfl, fun running => absurd running (by simp [Pool.new])⟩
    have serves := start.run (fun w w' p p' grows crewed found h change =>
      change.unhurried (crewed.kept p (List.mem_of_getElem? found))
        (fun shrinks => absurd shrinks grows) h) grows
    obtain ⟨-, q, found', -, -, unhurried⟩ := serves
    obtain rfl := Option.some.inj (found.symm.trans found')
    refine Nat.le_trans (List.countP_mono_left fun v _ handles => ?_)
      (kept.inRound_le running (unhurried running))
    exact Worker.isInRound_of_isHandling handles

/-- Two workers whose handler holds every batch. -/
def held : Watched ℕ :=
  ⟨.plain "stage" { PoolSettings.default with initial := 2, most := 2 } .holding, [], []⟩

/-- An event comes, and the worker goes on until it is in the handler with it. -/
def hand (worker : ℕ) : List (Cue ℕ) := .offer worker :: List.replicate 4 (.worker 0 worker)

/-- The state of the pool, how many of its workers are in the handler, and how many may be. -/
def load? (w : Watched ε) : Option (PoolState × ℕ × ℕ) :=
  (w.service.pools[0]?).map fun p =>
    (p.state, p.workers.countP Worker.isHandling, p.settings.most)

/-- What the load says of a service that was played. -/
theorem exists_of_load? {cues : List (Cue ℕ)} {state : PoolState} {handling most : ℕ}
    (h : (held.play? 0 cues).bind load? = some (state, handling, most)) :
    ∃ w p, Relation.ReflTransGen (Move 0) held w ∧ w.service.pools[0]? = some p ∧
      p.state = state ∧ p.workers.countP Worker.isHandling = handling ∧
      p.settings.most = most := by
  obtain ⟨w, ran, loaded⟩ := Option.bind_eq_some_iff.1 h
  obtain ⟨p, found, same⟩ := Option.map_eq_some_iff.1 loaded
  simp only [Prod.mk.injEq] at same
  exact ⟨w, p, run_of_play? ran, found, same⟩

/-- Both workers of a pool that may have two are in the handler. -/
theorem handling_within_most_both : ∃ (w : Watched ℕ) (p : Pool ℕ),
    w.service.pools[0]? = some p ∧ p.workers.countP Worker.isHandling = 2 ∧
      p.settings.most = 2 ∧ (p.workers.countP fun v => v.isHandling && !v.stop) ≤ 2 := by
  have played : (held.play? 0 (.start 0 :: hand 0 ++ hand 1)).bind load? =
      some (.running, 2, 2) := by decide +kernel
  obtain ⟨w, p, run, found, running, handling, most⟩ := exists_of_load? played
  obtain ⟨-, going, -⟩ :=
    handling_within_most (Service.unstarted_plain "stage" _ .holding) rfl run found running
  exact ⟨w, p, found, handling, most, most ▸ going⟩

/-- Three workers are in the handler of a pool that may have two, after it was told to have one
    and then two again. -/
theorem handling_exceeds_most_resized : ∃ (w₀ w : Watched ℕ) (p : Pool ℕ),
    w₀.service.Unstarted ∧ Relation.ReflTransGen (Move 0) w₀ w ∧
      w.service.pools[0]? = some p ∧ p.state = .running ∧
      p.settings.most < p.workers.countP Worker.isHandling := by
  have played : (held.play? 0
      (.start 0 :: hand 0 ++ hand 1 ++ [.resize 0 1, .resize 0 2] ++ hand 2)).bind load? =
        some (.running, 3, 2) := by decide +kernel
  obtain ⟨w, p, run, found, running, handling, most⟩ := exists_of_load? played
  refine ⟨held, w, p, Service.unstarted_plain _ _ _, run, found, running, ?_⟩
  rw [handling, most]
  decide

end Watched

end StagedEvents
