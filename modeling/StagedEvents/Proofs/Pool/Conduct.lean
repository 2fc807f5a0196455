import StagedEvents.Proofs.Pool.Sections

/-!
# The conduct of a pool

All that happens to a pool is one of its sections, or an act of one of its workers. Told here
is what is so of every pool in whatever order these come: no more workers count than it may
have, and those on the table are those it has neither joined nor left to themselves.

* `Worker.Act`, `Pool.Change`: what can happen to a pool.
* `Pool.Kept`, `Change.kept`: what is so of every pool.
* `Change.flags`: what relates the stop flags of workers to where they are.
-/

namespace StagedEvents

variable {ε : Type}

namespace Duty

/-- Whether a worker at this point is on its way out, and will fetch no more. -/
def isOut : Duty ε → Bool
  | .leaving | .reporting | .gone => true
  | _ => false

/-- Whether a worker at this point has set its own stop flag on its way out. -/
def hasStopped : Duty ε → Bool
  | .reporting | .gone => true
  | _ => false

theorem isOut_of_hasStopped {d : Duty ε} (h : d.hasStopped = true) : d.isOut = true := by
  cases d <;> first | rfl | exact absurd h (by simp [hasStopped])

end Duty

namespace Worker

/-- Whether the worker is in its round. -/
def isInRound (w : Worker ε) : Bool := !w.duty.isOut

theorem isInRound_of_duty {w : Worker ε} {d : Duty ε} (here : w.duty = d)
    (inRound : d.isOut = false) : w.isInRound = true := by
  rw [isInRound, here, inRound]
  rfl

theorem isInRound_of_isHandling {w : Worker ε} (h : w.isHandling = true) :
    w.isInRound = true := by
  unfold isHandling at h
  split at h
  · rename_i handling
    exact isInRound_of_duty handling rfl
  · exact absurd h (by simp)

/-- What a worker does by itself, told by the worker afterwards. One that is told to stop
    leaves its round, and so does one that `quits`. -/
inductive Act (quits : Worker ε → Prop) (w : Worker ε) : Worker ε → Prop where
  | turn {duty : Duty ε} (inRound : w.isInRound = true) (stays : duty.isOut = false)
      (idleSince : ℕ) : Act quits w { w with duty, idleSince }
  | quit (cause : w.stop = true ∨ quits w) (inRound : w.isInRound = true) :
      Act quits w { w with duty := .leaving }
  | stop (leaves : w.duty = .leaving) : Act quits w { w with stop := true, duty := .reporting }

/-- The worker is where its stop flag, the table and the reported exits say. -/
structure Fits (exits : List ℕ) (state : PoolState) (w : Worker ε) : Prop where
  stopped : w.duty.hasStopped = true → w.stop = true
  reported : w.id ∈ exits → w.duty = .gone
  joined : w.membership = .joined → w.duty = .gone
  detached : w.membership = .detached → state = .terminated

variable {quits : Worker ε → Prop} {exits : List ℕ} {state : PoolState} {w w' : Worker ε}

theorem Fits.gone (h : w.Fits exits state) (gone : w.duty = .gone) : w.stop = true :=
  h.stopped (by rw [gone]; rfl)

theorem fits_hired (id clock : ℕ) (state : PoolState) : (hired id clock : Worker ε).Fits [] state :=
  ⟨fun h => absurd h (by simp [hired, Duty.hasStopped]), fun h => absurd h List.not_mem_nil,
    fun h => absurd h (by simp [hired]), fun h => absurd h (by simp [hired])⟩

theorem Fits.attended (h : w.Fits exits state) : (w.attended exits).Fits [] state := by
  by_cases reported : w.id ∈ exits ∧ w.membership = .listed
  · rw [Worker.attended, if_pos reported]
    exact ⟨h.stopped, fun h => absurd h List.not_mem_nil, fun _ => h.reported reported.1,
      fun detached => absurd detached (by simp)⟩
  · rw [Worker.attended, if_neg reported]
    exact ⟨h.stopped, fun h => absurd h List.not_mem_nil, h.joined, h.detached⟩

theorem Fits.told (h : w.Fits exits state) :
    ({ w with stop := true } : Worker ε).Fits exits state :=
  ⟨fun _ => rfl, h.reported, h.joined, h.detached⟩

theorem Fits.inState (h : w.Fits exits state) {state' : PoolState}
    (ends : state = .terminated → state' = .terminated) : w.Fits exits state' :=
  ⟨h.stopped, h.reported, h.joined, fun detached => ends (h.detached detached)⟩

theorem Fits.left (h : w.Fits exits state) :
    ({ w with membership := .detached } : Worker ε).Fits exits .terminated :=
  ⟨h.stopped, h.reported, fun joined => absurd joined (by simp), fun _ => rfl⟩

/-- A worker that is not gone has reported no exit, and no one has joined it. -/
theorem Fits.goesOn (h : w.Fits exits state) (here : w.duty ≠ .gone) {stop : Bool}
    {duty : Duty ε} (stopped : duty.hasStopped = true → stop = true) (idleSince : ℕ) :
    ({ w with stop, duty, idleSince } : Worker ε).Fits exits state :=
  ⟨stopped, fun reported => absurd (h.reported reported) here,
    fun joined => absurd (h.joined joined) here, h.detached⟩

theorem ne_gone_of_isInRound (h : w.isInRound = true) : w.duty ≠ .gone := fun gone => by
  simp [isInRound, gone, Duty.isOut] at h

namespace Act

theorem id_eq (act : Act quits w w') : w'.id = w.id := by
  cases act <;> rfl

theorem membership_eq (act : Act quits w w') : w'.membership = w.membership := by
  cases act <;> rfl

theorem isInRound_of_isInRound (act : Act quits w w') (h : w'.isInRound = true) :
    w.isInRound = true := by
  cases act with
  | turn inRound | quit cause inRound => exact inRound
  | stop leaves => exact absurd h (by simp [isInRound, Duty.isOut])

theorem isActive_of_isActive (act : Act quits w w') (h : w'.isActive = true) :
    w.isActive = true := by
  cases act with
  | turn | quit => exact h
  | stop leaves => exact absurd h (by simp [isActive])

theorem fits (act : Act quits w w') (h : w.Fits exits state) : w'.Fits exits state := by
  cases act with
  | @turn duty inRound stays idleSince =>
    refine h.goesOn (ne_gone_of_isInRound inRound) (fun stopped => ?_) idleSince
    rw [Duty.isOut_of_hasStopped stopped] at stays
    exact absurd stays (by simp)
  | quit cause inRound =>
    exact h.goesOn (ne_gone_of_isInRound inRound)
      (fun stopped => absurd stopped (by simp [Duty.hasStopped])) w.idleSince
  | stop leaves => exact h.goesOn (by simp [leaves]) (fun _ => rfl) w.idleSince

end Act

end Worker

namespace PoolSettings

variable {s : PoolSettings}

theorem least_le_clampSize (s : PoolSettings) (size : ℕ) : s.least ≤ s.clampSize size :=
  Nat.le_max_left _ _

theorem InOrder.clampSize_le (h : s.InOrder) (size : ℕ) : s.clampSize size ≤ s.most := by
  obtain ⟨-, least, initial⟩ := h
  unfold clampSize
  omega

end PoolSettings

namespace Pool

/-- What can happen to a pool whose workers leave their round by themselves only if they
    `quits`, which is told to shrink only if it `shrinks`, and which does not get all the
    workers it is to start with only if it `fails`. -/
inductive Change (quits : Worker ε → Prop) (shrinks fails : Prop) (p : Pool ε) :
    Pool ε → Prop where
  /-- A worker does something by itself. -/
  | act {w : Worker ε} {f : Worker ε → Worker ε} (mem : w ∈ p.workers) (act : w.Act quits (f w)) :
      Change quits shrinks fails p (p.mapWorker w.id f)
  /-- A worker reports its exit. -/
  | report {w : Worker ε} (mem : w ∈ p.workers) (reports : w.duty = .reporting) :
      Change quits shrinks fails p
        (mapWorker w.id (fun w => { w with duty := .gone }) { p with exits := p.exits ++ [w.id] })
  /-- A worker adds another for the backlog. -/
  | grow {w : Worker ε} (mem : w ∈ p.workers) (inRound : w.isInRound = true) (clock : ℕ)
      (refusals : ThreadRefusals) :
      Change quits shrinks fails p
        ((p.grow clock refusals).mapWorker w.id fun w => { w with duty := .checking })
  /-- A worker that can be done without retires. -/
  | retire {w : Worker ε} (mem : w ∈ p.workers) (inRound : w.isInRound = true)
      (spare : p.settings.least < p.active) :
      Change quits shrinks fails p
        (p.mapWorker w.id fun w => { w with stop := true, duty := .leaving })
  | start {p' : Pool ε} {clock : ℕ} {refusals : ThreadRefusals}
      {answer : Except Fault (Except StageError Unit)}
      (started : p.start? clock refusals = some (p', answer))
      (may : answer ≠ .ok (.ok ()) → fails) : Change quits shrinks fails p p'
  | resize (clock : ℕ) (refusals : ThreadRefusals) (size : ℕ)
      (may : p.settings.clampSize size < p.active → shrinks) :
      Change quits shrinks fails p (p.resize clock refusals size).1
  | beginStop : Change quits shrinks fails p p.beginStop.1
  | reap : Change quits shrinks fails p p.reapAll
  | endStop : Change quits shrinks fails p p.endStop

/-- What is so of a pool whatever happens to it. -/
structure Kept (p : Pool ε) : Prop where
  numbered : p.Numbered
  fits : ∀ w ∈ p.workers, w.Fits p.exits p.state
  unstarted : p.state = .notStarted → p.workers = []
  active_le : p.active ≤ p.largest
  largest_le : p.largest ≤ p.settings.most
  inOrder : p.settings.InOrder

variable {p p' : Pool ε} {quits : Worker ε → Prop} {shrinks fails : Prop} {clock : ℕ}
  {refusals : ThreadRefusals}

theorem kept_new (stageName : String) (settings : PoolSettings) (single : Bool)
    (policy : FailurePolicy) : (new stageName settings single policy : Pool ε).Kept :=
  ⟨numbered_of_empty rfl, fun _ mem => absurd mem List.not_mem_nil, fun _ => rfl, Nat.le_refl _,
    Nat.zero_le _, new_inOrder stageName settings single policy⟩

theorem Kept.exitsTold (kept : p.Kept) : p.ExitsTold := fun w mem reported =>
  (kept.fits w mem).gone ((kept.fits w mem).reported reported)

/-- In a running pool, whoever is still in its round is on the table. -/
theorem Kept.listed (kept : p.Kept) (running : p.state = .running) {w : Worker ε}
    (mem : w ∈ p.workers) (inRound : w.isInRound = true) : w.membership = .listed := by
  have fits := kept.fits w mem
  cases membership : w.membership with
  | listed => rfl
  | joined => exact absurd (fits.joined membership) (Worker.ne_gone_of_isInRound inRound)
  | detached =>
    have ended := fits.detached membership
    rw [running] at ended
    exact absurd ended (by simp)

theorem Kept.active_le_most (kept : p.Kept) : p.active ≤ p.settings.most :=
  Nat.le_trans kept.active_le kept.largest_le

/-! ## Sections -/

theorem Kept.reapAll (kept : p.Kept) : p.reapAll.Kept := by
  have active := active_reapAll kept.exitsTold
  have numbered := p.hires_reapAll.numbered kept.numbered
  rw [reapAll_eq] at active numbered ⊢
  refine ⟨numbered, fun w mem => ?_, fun unstarted => ?_, active ▸ kept.active_le,
    kept.largest_le, kept.inOrder⟩
  · obtain ⟨v, hv, rfl⟩ := List.mem_map.1 mem
    exact (kept.fits v hv).attended
  · exact List.map_eq_nil_iff.2 (kept.unstarted unstarted)

/-- To use up a number leaves a pool as it is but for the exits that were reported. -/
theorem Kept.takeNumber (kept : p.Kept) : p.takeNumber.Kept := by
  obtain ⟨-, fits, unstarted, active, largest, inOrder⟩ := kept.reapAll
  exact ⟨p.hires_takeNumber.numbered kept.numbered, fits, unstarted, active, largest, inOrder⟩

theorem state_spawn (clock : ℕ) (p : Pool ε) : (p.spawn clock).state = p.state :=
  congrArg (·.2.2) (p.frame_spawn clock)

theorem settings_spawn (clock : ℕ) (p : Pool ε) : (p.spawn clock).settings = p.settings :=
  congrArg (·.2.1) (p.frame_spawn clock)

theorem Kept.spawn (kept : p.Kept) (running : p.state = .running)
    (room : p.active < p.settings.most) (clock : ℕ) : (p.spawn clock).Kept := by
  have active := active_spawn kept.exitsTold clock
  have largest := largest_spawn kept.exitsTold clock
  have exits : (p.spawn clock).exits = [] := congrArg Pool.exits p.reapAll_eq
  refine ⟨(p.hires_spawn clock).numbered kept.numbered, fun w mem => ?_, fun unstarted => ?_,
    ?_, ?_, ?_⟩
  · rw [exits, state_spawn]
    rw [workers_spawn] at mem
    rcases List.mem_append.1 mem with mem | mem
    · have fits := kept.reapAll.fits w mem
      rw [reapAll_eq] at fits
      exact fits
    · exact List.mem_singleton.1 mem ▸ Worker.fits_hired _ clock p.state
  · rw [state_spawn, running] at unstarted
    exact absurd unstarted (by simp)
  · rw [active, largest]
    exact Nat.le_max_right _ _
  · rw [largest, settings_spawn]
    exact Nat.max_le.2 ⟨kept.largest_le, room⟩
  · rw [settings_spawn]
    exact kept.inOrder

theorem Kept.spawn? (kept : p.Kept) (running : p.state = .running)
    (room : p.active < p.settings.most) (clock : ℕ) (refusals : ThreadRefusals) :
    (p.spawn? clock refusals).1.Kept := by
  rcases spawn?_cases clock refusals p with added | ⟨answer, -, failed⟩
  · rw [added]
    exact kept.spawn running room clock
  · rw [failed]
    exact kept.takeNumber

theorem Kept.spawnMany? (kept : p.Kept) (running : p.state = .running) (clock : ℕ)
    (refusals : ThreadRefusals) {count : ℕ} (room : p.active + count ≤ p.settings.most) :
    (p.spawnMany? clock refusals count).1.Kept := by
  induction count generalizing p with
  | zero => exact kept
  | succ count ih =>
    rcases spawn?_cases clock refusals p with added | ⟨answer, failed, taken⟩
    · rw [spawnMany?_of_added added]
      refine ih (kept.spawn running (by omega) clock) ((state_spawn clock p).trans running) ?_
      rw [active_spawn kept.exitsTold, settings_spawn]
      omega
    · rw [spawnMany?_of_failed failed taken]
      exact kept.takeNumber

theorem Kept.start? (kept : p.Kept) {answer : Except Fault (Except StageError Unit)}
    (h : p.start? clock refusals = some (p', answer)) : p'.Kept := by
  unfold Pool.start? at h
  split at h
  · rename_i unstarted
    obtain rfl := congrArg Prod.fst (Option.some.inj h)
    have none : p.workers = [] := kept.unstarted unstarted
    have began : ({ p with state := .running } : Pool ε).Kept :=
      ⟨kept.numbered, fun w mem => absurd mem (by simp [none]), fun _ => none, kept.active_le,
        kept.largest_le, kept.inOrder⟩
    refine began.spawnMany? rfl clock refusals ?_
    have empty : ({ p with state := .running } : Pool ε).active = 0 := by
      show p.workers.countP Worker.isActive = 0
      rw [none]
      rfl
    rw [empty, Nat.zero_add]
    exact kept.inOrder.2.2
  · exact absurd h (by simp)

/-- The stop flags of some workers are set, and nothing else changes but the state. -/
theorem Kept.mapWorkers (kept : p.Kept) {f : Worker ε → Worker ε} {state : PoolState}
    (same : ∀ w, (f w).id = w.id ∧ (f w).duty = w.duty)
    (active : ∀ w, (f w).isActive = true → w.isActive = true)
    (fits : ∀ w, w.Fits p.exits p.state → (f w).Fits p.exits state)
    (begun : state = .notStarted → p.state = .notStarted) :
    ({ p with state, workers := p.workers.map f } : Pool ε).Kept := by
  have hires : p.Hires { p with state, workers := p.workers.map f } :=
    .of_same rfl (Nat.le_refl _) (roll_map_of_same same p.workers)
  refine ⟨hires.numbered kept.numbered, fun w mem => ?_, fun unstarted => ?_, ?_, kept.largest_le,
    kept.inOrder⟩
  · obtain ⟨v, hv, rfl⟩ := List.mem_map.1 mem
    exact fits v (kept.fits v hv)
  · exact List.map_eq_nil_iff.2 (kept.unstarted (begun unstarted))
  · refine Nat.le_trans ?_ kept.active_le
    show (p.workers.map f).countP Worker.isActive ≤ p.workers.countP Worker.isActive
    rw [List.countP_map]
    exact List.countP_mono_left fun w _ => active w

theorem Kept.resize (kept : p.Kept) (clock : ℕ) (refusals : ThreadRefusals) (size : ℕ) :
    (p.resize clock refusals size).1.Kept := by
  have most := kept.inOrder.clampSize_le size
  unfold Pool.resize
  simp only
  split
  · exact kept
  · rename_i running
    have running : p.state = .running := by simpa using running
    split
    · exact kept.spawnMany? running clock refusals (by omega)
    · refine ⟨?_, ?_, fun unstarted => ?_, ?_, kept.largest_le, kept.inOrder⟩
      · have hires : p.Hires { p with workers := stopSome _ p.workers } :=
          .of_same rfl (Nat.le_refl _)
            (roll_stopSome (p.active - p.settings.clampSize size) p.workers)
        exact hires.numbered kept.numbered
      · exact forall_stopSome (fun w => Worker.Fits.told) _ kept.fits
      · rw [running] at unstarted
        exact absurd unstarted (by simp)
      · have stopped := countP_stopSome (p.active - p.settings.clampSize size) p.workers
        exact Nat.le_trans (Nat.le_of_eq stopped) (Nat.le_trans (Nat.sub_le _ _) kept.active_le)

theorem Kept.grow (kept : p.Kept) (clock : ℕ) (refusals : ThreadRefusals) :
    (p.grow clock refusals).Kept := by
  unfold Pool.grow
  split
  · exact kept
  · rename_i may
    obtain ⟨running, room⟩ := not_or.1 may
    exact kept.spawn? (by simpa using running) (by omega) clock refusals

theorem Kept.beginStop (kept : p.Kept) : p.beginStop.1.Kept := by
  unfold Pool.beginStop
  split
  · rename_i unstarted
    have none : p.workers = [] := kept.unstarted unstarted
    exact ⟨kept.numbered, fun w mem => absurd mem (by simp [none]), fun h => absurd h (by simp),
      kept.active_le, kept.largest_le, kept.inOrder⟩
  · rename_i running
    refine kept.mapWorkers (fun w => ?_) (fun w => ?_) (fun w fits => ?_)
      (fun h => absurd h (by simp))
    · split <;> exact ⟨rfl, rfl⟩
    · split
      · exact fun active => absurd active (by simp [Worker.isActive])
      · exact fun active => active
    · have still : w.Fits p.exits .shuttingDown :=
        fits.inState fun ended => absurd (running.symm.trans ended) (by simp)
      split
      · exact still.told
      · exact still
  · exact kept
  · exact kept

theorem Kept.endStop (kept : p.Kept) : p.endStop.Kept := by
  refine kept.mapWorkers (fun w => ?_) (fun w => ?_) (fun w fits => ?_)
    (fun h => absurd h (by simp))
  · split <;> exact ⟨rfl, rfl⟩
  · split
    · exact fun active => absurd active (by simp [Worker.isActive])
    · exact fun active => active
  · split
    · exact fits.left
    · exact fits.inState fun _ => rfl

/-! ## One worker -/

/-- One worker changes, and may report its exit. -/
theorem Kept.replace (kept : p.Kept) {w : Worker ε} (mem : w ∈ p.workers)
    {f : Worker ε → Worker ε} {exits : List ℕ} (same : (f w).id = w.id)
    (reported : ∀ id ∈ exits, id ∈ p.exits ∨ id = w.id)
    (fits : w.Fits p.exits p.state → (f w).Fits exits p.state)
    (active : (f w).isActive = true → w.isActive = true) :
    (mapWorker w.id f { p with exits }).Kept := by
  have numbered : ({ p with exits } : Pool ε).Numbered := kept.numbered
  obtain ⟨before, after, found, changed, others⟩ := mapWorker_split numbered mem f
  have found : p.workers = before ++ w :: after := found
  refine ⟨?_, ?_, fun unstarted => ?_, ?_, kept.largest_le, kept.inOrder⟩
  · refine kept.numbered.of_ids ?_ (Nat.le_refl _)
    rw [map_fst_roll, map_fst_roll, changed, found, List.map_append, List.map_cons, same,
      List.map_append, List.map_cons]
  · refine forall_mapWorker numbered mem fits (fun v apart fits => ?_) kept.fits
    refine ⟨fits.stopped, fun h => ?_, fits.joined, fits.detached⟩
    exact fits.reported ((reported _ h).resolve_right apart)
  · rw [kept.unstarted unstarted] at mem
    exact absurd mem List.not_mem_nil
  · exact Nat.le_trans (countP_mapWorker_le numbered mem active) kept.active_le

/-- **Whatever happens to a pool, it keeps to this.** -/
theorem Change.kept (change : p.Change quits shrinks fails p') (kept : p.Kept) : p'.Kept := by
  cases change with
  | @act w f mem act =>
    exact kept.replace mem act.id_eq (fun _ => .inl) act.fits act.isActive_of_isActive
  | @report w mem reports =>
    refine kept.replace mem rfl (fun id h => ?_) (fun fits => ?_) (fun active => active)
    · exact (List.mem_append.1 h).imp_right List.mem_singleton.1
    · have stopped : w.stop = true := fits.stopped (by rw [reports]; rfl)
      exact ⟨fun _ => stopped, fun _ => rfl, fun _ => rfl, fits.detached⟩
  | @grow w mem inRound clock refusals =>
    have grown := kept.grow clock refusals
    obtain ⟨v, hv, id, duty⟩ := (p.hires_grow clock refusals).exists_mem mem
    have here : v.duty ≠ .gone := duty ▸ Worker.ne_gone_of_isInRound inRound
    rw [← id]
    exact grown.replace hv rfl (fun _ => .inl)
      (fun fits => fits.goesOn here (fun h => absurd h (by simp [Duty.hasStopped])) v.idleSince)
      fun active => active
  | @retire w mem inRound spare =>
    exact kept.replace mem rfl (fun _ => .inl)
      (fun fits => fits.goesOn (Worker.ne_gone_of_isInRound inRound) (fun _ => rfl) w.idleSince)
      fun active => absurd active (by simp [Worker.isActive])
  | start started => exact kept.start? started
  | resize clock refusals size => exact kept.resize clock refusals size
  | beginStop => exact kept.beginStop
  | reap => exact kept.reapAll
  | endStop => exact kept.endStop

/-! ## What stop flags say -/

/-- What is so of every worker's stop flag and of what it is at. `told` is for those who are
    told to stop by a section: a resize to fewer workers than count, or a shutdown. -/
theorem Change.flags (change : p.Change quits shrinks fails p') (kept : p.Kept)
    {P : Bool → Duty ε → Prop} (new : P false .checking)
    (told : (shrinks ∧ ∃ size, p.settings.clampSize size < p.active) ∨ p'.state ≠ .running →
      ∀ stop duty, P stop duty → P true duty)
    (turn : ∀ stop duty duty', duty.isOut = false → duty'.isOut = false → P stop duty →
      P stop duty')
    (quit : ∀ w ∈ p.workers, w.stop = true ∨ quits w → P w.stop .leaving)
    (out : P true .leaving) (stop : P true .reporting) (report : ∀ stop, P stop .reporting →
      P stop .gone)
    (all : ∀ w ∈ p.workers, P w.stop w.duty) : ∀ w ∈ p'.workers, P w.stop w.duty := by
  let Q : Worker ε → Prop := fun w => P w.stop w.duty
  have attended (exits : List ℕ) (w : Worker ε) (h : Q w) : Q (w.attended exits) := by
    show P (w.attended exits).stop (w.attended exits).duty
    rw [Worker.attended_stop, Worker.attended_duty]
    exact h
  have hired (id clock : ℕ) : Q (.hired id clock) := new
  have others (w : Worker ε) (v : Worker ε) (_ : v.id ≠ w.id) (h : Q v) : Q v := h
  cases change with
  | @act w f mem act =>
    refine forall_mapWorker kept.numbered mem (fun h => ?_) (others w) all
    show P (f w).stop (f w).duty
    generalize f w = w' at act
    cases act with
    | turn inRound stays => exact turn _ _ _ (by simpa [Worker.isInRound] using inRound) stays h
    | quit cause inRound => exact quit w mem cause
    | stop leaves => exact stop
  | @report w mem reports =>
    refine forall_mapWorker (p := { p with exits := p.exits ++ [w.id] }) kept.numbered mem
      (fun h => report w.stop ?_) (others w) all
    rw [← reports]
    exact h
  | @grow w mem inRound clock refusals =>
    obtain ⟨v, hv, id, duty⟩ := (p.hires_grow clock refusals).exists_mem mem
    rw [← id]
    refine forall_mapWorker (kept.grow clock refusals).numbered hv (fun h => ?_) (others v)
      (forall_grow attended hired clock refusals all)
    refine turn _ v.duty _ ?_ rfl h
    rw [duty]
    simpa [Worker.isInRound] using inRound
  | @retire w mem inRound spare =>
    exact forall_mapWorker kept.numbered mem (fun _ => out) (others w) all
  | start started => exact forall_start? attended hired started all
  | resize clock refusals size may =>
    exact forall_resize attended hired clock refusals size
      (fun fewer w => told (.inl ⟨may fewer, size, fewer⟩) w.stop w.duty) all
  | beginStop =>
    exact forall_beginStop (fun w => told (.inr p.state_beginStop) w.stop w.duty) all
  | reap => exact forall_reapAll (attended p.exits) all
  | endStop => exact forall_endStop (fun _ h => h) all

end Pool

end StagedEvents
