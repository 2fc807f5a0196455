import StagedEvents.Proofs.Pool.Sizes

/-!
# The life of a pool

The state of a pool only moves forward, and so do its workers: a stop flag stays set, whoever is
off the table stays off it the way it came off, and whoever is told to stop begins no other fetch.
Each is told here for one worker, and then for a pool whose workers are matched by their place.

* `Worker.SeenTo`: what the sections of a pool do to one worker.
* `Worker.Moves`, `Pool.Moves`: what one step does.
* `Worker.Later`, `Pool.Later`: what becomes of a worker, and of a pool, in any number of steps.
-/

namespace StagedEvents

variable {ε : Type}

/-- How far on a state is. -/
def PoolState.rank : PoolState → ℕ
  | .notStarted => 0
  | .running => 1
  | .shuttingDown => 2
  | .terminated => 3

/-- The state in which a shutdown leaves a pool when it lets go of it for the first time. -/
def PoolState.afterStop : PoolState → PoolState
  | .notStarted => .terminated
  | .running => .shuttingDown
  | .shuttingDown => .shuttingDown
  | .terminated => .terminated

namespace Worker

/-- The second is the first at a later time. -/
structure Later (w w' : Worker ε) : Prop where
  id_eq : w'.id = w.id
  told : w.stop = true → w'.stop = true
  /-- A worker is at a fetch from when it has found that it is not told to stop, before it asks
      the exchange for anything. One that is told has no fetch but that which it was at. -/
  fetches : w.stop = true → ∀ client, w'.duty = .fetching client → w.duty = .fetching client
  gone : w.duty = .gone → w'.duty = .gone
  left : w.membership ≠ .listed → w'.membership = w.membership

/-- The second is the first after one step. -/
structure Moves (w w' : Worker ε) : Prop extends Later w w' where
  /-- Whoever is joined had reported its exit. -/
  joined : w'.membership = .joined → w.membership = .joined ∨ w.duty = .gone

/-- What the sections of a pool do to a worker: it may be told to stop, and it may come off the
    table, but it is where it was in its round. -/
structure SeenTo (w w' : Worker ε) : Prop extends Moves w w' where
  duty_eq : w'.duty = w.duty

variable {u v w : Worker ε} {exits : List ℕ}

theorem Later.trans (h : w.Later v) (h' : v.Later u) : w.Later u where
  id_eq := h'.id_eq.trans h.id_eq
  told := fun told => h'.told (h.told told)
  fetches := fun told client fetches =>
    h.fetches told client (h'.fetches (h.told told) client fetches)
  gone := fun gone => h'.gone (h.gone gone)
  left := fun off => by
    have still := h.left off
    rw [← still] at off
    exact (h'.left off).trans still

/-- A section of the pool comes before what the worker does. -/
theorem SeenTo.moves (h : w.SeenTo v) (h' : v.Moves u) : w.Moves u := by
  refine ⟨h.toLater.trans h'.toLater, fun joined => ?_⟩
  rcases h'.joined joined with before | gone
  · exact h.joined before
  · exact .inr (h.duty_eq ▸ gone)

theorem SeenTo.trans (h : w.SeenTo v) (h' : v.SeenTo u) : w.SeenTo u :=
  ⟨h.moves h'.toMoves, h'.duty_eq.trans h.duty_eq⟩

/-- A worker that is not gone goes elsewhere, and not to fetch. -/
theorem moves_elsewhere (here : w.duty ≠ .gone) {stop : Bool} {duty : Duty ε}
    (told : w.stop = true → stop = true) (free : ∀ client, duty ≠ .fetching client) :
    w.Moves { w with stop, duty } :=
  ⟨⟨rfl, told, fun _ client fetches => absurd fetches (free client),
    fun gone => absurd gone here, fun _ => rfl⟩, .inl⟩

/-- What a worker does by itself leaves it on the table or off it. -/
theorem Act.moves {quits : Worker ε → Prop} (act : Act quits w u)
    (fetches : w.stop = true → ∀ client, u.duty = .fetching client → w.duty = .fetching client) :
    w.Moves u := by
  refine ⟨⟨act.id_eq, fun told => ?_, fetches, fun gone => ?_, fun _ => act.membership_eq⟩,
    fun joined => .inl (act.membership_eq.symm.trans joined)⟩
  · cases act with
    | turn | quit => exact told
    | stop leaves => rfl
  · cases act with
    | turn inRound | quit cause inRound => exact absurd gone (ne_gone_of_isInRound inRound)
    | stop leaves => exact absurd (leaves.symm.trans gone) (by simp)

/-- What others do to a worker leaves it where it was. -/
theorem seenTo_of_others {stop : Bool} {membership : Membership}
    (told : w.stop = true → stop = true) (left : w.membership ≠ .listed → membership = w.membership)
    (joined : membership = .joined → w.membership = .joined ∨ w.duty = .gone) :
    w.SeenTo { w with stop, membership } :=
  ⟨⟨⟨rfl, told, fun _ _ fetches => fetches, fun gone => gone, left⟩, joined⟩, rfl⟩

theorem SeenTo.refl (w : Worker ε) : w.SeenTo w :=
  seenTo_of_others (fun told => told) (fun _ => rfl) .inl

theorem Moves.refl (w : Worker ε) : w.Moves w := (SeenTo.refl w).toMoves

theorem Later.refl (w : Worker ε) : w.Later w := (SeenTo.refl w).toLater

theorem seenTo_stop (w : Worker ε) : w.SeenTo { w with stop := true } :=
  seenTo_of_others (fun _ => rfl) (fun _ => rfl) .inl

/-- Off the table come only those who are on it, and they are joined only if they are gone. -/
theorem seenTo_off (listed : w.membership = .listed) {membership : Membership}
    (gone : membership = .joined → w.duty = .gone) : w.SeenTo { w with membership } :=
  seenTo_of_others (fun told => told) (fun off => absurd listed off) fun joined =>
    .inr (gone joined)

theorem seenTo_attended (reported : w.id ∈ exits → w.duty = .gone) :
    w.SeenTo (w.attended exits) := by
  unfold attended
  split
  · rename_i leaves
    exact seenTo_off leaves.2 fun _ => reported leaves.1
  · exact .refl w

end Worker

namespace Pool

variable {p p' p'' : Pool ε} {R S T : Worker ε → Worker ε → Prop}

/-! ## Workers by their place -/

/-- Every worker of the first pool has the same place in the second, and is related to who is
    there. -/
def Each (R : Worker ε → Worker ε → Prop) (p p' : Pool ε) : Prop :=
  ∀ (i : ℕ) (w : Worker ε), p.workers[i]? = some w → ∃ w', p'.workers[i]? = some w' ∧ R w w'

theorem Each.of_same (refl : ∀ w, R w w) (same : p'.workers = p.workers) : p.Each R p' :=
  fun _ w found => ⟨w, same ▸ found, refl w⟩

theorem Each.comp (h : p.Each R p') (h' : p'.Each S p'') (trans : ∀ u v w, R u v → S v w → T u w) :
    p.Each T p'' := by
  intro i w found
  obtain ⟨v, found', first⟩ := h i w found
  obtain ⟨u, found'', second⟩ := h' i v found'
  exact ⟨u, found'', trans w v u first second⟩

theorem Each.mono (h : p.Each R p') (imp : ∀ v w, R v w → S v w) : p.Each S p' := by
  intro i w found
  obtain ⟨v, found', related⟩ := h i w found
  exact ⟨v, found', imp w v related⟩

theorem each_map {f : Worker ε → Worker ε} (workers : p'.workers = p.workers.map f)
    (related : ∀ w ∈ p.workers, R w (f w)) : p.Each R p' := by
  intro i w found
  refine ⟨f w, ?_, related w (List.mem_of_getElem? found)⟩
  rw [workers, List.getElem?_map, found]
  rfl

theorem each_append {more : List (Worker ε)} (refl : ∀ w, R w w)
    (workers : p'.workers = p.workers ++ more) : p.Each R p' := by
  intro i w found
  obtain ⟨lt, -⟩ := List.getElem?_eq_some_iff.1 found
  refine ⟨w, ?_, refl w⟩
  rw [workers, List.getElem?_append_left lt]
  exact found

theorem Each.length_le (h : p.Each R p') : p.workers.length ≤ p'.workers.length := by
  by_contra longer
  have lt : p'.workers.length < p.workers.length := Nat.lt_of_not_le longer
  obtain ⟨w', found, -⟩ := h _ _ (List.getElem?_eq_getElem lt)
  rw [List.getElem?_eq_none (Nat.le_refl _)] at found
  exact absurd found (by simp)

/-- Without new workers, every worker is one there was. -/
theorem Each.exists_of_mem (h : p.Each R p') (length : p'.workers.length = p.workers.length)
    {w' : Worker ε} (mem : w' ∈ p'.workers) : ∃ w ∈ p.workers, R w w' := by
  obtain ⟨i, lt, rfl⟩ := List.mem_iff_getElem.1 mem
  have place : i < p.workers.length := length ▸ lt
  obtain ⟨v, found, related⟩ := h i _ (List.getElem?_eq_getElem place)
  rw [List.getElem?_eq_getElem lt] at found
  obtain rfl := Option.some.inj found
  exact ⟨_, List.getElem_mem place, related⟩

/-- One worker changes, and the others stay as they are. -/
theorem each_mapWorker (numbered : p.Numbered) {v : Worker ε} (mem : v ∈ p.workers)
    {f : Worker ε → Worker ε} (refl : ∀ w, R w w) (one : R v (f v)) :
    p.Each R (p.mapWorker v.id f) := by
  refine each_map rfl fun w listed => ?_
  by_cases same : w.id = v.id
  · obtain rfl := List.inj_on_of_nodup_map numbered.nodup listed mem same
    rw [if_pos rfl]
    exact one
  · rw [if_neg same]
    exact refl w

/-! ## Sections -/

/-- Whoever has reported its exit is gone. -/
def Reported (p : Pool ε) : Prop := ∀ w ∈ p.workers, w.id ∈ p.exits → w.duty = .gone

theorem Kept.reported (kept : p.Kept) : p.Reported := fun w mem => (kept.fits w mem).reported

theorem each_reapAll (reported : p.Reported) : p.Each Worker.SeenTo p.reapAll := by
  rw [reapAll_eq]
  exact each_map rfl fun w mem => Worker.seenTo_attended (reported w mem)

/-- To take a report in hand and attend to it is to attend to one exit. -/
theorem each_reap {id : ℕ} (gone : ∀ w ∈ p.workers, w.id = id → w.duty = .gone) :
    p.Each Worker.SeenTo (p.reap id) := by
  refine each_map rfl fun w mem => ?_
  by_cases here : w.id = id
  · rw [if_pos here]
    show w.SeenTo (if w.membership = .listed then { w with membership := .joined } else w)
    split
    · rename_i listed
      exact Worker.seenTo_off listed fun _ => gone w mem here
    · exact .refl w
  · rw [if_neg here]
    exact .refl w

/-- Whoever was there before has been seen to at most, and all reports are attended to that the
    gone have made. -/
def SeenToSince (p q : Pool ε) : Prop := q.Reported ∧ p.Each Worker.SeenTo q

theorem SeenToSince.refl (reported : p.Reported) : p.SeenToSince p :=
  ⟨reported, .of_same Worker.SeenTo.refl rfl⟩

theorem reported_of_exits (none : p.exits = []) : p.Reported := by
  intro w _ reported
  rw [none] at reported
  exact absurd reported List.not_mem_nil

theorem SeenToSince.takeNumber (h : p.SeenToSince p') : p.SeenToSince p'.takeNumber := by
  obtain ⟨reported, each⟩ := h
  have attended : p'.Each Worker.SeenTo p'.takeNumber := each_reapAll reported
  exact ⟨reported_of_exits p'.exits_takeNumber, each.comp attended fun _ _ _ => Worker.SeenTo.trans⟩

theorem SeenToSince.spawn (h : p.SeenToSince p') (clock : ℕ) :
    p.SeenToSince (p'.spawn clock) := by
  obtain ⟨-, each⟩ := h.takeNumber
  have hired : p'.takeNumber.Each Worker.SeenTo (p'.spawn clock) :=
    each_append Worker.SeenTo.refl (p'.workers_spawn clock)
  exact ⟨reported_of_exits (p'.exits_spawn clock), each.comp hired fun _ _ _ => Worker.SeenTo.trans⟩

theorem each_spawnMany? (reported : p.Reported) (clock : ℕ) (refusals : ThreadRefusals)
    (count : ℕ) : p.Each Worker.SeenTo (p.spawnMany? clock refusals count).1 :=
  (spawnMany?_keeps (P := p.SeenToSince) (fun _ => SeenToSince.takeNumber)
    (fun _ h => h.spawn clock) count (.refl reported)).2

theorem each_grow (reported : p.Reported) (clock : ℕ) (refusals : ThreadRefusals) :
    p.Each Worker.SeenTo (p.grow clock refusals) := by
  unfold grow
  split
  · exact .of_same Worker.SeenTo.refl rfl
  · exact (spawn?_keeps (P := p.SeenToSince) (fun _ => SeenToSince.takeNumber)
      (fun _ h => h.spawn clock) (.refl reported)).2

theorem each_start? (reported : p.Reported) {clock : ℕ} {refusals : ThreadRefusals}
    {answer : Except Fault (Except StageError Unit)}
    (h : p.start? clock refusals = some (p', answer)) : p.Each Worker.SeenTo p' := by
  unfold start? at h
  split at h
  · obtain rfl := congrArg Prod.fst (Option.some.inj h)
    have started : p.Each Worker.SeenTo { p with state := .running } :=
      .of_same Worker.SeenTo.refl rfl
    exact started.comp
      (each_spawnMany? (p := { p with state := .running }) reported clock refusals _)
      fun _ _ _ => Worker.SeenTo.trans
  · exact absurd h (by simp)

/-- To shrink a pool sets stop flags, and no more. -/
theorem getElem?_stopSome (count : ℕ) {workers : List (Worker ε)} {i : ℕ} {w : Worker ε}
    (found : workers[i]? = some w) :
    ∃ w', (stopSome count workers)[i]? = some w' ∧ w.SeenTo w' := by
  induction workers generalizing count i with
  | nil => exact absurd found (by simp)
  | cons v rest ih =>
    cases count with
    | zero => exact ⟨w, found, .refl w⟩
    | succ count =>
      unfold stopSome
      cases i with
      | zero =>
        obtain rfl := Option.some.inj found
        split
        · exact ⟨_, rfl, v.seenTo_stop⟩
        · exact ⟨v, rfl, .refl v⟩
      | succ i =>
        split
        · exact ih count found
        · exact ih (count + 1) found

theorem each_resize (reported : p.Reported) (clock : ℕ) (refusals : ThreadRefusals) (size : ℕ) :
    p.Each Worker.SeenTo (p.resize clock refusals size).1 := by
  unfold resize
  simp only
  split
  · exact .of_same Worker.SeenTo.refl rfl
  · split
    · exact each_spawnMany? reported clock refusals _
    · exact fun i w found => getElem?_stopSome _ found

theorem each_beginStop (p : Pool ε) : p.Each Worker.SeenTo p.beginStop.1 := by
  unfold beginStop
  split
  · exact .of_same Worker.SeenTo.refl rfl
  · refine each_map rfl fun w _ => ?_
    split
    · exact w.seenTo_stop
    · exact .refl w
  · exact .of_same Worker.SeenTo.refl rfl
  · exact .of_same Worker.SeenTo.refl rfl

theorem each_endStop (p : Pool ε) : p.Each Worker.SeenTo p.endStop := by
  refine each_map rfl fun w _ => ?_
  split
  · rename_i listed
    exact Worker.seenTo_off listed fun joined => absurd joined (by simp)
  · exact .refl w

/-! ## One step -/

/-- The second pool is the first after one step. -/
structure Moves (p p' : Pool ε) : Prop where
  forward : p.state.rank ≤ p'.state.rank
  each : p.Each Worker.Moves p'
  /-- Only a running pool gets workers. -/
  hires : p.workers.length < p'.workers.length → p'.state = .running

theorem Each.moves (h : p.Each Worker.SeenTo p') (forward : p.state.rank ≤ p'.state.rank)
    (hires : p.workers.length < p'.workers.length → p'.state = .running) : p.Moves p' :=
  ⟨forward, h.mono fun _ _ => Worker.SeenTo.toMoves, hires⟩

/-- A section that neither starts the pool nor stops it, and leaves one that does not run as it
    is. -/
theorem Each.moves_of_frame (h : p.Each Worker.SeenTo p') (frame : p'.frame = p.frame)
    (idle : p.state ≠ .running → p'.workers.length = p.workers.length) : p.Moves p' := by
  have state : p'.state = p.state := congrArg (·.2.2) frame
  refine h.moves (Nat.le_of_eq (congrArg PoolState.rank state.symm)) fun longer => ?_
  by_contra still
  exact Nat.ne_of_gt longer (idle (state ▸ still))

theorem moves_start? (reported : p.Reported) {clock : ℕ} {refusals : ThreadRefusals}
    {answer : Except Fault (Except StageError Unit)}
    (h : p.start? clock refusals = some (p', answer)) : p.Moves p' := by
  obtain ⟨unstarted, frame⟩ := frame_start? h
  have running : p'.state = .running := congrArg (·.2.2) frame
  refine (each_start? reported h).moves ?_ fun _ => running
  rw [unstarted]
  exact Nat.zero_le _

theorem moves_resize (reported : p.Reported) (clock : ℕ) (refusals : ThreadRefusals)
    (size : ℕ) : p.Moves (p.resize clock refusals size).1 := by
  have frame := p.frame_resize clock refusals size
  refine (each_resize reported clock refusals size).moves_of_frame frame fun still => ?_
  have same : p.resize clock refusals size = (p, .ok (.ok p.active)) := if_pos still
  rw [same]

theorem moves_reapAll (reported : p.Reported) : p.Moves p.reapAll := by
  refine (each_reapAll reported).moves_of_frame p.frame_reapAll fun _ => ?_
  rw [reapAll_eq, List.length_map]

theorem moves_reap {id : ℕ} (gone : ∀ w ∈ p.workers, w.id = id → w.duty = .gone) :
    p.Moves (p.reap id) :=
  (each_reap gone).moves_of_frame rfl fun _ => List.length_map _

theorem moves_beginStop (p : Pool ε) : p.Moves p.beginStop.1 := by
  have each := p.each_beginStop
  unfold beginStop at each ⊢
  cases state : p.state with
  | notStarted =>
    simp only [state] at each ⊢
    refine each.moves ?_ fun longer => absurd longer (Nat.lt_irrefl _)
    rw [state]
    exact Nat.zero_le _
  | running =>
    simp only [state] at each ⊢
    refine each.moves ?_ fun longer => ?_
    · rw [state]
      exact Nat.le_succ 1
    · rw [List.length_map] at longer
      exact absurd longer (Nat.lt_irrefl _)
  | shuttingDown | terminated =>
    simp only [state] at each ⊢
    exact each.moves_of_frame rfl fun _ => rfl

/-- The exits that are to be attended to are others, or fewer. -/
theorem moves_exits (exits : List ℕ) (p : Pool ε) : p.Moves { p with exits } := by
  have each : p.Each Worker.SeenTo { p with exits } := .of_same Worker.SeenTo.refl rfl
  exact each.moves_of_frame rfl fun _ => rfl

theorem Moves.refl (p : Pool ε) : p.Moves p := p.moves_exits p.exits

theorem Kept.withExits (kept : p.Kept) (exits : List ℕ)
    (gone : ∀ w ∈ p.workers, w.id ∈ exits → w.duty = .gone) : ({ p with exits } : Pool ε).Kept :=
  ⟨kept.numbered, fun w mem => ⟨(kept.fits w mem).stopped, gone w mem, (kept.fits w mem).joined,
    (kept.fits w mem).detached⟩, kept.unstarted, kept.active_le, kept.largest_le, kept.inOrder⟩

/-- To attend to one exit is to attend to all, if it is the only one. -/
theorem Kept.reap (kept : p.Kept) {id : ℕ} (gone : ∀ w ∈ p.workers, w.id = id → w.duty = .gone) :
    (p.reap id).Kept := by
  have alone : ({ p with exits := [id] } : Pool ε).Kept :=
    kept.withExits [id] fun w mem reported => gone w mem (List.mem_singleton.1 reported)
  refine alone.reapAll.withExits p.exits ?_
  refine forall_reapAll (P := fun w => w.id ∈ p.exits → w.duty = .gone) (fun w here => ?_)
    kept.reported
  rw [Worker.attended_id, Worker.attended_duty]
  exact here

theorem moves_endStop (p : Pool ε) : p.Moves p.endStop := by
  refine p.each_endStop.moves ?_ fun longer => ?_
  · show p.state.rank ≤ 3
    cases p.state <;> decide
  · have length : p.endStop.workers.length = p.workers.length := List.length_map _
    exact absurd longer (Nat.not_lt.2 (Nat.le_of_eq length))

/-! ## One worker -/

/-- One worker does something by itself. -/
theorem moves_mapWorker (numbered : p.Numbered) {v : Worker ε} (mem : v ∈ p.workers)
    {f : Worker ε → Worker ε} (moves : v.Moves (f v)) : p.Moves (p.mapWorker v.id f) := by
  refine ⟨Nat.le_refl _, each_mapWorker numbered mem Worker.Moves.refl moves, fun longer => ?_⟩
  have length : (p.mapWorker v.id f).workers.length = p.workers.length := List.length_map _
  exact absurd longer (Nat.not_lt.2 (Nat.le_of_eq length))

/-- A worker that adds another is itself as it was, and goes on. -/
theorem moves_grow (kept : p.Kept) {v : Worker ε} (mem : v ∈ p.workers)
    (here : v.duty ≠ .gone) (clock : ℕ) (refusals : ThreadRefusals) :
    p.Moves ((p.grow clock refusals).mapWorker v.id fun w => { w with duty := .checking }) := by
  have state : (p.grow clock refusals).state = p.state :=
    congrArg (·.2.2) (p.frame_grow clock refusals)
  obtain ⟨u, hu, id, duty⟩ := (p.hires_grow clock refusals).exists_mem mem
  rw [← duty] at here
  rw [← id]
  have goesOn : u.Moves { u with duty := .checking } :=
    Worker.moves_elsewhere here (fun told => told) fun _ => by simp
  have acted := moves_mapWorker (f := fun w => { w with duty := .checking })
    (kept.grow clock refusals).numbered hu goesOn
  have each := each_grow kept.reported clock refusals
  refine ⟨?_, each.comp acted.each fun _ _ _ => Worker.SeenTo.moves, fun longer => ?_⟩
  · exact Nat.le_of_eq (congrArg PoolState.rank state.symm)
  · show (p.grow clock refusals).state = .running
    by_contra still
    have same : p.grow clock refusals = p := if_pos (.inl (state ▸ still))
    rw [same] at longer
    exact absurd longer (Nat.not_lt.2 (Nat.le_of_eq (List.length_map _)))

/-- A worker retires. -/
theorem moves_retire (numbered : p.Numbered) {v : Worker ε} (mem : v ∈ p.workers)
    (here : v.duty ≠ .gone) :
    p.Moves (p.mapWorker v.id fun w => { w with stop := true, duty := .leaving }) := by
  refine moves_mapWorker numbered mem ?_
  exact Worker.moves_elsewhere here (fun _ => rfl) fun _ => by simp

/-- A worker reports its exit. -/
theorem moves_report (numbered : p.Numbered) {v : Worker ε} (mem : v ∈ p.workers)
    (here : v.duty ≠ .gone) :
    p.Moves (mapWorker v.id (fun w => { w with duty := .gone })
      { p with exits := p.exits ++ [v.id] }) := by
  have leaves : v.Moves { v with duty := .gone } :=
    Worker.moves_elsewhere here (fun told => told) fun _ => by simp
  have acted := moves_mapWorker (p := { p with exits := p.exits ++ [v.id] })
    (f := fun w => { w with duty := .gone }) numbered mem leaves
  exact ⟨acted.forward, acted.each, acted.hires⟩

/-! ## Any number of steps -/

/-- A shutdown has taken effect. -/
def Ending (p : Pool ε) : Prop := p.state = .shuttingDown ∨ p.state = .terminated

theorem ending_iff : p.Ending ↔ 2 ≤ p.state.rank := by
  unfold Ending
  cases p.state <;> decide

theorem state_beginStop_eq (p : Pool ε) : p.beginStop.1.state = p.state.afterStop := by
  unfold beginStop
  cases state : p.state with
  | notStarted | running => rfl
  | shuttingDown | terminated => exact state

theorem ending_beginStop (p : Pool ε) : p.beginStop.1.Ending := by
  unfold Ending
  rw [state_beginStop_eq]
  cases p.state <;> decide

theorem length_beginStop (p : Pool ε) : p.beginStop.1.workers.length = p.workers.length := by
  unfold beginStop
  split
  · rfl
  · exact List.length_map _
  · rfl
  · rfl

/-- The second pool is the first at a later time: its state has only moved forward, its workers
    are those there were and others, and once a shutdown has taken effect no others. -/
structure Later (p p' : Pool ε) : Prop where
  forward : p.state.rank ≤ p'.state.rank
  each : p.Each Worker.Later p'
  closed : p.Ending → p'.workers.length = p.workers.length

theorem Later.refl (p : Pool ε) : p.Later p :=
  ⟨Nat.le_refl _, .of_same Worker.Later.refl rfl, fun _ => rfl⟩

theorem Later.ending (h : p.Later p') (ending : p.Ending) : p'.Ending :=
  ending_iff.2 (Nat.le_trans (ending_iff.1 ending) h.forward)

theorem Later.trans (h : p.Later p') (h' : p'.Later p'') : p.Later p'' :=
  ⟨Nat.le_trans h.forward h'.forward, h.each.comp h'.each fun _ _ _ => Worker.Later.trans,
    fun ending => (h'.closed (h.ending ending)).trans (h.closed ending)⟩

theorem Moves.later (h : p.Moves p') : p.Later p' := by
  refine ⟨h.forward, h.each.mono fun _ _ => Worker.Moves.toLater, fun ending => ?_⟩
  refine Nat.le_antisymm ?_ h.each.length_le
  by_contra longer
  have running := h.hires (Nat.lt_of_not_le longer)
  have forward := h.forward
  rw [running] at forward
  exact absurd (Nat.le_trans (ending_iff.1 ending) forward) (by decide)

end Pool

end StagedEvents
