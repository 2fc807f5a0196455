import StagedEvents.Proofs.Exchange.Serving
import StagedEvents.Proofs.Pool.Later
import StagedEvents.Proofs.Service.Round

/-!
# The conduct of workers

A step of a worker is a change of its pool, and it does one of a few things to the exchange of
its stage. The step is inverted here once; what is so of pools, and of the clients of workers,
follows from `Pool.Change` and `Exchange.Serving` without a look at the round of a worker.

* `Pool.fetching`: the clients of the workers of a pool.
* `Service.Quits`: which workers leave their rounds for reasons of their own.
* `Service.Trades`, `Service.Took`, `Service.step?_took`: all that a step of a worker does.
* `Service.Acted`, `Service.acted_stepIn?`: the same, with how far on the pool is afterwards.
-/

namespace StagedEvents

variable {ε : Type}

namespace Pool

variable {p p' : Pool ε} {quits quits' : Worker ε → Prop} {shrinks shrinks' fails fails' : Prop}

theorem Change.mono (change : p.Change quits shrinks fails p')
    (quits_imp : ∀ w, quits w → quits' w) (shrinks_imp : shrinks → shrinks')
    (fails_imp : fails → fails') : p.Change quits' shrinks' fails' p' := by
  cases change with
  | @act w f mem act =>
    refine .act mem ?_
    generalize f w = w' at act
    cases act with
    | turn inRound stays idleSince => exact .turn inRound stays idleSince
    | quit cause inRound => exact .quit (cause.imp_right (quits_imp w)) inRound
    | stop leaves => exact .stop leaves
  | report mem reports => exact .report mem reports
  | grow mem inRound clock refusals => exact .grow mem inRound clock refusals
  | retire mem inRound spare => exact .retire mem inRound spare
  | start started may => exact .start started fun failed => fails_imp (may failed)
  | resize clock refusals size may =>
    exact .resize clock refusals size fun fewer => shrinks_imp (may fewer)
  | beginStop => exact .beginStop
  | reap => exact .reap
  | endStop => exact .endStop

/-- The clients of workers that fetch. -/
def fetching (p : Pool ε) : List ℕ := p.roll.filterMap fun entry => entry.2.client?

/-- New workers do not fetch yet. -/
theorem Hires.fetching_eq (h : p.Hires p') : p'.fetching = p.fetching := by
  obtain ⟨ids, -, -, roll⟩ := h.exists_roll
  have none (ids : List ℕ) : (ids.map fun id => (id, (.checking : Duty ε))).filterMap
      (fun entry => entry.2.client?) = [] := by
    refine List.filterMap_eq_nil_iff.2 fun entry mem => ?_
    obtain ⟨id, -, rfl⟩ := List.mem_map.1 mem
    rfl
  rw [fetching, roll, List.filterMap_append, none, List.append_nil, fetching]

/-- A worker that moves on gives up its client, if it has one, for the one it has then. -/
theorem fetching_mapWorker (numbered : p.Numbered) {id : ℕ} {d d' : Duty ε}
    (mem : (id, d) ∈ p.roll) {f : Worker ε → Worker ε}
    (moves : ∀ w, (f w).id = w.id ∧ (f w).duty = d') :
    ∃ rest, p.fetching.Perm (d.client?.toList ++ rest) ∧
      (p.mapWorker id f).fetching.Perm (d'.client?.toList ++ rest) := by
  obtain ⟨before, after, roll, roll'⟩ := roll_mapWorker numbered mem moves
  let clients (l : List (ℕ × Duty ε)) := l.filterMap fun entry => entry.2.client?
  have middle (d : Duty ε) : (clients (before ++ (id, d) :: after)).Perm
      (d.client?.toList ++ (clients before ++ clients after)) := by
    have here : clients ((id, d) :: after) = d.client?.toList ++ clients after := by
      cases client : d.client? <;> simp [clients, client]
    show (List.filterMap _ (before ++ (id, d) :: after)).Perm _
    rw [List.filterMap_append]
    show (clients before ++ clients ((id, d) :: after)).Perm _
    rw [here]
    exact List.perm_append_comm_assoc _ _ _
  refine ⟨clients before ++ clients after, ?_, ?_⟩
  · rw [fetching, roll]
    exact middle d
  · rw [fetching, roll']
    exact middle d'

theorem mapWorker_mapWorker (id : ℕ) (f g : Worker ε → Worker ε) (same : ∀ w, (f w).id = w.id)
    (p : Pool ε) : (p.mapWorker id f).mapWorker id g = p.mapWorker id fun w => g (f w) := by
  simp only [mapWorker, List.map_map]
  refine congrArg (fun workers => { p with workers }) (List.map_congr_left fun w _ => ?_)
  by_cases here : w.id = id <;> simp [here, same]

end Pool

namespace Service

/-- Whether a worker leaves its round with its next step though no one told it to stop: the
    observation of its batch had no result, or it did not get an answer to its fetch. -/
def Quits (s : Service ε) (w : Worker ε) : Prop :=
  (∃ batch, w.duty = .completing batch true) ∨
    ∃ c ∈ s.stage.exchange.clients, ∃ reply, w.duty = .fetching c.id ∧
      c.phase = .returned reply ∧ ∀ answer, reply ≠ .fetched (.ok answer)

/-- What a step of a worker that was at `d`, and is at `d'` now, does to the exchange of its
    stage. -/
inductive Trades (x : Exchange Float ε) : Duty ε → Duty ε → Exchange Float ε → Prop where
  | keep {d d' : Duty ε} {y : Exchange Float ε} (free : d.client? = none)
      (free' : d'.client? = none) (clients : y.clients = x.clients) (queue : y.queue = x.queue) :
      Trades x d d' y
  | enter {d : Duty ε} (free : d.client? = none) (block : Span) :
      Trades x d (.fetching x.freshId) (x.enter x.freshId (.fetch .takeSlot false) block)
  | step {c : Client ε} {y : Exchange Float ε} (mem : c ∈ x.clients)
      (stepped : x.stepClient? c = some y) : Trades x (.fetching c.id) (.fetching c.id) y
  | leave {c : Client ε} {d' : Duty ε} (mem : c ∈ x.clients) (free' : d'.client? = none) :
      Trades x (.fetching c.id) d' (x.leave c.id)
  | atOnce {d d' : Duty ε} (free : d.client? = none) (free' : d'.client? = none) (call : Call ε) :
      Trades x d d' (x.atOnce call).1

/-- All that a step of one worker of a pool does. -/
structure Took (s s' : Service ε) (pool : ℕ) (p p' : Pool ε) (d d' : Duty ε) : Prop where
  found : s.pools[pool]? = some p
  pools : s'.pools = s.pools.set pool p'
  change : p' = p ∨ p.Change s.Quits False False p'
  fetching : ∃ rest, p.fetching.Perm (d.client?.toList ++ rest) ∧
    p'.fetching.Perm (d'.client?.toList ++ rest)
  trades : Trades s.stage.exchange d d' s'.stage.exchange
  capability : s'.stage.capability = s.stage.capability

/-- All that a step of one worker of a pool does. The pool moves, and neither starts nor stops. -/
structure Acted (s s' : Service ε) (pool : ℕ) (p p' : Pool ε) (d d' : Duty ε) : Prop extends
    Took s s' pool p p' d d' where
  moves : p.Kept → p.Moves p'
  state : p'.state = p.state

variable {s s' : Service ε} {pool worker : ℕ} {p p' : Pool ε} {v : Worker ε} {d d' : Duty ε}

theorem mapPool_set (found : s.pools[pool]? = some p) (f : Pool ε → Pool ε) :
    (s.mapPool pool f).pools = s.pools.set pool (f p) := by
  obtain ⟨lt, rfl⟩ := List.getElem?_eq_some_iff.1 found
  exact List.modify_eq_set_get f lt

/-- One pool changes, and all pools keep to what they kept to. -/
theorem forall_set {P : Pool ε → Prop} (all : ∀ q ∈ s.pools, P q)
    (found : s.pools[pool]? = some p) (changed : P p → P p') :
    ∀ q ∈ s.pools.set pool p', P q := by
  intro q mem
  rcases List.mem_or_eq_of_mem_set mem with mem | rfl
  · exact all q mem
  · exact changed (all p (List.mem_of_getElem? found))

theorem mapPool_mapPool (f g : Pool ε → Pool ε) (s : Service ε) :
    (s.mapPool pool f).mapPool pool g = s.mapPool pool fun p => g (f p) :=
  congrArg (fun pools => { s with pools }) (List.modify_modify_eq f g pool s.pools)

/-! ## One step -/

/-- A worker does something by itself. One that is told to stop does not begin to fetch. -/
theorem acted_act (numbered : p.Numbered) (found : s.pools[pool]? = some p) (mem : v ∈ p.workers)
    (here : v.duty = d) (stage : Stage ε) {f : Worker ε → Worker ε} (act : v.Act s.Quits (f v))
    (moves : ∀ w, (f w).id = w.id ∧ (f w).duty = d') (told : v.stop = true → d'.client? = none)
    (trades : Trades s.stage.exchange d d' stage.exchange)
    (capability : stage.capability = s.stage.capability) :
    s.Acted (({ s with stage } : Service ε).mapWorker pool v.id f) pool p (p.mapWorker v.id f)
      d d' where
  found := found
  pools := mapPool_set (s := { s with stage }) found _
  change := .inr (.act mem act)
  fetching := Pool.fetching_mapWorker numbered (List.mem_map.2 ⟨v, mem, by rw [here]⟩) moves
  trades := trades
  capability := capability
  moves := fun _ => by
    refine Pool.moves_mapWorker numbered mem (act.moves fun stops client fetches => ?_)
    have none := told stops
    rw [← (moves v).2, fetches] at none
    exact absurd none (by simp [Duty.client?])
  state := rfl

/-- A worker goes through a section of its pool, and moves on. -/
theorem acted_section (numbered : p.Numbered) (found : s.pools[pool]? = some p)
    (mem : v ∈ p.workers) (here : v.duty = d) {g : Pool ε → Pool ε} (hires : p.Hires (g p))
    (change : p.Change s.Quits False False ((g p).mapWorker v.id fun w => { w with duty := d' }))
    (moves : p.Kept → p.Moves ((g p).mapWorker v.id fun w => { w with duty := d' }))
    (state : (g p).state = p.state) (free : d.client? = none) (free' : d'.client? = none) :
    s.Acted ((s.mapPool pool g).setDuty pool v.id d') pool p
      ((g p).mapWorker v.id fun w => { w with duty := d' }) d d' where
  found := found
  pools := by
    have both : (s.mapPool pool g).setDuty pool v.id d' =
        s.mapPool pool fun p => (g p).mapWorker v.id fun w => { w with duty := d' } :=
      mapPool_mapPool g _ s
    rw [both]
    exact mapPool_set found _
  change := .inr change
  fetching := by
    rw [← hires.fetching_eq]
    exact Pool.fetching_mapWorker (hires.numbered numbered)
      (hires.mem (List.mem_map.2 ⟨v, mem, by rw [here]⟩)) fun _ => ⟨rfl, rfl⟩
  trades := .keep free free' rfl rfl
  capability := rfl
  moves := moves
  state := state

/-- A worker goes on in its round, with nothing to do with the exchange. -/
theorem acted_turn (numbered : p.Numbered) (found : s.pools[pool]? = some p)
    (mem : v ∈ p.workers) (here : v.duty = d) (stage : Stage ε) (inRound : d.isOut = false)
    (stays : d'.isOut = false) (free : d.client? = none) (free' : d'.client? = none)
    (clients : stage.exchange.clients = s.stage.exchange.clients)
    (queue : stage.exchange.queue = s.stage.exchange.queue)
    (capability : stage.capability = s.stage.capability) :
    s.Acted (({ s with stage } : Service ε).setDuty pool v.id d') pool p
      (p.mapWorker v.id fun w => { w with duty := d' }) d d' :=
  acted_act numbered found mem here stage
    (.turn (Worker.isInRound_of_duty here inRound) stays v.idleSince) (fun _ => ⟨rfl, rfl⟩)
    (fun _ => free') (.keep free free' clients queue) capability

theorem acted_endFetch (numbered : p.Numbered) (found : s.pools[pool]? = some p)
    (mem : v ∈ p.workers) {c : Client ε} (here : v.duty = .fetching c.id)
    (client : c ∈ s.stage.exchange.clients) {reply : Reply ε} (returned : c.phase = .returned reply)
    (number : ℕ) :
    ∃ p' d', s.Acted (s.endFetch number pool v.id c.id reply) pool p p' (.fetching c.id) d' := by
  have inRound : v.isInRound = true := Worker.isInRound_of_duty here rfl
  unfold endFetch
  split
  · exact ⟨_, _, acted_act numbered found mem here _ (.turn inRound rfl v.idleSince)
      (fun _ => ⟨rfl, rfl⟩) (fun _ => rfl) (.leave client rfl) rfl⟩
  · exact ⟨_, _, acted_act numbered found mem here _ (.turn inRound rfl v.idleSince)
      (fun _ => ⟨rfl, rfl⟩) (fun _ => rfl) (.leave client rfl) rfl⟩
  · rename_i noBatch noMiss
    have quits : s.Quits v := by
      refine .inr ⟨c, client, reply, here, returned, fun answer same => ?_⟩
      cases answer with
      | none => exact noMiss same
      | some batch => exact noBatch batch same
    exact ⟨_, _, acted_act numbered found mem here _ (.quit (.inr quits) inRound)
      (fun _ => ⟨rfl, rfl⟩) (fun _ => rfl) (.leave client rfl) rfl⟩

theorem acted_stepFetch? (numbered : p.Numbered) (found : s.pools[pool]? = some p)
    (mem : v ∈ p.workers) {client number : ℕ} (here : v.duty = .fetching client)
    (h : s.stepFetch? number pool v.id client = some s') :
    ∃ p' d', s.Acted s' pool p p' (.fetching client) d' := by
  obtain ⟨c, present, rfl, ⟨reply, returned, rfl⟩ | ⟨x, stepped, rfl⟩⟩ := stepFetch?_cases h
  · exact acted_endFetch numbered found mem here present returned number
  · refine ⟨p, .fetching c.id, ⟨found, ?_, .inl rfl, ?_, .step present stepped, rfl⟩,
      fun _ => .refl p, rfl⟩
    · obtain ⟨lt, rfl⟩ := List.getElem?_eq_some_iff.1 found
      exact (List.set_getElem_self lt).symm
    · obtain ⟨rest, before, -⟩ := Pool.fetching_mapWorker numbered
        (List.mem_map.2 ⟨v, mem, by rw [here]⟩) (f := fun w => { w with duty := .checking })
        fun _ => ⟨rfl, rfl⟩
      exact ⟨rest, before, before⟩

theorem acted_stepPlan? (numbered : p.Numbered) (found : s.pools[pool]? = some p)
    (mem : v ∈ p.workers) {batch : Batch ε} {plan : Plan ε} {since : ℕ}
    (here : v.duty = .handling batch plan since)
    (h : s.stepPlan? pool v.id batch plan since = some s') :
    ∃ p' d', s.Acted s' pool p p' (.handling batch plan since) d' := by
  cases plan with
  | finish verdict =>
    obtain rfl := Option.some.inj h
    exact ⟨_, _, acted_turn numbered found mem here s.stage rfl rfl rfl rfl rfl rfl rfl⟩
  | hold next =>
    obtain ⟨latch, passed, rfl⟩ := Option.map_eq_some_iff.1 h
    exact ⟨_, _, acted_turn numbered found mem here { s.stage with latch } rfl rfl rfl rfl
      rfl rfl rfl⟩
  | send => exact absurd h (by simp [stepPlan?])

theorem acted_record (numbered : p.Numbered) (found : s.pools[pool]? = some p)
    (mem : v ∈ p.workers) {batch : Batch ε} {verdict : Verdict} {elapsed : Span}
    (here : v.duty = .recording batch verdict elapsed) (policy : FailurePolicy) :
    ∃ p' d', s.Acted (s.record pool v.id policy batch verdict elapsed) pool p p'
      (.recording batch verdict elapsed) d' := by
  have counted (count : Stats → Stats) {d' : Duty ε} (stays : d'.isOut = false)
      (free' : d'.client? = none) :
      s.Acted (({ s with stage := s.stage.mapStats count } : Service ε).setDuty pool v.id d') pool p
        (p.mapWorker v.id fun w => { w with duty := d' }) (.recording batch verdict elapsed) d' :=
    acted_turn numbered found mem here _ rfl stays rfl free' rfl rfl rfl
  let count := Stats.recordBatch batch.events.length elapsed
  unfold record
  split
  · exact ⟨_, _, counted count rfl rfl⟩
  · cases policy with
    | crash => exact ⟨_, _, counted Stats.recordFailure rfl rfl⟩
    | carryOn => exact ⟨_, _, counted (fun stats => count stats.recordFailure) rfl rfl⟩

/-- To turn dials does not change what a stage is. -/
theorem capability_observe (stage : Stage ε) : stage.observe.1.capability = stage.capability := by
  simp only [Stage.observe, Stage.control]
  split
  · rfl
  · simp only [Stage.putConsole]
    split <;> rfl

theorem acted_observe (numbered : p.Numbered) (found : s.pools[pool]? = some p)
    (mem : v ∈ p.workers) {batch : Batch ε} (here : v.duty = .observing batch) :
    ∃ p' d', s.Acted (s.observe pool v.id batch) pool p p' (.observing batch) d' := by
  obtain ⟨clients, queue, -, -⟩ := s.stage.observe_keeps
  exact ⟨_, _, acted_turn numbered found mem here _ rfl rfl rfl rfl clients queue
    (capability_observe s.stage)⟩

theorem acted_complete (numbered : p.Numbered) (found : s.pools[pool]? = some p)
    (mem : v ∈ p.workers) {batch : Batch ε} {leaves : Bool}
    (here : v.duty = .completing batch leaves) :
    ∃ p' d', s.Acted (s.complete pool v.id batch leaves) pool p p' (.completing batch leaves)
      d' := by
  have inRound : v.isInRound = true := Worker.isInRound_of_duty here rfl
  have quits : leaves = true → s.Quits v := fun leaves => .inl ⟨batch, leaves ▸ here⟩
  cases leaves with
  | true =>
    exact ⟨_, _, acted_act numbered found mem here _ (.quit (.inr (quits rfl)) inRound)
      (fun _ => ⟨rfl, rfl⟩) (fun _ => rfl) (.atOnce rfl rfl _) rfl⟩
  | false =>
    exact ⟨_, _, acted_act numbered found mem here _ (.turn inRound rfl s.clock)
      (fun _ => ⟨rfl, rfl⟩) (fun _ => rfl) (.atOnce rfl rfl _) rfl⟩

theorem acted_rest (numbered : p.Numbered) (found : s.pools[pool]? = some p)
    (mem : v ∈ p.workers) (here : v.duty = .idling) :
    ∃ p' d', s.Acted (s.rest pool p v) pool p p' .idling d' := by
  have stays : s.Acted (s.setDuty pool v.id .checking) pool p _ .idling .checking :=
    acted_turn numbered found mem here s.stage rfl rfl rfl rfl rfl rfl rfl
  unfold rest
  split
  · split
    · rename_i q retired
      have hires := Pool.hires_retire? retired
      unfold Pool.retire? at retired
      split at retired
      · exact absurd retired (by simp)
      · rename_i spare
        obtain rfl := Option.some.inj retired
        have inRound : v.isInRound = true := Worker.isInRound_of_duty here rfl
        have both := p.mapWorker_mapWorker v.id (fun w => { w with stop := true })
          (fun w => { w with duty := .leaving }) fun _ => rfl
        refine ⟨_, _, acted_section numbered found mem here hires ?_ (fun _ => ?_) rfl rfl rfl⟩
        · rw [both]
          exact .retire mem inRound (Nat.lt_of_not_le spare)
        · rw [both]
          exact Pool.moves_retire numbered mem (Worker.ne_gone_of_isInRound inRound)
    · exact ⟨_, _, stays⟩
  · exact ⟨_, _, stays⟩

theorem acted_stepIn? (numbered : p.Numbered) (found : s.pools[pool]? = some p)
    (mem : v ∈ p.workers) {number : ℕ} {refusals : ThreadRefusals}
    (h : s.stepIn? number pool p v refusals = some s') :
    ∃ p' d', s.Acted s' pool p p' v.duty d' := by
  unfold stepIn? at h
  cases here : v.duty with
  | checking =>
    simp only [here, Option.some.injEq] at h
    subst h
    have inRound : v.isInRound = true := Worker.isInRound_of_duty here rfl
    cases stop : v.stop with
    | true =>
      exact ⟨_, _, acted_act numbered found mem here s.stage (.quit (.inl stop) inRound)
        (fun _ => ⟨rfl, rfl⟩) (fun _ => rfl) (.keep rfl rfl rfl rfl) rfl⟩
    | false =>
      exact ⟨_, _, acted_act numbered found mem here _ (.turn inRound rfl v.idleSince)
        (fun _ => ⟨rfl, rfl⟩) (fun told => absurd told (by simp [stop])) (.enter rfl p.settings.block)
        rfl⟩
  | fetching client =>
    simp only [here] at h
    exact acted_stepFetch? numbered found mem here h
  | handling batch plan since =>
    simp only [here] at h
    exact acted_stepPlan? numbered found mem here h
  | recording batch verdict elapsed =>
    simp only [here, Option.some.injEq] at h
    exact h ▸ acted_record numbered found mem here p.policy
  | observing batch =>
    simp only [here, Option.some.injEq] at h
    exact h ▸ acted_observe numbered found mem here
  | completing batch leaves =>
    simp only [here, Option.some.injEq] at h
    exact h ▸ acted_complete numbered found mem here
  | measuring =>
    simp only [here, Option.some.injEq] at h
    subst h
    cases s.overloads p.settings with
    | true =>
      exact ⟨_, _, acted_turn numbered found mem here s.stage rfl rfl rfl rfl rfl rfl rfl⟩
    | false =>
      exact ⟨_, _, acted_turn numbered found mem here s.stage rfl rfl rfl rfl rfl rfl rfl⟩
  | adding =>
    simp only [here, Option.some.injEq] at h
    subst h
    have inRound : v.isInRound = true := Worker.isInRound_of_duty here rfl
    have here' := Worker.ne_gone_of_isInRound inRound
    exact ⟨_, _, acted_section numbered found mem here (p.hires_grow s.clock refusals)
      (.grow mem inRound s.clock refusals)
      (fun kept => Pool.moves_grow kept mem here' s.clock refusals)
      (congrArg (·.2.2) (p.frame_grow s.clock refusals)) rfl rfl⟩
  | idling =>
    simp only [here, Option.some.injEq] at h
    exact h ▸ acted_rest numbered found mem here
  | leaving =>
    simp only [here, Option.some.injEq] at h
    subst h
    exact ⟨_, _, acted_act numbered found mem here s.stage (.stop here)
      (fun _ => ⟨rfl, rfl⟩) (fun _ => rfl) (.keep rfl rfl rfl rfl) rfl⟩
  | reporting =>
    simp only [here, Option.some.injEq] at h
    subst h
    have moves := Pool.moves_report numbered mem (by simp [here])
    exact ⟨_, _, acted_section numbered found mem here (.of_same rfl (Nat.le_refl _) rfl)
      (.report mem here) (fun _ => moves) rfl rfl rfl⟩
  | gone | crashing => exact absurd h (by simp [here])

/-- **All that a step of a worker does.** -/
theorem step?_took (numbered : ∀ p ∈ s.pools, p.Numbered) {number : ℕ}
    {refusals : ThreadRefusals} (h : s.step? number pool worker refusals = some s') :
    ∃ p p' d d', s.Took s' pool p p' d d' := by
  obtain ⟨p, v, found, mem, -, stepped⟩ := step?_cases h
  obtain ⟨p', d', acted⟩ :=
    acted_stepIn? (numbered p (List.mem_of_getElem? found)) found mem stepped
  exact ⟨p, p', v.duty, d', acted.toTook⟩

end Service

end StagedEvents
