import StagedEvents.Proofs.Service.Conduct
import StagedEvents.Proofs.Service.Delivery

/-!
# The crew of a service

Whatever happens to a service, its pools are kept, every worker that fetches has a client of
its own, and that client fetches. It follows that no worker leaves its round for a reason of
its own as long as the queue is open and every observation has a result.

* `Service.Crewed`: what is so of every service.
* `Watched.Move.crewed`, `Watched.Move.change`: what a move does to the crew, and to one pool.
* `Service.Calm`, `Service.Calm.noQuits`: when every worker stays in its round.
-/

namespace StagedEvents

variable {ε : Type}

namespace Service

variable {s s' : Service ε} {pool : ℕ} {p p' : Pool ε} {d d' : Duty ε}

/-- The clients of workers that fetch. -/
def fetching (s : Service ε) : List ℕ := s.pools.flatMap Pool.fetching

/-- The pools are kept, no two workers have the same client, and the clients of workers
    fetch. -/
structure Crewed (s : Service ε) : Prop where
  kept : ∀ p ∈ s.pools, p.Kept
  apart : s.fetching.Nodup
  serving : s.stage.exchange.Serving (· ∈ s.fetching)

/-- A service whose pools have not started, and whose exchange has no clients. -/
structure Unstarted (s : Service ε) : Prop where
  clients : s.stage.exchange.clients = []
  pools : ∀ p ∈ s.pools, ∃ stageName settings single policy,
    p = .new stageName settings single policy

theorem Unstarted.crewed (unstarted : s.Unstarted) : s.Crewed := by
  have none : s.fetching = [] := by
    refine List.flatMap_eq_nil_iff.2 fun p mem => ?_
    obtain ⟨stageName, settings, single, policy, rfl⟩ := unstarted.pools p mem
    rfl
  refine ⟨fun p mem => ?_, ?_, ⟨?_, fun id mem => ?_, fun c mem => ?_⟩, fun c mem => ?_⟩
  · obtain ⟨stageName, settings, single, policy, rfl⟩ := unstarted.pools p mem
    exact Pool.kept_new stageName settings single policy
  · rw [none]
    exact List.nodup_nil
  · rw [unstarted.clients]
    exact List.nodup_nil
  · rw [none] at mem
    exact absurd mem List.not_mem_nil
  · rw [unstarted.clients] at mem
    exact absurd mem List.not_mem_nil
  · rw [unstarted.clients] at mem
    exact absurd mem List.not_mem_nil

/-- The clients of a pool are among those of the service. -/
theorem fetching_set (found : s.pools[pool]? = some p) (pools : s'.pools = s.pools.set pool p')
    {clients clients' rest : List ℕ} (before : p.fetching.Perm (clients ++ rest))
    (after : p'.fetching.Perm (clients' ++ rest)) :
    ∃ others, s.fetching.Perm (clients ++ others) ∧ s'.fetching.Perm (clients' ++ others) := by
  obtain ⟨lt, rfl⟩ := List.getElem?_eq_some_iff.1 found
  let first := (s.pools.take pool).flatMap Pool.fetching
  let last := (s.pools.drop (pool + 1)).flatMap Pool.fetching
  have whole : s.fetching = first ++ (s.pools[pool].fetching ++ last) := by
    have split : s.pools = s.pools.take pool ++ s.pools[pool] :: s.pools.drop (pool + 1) := by
      rw [List.getElem_cons_drop, List.take_append_drop]
    have all := congrArg (List.flatMap Pool.fetching) split
    rw [List.flatMap_append, List.flatMap_cons] at all
    exact all
  have whole' : s'.fetching = first ++ (p'.fetching ++ last) := by
    rw [fetching, pools, List.set_eq_take_append_cons_drop, if_pos lt, List.flatMap_append,
      List.flatMap_cons]
  have front (clients rest : List ℕ) :
      (first ++ ((clients ++ rest) ++ last)).Perm (clients ++ (first ++ (rest ++ last))) := by
    rw [List.append_assoc]
    exact List.perm_append_comm_assoc _ _ _
  refine ⟨first ++ (rest ++ last), ?_, ?_⟩
  · rw [whole]
    exact ((before.append_right last).append_left first).trans (front clients rest)
  · rw [whole']
    exact ((after.append_right last).append_left first).trans (front clients' rest)

/-- A step of a worker gives up the client that the worker had for the one it has then. -/
theorem Trades.serving {x y : Exchange Float ε} {fetching fetching' others : List ℕ}
    (trades : Trades x d d' y) (was : fetching.Perm (d.client?.toList ++ others))
    (is : fetching'.Perm (d'.client?.toList ++ others)) (apart : fetching.Nodup)
    (serving : x.Serving (· ∈ fetching)) : fetching'.Nodup ∧ y.Serving (· ∈ fetching') := by
  have same (equal : d'.client? = d.client?) : fetching'.Perm fetching := by
    rw [equal] at is
    exact is.trans was.symm
  cases trades with
  | keep free free' clients queue =>
    have same := same (free'.trans free.symm)
    exact ⟨same.nodup_iff.2 apart, serving.congr clients queue fun id => same.mem_iff⟩
  | atOnce free free' call =>
    have same := same (free'.trans free.symm)
    exact ⟨same.nodup_iff.2 apart, (serving.atOnce call).congr rfl rfl fun id => same.mem_iff⟩
  | step mem stepped =>
    have same := same rfl
    exact ⟨same.nodup_iff.2 apart,
      (serving.stepClient? mem stepped).congr rfl rfl fun id => same.mem_iff⟩
  | enter free block =>
    rw [free] at was
    have joined (id : ℕ) : id ∈ fetching' ↔ id = x.freshId ∨ id ∈ fetching := by
      rw [is.mem_iff, was.mem_iff]
      exact List.mem_cons
    have fresh : x.freshId ∉ others := fun mem => by
      obtain ⟨c, hc, id⟩ := List.mem_map.1 (serving.staffed.present _ (was.mem_iff.2 mem))
      exact absurd id (Nat.ne_of_lt (Exchange.lt_freshId hc))
    exact ⟨is.nodup_iff.2 (List.nodup_cons.2 ⟨fresh, was.nodup_iff.1 apart⟩),
      serving.enter block joined⟩
  | @leave c d' mem free' =>
    rw [free'] at is
    obtain ⟨alone, others'⟩ := List.nodup_cons.1 (was.nodup_iff.1 apart)
    refine ⟨is.nodup_iff.2 others', serving.leave mem fun id => ?_⟩
    rw [is.mem_iff, was.mem_iff]
    refine ⟨fun h => ⟨List.mem_cons_of_mem _ h, fun same => alone (same ▸ h)⟩, fun h => ?_⟩
    exact (List.mem_cons.1 h.1).resolve_left h.2

/-- One pool of a crew changes, and keeps to what pools keep to. -/
theorem Crewed.kept_set (crewed : s.Crewed) (found : s.pools[pool]? = some p)
    (pools : s'.pools = s.pools.set pool p') (kept : p.Kept → p'.Kept) :
    ∀ q ∈ s'.pools, q.Kept := by
  rw [pools]
  exact forall_set crewed.kept found kept

theorem Took.crewed (took : s.Took s' pool p p' d d') (crewed : s.Crewed) : s'.Crewed := by
  obtain ⟨rest, before, after⟩ := took.fetching
  obtain ⟨others, was, is⟩ := fetching_set took.found took.pools before after
  obtain ⟨apart, serving⟩ := took.trades.serving was is crewed.apart crewed.serving
  refine ⟨crewed.kept_set took.found took.pools fun kept => ?_, apart, serving⟩
  rcases took.change with rfl | change
  · exact kept
  · exact change.kept kept

theorem Crewed.numbered (crewed : s.Crewed) : ∀ p ∈ s.pools, p.Numbered :=
  fun p mem => (crewed.kept p mem).numbered

/-- A section of a pool, if there is the pool. -/
theorem Crewed.mapPool (crewed : s.Crewed) (pool : ℕ) {f : Pool ε → Pool ε}
    (hires : ∀ p, s.pools[pool]? = some p → p.Hires (f p))
    (kept : ∀ p, s.pools[pool]? = some p → p.Kept → (f p).Kept) : (s.mapPool pool f).Crewed := by
  cases found : s.pools[pool]? with
  | none =>
    rw [mapPool_of_none found]
    exact crewed
  | some p =>
    have pools := mapPool_set found f
    have after : (f p).fetching.Perm ([] ++ p.fetching) := by
      rw [(hires p found).fetching_eq]
      exact .refl _
    have before : p.fetching.Perm ([] ++ p.fetching) := .refl _
    obtain ⟨others, was, is⟩ := fetching_set found pools before after
    have same := is.trans was.symm
    exact ⟨crewed.kept_set found pools (kept p found), same.nodup_iff.2 crewed.apart,
      crewed.serving.congr rfl rfl fun id => same.mem_iff⟩

/-- The exchange of the stage changes, and the pools stay. -/
theorem Crewed.withStage (crewed : s.Crewed) {stage : Stage ε}
    (serving : stage.exchange.Serving (· ∈ s.fetching)) :
    ({ s with stage } : Service ε).Crewed :=
  ⟨crewed.kept, crewed.apart, serving⟩

/-- A worker goes on in its round by what someone else does. -/
theorem acted_of_isAt (found : s.pools[pool]? = some p) (numbered : p.Numbered) {worker : ℕ}
    (listed : s.IsAt pool worker d) (d' : Duty ε) (inRound : d.isOut = false)
    (stays : d'.isOut = false) (free : d.client? = none) (free' : d'.client? = none) :
    ∃ p', s.Acted (s.setDuty pool worker d') pool p p' d d' := by
  obtain ⟨q, known, mem⟩ := listed
  obtain rfl := Option.some.inj (found.symm.trans known)
  obtain ⟨v, hv, same⟩ := List.mem_map.1 mem
  obtain ⟨rfl, here⟩ := Prod.mk.inj same
  exact ⟨_, acted_turn numbered found hv here s.stage inRound stays free free' rfl rfl rfl⟩

theorem took_of_isAt (numbered : ∀ p ∈ s.pools, p.Numbered) {worker : ℕ}
    (listed : s.IsAt pool worker d) (d' : Duty ε) (inRound : d.isOut = false)
    (stays : d'.isOut = false) (free : d.client? = none) (free' : d'.client? = none) :
    ∃ p p', s.Took (s.setDuty pool worker d') pool p p' d d' := by
  have present := listed
  obtain ⟨p, found, -⟩ := present
  obtain ⟨p', acted⟩ := acted_of_isAt found (numbered p (List.mem_of_getElem? found)) listed d'
    inRound stays free free'
  exact ⟨p, p', acted.toTook⟩

/-- Whoever is a client of a worker is one of a worker of the service. -/
theorem exists_worker_of_fetching {client : ℕ} (mem : client ∈ s.fetching) :
    ∃ v ∈ s.workers, v.2.duty = .fetching client := by
  obtain ⟨p, hp, mem⟩ := List.mem_flatMap.1 mem
  obtain ⟨entry, listed, fetches⟩ := List.mem_filterMap.1 mem
  have duty : entry.2 ∈ s.workers.map fun v => v.2.duty := by
    rw [s.workers_duties]
    exact List.mem_flatMap.2 ⟨p, hp, List.mem_map.2 ⟨entry, listed, rfl⟩⟩
  obtain ⟨v, hv, same⟩ := List.mem_map.1 duty
  exact ⟨v, hv, same.trans (Duty.eq_fetching fetches)⟩

end Service

namespace Watched

variable {number pool : ℕ} {w w' : Watched ε} {p : Pool ε}

/-- **Every move keeps the crew.** -/
theorem Move.crewed (move : Move number w w') (crewed : w.service.Crewed) :
    w'.service.Crewed := by
  cases move with
  | trade step => exact crewed.withStage (step.serving crewed.serving)
  | atOnce call => exact crewed.withStage (crewed.serving.atOnce call)
  | @leave c mem stranger =>
    refine crewed.withStage (crewed.serving.leave mem fun id => ?_)
    refine ⟨fun fetches => ⟨fetches, fun same => ?_⟩, fun h => h.1⟩
    obtain ⟨v, hv, here⟩ := Service.exists_worker_of_fetching fetches
    exact stranger v hv (same ▸ here)
  | worker pool worker refusals step =>
    obtain ⟨p, p', d, d', took⟩ := Service.step?_took crewed.numbered step
    exact took.crewed crewed
  | @send batch target events next since pool worker sends accepted =>
    obtain ⟨p, p', took⟩ := Service.took_of_isAt crewed.numbered sends
      (.handling batch (next accepted) since) rfl rfl rfl rfl
    exact took.crewed crewed
  | start pool refusals started =>
    obtain ⟨p, q, found, start, rfl⟩ := Service.startPool?_cases started
    let stage := w.service.stage.mapChannel fun c =>
      { c with sorter := c.sorter.init p.settings.most }
    have tuned : ({ w.service with stage } : Service ε).Crewed :=
      crewed.withStage (crewed.serving.congr rfl rfl fun _ => Iff.rfl)
    have same (p' : Pool ε) (known : w.service.pools[pool]? = some p') : p' = p :=
      Option.some.inj (known.symm.trans found)
    refine tuned.mapPool pool (fun p' known => ?_) fun p' known kept => ?_
    · rw [same p' known]
      exact Pool.hires_start? start
    · rw [same p' known] at kept
      exact kept.start? start
  | resize pool size refusals =>
    show (w.service.resizePool pool size refusals).1.Crewed
    rw [Service.resizePool_eq]
    exact crewed.mapPool pool (fun p _ => p.hires_resize _ refusals size)
      fun p _ kept => kept.resize _ refusals size
  | beginStop pool =>
    exact crewed.mapPool pool (fun p _ => p.hires_beginStop) fun p _ => Pool.Kept.beginStop
  | reap pool =>
    exact crewed.mapPool pool (fun p _ => p.hires_reapAll) fun p _ => Pool.Kept.reapAll
  | endStop pool =>
    exact crewed.mapPool pool (fun p _ => p.hires_endStop) fun p _ => Pool.Kept.endStop
  | around stage exchange =>
    refine crewed.withStage ?_
    rw [exchange]
    exact crewed.serving

/-- Whether a move is a resize of the pool to fewer workers than count. -/
def Shrinks (pool : ℕ) (w w' : Watched ε) : Prop :=
  ∃ p size refusals, w.service.pools[pool]? = some p ∧ p.settings.clampSize size < p.active ∧
    w' = w.withService (w.service.resizePool pool size refusals).1

/-- Whether a move is a start of the pool that fails. -/
def StartFails (pool : ℕ) (w w' : Watched ε) : Prop :=
  ∃ refusals s answer, w.service.startPool? pool refusals = some (s, answer) ∧
    answer ≠ .ok (.ok ()) ∧ w' = w.withService s

/-- What a move does to one pool: a change of it, if it does anything. -/
def Changes (pool : ℕ) (w w' : Watched ε) (p p' : Pool ε) : Prop :=
  p' = p ∨ p.Change w.service.Quits (Shrinks pool w w') (StartFails pool w w') p'

/-- **What a move does to one pool** is a change of it, if it does anything. -/
theorem Move.change (move : Move number w w') (crewed : w.service.Crewed)
    (found : w.service.pools[pool]? = some p) :
    ∃ p', w'.service.pools[pool]? = some p' ∧ Changes pool w w' p p' := by
  have stays : ∃ p', w.service.pools[pool]? = some p' ∧ Changes pool w w' p p' :=
    ⟨p, found, .inl rfl⟩
  have took {s : Service ε} {place : ℕ} {q q' : Pool ε} {d d' : Duty ε}
      (took : w.service.Took s place q q' d d') :
      ∃ p', s.pools[pool]? = some p' ∧ Changes pool w w' p p' := by
    rw [took.pools]
    by_cases here : place = pool
    · subst here
      obtain rfl := Option.some.inj (took.found.symm.trans found)
      obtain ⟨lt, -⟩ := List.getElem?_eq_some_iff.1 found
      refine ⟨q', List.getElem?_set_self lt, took.change.imp_right fun change => ?_⟩
      exact change.mono (fun _ quits => quits) False.elim False.elim
    · exact ⟨p, (List.getElem?_set_ne here).trans found, .inl rfl⟩
  have mapped (s : Service ε) (pools : s.pools = w.service.pools) (place : ℕ)
      {f : Pool ε → Pool ε} (change : place = pool →
        p.Change w.service.Quits (Shrinks pool w w') (StartFails pool w w') (f p)) :
      ∃ p', (s.mapPool place f).pools[pool]? = some p' ∧ Changes pool w w' p p' := by
    rw [← pools] at found
    by_cases here : place = pool
    · subst here
      refine ⟨f p, ?_, .inr (change rfl)⟩
      show (s.pools.modify place f)[place]? = some (f p)
      rw [List.getElem?_modify_eq, found]
      rfl
    · refine ⟨p, ?_, .inl rfl⟩
      show (s.pools.modify place f)[pool]? = some p
      rw [List.getElem?_modify, found]
      exact congrArg some (if_neg here)
  cases move with
  | trade | atOnce | leave | around => exact stays
  | worker place worker refusals step =>
    obtain ⟨q, q', d, d', stepped⟩ := Service.step?_took crewed.numbered step
    exact took stepped
  | @send batch target events next since place worker sends accepted =>
    obtain ⟨q, q', sent⟩ := Service.took_of_isAt crewed.numbered sends
      (.handling batch (next accepted) since) rfl rfl rfl rfl
    exact took sent
  | start place refusals started =>
    obtain ⟨q, q', known, start, rfl⟩ := Service.startPool?_cases started
    refine mapped _ rfl place fun here => ?_
    subst here
    obtain rfl := Option.some.inj (known.symm.trans found)
    exact .start start fun failed => ⟨_, _, _, started, failed, rfl⟩
  | resize place size refusals =>
    have resized := mapped w.service rfl place
      (f := fun p => (p.resize w.service.clock refusals size).1) fun here =>
        .resize w.service.clock refusals size fun fewer =>
          ⟨p, size, refusals, found, fewer, here ▸ rfl⟩
    rw [← Service.resizePool_eq] at resized
    exact resized
  | beginStop place => exact mapped w.service rfl place fun _ => .beginStop
  | reap place => exact mapped w.service rfl place fun _ => .reap
  | endStop place => exact mapped w.service rfl place fun _ => .endStop

end Watched

/-! ## When no one quits -/

namespace Service

/-- The queue is open, and no worker of the pool leaves because its observation had no
    result. -/
def Calm (pool : ℕ) (s : Service ε) : Prop :=
  s.stage.queue.closed = false ∧
    ∀ p, s.pools[pool]? = some p → ∀ v ∈ p.workers, ∀ batch, v.duty ≠ .completing batch true

/-- While all is calm, every worker stays in its round until it is told to stop. -/
theorem Calm.noQuits {s : Service ε} {pool : ℕ} {p : Pool ε} (calm : s.Calm pool)
    (crewed : s.Crewed) (found : s.pools[pool]? = some p) :
    ∀ v ∈ p.workers, ¬ s.Quits v := by
  rintro v mem (⟨batch, completes⟩ | ⟨c, client, reply, fetches, returned, misses⟩)
  · exact calm.2 p found v mem batch completes
  · have mine : c.id ∈ s.fetching := by
      refine List.mem_flatMap.2 ⟨p, List.mem_of_getElem? found, ?_⟩
      refine List.mem_filterMap.2 ⟨(v.id, v.duty), List.mem_map.2 ⟨v, mem, rfl⟩, ?_⟩
      rw [fetches]
      rfl
    have answers := crewed.serving.fetches c client mine
    rw [Client.Fetches, returned] at answers
    cases reply with
    | fetched answer =>
      cases answer with
      | ok answer => exact misses answer rfl
      | error => exact absurd (answers.symm.trans calm.1) (by simp)
    | _ => exact answers.elim

end Service

end StagedEvents
