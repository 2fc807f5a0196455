import Mathlib.Data.Multiset.Bind
import StagedEvents.Proofs.Service.Round
import StagedEvents.Stage.Blueprint

/-!
# Every event is handled once

A service is watched while producers, transactions and the sections of its pools interleave
with the steps of its workers. Whatever the order, every event published is in the queue, or
in the one batch that one worker has fetched, or was handed to the handler once; and when no
worker has a batch, the counters say what was handed to the handler.

* `Watched`, `Watched.Move`, `Watched.Reached`: all that can happen to a service.
* `Service.inHand`: the events of the batch that a worker has fetched.
* `delivered_once`: the result.
-/

namespace StagedEvents

variable {ε : Type}

/-! ## In whose hands -/

/-- The events that are carried for a worker. -/
def Exchange.inHand (x : Exchange Float ε) (d : Duty ε) : List ε :=
  match d.client? with
  | some client => ((x.client? client).map Client.carried).getD []
  | none => []

theorem Exchange.client?_of_mem {x : Exchange Float ε} (distinct : x.Distinct) {c : Client ε}
    (mem : c ∈ x.clients) : x.client? c.id = some c := by
  obtain ⟨before, after, found⟩ := List.append_of_mem mem
  rw [Distinct, found, List.map_append, List.map_cons] at distinct
  have apart := (List.nodup_cons.1 (List.nodup_middle.1 distinct)).1
  have none : before.find? (·.id == c.id) = none := by
    refine List.find?_eq_none.2 fun d hd same => apart (List.mem_append_left _ ?_)
    exact beq_iff_eq.1 same ▸ List.mem_map_of_mem hd
  rw [client?, found, List.find?_append, none, Option.none_or, List.find?_cons,
    beq_self_eq_true]

/-- What the clients carry they carry for workers. -/
theorem Books.Sound.carried_eq {b : Books ε} (h : b.Sound) :
    (carried b.exchange.clients : Multiset ε) =
      b.duties.bind fun d => ↑(b.exchange.inHand d) := by
  let hand (id : ℕ) : Multiset ε := ↑(((b.exchange.client? id).map Client.carried).getD [])
  have known {c : Client ε} (mem : c ∈ b.exchange.clients) : hand c.id = ↑c.carried := by
    simp only [hand, Exchange.client?_of_mem h.staffed.distinct mem]
    rfl
  have clients : (carried b.exchange.clients : Multiset ε) =
      Multiset.bind ↑(b.exchange.clients.map (·.id)) hand := by
    rw [← Multiset.map_coe, Multiset.bind_map, carried, ← Multiset.coe_bind]
    exact Multiset.bind_congr fun c mem => (known mem).symm
  have present : b.fetching ⊆ ↑(b.exchange.clients.map (·.id)) :=
    fun id mem => h.staffed.present id mem
  obtain ⟨others, split⟩ :=
    Multiset.le_iff_exists_add.1 ((Multiset.le_iff_subset h.apart).2 present)
  -- a client that fetches for no worker is a producer, and carries nothing
  have empty : others.bind hand = 0 := by
    refine (Multiset.bind_congr fun id mem => ?_).trans (Multiset.bind_zero others)
    have distinct : (↑(b.exchange.clients.map (·.id)) : Multiset ℕ).Nodup :=
      h.staffed.distinct
    rw [split] at distinct
    have stranger : id ∉ b.fetching := fun fetches =>
      Multiset.disjoint_left.1 (Multiset.nodup_add.1 distinct).2.2 fetches mem
    have listed : id ∈ (↑(b.exchange.clients.map (·.id)) : Multiset ℕ) := by
      rw [split]
      exact Multiset.mem_add.2 (.inr mem)
    obtain ⟨c, hc, rfl⟩ := List.mem_map.1 listed
    have role := (h.staffed.roles c hc).resolve_left fun fetches => stranger fetches.1
    rw [known hc, role.2.1]
    rfl
  have duties (duties : Multiset (Duty ε)) : (duties.filterMap Duty.client?).bind hand =
      duties.bind fun d => ↑(b.exchange.inHand d) := by
    induction duties using Multiset.induction_on with
    | empty => rfl
    | cons d rest ih =>
      rw [Multiset.cons_bind, ← ih]
      unfold Exchange.inHand
      cases hc : d.client? with
      | none =>
        rw [Multiset.filterMap_cons_none _ _ hc]
        exact (zero_add _).symm
      | some id => rw [Multiset.filterMap_cons_some _ _ _ hc, Multiset.cons_bind]
  rw [clients, split, Multiset.add_bind, empty, add_zero]
  exact duties b.duties

namespace Service

/-- The events of the batch that a worker has fetched, until it hands them to the handler. -/
def inHand (s : Service ε) (w : Worker ε) : List ε := s.stage.exchange.inHand w.duty

theorem workers_eq (s : Service ε) : s.workers.map (·.2) = s.pools.flatMap Pool.workers := by
  rw [workers, List.map_flatten, List.flatMap]
  refine congrArg _ (List.ext_getElem? fun i => ?_)
  simp only [List.getElem?_map, List.getElem?_mapIdx, Option.map_map]
  congr 1
  funext p
  simp

theorem workers_duties (s : Service ε) :
    s.workers.map (fun w => w.2.duty) = s.pools.flatMap fun p => p.roll.map Prod.snd := by
  have duties := congrArg (List.map Worker.duty) s.workers_eq
  rw [List.map_map, List.map_flatMap] at duties
  refine duties.trans (congrArg s.pools.flatMap (funext fun p => ?_))
  rw [Pool.roll, List.map_map]
  rfl

end Service

/-! ## Everything that can happen -/

/-- A service, the events ever published on its queue, and how the calls of its handler
    ended. -/
structure Watched (ε : Type) where
  service : Service ε
  published : List ε
  verdicts : List Verdict

namespace Watched

/-- The books of a watched service. -/
def books (w : Watched ε) : Books ε := w.service.books w.published w.verdicts

/-- The service in another state. -/
def withService (w : Watched ε) (service : Service ε) : Watched ε := { w with service }

/-- The service in another state, after a call of the handler may have ended. -/
def judged (w : Watched ε) (service : Service ε) (verdict? : Option Verdict) : Watched ε :=
  { w with service, verdicts := w.verdicts ++ verdict?.toList }

/-- The service with its exchange in another state, and some events published. -/
def withExchange (w : Watched ε) (x : Exchange Float ε) (published : List ε) : Watched ε :=
  { w with
    service := { w.service with stage := { w.service.stage with exchange := x } }
    published := w.published ++ published }

/-- All that can happen to a service with the given number, whether or not the system gives the
    threads that are asked for. -/
inductive Move (number : ℕ) : Watched ε → Watched ε → Prop where
  /-- A client of the exchange goes on, or a producer comes. -/
  | trade {w : Watched ε} {x : Exchange Float ε} {published : List ε}
      (step : Exchange.Step Call.IsProducer w.service.stage.exchange published x) :
      Move number w (w.withExchange x published)
  /-- A producer who needs no client, such as a handler that sends events. -/
  | atOnce {w : Watched ε} (call : Call ε) (produces : call.IsProducer) :
      Move number w (w.withExchange (w.service.stage.exchange.atOnce call).1
        (call.published (w.service.stage.exchange.channel.step call false).progress))
  /-- A client that is no worker's leaves. -/
  | leave {w : Watched ε} {c : Client ε} (mem : c ∈ w.service.stage.exchange.clients)
      (stranger : ∀ v ∈ w.service.workers, v.2.duty ≠ .fetching c.id) :
      Move number w (w.withExchange (w.service.stage.exchange.leave c.id) [])
  /-- A worker takes its next step. -/
  | worker {w : Watched ε} {s : Service ε} (pool worker : ℕ) (refusals : ThreadRefusals)
      (step : w.service.step? number pool worker refusals = some s) :
      Move number w (w.judged s ((w.service.worker? pool worker).bind Worker.verdict?))
  /-- A handler has sent events, and goes on knowing whether they were let in. -/
  | send {w : Watched ε} {batch : Batch ε} {target : ℕ} {events : List ε}
      {next : Bool → Plan ε} {since : ℕ} (pool worker : ℕ)
      (sends : w.service.IsAt pool worker (.handling batch (.send target events next) since))
      (accepted : Bool) :
      Move number w
        (w.withService (w.service.setDuty pool worker (.handling batch (next accepted) since)))
  | start {w : Watched ε} {s : Service ε} {answer : Except Fault (Except StageError Unit)}
      (pool : ℕ) (refusals : ThreadRefusals)
      (started : w.service.startPool? pool refusals = some (s, answer)) :
      Move number w (w.withService s)
  | resize {w : Watched ε} (pool size : ℕ) (refusals : ThreadRefusals) :
      Move number w (w.withService (w.service.resizePool pool size refusals).1)
  | beginStop {w : Watched ε} (pool : ℕ) :
      Move number w (w.withService (w.service.mapPool pool fun p => p.beginStop.1))
  /-- Someone attends to the exits that workers have reported. -/
  | reap {w : Watched ε} (pool : ℕ) :
      Move number w (w.withService (w.service.mapPool pool Pool.reapAll))
  /-- A shutdown no longer waits, and leaves workers to themselves. -/
  | endStop {w : Watched ε} (pool : ℕ) :
      Move number w (w.withService (w.service.mapPool pool Pool.endStop))
  /-- Something else of the stage changes: its loops, its latch, its handler. -/
  | around {w : Watched ε} (stage : Stage ε) (exchange : stage.exchange = w.service.stage.exchange)
      (latest : stage.latest = w.service.stage.latest) :
      Move number w (w.withService { w.service with stage })

end Watched

/-- A service that nothing has happened to yet. -/
structure Service.IsNew (s : Service ε) : Prop where
  clients : s.stage.exchange.clients = []
  empty : s.stage.queue.events = []
  counters : s.stage.stats.handled = (0, 0, 0)
  journal : s.stage.latest = []
  pools : ∀ p ∈ s.pools, p.workers = [] ∧ p.policy = .carryOn

/-- It does not matter to a new service what its loops are. -/
theorem Service.IsNew.putConsole {s : Service ε} (new : s.IsNew) (c : Console Float) :
    ({ s with stage := s.stage.putConsole c } : Service ε).IsNew := by
  obtain ⟨clients, queue, counters, journal⟩ := s.stage.putConsole_keeps c
  have empty : (s.stage.putConsole c).queue.events = s.stage.queue.events := congrArg _ queue
  exact ⟨clients.trans new.clients, empty.trans new.empty, counters.trans new.counters,
    journal.trans new.journal, new.pools⟩

/-- A stage as it is built is its frame, with a loop attached if there is to be one. -/
theorem Blueprint.frame_of_build? {b : Blueprint ε} {defaults : Resolved} {stage : Stage ε}
    (built : b.build? defaults = .ok stage) :
    let frame := b.frame defaults (b.rigging defaults)
    stage = frame ∨ ∃ console, stage = frame.putConsole console := by
  rw [build?] at built
  cases loop : (b.rigging defaults).loop? with
  | none =>
    simp only [loop, Except.ok.injEq] at built
    exact .inl built.symm
  | some target =>
    obtain ⟨settings, number⟩ := target
    simp only [loop] at built
    cases attached : (b.frame defaults (b.rigging defaults)).console.attach? settings number with
    | error fault =>
      rw [attached] at built
      cases built
    | ok console =>
      rw [attached] at built
      cases built
      exact .inr ⟨console, rfl⟩

/-- A stage as it is built, with a pool that has not started, is a new service. -/
theorem Service.isNew_of_build? {b : Blueprint ε} {defaults : Resolved} {stage : Stage ε}
    (built : b.build? defaults = .ok stage) :
    (({ stage, pools := [] } : Service ε).addPool .carryOn).IsNew := by
  have unstarted (stage : Stage ε) :
      ∀ p ∈ (({ stage, pools := [] } : Service ε).addPool .carryOn).pools,
        p.workers = [] ∧ p.policy = .carryOn := by
    intro p mem
    obtain rfl := List.mem_singleton.1 mem
    exact ⟨rfl, rfl⟩
  have frame (pools : List (Pool ε))
      (unstarted : ∀ p ∈ pools, p.workers = [] ∧ p.policy = .carryOn) :
      (⟨b.frame defaults (b.rigging defaults), pools⟩ : Service ε).IsNew :=
    ⟨rfl, rfl, rfl, rfl, unstarted⟩
  rcases Blueprint.frame_of_build? built with rfl | ⟨console, rfl⟩
  · exact frame _ (unstarted _)
  · exact (frame _ (unstarted _)).putConsole console

/-- What can become of a new service. -/
inductive Watched.Reached (number : ℕ) : Watched ε → Prop where
  | new {s : Service ε} (new : s.IsNew) : Reached number ⟨s, [], []⟩
  | move {w w' : Watched ε} (before : Reached number w) (move : Move number w w') :
      Reached number w'

/-! ## Every move is told by entries -/

namespace Watched

variable {number : ℕ} {w w' : Watched ε}

theorem Move.entries (move : Move number w w') (orderly : w.service.Orderly)
    (sound : w.books.Sound) : w'.service.Orderly ∧ w.books.Entries w'.books := by
  cases move with
  | trade step => exact ⟨orderly, .single (.trade step)⟩
  | atOnce call produces => exact ⟨orderly, .single (.atOnce call produces.taken)⟩
  | @leave c mem stranger =>
    have unlisted : c.id ∉ w.books.fetching := fun fetches => by
      obtain ⟨d, hd, client⟩ := (Multiset.mem_filterMap _ _).1 fetches
      have listed : d ∈ w.service.workers.map fun v => v.2.duty := by
        rw [w.service.workers_duties]
        exact hd
      obtain ⟨v, hv, rfl⟩ := List.mem_map.1 listed
      exact stranger v hv (Duty.eq_fetching client)
    have entry : w.books.Entry { w.books with exchange := w.service.stage.exchange.leave c.id } :=
      .leave mem unlisted
    refine ⟨orderly, .single ?_⟩
    show w.books.Entry { w.books with
      exchange := w.service.stage.exchange.leave c.id, published := w.published ++ [] }
    rw [List.append_nil]
    exact entry
  | worker pool worker refusals step => exact Service.step?_entries orderly sound step
  | send pool worker sends accepted =>
    exact Service.entries_turn orderly sends (fun _ => ⟨rfl, rfl⟩) rfl rfl rfl
  | start pool refusals started => exact Service.entries_startPool? orderly started
  | resize pool size refusals => exact Service.entries_resizePool orderly pool size refusals
  | beginStop pool => exact Service.entries_attend orderly pool Pool.hires_beginStop
  | reap pool => exact Service.entries_attend orderly pool Pool.hires_reapAll
  | endStop pool => exact Service.entries_attend orderly pool Pool.hires_endStop
  | around stage exchange latest =>
    have same : (w.withService { w.service with stage }).books = w.books := by
      simp only [books, withService, Service.books, exchange, latest]
      rfl
    rw [same]
    exact ⟨orderly, .refl⟩

end Watched

/-! ## The books of a new service, and of all that comes of it -/

theorem Service.IsNew.orderly {s : Service ε} (new : s.IsNew) : s.Orderly := by
  intro p mem
  obtain ⟨none, policy⟩ := new.pools p mem
  refine ⟨?_, policy⟩
  exact Pool.numbered_of_empty none

theorem Service.IsNew.sound {s : Service ε} (new : s.IsNew) : (s.books [] []).Sound := by
  have duties : s.duties = 0 := by
    have none : (s.pools.flatMap fun p => p.roll.map Prod.snd) = [] := by
      refine List.flatMap_eq_nil_iff.2 fun p mem => ?_
      rw [Pool.roll, (new.pools p mem).1]
      rfl
    rw [Service.duties, none]
    rfl
  have same : s.books [] [] = ⟨s.stage.exchange, [], 0, [], []⟩ := by
    rw [Service.books, duties, new.journal]
  rw [same]
  refine ⟨Multiset.nodup_zero, ?_, ?_, ?_, rfl⟩
  · show Staffed _ s.stage.exchange.clients
    rw [new.clients]
    exact ⟨List.nodup_nil, fun id mem => absurd mem (Multiset.notMem_zero id),
      fun c mem => absurd mem List.not_mem_nil⟩
  · show (0 : Multiset ε) = s.stage.exchange.balance + 0
    have empty : s.stage.exchange.queue.events = [] := new.empty
    rw [Exchange.balance, new.clients, empty]
    rfl
  · show Words.Show s.stage.stats.handled 0 (0, 0, 0)
    rw [new.counters]
    rfl

namespace Watched

variable {number : ℕ} {w : Watched ε}

theorem Reached.sound (reached : Reached number w) : w.service.Orderly ∧ w.books.Sound := by
  induction reached with
  | new new => exact ⟨new.orderly, new.sound⟩
  | move _ move ih =>
    obtain ⟨orderly, entries⟩ := move.entries ih.1 ih.2
    exact ⟨orderly, entries.sound ih.2⟩

end Watched

/-! ## Exactly once -/

namespace Service

theorem sum_calls (workers : List (ℕ × Worker ε)) :
    ((workers.map fun v => v.2.duty).map Duty.calls).sum =
      workers.countP fun v => v.2.isHandling := by
  induction workers with
  | nil => rfl
  | cons v rest ih =>
    rw [List.map_cons, List.map_cons, List.sum_cons, ih, List.countP_cons, Nat.add_comm]
    obtain ⟨number, id, stop, membership, duty, idleSince⟩ := v
    cases duty <;> rfl

/-- Nothing has to be counted of workers without a batch. -/
theorem due_eq_zero {s : Service ε} (idle : ∀ v ∈ s.workers, v.2.hasBatch = false)
    (published : List ε) (verdicts : List Verdict) : (s.books published verdicts).due = 0 := by
  refine Multiset.sum_eq_zero fun n hn => ?_
  obtain ⟨d, hd, rfl⟩ := Multiset.mem_map.1 hn
  have listed : d ∈ s.workers.map fun v => v.2.duty := by
    rw [s.workers_duties]
    exact hd
  obtain ⟨⟨number, v⟩, hv, rfl⟩ := List.mem_map.1 listed
  have none := idle _ hv
  unfold Worker.hasBatch at none
  cases hd : v.duty with
  | handling | recording => exact absurd none (by simp [hd])
  | _ => rfl

end Service

/-- **Exactly once.** Whatever happens to a service, the events published are those in the
    queue, those of the batches that workers have fetched, and those handed to the handler;
    every batch handed to the handler is a call that has ended or that one worker is in; and
    when no worker has a batch, the counters show, as far as they can, the events handed to
    the handler, its calls, and its calls that failed. -/
theorem delivered_once {number : ℕ} {w : Watched ε} (reached : w.Reached number) :
    w.published.Perm (w.service.stage.queue.events ++
        (w.service.workers.flatMap fun v => w.service.inHand v.2) ++
        w.service.stage.journal.flatMap (·.events)) ∧
      (w.service.workers.countP fun v => v.2.isHandling) + w.verdicts.length =
        w.service.stage.journal.length ∧
      ((∀ v ∈ w.service.workers, v.2.hasBatch = false) →
        w.service.stage.stats.processed =
            UInt64.ofNat (w.service.stage.journal.flatMap (·.events)).length ∧
          w.service.stage.stats.batches = UInt64.ofNat w.service.stage.journal.length ∧
          w.service.stage.stats.failures =
            UInt64.ofNat (w.verdicts.countP (· ≠ .handled))) := by
  obtain ⟨-, sound⟩ := reached.sound
  have journal : w.service.stage.journal.length = w.books.journal.length :=
    List.length_reverse
  have handed : (w.service.stage.journal.flatMap (·.events)).Perm w.books.handed :=
    (List.reverse_perm _).flatMap_right _
  have duties : w.books.duties = ↑(w.service.workers.map fun v => v.2.duty) :=
    congrArg _ w.service.workers_duties.symm
  refine ⟨?_, ?_, fun idle => ?_⟩
  · have carried : (carried w.service.stage.exchange.clients : Multiset ε) =
        ↑(w.service.workers.flatMap fun v => w.service.inHand v.2) := by
      refine sound.carried_eq.trans ?_
      rw [duties, ← Multiset.map_coe, Multiset.bind_map, ← Multiset.coe_bind]
      rfl
    refine Multiset.coe_eq_coe.1 ?_
    rw [← Multiset.coe_add, ← Multiset.coe_add, Multiset.coe_eq_coe.2 handed, ← carried]
    exact sound.placed
  · rw [journal, ← sound.called, ← Service.sum_calls, Books.calls, duties]
    rfl
  · have counted := sound.counted
    have due : w.books.due = 0 := Service.due_eq_zero idle _ _
    rw [due] at counted
    have shown := counted.settled
    rw [handed.length_eq, journal]
    exact ⟨congrArg (·.1) shown, congrArg (·.2.1) shown, congrArg (·.2.2) shown⟩

/-- A worker has fetched and handled the only event, and all three counters show it. -/
theorem delivered_once_round : ∃ w : Watched ℕ, w.published = [7] ∧ w.verdicts = [.handled] ∧
    w.service.stage.queue.events = [] ∧ w.service.stage.journal = [⟨0, 0, [7]⟩] ∧
    w.service.stage.stats.processed = 1 ∧ w.service.stage.stats.batches = 1 ∧
    w.service.stage.stats.failures = 0 := by
  let channel : Channel Float ℕ :=
    { sink := { queue := .withCapacity none, gate := .openToAll, stats := .new }
      sorter := .drainAll }
  let stage : Stage ℕ :=
    { name := "stage", capability := .concurrent, exchange := .ofChannel channel
      loops := [], dials := [], gateDial? := none, pool := .default, handler := .idle
      latch := .shut, latest := [], life := [] }
  let service : Service ℕ := { stage, pools := [.new "stage" .default false .carryOn] }
  have new : Watched.Reached 0 ⟨service, [], []⟩ :=
    .new ⟨rfl, rfl, rfl, rfl, by simp [service, Pool.new]⟩
  have started := new.move (.start 0 noRefusals rfl)
  have offered := started.move (.atOnce (.enqueue true 7) True.intro)
  have fetching := offered.move (.worker 0 0 noRefusals rfl)
  have slotted := fetching.move (.worker 0 0 noRefusals rfl)
  have fetched := slotted.move (.worker 0 0 noRefusals rfl)
  have handling := fetched.move (.worker 0 0 noRefusals rfl)
  have handled := handling.move (.worker 0 0 noRefusals rfl)
  have recorded := handled.move (.worker 0 0 noRefusals rfl)
  have observed := recorded.move (.worker 0 0 noRefusals rfl)
  have completed := observed.move (.worker 0 0 noRefusals rfl)
  obtain ⟨-, -, counted⟩ := delivered_once completed
  obtain ⟨processed, batches, failures⟩ := counted fun v mem => by
    obtain rfl := List.mem_singleton.1 mem
    rfl
  exact ⟨_, rfl, rfl, rfl, rfl, processed, batches, failures⟩

end StagedEvents
