import Mathlib.Logic.Relation
import StagedEvents.Proofs.Pool.Roll
import StagedEvents.Proofs.Service.Books

/-!
# The round of a worker, in the books

Every step of a worker is a sequence of entries into the books of its service. The step
itself is deterministic; what it does to the books depends only on what the worker is at.

* `Service.books`: the books of a service.
* `Service.mapPool_hires`, `Service.mapWorker_moves`: what sections of a pool and steps of
  one worker do to the duties of all workers.
* `Service.step?_entries`: one step of one worker.
-/

namespace StagedEvents

variable {ε : Type}

/-- How a call of the handler ends, if it ends at this point of its plan. -/
def Plan.verdict? : Plan ε → Option Verdict
  | .finish verdict => some verdict
  | _ => none

/-- How the call of the handler ends that a worker is in, if its next step ends it. -/
def Worker.verdict? (w : Worker ε) : Option Verdict :=
  match w.duty with
  | .handling _ plan _ => plan.verdict?
  | _ => none

/-- To turn dials changes nothing that the books show. -/
theorem Stage.putConsole_keeps (s : Stage ε) (c : Console Float) :
    (s.putConsole c).exchange.clients = s.exchange.clients ∧
      (s.putConsole c).exchange.queue = s.exchange.queue ∧
      (s.putConsole c).stats.handled = s.stats.handled ∧
      (s.putConsole c).latest = s.latest := by
  simp only [putConsole]
  split
  · exact ⟨rfl, rfl, rfl, rfl⟩
  · exact ⟨rfl, rfl, rfl, rfl⟩

theorem Stage.observe_keeps (s : Stage ε) :
    s.observe.1.exchange.clients = s.exchange.clients ∧
      s.observe.1.exchange.queue = s.exchange.queue ∧
      s.observe.1.stats.handled = s.stats.handled ∧ s.observe.1.latest = s.latest := by
  simp only [observe, control]
  split
  · exact ⟨rfl, rfl, rfl, rfl⟩
  · exact s.putConsole_keeps _

/-- Any number of entries. -/
abbrev Books.Entries : Books ε → Books ε → Prop := Relation.ReflTransGen Books.Entry

theorem Books.Entries.sound {b b' : Books ε} (entries : b.Entries b') (h : b.Sound) :
    b'.Sound := by
  induction entries with
  | refl => exact h
  | tail _ entry ih => exact entry.sound ih

/-- Several workers are hired. -/
theorem Books.entries_hire (b : Books ε) (count : ℕ) :
    b.Entries { b with duties := Multiset.replicate count .checking + b.duties } := by
  induction count with
  | zero =>
    rw [Multiset.replicate_zero, zero_add]
  | succ count ih =>
    rw [Multiset.replicate_succ, Multiset.cons_add]
    exact ih.tail .hire

namespace Service

variable {s s' : Service ε} {pool worker : ℕ} {p p' : Pool ε} {d d' : Duty ε}

/-- What the workers of all pools are at. -/
def duties (s : Service ε) : Multiset (Duty ε) :=
  ↑(s.pools.flatMap fun p => p.roll.map Prod.snd)

/-- Every pool gives each worker a number of its own, and goes on after a failure. -/
def Orderly (s : Service ε) : Prop := ∀ p ∈ s.pools, p.Numbered ∧ p.policy = .carryOn

/-- The worker with the given number, in the pool with the given number, is at `d`. -/
def IsAt (s : Service ε) (pool worker : ℕ) (d : Duty ε) : Prop :=
  ∃ p, s.pools[pool]? = some p ∧ (worker, d) ∈ p.roll

/-- The books of a service with the given history. -/
def books (s : Service ε) (published : List ε) (verdicts : List Verdict) : Books ε :=
  { exchange := s.stage.exchange, journal := s.stage.latest, duties := s.duties, published,
    verdicts }

/-! ## Pools among pools, workers among workers -/

theorem mapPool_pools (found : s.pools[pool]? = some p) (f : Pool ε → Pool ε) :
    ∃ before after, s.pools = before ++ p :: after ∧
      (s.mapPool pool f).pools = before ++ f p :: after := by
  obtain ⟨lt, rfl⟩ := List.getElem?_eq_some_iff.1 found
  refine ⟨s.pools.take pool, s.pools.drop (pool + 1), ?_, List.modify_eq_take_cons_drop lt⟩
  rw [List.getElem_cons_drop, List.take_append_drop]

theorem duties_of_pools {before after : List (Pool ε)} (pools : s.pools = before ++ p :: after) :
    s.duties = ↑(p.roll.map Prod.snd) +
      ↑((before ++ after).flatMap fun p => p.roll.map Prod.snd) := by
  rw [duties, pools, List.flatMap_append, List.flatMap_append, List.flatMap_cons]
  simp only [← Multiset.coe_add]
  abel

/-- A section of a pool hires workers, if it does anything that the books show. -/
theorem mapPool_hires (orderly : s.Orderly) (found : s.pools[pool]? = some p)
    {f : Pool ε → Pool ε} (hires : p.Hires (f p)) :
    (s.mapPool pool f).Orderly ∧
      ∃ count, (s.mapPool pool f).duties = Multiset.replicate count .checking + s.duties := by
  obtain ⟨before, after, pools, pools'⟩ := mapPool_pools found f
  constructor
  · intro q mem
    rw [pools', List.mem_append, List.mem_cons] at mem
    have known (q : Pool ε) (mem : q ∈ before ∨ q = p ∨ q ∈ after) :
        q.Numbered ∧ q.policy = .carryOn :=
      orderly q (by rw [pools]; simpa using mem)
    rcases mem with mem | rfl | mem
    · exact known q (.inl mem)
    · have was := known p (.inr (.inl rfl))
      exact ⟨hires.numbered was.1, hires.policy.trans was.2⟩
    · exact known q (.inr (.inr mem))
  · obtain ⟨ids, -, -, roll⟩ := hires.exists_roll
    refine ⟨ids.length, ?_⟩
    have hired : (ids.map fun id => (id, (.checking : Duty ε))).map Prod.snd =
        List.replicate ids.length .checking := by
      rw [List.map_map]
      exact List.map_const' ..
    rw [duties_of_pools pools, duties_of_pools pools', roll, List.map_append, hired,
      ← Multiset.coe_add, Multiset.coe_replicate]
    abel

theorem mapPool_isAt (found : s.pools[pool]? = some p) {f : Pool ε → Pool ε}
    (hires : p.Hires (f p)) (listed : (worker, d) ∈ p.roll) :
    (s.mapPool pool f).IsAt pool worker d := by
  refine ⟨f p, ?_, hires.mem listed⟩
  show (s.pools.modify pool f)[pool]? = some (f p)
  rw [List.getElem?_modify_eq, found]
  rfl

/-- What one worker does is done to one duty. -/
theorem mapWorker_moves (orderly : s.Orderly) (listed : s.IsAt pool worker d)
    {f : Worker ε → Worker ε} (moves : ∀ w, (f w).id = w.id ∧ (f w).duty = d') :
    (s.mapWorker pool worker f).Orderly ∧ ∃ rest, s.duties = d ::ₘ rest ∧
      (s.mapWorker pool worker f).duties = d' ::ₘ rest := by
  obtain ⟨p, found, mem⟩ := listed
  obtain ⟨before, after, pools, pools'⟩ := mapPool_pools found (Pool.mapWorker worker f)
  have numbered : p.Numbered := (orderly p (List.mem_of_getElem? found)).1
  obtain ⟨first, last, roll, roll'⟩ := Pool.roll_mapWorker numbered mem moves
  constructor
  · intro q hq
    have hq : q ∈ before ++ p.mapWorker worker f :: after := pools' ▸ hq
    have others : ∀ q ∈ before ++ p :: after, q.Numbered ∧ q.policy = .carryOn :=
      fun q hq => orderly q (pools ▸ hq)
    rcases List.mem_append.1 hq with hq | hq
    · exact others q (List.mem_append_left _ hq)
    · rcases List.mem_cons.1 hq with rfl | hq
      · have was := others p (by simp)
        refine ⟨?_, was.2⟩
        refine was.1.of_ids ?_ (Nat.le_refl _)
        rw [roll, roll', List.map_append, List.map_cons, List.map_append, List.map_cons]
      · exact others q (by simp [hq])
  · refine ⟨↑((first ++ last).map Prod.snd) +
      ↑((before ++ after).flatMap fun p => p.roll.map Prod.snd), ?_, ?_⟩
    · rw [duties_of_pools pools, roll, ← Multiset.cons_add]
      congr 1
      simp
    · have pools'' : (s.mapWorker pool worker f).pools =
        before ++ p.mapWorker worker f :: after := pools'
      rw [duties_of_pools pools'', roll', ← Multiset.cons_add]
      congr 1
      simp

/-! ## Entries for one worker -/

variable {published : List ε} {verdicts : List Verdict}

/-- A worker goes on without more ado. -/
theorem entries_turn (orderly : s.Orderly) (listed : s.IsAt pool worker d)
    {f : Worker ε → Worker ε} (moves : ∀ w, (f w).id = w.id ∧ (f w).duty = d')
    (client : d'.client? = d.client?) (calls : d'.calls = d.calls) (due : d'.due = d.due) :
    (s.mapWorker pool worker f).Orderly ∧ (s.books published verdicts).Entries
      ((s.mapWorker pool worker f).books published verdicts) := by
  obtain ⟨orderly', rest, busy, busy'⟩ := mapWorker_moves orderly listed moves
  refine ⟨orderly', .single ?_⟩
  have same : (s.mapWorker pool worker f).books published verdicts =
      { s.books published verdicts with duties := d' ::ₘ rest } := by
    rw [← busy']
    rfl
  rw [same]
  exact .turn busy client calls due

/-- A section of a pool. -/
theorem entries_mapPool (orderly : s.Orderly) (found : s.pools[pool]? = some p)
    {f : Pool ε → Pool ε} (hires : p.Hires (f p)) :
    (s.mapPool pool f).Orderly ∧ (s.books published verdicts).Entries
      ((s.mapPool pool f).books published verdicts) := by
  obtain ⟨orderly', count, hired⟩ := mapPool_hires orderly found hires
  refine ⟨orderly', ?_⟩
  have same : (s.mapPool pool f).books published verdicts =
      { s.books published verdicts with
        duties := Multiset.replicate count .checking + s.duties } := by
    rw [← hired]
    rfl
  rw [same]
  exact Books.entries_hire _ count

theorem entries_beginFetch (orderly : s.Orderly) (listed : s.IsAt pool worker .checking)
    (block : Span) :
    (s.beginFetch pool worker block).Orderly ∧ (s.books published verdicts).Entries
      ((s.beginFetch pool worker block).books published verdicts) := by
  let x := s.stage.exchange.enter s.stage.exchange.freshId (.fetch .takeSlot false) block
  let s₁ : Service ε := { s with stage := { s.stage with exchange := x } }
  obtain ⟨orderly', rest, busy, busy'⟩ := mapWorker_moves (s := s₁) orderly listed
    (f := fun w => { w with duty := .fetching s.stage.exchange.freshId }) fun _ => ⟨rfl, rfl⟩
  refine ⟨orderly', .single ?_⟩
  have same : (s.beginFetch pool worker block).books published verdicts =
      { s.books published verdicts with
        exchange := x
        duties := .fetching s.stage.exchange.freshId ::ₘ rest } := by
    rw [← busy']
    rfl
  rw [same]
  exact .fetch busy ⟨rfl, rfl, rfl⟩ block

theorem entries_endFetch (orderly : s.Orderly) {c : Client ε} {reply : Reply ε}
    (listed : s.IsAt pool worker (.fetching c.id)) (mem : c ∈ s.stage.exchange.clients)
    (returned : c.phase = .returned reply) (number : ℕ) :
    (s.endFetch number pool worker c.id reply).Orderly ∧ (s.books published verdicts).Entries
      ((s.endFetch number pool worker c.id reply).books published verdicts) := by
  let s₁ : Service ε := { s with stage := s.stage.mapExchange fun x => x.leave c.id }
  have carries : c.carried = reply.carried := by rw [Client.carried, returned]
  have misses (d' : Duty ε) (free : d'.IsFree) (empty : reply.carried = []) :
      (s₁.setDuty pool worker d').Orderly ∧ (s.books published verdicts).Entries
        ((s₁.setDuty pool worker d').books published verdicts) := by
    obtain ⟨orderly', rest, busy, busy'⟩ := mapWorker_moves (s := s₁) orderly listed
      (f := fun w => { w with duty := d' }) fun _ => ⟨rfl, rfl⟩
    refine ⟨orderly', .single ?_⟩
    have same : (s₁.setDuty pool worker d').books published verdicts =
        { s.books published verdicts with
          exchange := s.stage.exchange.leave c.id
          duties := d' ::ₘ rest } := by
      rw [← busy']
      rfl
    rw [same]
    exact .miss busy mem (carries.trans empty) free
  unfold endFetch
  split
  · rename_i batch
    let entry : JournalEntry ε := ⟨pool, worker, batch.events⟩
    let own? := if s.stage.isIntroduced then some number else none
    let duty : Duty ε :=
      .handling batch (s.stage.handler.plan own? batch.events) s.stage.exchange.clock
    let s₂ : Service ε := { s₁ with stage := s₁.stage.enter entry }
    obtain ⟨orderly', rest, busy, busy'⟩ := mapWorker_moves (s := s₂) orderly listed
      (f := fun w => { w with duty }) fun _ => ⟨rfl, rfl⟩
    refine ⟨orderly', .single ?_⟩
    have same : (s₂.setDuty pool worker duty).books published verdicts =
        { s.books published verdicts with
          exchange := s.stage.exchange.leave c.id
          journal := entry :: s.stage.latest
          duties := duty ::ₘ rest } := by
      rw [← busy']
      rfl
    show (s.books published verdicts).Entry
      ((s₂.setDuty pool worker duty).books published verdicts)
    rw [same]
    exact .receive busy mem carries pool worker _ _
  · exact misses .idling ⟨rfl, rfl, rfl⟩ rfl
  · rename_i noBatch noMiss
    refine misses .leaving ⟨rfl, rfl, rfl⟩ ?_
    unfold Reply.carried
    split
    · exact absurd rfl (noBatch _)
    · rfl

/-- Steps of the exchange. -/
theorem entries_steps {x y : Exchange Float ε} {more : List ε}
    (steps : Exchange.Steps Call.IsProducer x more y) (b : Books ε) :
    Books.Entries { b with exchange := x }
      { b with exchange := y, published := b.published ++ more } := by
  induction steps with
  | refl => rw [List.append_nil]
  | @tail y z first last _ step ih =>
    have entry : Books.Entry { b with exchange := y, published := b.published ++ first }
        { b with exchange := z, published := b.published ++ first ++ last } := .trade step
    rw [← List.append_assoc]
    exact ih.tail entry

theorem mem_fetching {client : ℕ} (listed : s.IsAt pool worker (.fetching client)) :
    client ∈ (s.books published verdicts).fetching := by
  obtain ⟨p, found, mem⟩ := listed
  refine (Multiset.mem_filterMap _ _).2 ⟨.fetching client, ?_, rfl⟩
  refine List.mem_flatMap.2 ⟨p, List.mem_of_getElem? found, ?_⟩
  exact List.mem_map.2 ⟨_, mem, rfl⟩

/-- A step of a fetch is the end of it, or a step of the worker's client. -/
theorem stepFetch?_cases {client number : ℕ}
    (h : s.stepFetch? number pool worker client = some s') :
    ∃ c ∈ s.stage.exchange.clients, c.id = client ∧
      ((∃ reply, c.phase = .returned reply ∧ s' = s.endFetch number pool worker client reply) ∨
        ∃ x, s.stage.exchange.stepClient? c = some x ∧
          s' = { s with stage := s.stage.mapExchange fun _ => x }) := by
  unfold stepFetch? at h
  cases known : s.stage.exchange.client? client with
  | none => exact absurd h (by simp [known])
  | some c =>
    have found := List.find?_some known
    refine ⟨c, List.mem_of_find?_eq_some known, by simpa using found, ?_⟩
    simp only [known] at h
    cases replied : c.reply? with
    | some reply =>
      rw [replied] at h
      refine .inl ⟨reply, ?_, (Option.some.inj h).symm⟩
      unfold Client.reply? at replied
      split at replied
      · rename_i phase
        rw [phase, Option.some.inj replied]
      · exact absurd replied (by simp)
    | none =>
      rw [replied] at h
      obtain ⟨x, stepped, rfl⟩ := Option.map_eq_some_iff.1 h
      exact .inr ⟨x, stepped, rfl⟩

theorem entries_stepFetch? (orderly : s.Orderly) {client number : ℕ}
    (listed : s.IsAt pool worker (.fetching client)) (sound : (s.books published verdicts).Sound)
    (h : s.stepFetch? number pool worker client = some s') :
    s'.Orderly ∧ (s.books published verdicts).Entries (s'.books published verdicts) := by
  obtain ⟨c, mem, rfl, ⟨reply, returned, rfl⟩ | ⟨x, stepped, rfl⟩⟩ := stepFetch?_cases h
  · exact entries_endFetch orderly listed mem returned number
  · obtain ⟨more, steps, silent⟩ :=
      Exchange.steps_of_stepClient? sound.staffed.distinct mem stepped
    have none : more = [] := by
      rcases silent with none | ⟨call, progress, busy, rfl⟩
      · exact none
      · rcases sound.staffed.roles c mem with ⟨-, fetches⟩ | ⟨stranger, -⟩
        · exact (fetches call busy).published progress
        · exact absurd (mem_fetching listed) stranger
    have entries := entries_steps steps (s.books published verdicts)
    rw [none, List.append_nil] at entries
    exact ⟨orderly, entries⟩

theorem entries_stepPlan? (orderly : s.Orderly) {batch : Batch ε} {plan : Plan ε} {since : ℕ}
    (listed : s.IsAt pool worker (.handling batch plan since))
    (h : s.stepPlan? pool worker batch plan since = some s') :
    s'.Orderly ∧ (s.books published verdicts).Entries
      (s'.books published (verdicts ++ plan.verdict?.toList)) := by
  cases plan with
  | finish verdict =>
    obtain rfl := Option.some.inj h
    let duty : Duty ε := .recording batch verdict ⟨s.clock - since⟩
    obtain ⟨orderly', rest, busy, busy'⟩ := mapWorker_moves orderly listed
      (f := fun w => { w with duty }) fun _ => ⟨rfl, rfl⟩
    refine ⟨orderly', .single ?_⟩
    show (s.books published verdicts).Entry { s.books published verdicts with
      duties := (s.mapWorker pool worker _).duties, verdicts := verdicts ++ [verdict] }
    rw [busy']
    exact .judge busy verdict _
  | hold next =>
    obtain ⟨latch, passed, rfl⟩ := Option.map_eq_some_iff.1 h
    have goesOn : (Plan.hold next).verdict?.toList = [] := rfl
    rw [goesOn, List.append_nil]
    exact entries_turn (s := { s with stage := { s.stage with latch } }) orderly listed
      (fun _ => ⟨rfl, rfl⟩) rfl rfl rfl
  | send => exact absurd h (by simp [stepPlan?])

theorem entries_record (orderly : s.Orderly) {batch : Batch ε} {verdict : Verdict}
    {elapsed : Span} (listed : s.IsAt pool worker (.recording batch verdict elapsed)) :
    (s.record pool worker .carryOn batch verdict elapsed).Orderly ∧
      (s.books published verdicts).Entries
        ((s.record pool worker .carryOn batch verdict elapsed).books published verdicts) := by
  have counted (s₁ : Service ε) (pools : s₁.pools = s.pools)
      (clients : s₁.stage.exchange.clients = s.stage.exchange.clients)
      (queue : s₁.stage.exchange.queue = s.stage.exchange.queue)
      (latest : s₁.stage.latest = s.stage.latest)
      (handled : s₁.stage.stats.handled =
        Words.count s.stage.stats.handled (Duty.due (.recording batch verdict elapsed))) :
      (s₁.setDuty pool worker (.observing batch)).Orderly ∧ (s.books published verdicts).Entries
        ((s₁.setDuty pool worker (.observing batch)).books published verdicts) := by
    have duties : s₁.duties = s.duties := by rw [duties, duties, pools]
    have listed₁ : s₁.IsAt pool worker (.recording batch verdict elapsed) := by
      unfold IsAt
      rwa [pools]
    have orderly₁ : s₁.Orderly := by
      unfold Orderly
      rwa [pools]
    obtain ⟨orderly', rest, busy, busy'⟩ := mapWorker_moves orderly₁ listed₁
      (f := fun w => { w with duty := .observing batch }) fun _ => ⟨rfl, rfl⟩
    refine ⟨orderly', .single ?_⟩
    have same : (s₁.setDuty pool worker (.observing batch)).books published verdicts =
        { s.books published verdicts with
          exchange := s₁.stage.exchange
          duties := .observing batch ::ₘ rest } := by
      rw [← busy', books, books, ← latest]
      rfl
    rw [same]
    exact .record (duties.symm.trans busy) rfl rfl clients queue handled ⟨rfl, rfl, rfl⟩
  unfold record
  split
  · rename_i handled
    refine counted _ rfl rfl rfl rfl ?_
    rw [handled]
    exact Prod.ext rfl (Prod.ext rfl (UInt64.add_zero _).symm)
  · rename_i failed
    refine counted _ rfl rfl rfl rfl ?_
    rw [Duty.due, if_neg failed]
    rfl

theorem entries_observe (orderly : s.Orderly) {batch : Batch ε}
    (listed : s.IsAt pool worker (.observing batch)) :
    (s.observe pool worker batch).Orderly ∧ (s.books published verdicts).Entries
      ((s.observe pool worker batch).books published verdicts) := by
  obtain ⟨clients, queue, handled, latest⟩ := s.stage.observe_keeps
  let s₁ : Service ε := { s with stage := s.stage.observe.1 }
  have tuned : (s.books published verdicts).Entry (s₁.books published verdicts) := by
    have same : s₁.books published verdicts =
        { s.books published verdicts with exchange := s₁.stage.exchange } := by
      rw [books, books, ← latest]
      rfl
    rw [same]
    exact .tune clients queue handled
  obtain ⟨orderly', turned⟩ := entries_turn (s := s₁) orderly listed
    (f := fun w => { w with duty := .completing batch !s.stage.observe.2.isOk })
    (fun _ => ⟨rfl, rfl⟩) rfl rfl rfl
  exact ⟨orderly', turned.head tuned⟩

theorem entries_complete (orderly : s.Orderly) {batch : Batch ε} {leaves : Bool}
    (listed : s.IsAt pool worker (.completing batch leaves)) :
    (s.complete pool worker batch leaves).Orderly ∧ (s.books published verdicts).Entries
      ((s.complete pool worker batch leaves).books published verdicts) := by
  let call : Call ε := .complete batch.completion .done
  let s₁ : Service ε :=
    { s with stage := { s.stage with exchange := (s.stage.exchange.atOnce call).1 } }
  have completed : (s.books published verdicts).Entry (s₁.books published verdicts) := by
    have fetches : call.IsFetch := True.intro
    have entry : (s.books published verdicts).Entry _ := .atOnce call fun _ => rfl
    rw [fetches.published, List.append_nil] at entry
    exact entry
  cases leaves with
  | true =>
    obtain ⟨orderly', turned⟩ := entries_turn (s := s₁) orderly listed
      (f := fun w => { w with duty := .leaving }) (fun _ => ⟨rfl, rfl⟩) rfl rfl rfl
    exact ⟨orderly', turned.head completed⟩
  | false =>
    obtain ⟨orderly', turned⟩ := entries_turn (s := s₁) orderly listed
      (f := fun w => { w with duty := .measuring, idleSince := s₁.clock })
      (fun _ => ⟨rfl, rfl⟩) rfl rfl rfl
    exact ⟨orderly', turned.head completed⟩

/-- A section of its pool, and then the worker goes on without more ado. -/
theorem entries_section (orderly : s.Orderly) (found : s.pools[pool]? = some p)
    (listed : (worker, d) ∈ p.roll) {f : Pool ε → Pool ε} (hires : p.Hires (f p))
    (free : d.IsFree) (free' : d'.IsFree) :
    ((s.mapPool pool f).setDuty pool worker d').Orderly ∧
      (s.books published verdicts).Entries
        (((s.mapPool pool f).setDuty pool worker d').books published verdicts) := by
  obtain ⟨orderly', hired⟩ := entries_mapPool orderly found hires
  obtain ⟨orderly'', turned⟩ := entries_turn orderly' (mapPool_isAt found hires listed)
    (f := fun w => { w with duty := d' }) (fun _ => ⟨rfl, rfl⟩)
    (free'.client.trans free.client.symm) (free'.calls.trans free.calls.symm)
    (free'.due.trans free.due.symm)
  exact ⟨orderly'', hired.trans turned⟩

theorem entries_rest (orderly : s.Orderly) {w : Worker ε} (found : s.pools[pool]? = some p)
    (listed : (w.id, .idling) ∈ p.roll) :
    (s.rest pool p w).Orderly ∧
      (s.books published verdicts).Entries ((s.rest pool p w).books published verdicts) := by
  have idle (d' : Duty ε) (free : d'.IsFree) : (s.setDuty pool w.id d').Orderly ∧
      (s.books published verdicts).Entries ((s.setDuty pool w.id d').books published verdicts) :=
    entries_turn orderly ⟨p, found, listed⟩ (fun _ => ⟨rfl, rfl⟩) free.client free.calls free.due
  unfold rest
  split
  · split
    · rename_i retired
      exact entries_section orderly found listed (Pool.hires_retire? retired) ⟨rfl, rfl, rfl⟩
        ⟨rfl, rfl, rfl⟩
    · exact idle .checking ⟨rfl, rfl, rfl⟩
  · exact idle .checking ⟨rfl, rfl, rfl⟩

theorem entries_stepIn? (orderly : s.Orderly) (found : s.pools[pool]? = some p)
    {w : Worker ε} (mem : w ∈ p.workers) (sound : (s.books published verdicts).Sound)
    {number : ℕ} {refusals : ThreadRefusals} (h : s.stepIn? number pool p w refusals = some s') :
    s'.Orderly ∧ (s.books published verdicts).Entries
      (s'.books published (verdicts ++ w.verdict?.toList)) := by
  have listed : (w.id, w.duty) ∈ p.roll := List.mem_map.2 ⟨w, mem, rfl⟩
  obtain ⟨id, stop, membership, duty, idleSince⟩ := w
  have listed' : s.IsAt pool id duty := ⟨p, found, listed⟩
  have carriesOn : p.policy = .carryOn := (orderly p (List.mem_of_getElem? found)).2
  have quiet (none : (⟨id, stop, membership, duty, idleSince⟩ : Worker ε).verdict? = none)
      (same : s'.Orderly ∧ (s.books published verdicts).Entries (s'.books published verdicts)) :
      s'.Orderly ∧ (s.books published verdicts).Entries (s'.books published (verdicts ++
        (⟨id, stop, membership, duty, idleSince⟩ : Worker ε).verdict?.toList)) := by
    rw [none, Option.toList_none, List.append_nil]
    exact same
  cases duty with
  | checking =>
    refine quiet rfl ?_
    obtain rfl := Option.some.inj h
    cases stop with
    | true => exact entries_turn orderly listed' (fun _ => ⟨rfl, rfl⟩) rfl rfl rfl
    | false => exact entries_beginFetch orderly listed' p.settings.block
  | fetching client => exact quiet rfl (entries_stepFetch? orderly listed' sound h)
  | handling batch plan since => exact entries_stepPlan? orderly listed' h
  | recording batch verdict elapsed =>
    refine quiet rfl ?_
    obtain rfl := Option.some.inj h
    show (s.record pool id p.policy batch verdict elapsed).Orderly ∧ _
    rw [carriesOn]
    exact entries_record orderly listed'
  | observing batch =>
    obtain rfl := Option.some.inj h
    exact quiet rfl (entries_observe orderly listed')
  | completing batch leaves =>
    obtain rfl := Option.some.inj h
    exact quiet rfl (entries_complete orderly listed')
  | measuring =>
    refine quiet rfl ?_
    obtain rfl := Option.some.inj h
    cases s.overloads p.settings with
    | true => exact entries_turn orderly listed' (fun _ => ⟨rfl, rfl⟩) rfl rfl rfl
    | false => exact entries_turn orderly listed' (fun _ => ⟨rfl, rfl⟩) rfl rfl rfl
  | adding =>
    obtain rfl := Option.some.inj h
    exact quiet rfl (entries_section orderly found listed (p.hires_grow s.clock refusals)
      ⟨rfl, rfl, rfl⟩ ⟨rfl, rfl, rfl⟩)
  | idling =>
    obtain rfl := Option.some.inj h
    exact quiet rfl (entries_rest orderly found listed)
  | leaving =>
    obtain rfl := Option.some.inj h
    exact quiet rfl (entries_turn orderly listed' (fun _ => ⟨rfl, rfl⟩) rfl rfl rfl)
  | reporting =>
    obtain rfl := Option.some.inj h
    exact quiet rfl (entries_section orderly found listed (.of_same rfl (Nat.le_refl _) rfl)
      ⟨rfl, rfl, rfl⟩ ⟨rfl, rfl, rfl⟩)
  | gone | crashing => exact absurd h (by simp [stepIn?])

/-- The step of a worker is its step as one of the workers of its pool. -/
theorem step?_cases {number : ℕ} {refusals : ThreadRefusals}
    (h : s.step? number pool worker refusals = some s') :
    ∃ p w, s.pools[pool]? = some p ∧ w ∈ p.workers ∧ s.worker? pool worker = some w ∧
      s.stepIn? number pool p w refusals = some s' := by
  unfold step? at h
  cases found : s.pools[pool]? with
  | none => exact absurd h (by simp [found])
  | some p =>
    simp only [found] at h
    obtain ⟨w, known, stepped⟩ := Option.bind_eq_some_iff.1 h
    refine ⟨p, w, rfl, List.mem_of_find?_eq_some known, ?_, stepped⟩
    rw [worker?, found]
    exact known

/-- **A step of a worker** is told by entries. -/
theorem step?_entries (orderly : s.Orderly) (sound : (s.books published verdicts).Sound)
    {number : ℕ} {refusals : ThreadRefusals} (h : s.step? number pool worker refusals = some s') :
    s'.Orderly ∧ (s.books published verdicts).Entries (s'.books published
      (verdicts ++ ((s.worker? pool worker).bind Worker.verdict?).toList)) := by
  obtain ⟨p, w, found, mem, same, stepped⟩ := step?_cases h
  rw [same]
  exact entries_stepIn? orderly found mem sound stepped

/-! ## Entries for those who run pools -/

theorem mapPool_of_none (absent : s.pools[pool]? = none) (f : Pool ε → Pool ε) :
    s.mapPool pool f = s := by
  rw [mapPool, List.modify_eq_self (List.getElem?_eq_none_iff.1 absent)]

/-- A section of any pool, or of none. -/
theorem entries_attend (orderly : s.Orderly) (pool : ℕ) {f : Pool ε → Pool ε}
    (hires : ∀ p : Pool ε, p.Hires (f p)) :
    (s.mapPool pool f).Orderly ∧ (s.books published verdicts).Entries
      ((s.mapPool pool f).books published verdicts) := by
  cases found : s.pools[pool]? with
  | some p => exact entries_mapPool orderly found (hires p)
  | none =>
    rw [mapPool_of_none found]
    exact ⟨orderly, .refl⟩

/-- A resize of a pool is a section of it. -/
theorem resizePool_eq (pool size : ℕ) (s : Service ε) (refusals : ThreadRefusals) :
    (s.resizePool pool size refusals).1 =
      s.mapPool pool fun p => (p.resize s.clock refusals size).1 := by
  unfold resizePool
  cases found : s.pools[pool]? with
  | none => exact (mapPool_of_none found _).symm
  | some p =>
    obtain ⟨lt, rfl⟩ := List.getElem?_eq_some_iff.1 found
    refine congrArg (fun pools => { s with pools }) ?_
    rw [List.modify_eq_set_get _ lt, List.modify_eq_set_get _ lt]
    rfl

theorem entries_resizePool (orderly : s.Orderly) (pool size : ℕ) (refusals : ThreadRefusals) :
    (s.resizePool pool size refusals).1.Orderly ∧ (s.books published verdicts).Entries
      ((s.resizePool pool size refusals).1.books published verdicts) := by
  rw [resizePool_eq]
  exact entries_attend orderly pool fun p => p.hires_resize s.clock refusals size

/-- A pool starts, and the sorter of the stage is told how many workers there may be. -/
theorem startPool?_cases {refusals : ThreadRefusals}
    {answer : Except Fault (Except StageError Unit)}
    (h : s.startPool? pool refusals = some (s', answer)) :
    ∃ p started, s.pools[pool]? = some p ∧ p.start? s.clock refusals = some (started, answer) ∧
      s' = ({ s with stage := s.stage.mapChannel fun c =>
        { c with sorter := c.sorter.init p.settings.most } } : Service ε).mapPool pool
          fun _ => started := by
  unfold startPool? at h
  split at h
  · exact absurd h (by simp)
  · rename_i p found
    obtain ⟨⟨started, answer'⟩, start, same⟩ := Option.map_eq_some_iff.1 h
    obtain ⟨rfl, rfl⟩ := Prod.mk.inj same
    exact ⟨p, started, found, start, rfl⟩

theorem entries_startPool? (orderly : s.Orderly) {refusals : ThreadRefusals}
    {answer : Except Fault (Except StageError Unit)}
    (h : s.startPool? pool refusals = some (s', answer)) :
    s'.Orderly ∧ (s.books published verdicts).Entries (s'.books published verdicts) := by
  obtain ⟨p, started, found, start, rfl⟩ := startPool?_cases h
  let channel := s.stage.exchange.channel
  let x : Exchange Float ε := { s.stage.exchange with
    channel := { channel with sorter := channel.sorter.init p.settings.most } }
  have tuned : (s.books published verdicts).Entry
      { s.books published verdicts with exchange := x } := .tune rfl rfl rfl
  obtain ⟨orderly', entries⟩ := entries_mapPool
    (s := { s with stage := { s.stage with exchange := x } }) orderly found
    (f := fun _ => started) (Pool.hires_start? start)
  exact ⟨orderly', entries.head tuned⟩

end Service

end StagedEvents
