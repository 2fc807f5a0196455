import Mathlib.Algebra.BigOperators.Group.Multiset.Basic
import StagedEvents.Proofs.Exchange.Carriage
import StagedEvents.Service

/-!
# The books of a service

What a service does with events and counters, told without pools: the exchange, the journal,
what the workers are at, and the history of what was published and of how the calls of the
handler ended. Each `Entry` is one thing that can happen to them, and `Sound` holds of the
books however many entries are made.

* `Books`, `Books.Entry`: the books, and what is entered into them.
* `Books.Sound`, `Books.Entry.sound`: every event is in one place, every worker's client is
  with the exchange, and the counters lack what is not recorded yet.
-/

namespace StagedEvents

variable {ε : Type}

/-! ## Counters that lag behind -/

/-- Events, batches and failures, as they are counted. -/
abbrev Words := UInt64 × UInt64 × UInt64

/-- Numbers of events, batches and failures. -/
abbrev Tally := ℕ × ℕ × ℕ

namespace Words

/-- The counters after something was counted. -/
def count (w : Words) (n : Tally) : Words :=
  (w.1 + UInt64.ofNat n.1, w.2.1 + UInt64.ofNat n.2.1, w.2.2 + UInt64.ofNat n.2.2)

/-- The counters show the total, as far as they can, once what is due is counted. -/
def Show (w : Words) (due total : Tally) : Prop :=
  w.count due = (UInt64.ofNat total.1, UInt64.ofNat total.2.1, UInt64.ofNat total.2.2)

theorem count_add (w : Words) (n m : Tally) : w.count (n + m) = (w.count n).count m := by
  have one (word : UInt64) (a b : ℕ) :
      word + UInt64.ofNat (a + b) = word + UInt64.ofNat a + UInt64.ofNat b := by
    rw [UInt64.ofNat_add, UInt64.add_assoc]
  exact Prod.ext (one _ _ _) (Prod.ext (one _ _ _) (one _ _ _))

variable {w : Words} {due total : Tally}

theorem Show.settled (h : w.Show 0 total) :
    w = (UInt64.ofNat total.1, UInt64.ofNat total.2.1, UInt64.ofNat total.2.2) := by
  have none : w.count 0 = w :=
    Prod.ext (UInt64.add_zero _) (Prod.ext (UInt64.add_zero _) (UInt64.add_zero _))
  rwa [Show, none] at h

/-- There is more to count. -/
theorem Show.more (h : w.Show due total) (n : Tally) : w.Show (n + due) (n + total) := by
  unfold Show at h ⊢
  rw [add_comm, count_add, h, add_comm]
  exact Prod.ext (UInt64.ofNat_add _ _).symm
    (Prod.ext (UInt64.ofNat_add _ _).symm (UInt64.ofNat_add _ _).symm)

/-- Some of what is due is counted. -/
theorem Show.record {n : Tally} (h : w.Show (n + due) total) : (w.count n).Show due total := by
  unfold Show at h ⊢
  rw [← count_add, h]

end Words

/-! ## What workers are at -/

namespace Duty

/-- The client of a worker that fetches. -/
def client? : Duty ε → Option Nat
  | .fetching client => some client
  | _ => none

theorem eq_fetching {d : Duty ε} {client : ℕ} (h : d.client? = some client) :
    d = .fetching client := by
  cases d with
  | fetching => exact congrArg _ (Option.some.inj h)
  | _ => exact absurd h (by simp [client?])

/-- How many calls of the handler a worker is in. -/
def calls : Duty ε → ℕ
  | .handling _ _ _ => 1
  | _ => 0

/-- What has yet to be counted of a batch that was handed to the handler. -/
def due : Duty ε → Tally
  | .handling batch _ _ => (batch.events.length, 1, 0)
  | .recording batch verdict _ => (batch.events.length, 1, if verdict = .handled then 0 else 1)
  | _ => 0

/-- A worker neither fetches nor has anything to be counted. -/
structure IsFree (d : Duty ε) : Prop where
  client : d.client? = none
  calls : d.calls = 0
  due : d.due = 0

end Duty

/-- The books of a service. -/
structure Books (ε : Type) where
  exchange : Exchange Float ε
  /-- The batches that were handed to the handler, the latest first. -/
  journal : List (JournalEntry ε)
  /-- What the workers are at, in no order. -/
  duties : Multiset (Duty ε)
  /-- All events ever published, in this order. -/
  published : List ε
  /-- How the calls of the handler ended, in this order. -/
  verdicts : List Verdict

namespace Books

/-- The counters of what was handled. -/
def counters (b : Books ε) : Words := b.exchange.channel.sink.stats.handled

/-- The clients of the workers that fetch. -/
def fetching (b : Books ε) : Multiset ℕ := b.duties.filterMap Duty.client?

/-- What has yet to be counted. -/
def due (b : Books ε) : Tally := (b.duties.map Duty.due).sum

/-- How many calls of the handler are under way. -/
def calls (b : Books ε) : ℕ := (b.duties.map Duty.calls).sum

/-- The events that were handed to the handler. -/
def handed (b : Books ε) : List ε := b.journal.flatMap (·.events)

/-- The events and the batches that were handed to the handler, and the calls that failed. -/
def total (b : Books ε) : Tally :=
  (b.handed.length, b.journal.length, b.verdicts.countP (· ≠ .handled))

/-- What can happen to a service. -/
inductive Entry : Books ε → Books ε → Prop where
  /-- A client of the exchange goes on. -/
  | trade {b : Books ε} {x : Exchange Float ε} {published : List ε}
      (step : Exchange.Step Call.IsProducer b.exchange published x) :
      Entry b { b with exchange := x, published := b.published ++ published }
  /-- A call is carried out that needs no client. -/
  | atOnce {b : Books ε} (call : Call ε) (nothing : ∀ progress, call.taken progress = []) :
      Entry b { b with
        exchange := (b.exchange.atOnce call).1
        published := b.published ++
          call.published (b.exchange.channel.step call false).progress }
  /-- Something changes that the books say nothing about. -/
  | tune {b : Books ε} {x : Exchange Float ε} (clients : x.clients = b.exchange.clients)
      (queue : x.queue = b.exchange.queue)
      (handled : x.channel.sink.stats.handled = b.counters) :
      Entry b { b with exchange := x }
  /-- A producer leaves. -/
  | leave {b : Books ε} {c : Client ε} (mem : c ∈ b.exchange.clients)
      (stranger : c.id ∉ b.fetching) : Entry b { b with exchange := b.exchange.leave c.id }
  | hire {b : Books ε} : Entry b { b with duties := .checking ::ₘ b.duties }
  /-- A worker goes on without more ado. -/
  | turn {b : Books ε} {d d' : Duty ε} {rest : Multiset (Duty ε)} (busy : b.duties = d ::ₘ rest)
      (client : d'.client? = d.client?) (calls : d'.calls = d.calls) (due : d'.due = d.due) :
      Entry b { b with duties := d' ::ₘ rest }
  /-- A worker begins to fetch. -/
  | fetch {b : Books ε} {d : Duty ε} {rest : Multiset (Duty ε)} (busy : b.duties = d ::ₘ rest)
      (free : d.IsFree) (block : Span) :
      Entry b { b with
        exchange := b.exchange.enter b.exchange.freshId (.fetch .takeSlot false) block
        duties := .fetching b.exchange.freshId ::ₘ rest }
  /-- A worker hands a batch to the handler. -/
  | receive {b : Books ε} {c : Client ε} {batch : Batch ε} {rest : Multiset (Duty ε)}
      (busy : b.duties = .fetching c.id ::ₘ rest) (mem : c ∈ b.exchange.clients)
      (carries : c.carried = batch.events) (pool worker : ℕ) (plan : Plan ε) (since : ℕ) :
      Entry b { b with
        exchange := b.exchange.leave c.id
        journal := ⟨pool, worker, batch.events⟩ :: b.journal
        duties := .handling batch plan since ::ₘ rest }
  /-- A worker comes back from a fetch without a batch. -/
  | miss {b : Books ε} {c : Client ε} {d' : Duty ε} {rest : Multiset (Duty ε)}
      (busy : b.duties = .fetching c.id ::ₘ rest) (mem : c ∈ b.exchange.clients)
      (empty : c.carried = []) (free : d'.IsFree) :
      Entry b { b with exchange := b.exchange.leave c.id, duties := d' ::ₘ rest }
  /-- A call of the handler ends. -/
  | judge {b : Books ε} {batch : Batch ε} {plan : Plan ε} {since : ℕ}
      {rest : Multiset (Duty ε)} (busy : b.duties = .handling batch plan since ::ₘ rest)
      (verdict : Verdict) (elapsed : Span) :
      Entry b { b with
        duties := .recording batch verdict elapsed ::ₘ rest
        verdicts := b.verdicts ++ [verdict] }
  /-- What is due of a batch is counted. -/
  | record {b : Books ε} {x : Exchange Float ε} {d d' : Duty ε} {rest : Multiset (Duty ε)}
      (busy : b.duties = d ::ₘ rest) (client : d.client? = none) (calls : d.calls = 0)
      (clients : x.clients = b.exchange.clients) (queue : x.queue = b.exchange.queue)
      (handled : x.channel.sink.stats.handled = b.counters.count d.due) (free : d'.IsFree) :
      Entry b { b with exchange := x, duties := d' ::ₘ rest }

/-- Every client has its role, every event is in one place, and the counters lack what is
    not counted yet. -/
structure Sound (b : Books ε) : Prop where
  apart : b.fetching.Nodup
  staffed : Staffed (· ∈ b.fetching) b.exchange.clients
  placed : (b.published : Multiset ε) = b.exchange.balance + b.handed
  counted : b.counters.Show b.due b.total
  called : b.calls + b.verdicts.length = b.journal.length

/-! ## Entries keep the books sound -/

variable {b : Books ε} {x : Exchange Float ε} {d d' : Duty ε} {rest : Multiset (Duty ε)}

theorem due_of_busy (busy : b.duties = d ::ₘ rest) :
    b.due = d.due + (rest.map Duty.due).sum := by
  rw [due, busy, Multiset.map_cons, Multiset.sum_cons]

theorem calls_of_busy (busy : b.duties = d ::ₘ rest) :
    b.calls = d.calls + (rest.map Duty.calls).sum := by
  rw [calls, busy, Multiset.map_cons, Multiset.sum_cons]

theorem fetching_of_none (busy : b.duties = d ::ₘ rest) (h : d.client? = none) :
    b.fetching = rest.filterMap Duty.client? := by
  rw [fetching, busy, Multiset.filterMap_cons_none _ _ h]

theorem fetching_of_some (busy : b.duties = d ::ₘ rest) {id : ℕ} (h : d.client? = some id) :
    b.fetching = id ::ₘ rest.filterMap Duty.client? := by
  rw [fetching, busy, Multiset.filterMap_cons_some _ _ _ h]

/-- The exchange goes on by itself. -/
theorem Sound.exchange (h : b.Sound) {published : List ε}
    (staffed : Staffed (· ∈ b.fetching) x.clients)
    (balance : x.balance = b.exchange.balance + published)
    (handled : x.channel.sink.stats.handled = b.counters) :
    Sound { b with exchange := x, published := b.published ++ published } := by
  refine ⟨h.apart, staffed, ?_, ?_, h.called⟩
  · show (↑(b.published ++ published) : Multiset ε) = x.balance + b.handed
    rw [← Multiset.coe_add, h.placed, balance]
    abel
  · show Words.Show x.channel.sink.stats.handled b.due b.total
    rw [handled]
    exact h.counted

/-- The exchange goes on, and nothing is published. -/
theorem Sound.silent (h : b.Sound) (staffed : Staffed (· ∈ b.fetching) x.clients)
    (balance : x.balance = b.exchange.balance)
    (handled : x.channel.sink.stats.handled = b.counters) : Sound { b with exchange := x } := by
  have same : x.balance = b.exchange.balance + ↑([] : List ε) :=
    balance.trans (add_zero _).symm
  have sound := h.exchange staffed same handled
  rwa [List.append_nil] at sound

theorem Sound.hire (h : b.Sound) : Sound { b with duties := .checking ::ₘ b.duties } := by
  have fetching : fetching { b with duties := .checking ::ₘ b.duties } = b.fetching :=
    fetching_of_none rfl rfl
  have due : due { b with duties := .checking ::ₘ b.duties } = b.due :=
    (due_of_busy rfl).trans (zero_add _)
  have calls : calls { b with duties := .checking ::ₘ b.duties } = b.calls :=
    (calls_of_busy rfl).trans (Nat.zero_add _)
  refine ⟨fetching ▸ h.apart, fetching ▸ h.staffed, h.placed, ?_, ?_⟩
  · rw [due]
    exact h.counted
  · rw [calls]
    exact h.called

theorem Sound.turn (h : b.Sound) (busy : b.duties = d ::ₘ rest)
    (client : d'.client? = d.client?) (calls : d'.calls = d.calls) (due : d'.due = d.due) :
    Sound { b with duties := d' ::ₘ rest } := by
  have fetching : fetching { b with duties := d' ::ₘ rest } = b.fetching := by
    cases hc : d.client? with
    | none => rw [fetching_of_none rfl (client.trans hc), fetching_of_none busy hc]
    | some id => rw [fetching_of_some rfl (client.trans hc), fetching_of_some busy hc]
  refine ⟨fetching ▸ h.apart, fetching ▸ h.staffed, h.placed, ?_, ?_⟩
  · rw [due_of_busy rfl, due, ← due_of_busy busy]
    exact h.counted
  · rw [calls_of_busy rfl, calls, ← calls_of_busy busy]
    exact h.called

theorem Sound.fetch (h : b.Sound) (busy : b.duties = d ::ₘ rest) (free : d.IsFree)
    (block : Span) :
    Sound { b with
      exchange := b.exchange.enter b.exchange.freshId (.fetch .takeSlot false) block
      duties := .fetching b.exchange.freshId ::ₘ rest } := by
  let b' : Books ε := { b with
    exchange := b.exchange.enter b.exchange.freshId (.fetch .takeSlot false) block
    duties := .fetching b.exchange.freshId ::ₘ rest }
  have fetching : b'.fetching = b.exchange.freshId ::ₘ b.fetching := by
    rw [fetching_of_none busy free.client]
    exact fetching_of_some rfl rfl
  have due : b'.due = b.due := by
    rw [due_of_busy busy, free.due]
    exact due_of_busy (b := b') rfl
  have calls : b'.calls = b.calls := by
    rw [calls_of_busy busy, free.calls]
    exact calls_of_busy (b := b') rfl
  refine ⟨?_, ?_, h.placed, ?_, ?_⟩
  · rw [fetching]
    refine Multiset.nodup_cons.2 ⟨fun mem => ?_, h.apart⟩
    obtain ⟨c, hc, same⟩ := List.mem_map.1 (h.staffed.present _ mem)
    exact absurd same (Nat.ne_of_lt (Exchange.lt_freshId hc))
  · rw [fetching]
    exact Exchange.staffed_enter h.staffed block fun id => Multiset.mem_cons
  · rw [due]
    exact h.counted
  · rw [calls]
    exact h.called

/-- The client of a worker leaves, and the worker fetches no more. -/
theorem Sound.staffed_leave (h : b.Sound) {c : Client ε}
    (busy : b.duties = .fetching c.id ::ₘ rest) (mem : c ∈ b.exchange.clients) :
    (rest.filterMap Duty.client?).Nodup ∧
      Staffed (· ∈ rest.filterMap Duty.client?) (b.exchange.leave c.id).clients ∧
      (b.exchange.leave c.id).balance + ↑c.carried = b.exchange.balance := by
  have fetching := fetching_of_some busy rfl
  have apart := h.apart
  rw [fetching, Multiset.nodup_cons] at apart
  refine ⟨apart.2, Exchange.staffed_leave h.staffed mem fun id => ?_⟩
  rw [fetching, Multiset.mem_cons]
  constructor
  · intro hid
    exact ⟨.inr hid, fun same => apart.1 (same ▸ hid)⟩
  · rintro ⟨rfl | hid, ne⟩
    · exact absurd rfl ne
    · exact hid

theorem Sound.receive (h : b.Sound) {c : Client ε} {batch : Batch ε}
    (busy : b.duties = .fetching c.id ::ₘ rest) (mem : c ∈ b.exchange.clients)
    (carries : c.carried = batch.events) (pool worker : ℕ) (plan : Plan ε) (since : ℕ) :
    Sound { b with
      exchange := b.exchange.leave c.id
      journal := ⟨pool, worker, batch.events⟩ :: b.journal
      duties := .handling batch plan since ::ₘ rest } := by
  let b' : Books ε := { b with
    exchange := b.exchange.leave c.id
    journal := ⟨pool, worker, batch.events⟩ :: b.journal
    duties := .handling batch plan since ::ₘ rest }
  obtain ⟨apart, staffed, balance⟩ := h.staffed_leave busy mem
  have fetching : b'.fetching = rest.filterMap Duty.client? := fetching_of_none rfl rfl
  have due : b'.due = (batch.events.length, 1, 0) + b.due := by
    rw [due_of_busy busy]
    exact (due_of_busy rfl).trans (congrArg _ (zero_add _).symm)
  have total : b'.total = (batch.events.length, 1, 0) + b.total := by
    refine Prod.ext List.length_append (Prod.ext ?_ (Nat.zero_add _).symm)
    exact Nat.add_comm _ _
  have calls : b'.calls = 1 + b.calls := by
    rw [calls_of_busy busy]
    exact (calls_of_busy rfl).trans (congrArg _ (Nat.zero_add _).symm)
  refine ⟨?_, ?_, ?_, ?_, ?_⟩
  · rw [fetching]
    exact apart
  · rw [fetching]
    exact staffed
  · show (b.published : Multiset ε) =
      (b.exchange.leave c.id).balance + ↑(batch.events ++ b.handed)
    rw [h.placed, ← balance, carries, ← Multiset.coe_add]
    abel
  · rw [due, total]
    exact h.counted.more _
  · rw [calls, Nat.add_assoc, h.called]
    exact Nat.add_comm _ _

theorem Sound.miss (h : b.Sound) {c : Client ε} (busy : b.duties = .fetching c.id ::ₘ rest)
    (mem : c ∈ b.exchange.clients) (empty : c.carried = []) (free : d'.IsFree) :
    Sound { b with exchange := b.exchange.leave c.id, duties := d' ::ₘ rest } := by
  let b' : Books ε := { b with exchange := b.exchange.leave c.id, duties := d' ::ₘ rest }
  obtain ⟨apart, staffed, balance⟩ := h.staffed_leave busy mem
  have fetching : b'.fetching = rest.filterMap Duty.client? :=
    fetching_of_none rfl free.client
  have due : b'.due = b.due := by
    rw [due_of_busy busy, due_of_busy (b := b') rfl, free.due]
    rfl
  have calls : b'.calls = b.calls := by
    rw [calls_of_busy busy, calls_of_busy (b := b') rfl, free.calls]
    rfl
  refine ⟨?_, ?_, ?_, ?_, ?_⟩
  · rw [fetching]
    exact apart
  · rw [fetching]
    exact staffed
  · rw [empty] at balance
    have same : (b.exchange.leave c.id).balance = b.exchange.balance :=
      (add_zero _).symm.trans balance
    show (b.published : Multiset ε) = (b.exchange.leave c.id).balance + b.handed
    rw [same, h.placed]
  · rw [due]
    exact h.counted
  · rw [calls]
    exact h.called

theorem Sound.judge (h : b.Sound) {batch : Batch ε} {plan : Plan ε} {since : ℕ}
    (busy : b.duties = .handling batch plan since ::ₘ rest) (verdict : Verdict)
    (elapsed : Span) :
    Sound { b with
      duties := .recording batch verdict elapsed ::ₘ rest
      verdicts := b.verdicts ++ [verdict] } := by
  let b' : Books ε := { b with
    duties := .recording batch verdict elapsed ::ₘ rest
    verdicts := b.verdicts ++ [verdict] }
  let failed : ℕ := if verdict = .handled then 0 else 1
  have fetching : b'.fetching = b.fetching := by
    rw [fetching_of_none busy rfl]
    exact fetching_of_none rfl rfl
  have due : b'.due = (0, 0, failed) + b.due := by
    rw [due_of_busy busy, ← add_assoc]
    exact (due_of_busy rfl).trans <| congrArg (· + _) <|
      Prod.ext (Nat.zero_add _).symm (Prod.ext (Nat.zero_add _).symm (Nat.add_zero _).symm)
  have total : b'.total = (0, 0, failed) + b.total := by
    refine Prod.ext (Nat.zero_add _).symm (Prod.ext (Nat.zero_add _).symm ?_)
    show (b.verdicts ++ [verdict]).countP _ = failed + b.verdicts.countP _
    rw [List.countP_append, List.countP_singleton, Nat.add_comm]
    by_cases handled : verdict = .handled
    · simp [failed, handled]
    · simp [failed, handled]
  have calls : 1 + b'.calls = b.calls := by
    rw [calls_of_busy busy]
    exact congrArg (1 + ·) ((calls_of_busy rfl).trans (Nat.zero_add _))
  refine ⟨?_, ?_, h.placed, ?_, ?_⟩
  · rw [fetching]
    exact h.apart
  · rw [fetching]
    exact h.staffed
  · rw [due, total]
    exact h.counted.more _
  · show b'.calls + (b.verdicts ++ [verdict]).length = b.journal.length
    rw [← h.called, ← calls, List.length_append, List.length_singleton]
    omega

theorem Sound.record (h : b.Sound) (busy : b.duties = d ::ₘ rest) (client : d.client? = none)
    (calls : d.calls = 0) (clients : x.clients = b.exchange.clients)
    (queue : x.queue = b.exchange.queue)
    (handled : x.channel.sink.stats.handled = b.counters.count d.due) (free : d'.IsFree) :
    Sound { b with exchange := x, duties := d' ::ₘ rest } := by
  let b' : Books ε := { b with exchange := x, duties := d' ::ₘ rest }
  have fetching : b'.fetching = b.fetching := by
    rw [fetching_of_none busy client]
    exact fetching_of_none rfl free.client
  have due : b.due = d.due + b'.due := by
    rw [due_of_busy busy, due_of_busy (b := b') rfl, free.due, zero_add]
  have called : b'.calls = b.calls := by
    rw [calls_of_busy busy, calls_of_busy (b := b') rfl, free.calls, calls]
  refine ⟨?_, ?_, ?_, ?_, ?_⟩
  · rw [fetching]
    exact h.apart
  · rw [fetching]
    show Staffed _ x.clients
    rw [clients]
    exact h.staffed
  · show (b.published : Multiset ε) = x.balance + b.handed
    rw [h.placed, Exchange.balance, Exchange.balance, clients, queue]
  · have counted := h.counted
    rw [due] at counted
    show Words.Show x.channel.sink.stats.handled b'.due b.total
    rw [handled]
    exact counted.record
  · rw [called]
    exact h.called

/-- **Whatever is entered, the books stay sound.** -/
theorem Entry.sound {b b' : Books ε} (entry : Entry b b') (h : b.Sound) : b'.Sound := by
  cases entry with
  | trade step =>
    obtain ⟨staffed, balance⟩ := step.staffed h.staffed
    exact h.exchange staffed balance step.handled
  | atOnce call nothing =>
    obtain ⟨staffed, balance⟩ := Exchange.staffed_atOnce h.staffed nothing
    refine h.exchange staffed balance ?_
    rw [Exchange.atOnce_channel]
    exact Channel.handled_step _ _ _
  | tune clients queue handled =>
    refine h.silent (clients ▸ h.staffed) ?_ handled
    rw [Exchange.balance, Exchange.balance, clients, queue]
  | @leave c mem stranger =>
    have empty : c.carried = [] :=
      ((h.staffed.roles c mem).resolve_left fun fetches => stranger fetches.1).2.1
    obtain ⟨staffed, balance⟩ := Exchange.staffed_leave h.staffed mem fun id =>
      ⟨fun hid => ⟨hid, fun same => stranger (same ▸ hid)⟩, And.left⟩
    rw [empty] at balance
    have handled : (b.exchange.leave c.id).channel.sink.stats.handled = b.counters := rfl
    exact h.silent staffed ((add_zero _).symm.trans balance) handled
  | hire => exact h.hire
  | turn busy client calls due => exact h.turn busy client calls due
  | fetch busy free block => exact h.fetch busy free block
  | receive busy mem carries pool worker plan since =>
    exact h.receive busy mem carries pool worker plan since
  | miss busy mem empty free => exact h.miss busy mem empty free
  | judge busy verdict elapsed => exact h.judge busy verdict elapsed
  | record busy client calls clients queue handled free =>
    exact h.record busy client calls clients queue handled free

end Books

end StagedEvents
