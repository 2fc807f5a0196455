import Mathlib.Logic.Relation
import StagedEvents.Proofs.Channel.Slots
import StagedEvents.Proofs.Exchange.WakeUp

/-!
# Batches that are out

A throttled sorter lends a slot with every batch, and the slot comes back when the completion
of the batch is carried out: when the batch, or its completion alone, is reported done or is
dropped. All of these end in `Slip.fire`, which takes the completion away before it carries it
out, so that there is nothing left to carry out the next time.

* `Slip`, `Lending`, `Lending.Step`: what becomes of batches, beside all steps of an exchange.
* `Lending.Booked`: the slots in use are those of batches that are out and of fetches.
* `slots_accounted`: the result.
-/

namespace StagedEvents

variable {α ε : Type}

/-! ## Completions -/

/-- What the holder of a batch, or of its completion alone, has left to carry out, and how
    often something was carried out. -/
structure Slip where
  completion : Completion
  fired : Nat
deriving DecidableEq

/-- What becomes of a slip. -/
inductive Slip.Ending where
  /-- It is reported that the batch is done with. -/
  | done
  /-- The batch or its completion is dropped, in whatever form. -/
  | dropped
deriving DecidableEq

namespace Slip

/-- The slip of a batch that was just handed out. -/
def ofBatch (batch : Batch ε) : Slip := ⟨batch.completion, 0⟩

/-- The slip after all that was left was carried out. -/
def fire (s : Slip) : Slip :=
  ⟨.nothing, if s.completion.isPending then s.fired + 1 else s.fired⟩

/-- The channel, the signals to give and the slip when it comes to an end. Who reports that a
    batch is done with drops the completion after that. -/
def settle (ending : Ending) (s : Slip) (c : Channel α ε) : Channel α ε × List Signal × Slip :=
  let fired := c.complete s.completion
  match ending with
  | .dropped => (fired.1, fired.2, s.fire)
  | .done =>
    let again := fired.1.complete s.fire.completion
    (again.1, fired.2 ++ again.2, s.fire.fire)

/-- There is a slot to free, and none was freed, or the other way round. -/
def Once (s : Slip) : Prop := s = ⟨.freesSlot, 0⟩ ∨ s = ⟨.nothing, 1⟩

/-- Whatever the end, the completion is carried out once: nothing happens the second time. -/
theorem settle_eq (ending : Ending) (s : Slip) (c : Channel α ε) :
    s.settle ending c = ((c.complete s.completion).1, (c.complete s.completion).2, s.fire) := by
  cases ending with
  | dropped => rfl
  | done =>
    show (_, (c.complete s.completion).2 ++ [], _) = _
    rw [List.append_nil]
    rfl

theorem Once.settle {s : Slip} (h : s.Once) (ending : Ending) (c : Channel α ε) :
    (s.settle ending c).2.2 = ⟨.nothing, 1⟩ := by
  rw [settle_eq]
  rcases h with rfl | rfl <;> rfl

end Slip

/-- How many batches were handed out whose completion has not fired. -/
def unfired (slips : List Slip) : Nat := slips.countP fun s => s.fired = 0

theorem unfired_set {slips : List Slip} {i : Nat} (held : slips[i]? = some ⟨.freesSlot, 0⟩) :
    unfired slips = unfired (slips.set i ⟨.nothing, 1⟩) + 1 := by
  induction slips generalizing i with
  | nil => exact absurd held (by simp)
  | cons s rest ih =>
    cases i with
    | zero =>
      obtain rfl := Option.some.inj held
      simp [unfired]
    | succ i =>
      have fewer := ih held
      unfold unfired at fewer ⊢
      rw [List.set_cons_succ, List.countP_cons, List.countP_cons, fewer]
      omega

/-! ## Fetches -/

/-- The slots that a client holds: its fetch took one and has neither given it back nor given
    its caller the batch. -/
def Client.held (c : Client ε) : Nat :=
  match c.phase with
  | .ready call _ => call.held
  | .asleep call _ => call.held
  | .owing _ reply => reply.held
  | .returned reply => reply.held

/-- The slots that clients hold. -/
def held (clients : List (Client ε)) : Nat := (clients.map (·.held)).sum

/-- The call of a client, or its reply, accounts for its slot. -/
def Client.Accountable (c : Client ε) : Prop :=
  match c.phase with
  | .ready call _ => call.Accountable
  | .asleep call _ => call.Accountable
  | .owing _ reply => reply.Accountable
  | .returned reply => reply.Accountable

theorem held_insert (before after : List (Client ε)) (c : Client ε) :
    held (before ++ c :: after) = held (before ++ after) + c.held := by
  simp only [held, List.map_append, List.map_cons, List.sum_append, List.sum_cons]
  omega

theorem le_held {clients : List (Client ε)} {c : Client ε} (mem : c ∈ clients) :
    c.held ≤ held clients := by
  obtain ⟨before, after, rfl⟩ := List.append_of_mem mem
  rw [held_insert]
  omega

theorem Client.held_awaken (c : Client ε) : c.awaken.held = c.held := by
  obtain ⟨id, phase, deadline⟩ := c
  cases phase <;> rfl

theorem Client.Accountable.awaken {c : Client ε} (h : c.Accountable) : c.awaken.Accountable := by
  obtain ⟨id, phase, deadline⟩ := c
  cases phase <;> exact h

theorem Outcome.held_of_phase {o : Outcome α ε} {call : Call ε} {c : Client ε}
    (h : c.phase = o.phase call) : c.held = o.progress.held call := by
  unfold Client.held
  rw [h]
  unfold phase
  cases o.progress with
  | next | sleep => rfl
  | done =>
    unfold Phase.after
    cases o.late <;> rfl

theorem Outcome.accountable_of_phase {o : Outcome α ε} {call : Call ε} {c : Client ε}
    (h : c.phase = o.phase call) (accountable : o.progress.Accountable call) :
    c.Accountable := by
  unfold Client.Accountable
  rw [h]
  unfold phase
  cases progress : o.progress with
  | next | sleep =>
    rw [progress] at accountable
    exact accountable
  | done =>
    rw [progress] at accountable
    unfold Phase.after
    cases o.late <;> exact accountable

/-- Calls that may be made beside the endings of batches: no one else completes a batch, and
    no one waits for no events at all. -/
def Call.Lends : Call ε → Prop
  | .fetch state dropped => state = .takeSlot ∧ dropped = false
  | .complete _ _ => False
  | .poll most => most ≠ some 0
  | _ => True

theorem Call.Lends.begins {call : Call ε} (h : call.Lends) : call.held = 0 ∧ call.Accountable := by
  cases call with
  | fetch =>
    obtain ⟨rfl, rfl⟩ := h
    exact ⟨rfl, rfl, by simp⟩
  | complete => exact h.elim
  | _ => exact ⟨rfl, True.intro⟩

theorem Call.Lends.greedy {call : Call ε} (h : call.Lends) {channel : Channel α ε}
    (some : channel.sorter.maxBatch? ≠ some 0) : channel.Greedy call := by
  cases call with
  | fetch => exact some
  | poll => exact h
  | _ => exact True.intro

namespace Exchange

/-- Beside `lent` slots that are lent, those in use are held by clients. -/
structure Books (slots : Slots) (lent : Nat) (x : Exchange α ε) : Prop where
  sorter : x.channel.sorter = .throttled { slots with used := lent + held x.clients }
  within : slots.limit ≠ 0 → lent + held x.clients ≤ slots.limit
  accountable : ∀ c ∈ x.clients, c.Accountable

variable {x y : Exchange α ε} {slots : Slots} {lent : Nat}

/-- One client goes on and holds what it held, and others hear its signals. -/
theorem Books.replace (h : x.Books slots lent) {before after : List (Client ε)}
    {c c' : Client ε} {signals : List Signal} (found : x.clients = before ++ c :: after)
    (heard : HeardAll signals (before ++ c' :: after) y.clients)
    (sorter : y.channel.sorter = x.channel.sorter) (same : c'.held = c.held)
    (accountable : c.Accountable → c'.Accountable) : y.Books slots lent := by
  have holding : held y.clients = held x.clients := by
    rw [held, heard.map_eq Client.held_awaken, ← held, found, held_insert, held_insert, same]
  have all := found ▸ h.accountable
  refine ⟨?_, ?_, heard.forall (fun _ => Client.Accountable.awaken) (forall_replace all ?_)⟩
  · rw [sorter, holding]
    exact h.sorter
  · rw [holding]
    exact h.within
  · exact accountable (all c (by simp))

variable [Quantity α]

theorem Step.books {published : List ε} (h : Step Call.Lends x published y)
    (books : x.Books slots lent) : y.Books slots lent := by
  cases h with
  | @enter id call patience fresh may =>
    obtain ⟨none, accountable⟩ := may.begins
    have holding : held (x.enter id call patience).clients = held x.clients := by
      show call.held + held x.clients = _
      rw [none, Nat.zero_add]
    refine ⟨?_, ?_, List.forall_mem_cons.2 ⟨accountable, books.accountable⟩⟩
    · rw [holding]
      exact books.sorter
    · rw [holding]
      exact books.within
  | @run before after clients id call expired deadline found heard =>
    have all := found ▸ books.accountable
    have holds : held x.clients = held (before ++ after) + call.held := by
      rw [found, held_insert]
      rfl
    obtain ⟨used, accounts⟩ := Channel.slots_step books.sorter
      (all ⟨id, .ready call expired, deadline⟩ (by simp))
      (show call.held ≤ lent + held x.clients by omega) expired
    have holding : lent + held clients = used := by
      have balance : used + call.held = lent + held x.clients + _ := accounts.balance
      rw [held, heard.map_eq Client.held_awaken, ← held, held_insert,
        Outcome.held_of_phase rfl]
      omega
    refine ⟨?_, ?_, heard.forall (fun _ => Client.Accountable.awaken) (forall_replace all ?_)⟩
    · rw [holding]
      exact accounts.sorter
    · rw [holding]
      exact fun limited => accounts.within limited (books.within limited)
    · exact Outcome.accountable_of_phase rfl accounts.progress
  | wake expired found => exact books.replace found .nil rfl rfl id
  | signal found heard => exact books.replace found (.cons heard .nil) rfl rfl id
  | finish found => exact books.replace found .nil rfl rfl id
  | around gate clock => exact ⟨books.sorter, books.within, books.accountable⟩

omit [Quantity α] in
/-- A client leaves with the batch of its reply, and the slot is lent. -/
theorem Books.handOut (books : x.Books slots lent) {before after : List (Client ε)} {id : Nat}
    {batch : Batch ε} {deadline : Option Nat}
    (found : x.clients =
      before ++ ⟨id, .returned (.fetched (.ok (some batch))), deadline⟩ :: after) :
    Books slots (lent + 1) { x with clients := before ++ after } ∧
      batch.completion = .freesSlot := by
  have all := found ▸ books.accountable
  have holding : lent + 1 + held (before ++ after) = lent + held x.clients := by
    have holds : held x.clients = held (before ++ after) + 1 := by
      rw [found, held_insert]
      rfl
    omega
  refine ⟨⟨?_, ?_, fun c mem => all c (by grind)⟩,
    all ⟨id, .returned (.fetched (.ok (some batch))), deadline⟩ (by simp)⟩
  · rw [holding]
    exact books.sorter
  · rw [holding]
    exact books.within

omit [Quantity α] in
/-- A slot that was lent comes back, and a client has to signal that. -/
theorem Books.comeBack (books : x.Books slots (lent + 1)) (id : Nat) :
    Books slots lent { x with
      channel := x.channel.releaseSlot
      clients := ⟨id, .owing [⟨.slotFreed, false⟩] .done, none⟩ :: x.clients } := by
  have holding : held (⟨id, .owing [⟨.slotFreed, false⟩] .done, none⟩ :: x.clients) =
      held x.clients := Nat.zero_add _
  have fewer : lent + 1 + held x.clients - 1 = lent + held x.clients := by omega
  refine ⟨?_, ?_, List.forall_mem_cons.2 ⟨True.intro, books.accountable⟩⟩
  · show x.channel.releaseSlot.sorter = _
    unfold Channel.releaseSlot
    rw [books.sorter, holding]
    show Sorter.throttled { slots with used := lent + 1 + held x.clients - 1 } = _
    rw [fewer]
  · rw [holding]
    intro limited
    have := books.within limited
    omega

omit [Quantity α] in
/-- Someone comes who has nothing to do any more. -/
theorem Books.join (books : x.Books slots lent) (id : Nat) :
    Books slots lent { x with clients := ⟨id, .returned .done, none⟩ :: x.clients } := by
  have holding : held (⟨id, .returned .done, none⟩ :: x.clients) = held x.clients :=
    Nat.zero_add _
  refine ⟨?_, ?_, List.forall_mem_cons.2 ⟨True.intro, books.accountable⟩⟩
  · rw [holding]
    exact books.sorter
  · rw [holding]
    exact books.within

omit [Quantity α] in
theorem Attended.leave {channel : Channel α ε} (hx : x.Attended channel)
    {before after : List (Client ε)} {id : Nat} {reply : Reply ε} {deadline : Option Nat}
    (found : x.clients = before ++ ⟨id, .returned reply, deadline⟩ :: after) :
    Attended channel { x with clients := before ++ after } := by
  have among (c : Client ε) (mem : c ∈ before ++ after) : c ∈ x.clients := by
    rw [found]
    grind
  refine ⟨fun on => ?_, fun c mem => hx.patient c (among c mem), hx.bound,
    fun c mem => hx.greedy c (among c mem)⟩
  have covered := hx.covered on
  unfold Covered at covered ⊢
  rw [found, sleepers_insert, mem_owed_insert, hands_insert] at covered
  rcases covered with none | (owed | mine) | waiting | supplies
  · exact .inl (Nat.add_eq_zero_iff.1 none).1
  · exact .inr (.inl owed)
  · exact absurd mine List.not_mem_nil
  · exact absurd waiting List.not_mem_nil
  · exact .inr (.inr (.inr supplies))

/-- Steps may be taken where more calls are allowed. -/
theorem Step.mono {allowed allowed' : Call ε → Prop} {published : List ε}
    (h : Step allowed x published y) (more : ∀ call, allowed call → allowed' call) :
    Step allowed' x published y := by
  cases h with
  | enter patience fresh may => exact .enter patience fresh (more _ may)
  | run found heard => exact .run found heard
  | wake expired found => exact .wake expired found
  | signal found heard => exact .signal found heard
  | finish found => exact .finish found
  | around gate clock => exact .around gate clock

end Exchange

/-! ## Lending -/

/-- An exchange with the slips of all batches that were ever handed out. -/
structure Lending (α ε : Type) where
  exchange : Exchange α ε
  slips : List Slip

namespace Lending

variable [Quantity α]

/-- A step of the exchange, or of someone who gets a batch or has one. To part a batch from its
    completion changes nothing here: the slip goes with the completion. -/
inductive Step : Lending α ε → Lending α ε → Prop where
  | within {x y : Exchange α ε} {slips : List Slip} {published : List ε}
      (step : Exchange.Step Call.Lends x published y) : Step ⟨x, slips⟩ ⟨y, slips⟩
  /-- A fetch is over, and its caller has the batch. -/
  | handOut {x : Exchange α ε} {slips : List Slip} {before after : List (Client ε)} {id : Nat}
      {batch : Batch ε} {deadline : Option Nat}
      (found : x.clients =
        before ++ ⟨id, .returned (.fetched (.ok (some batch))), deadline⟩ :: after) :
      Step ⟨x, slips⟩ ⟨{ x with clients := before ++ after }, slips ++ [.ofBatch batch]⟩
  /-- A slip comes to an end, and its holder gives the signals after that. -/
  | settle {x : Exchange α ε} {slips : List Slip} {i : Nat} {s : Slip} (ending : Slip.Ending)
      (id : Nat) (fresh : ∀ c ∈ x.clients, c.id ≠ id) (held : slips[i]? = some s) :
      Step ⟨x, slips⟩
        ⟨{ x with
            channel := (s.settle ending x.channel).1
            clients := ⟨id, .after (s.settle ending x.channel).2.1 .done, none⟩ :: x.clients },
          slips.set i (s.settle ending x.channel).2.2⟩

/-- The books of slots: every slip has fired or not, once, and the slots in use are those of
    the slips that have not and of fetches. -/
structure Booked (slots : Slots) (w : Lending α ε) : Prop where
  once : ∀ s ∈ w.slips, s.Once
  books : w.exchange.Books slots (unfired w.slips)

variable {v w : Lending α ε} {slots : Slots} {channel : Channel α ε}

theorem Step.booked (h : Step v w) (booked : v.Booked slots) : w.Booked slots := by
  cases h with
  | within step => exact ⟨booked.once, step.books booked.books⟩
  | @handOut x slips before after id batch deadline found =>
    obtain ⟨books, frees⟩ := booked.books.handOut found
    refine ⟨?_, ?_⟩
    · intro s mem
      rcases List.mem_append.1 mem with mem | mem
      · exact booked.once s mem
      · rw [List.mem_singleton.1 mem, Slip.ofBatch, frees]
        exact .inl rfl
    · show Exchange.Books slots (unfired (slips ++ [.ofBatch batch])) _
      rw [unfired, List.countP_append]
      exact books
  | @settle x slips i s ending id fresh held =>
    have once := booked.once s (List.mem_of_getElem? held)
    refine ⟨?_, ?_⟩
    · intro t mem
      rcases List.mem_or_eq_of_mem_set mem with mem | rfl
      · exact booked.once t mem
      · exact .inr (once.settle ending x.channel)
    · rw [once.settle ending x.channel, s.settle_eq]
      rcases once with rfl | rfl
      · have books := booked.books
        rw [unfired_set held] at books
        exact books.comeBack id
      · have unchanged : slips.set i ⟨.nothing, 1⟩ = slips := by
          obtain ⟨bound, same⟩ := List.getElem?_eq_some_iff.1 held
          rw [← same, List.set_getElem_self]
        rw [unchanged]
        exact booked.books.join id

omit [Quantity α] in
theorem Booked.unfired_pos (booked : w.Booked slots) {s : Slip} (mem : s ∈ w.slips)
    (frees : s.completion = .freesSlot) : 0 < unfired w.slips := by
  refine List.countP_pos_iff.2 ⟨s, mem, ?_⟩
  rcases booked.once s mem with rfl | rfl
  · rfl
  · exact absurd frees (by simp)

theorem Step.attended (h : Step v w) (some : channel.sorter.maxBatch? ≠ some 0)
    (attended : v.exchange.Attended channel) : w.exchange.Attended channel := by
  cases h with
  | within step => exact (step.mono fun _ may => may.greedy some).attended attended
  | handOut found => exact attended.leave found
  | @settle x slips i s ending id fresh held =>
    rw [s.settle_eq]
    have completes : Exchange.Steps channel.Greedy x _ _ :=
      .call id (.complete s.completion .done) fresh True.intro rfl
    exact completes.invariant Exchange.Step.attended attended

/-- A slip that has fired stays as it is. -/
theorem Step.settled (h : Step v w) {i : Nat} (settled : v.slips[i]? = some ⟨.nothing, 1⟩) :
    w.slips[i]? = some ⟨.nothing, 1⟩ := by
  cases h with
  | within => exact settled
  | handOut =>
    obtain ⟨bound, -⟩ := List.getElem?_eq_some_iff.1 settled
    exact (List.getElem?_append_left bound).trans settled
  | @settle x slips j s ending id fresh held =>
    by_cases same : j = i
    · subst same
      obtain rfl := Option.some.inj (held.symm.trans settled)
      rw [Slip.Once.settle (.inr rfl)]
      obtain ⟨bound, -⟩ := List.getElem?_eq_some_iff.1 settled
      exact List.getElem?_set_self bound
    · exact (List.getElem?_set_ne same).trans settled

/-- No fetch is about to take a step, and no one is about to signal that a slot came back. -/
structure Rests (w : Lending α ε) : Prop where
  still : ∀ c ∈ w.exchange.clients, ∀ state dropped expired,
    c.phase ≠ .ready (.fetch state dropped) expired
  signalled : ∀ s ∈ owed w.exchange.clients, s.on ≠ .slotFreed

omit [Quantity α] in
theorem Rests.hands (rests : w.Rests) : hands w.exchange.clients .slotFreed = 0 := by
  refine List.sum_eq_zero fun n hn => ?_
  obtain ⟨c, mem, rfl⟩ := List.mem_map.1 hn
  unfold Client.hands
  split
  · rename_i call expired ready
    refine if_neg fun wants => ?_
    cases call with
    | fetch state dropped => exact rests.still c mem state dropped expired ready
    | _ => exact absurd wants (by simp [Call.wants])
  · rename_i signals reply owing
    refine List.count_eq_zero.2 fun signal => ?_
    have owes : (⟨.slotFreed, false⟩ : Signal) ∈ c.owed := by rwa [Client.owed, owing]
    exact rests.signalled _ (List.mem_flatMap_of_mem mem owes) rfl
  · rfl

omit [Quantity α] in
/-- Whoever sleeps for want of a slot, with no one else under way to one, finds none. -/
theorem Rests.no_slot (rests : w.Rests) (attended : w.exchange.Attended channel) {c : Client ε}
    (mem : c ∈ w.exchange.clients) (sleeps : c.sleepsOn .slotFreed = true) :
    w.exchange.channel.SuppliesAtMost 0 .slotFreed := by
  rcases attended.covered .slotFreed with none | all | waiting | supplies
  · have up := sleepers_eq_zero_iff.1 none c mem
    exact absurd up (by simp [sleeps])
  · exact absurd rfl (rests.signalled _ all)
  · exact absurd waiting List.not_mem_nil
  · rwa [rests.hands] at supplies

end Lending

/-! ## Slots are accounted for -/

/-- The sorter of a policy that was told any number of times how many workers there will be. -/
def Sorter.throttledFor (maxBatch : Nat) (maxOutstanding : Option Nat) (workers : List Nat) :
    Sorter :=
  workers.foldl (fun sorter count => sorter.init count)
    (.ofPolicy (.throttled maxBatch maxOutstanding))

/-- Before the first fetch no slot is in use, and a batch has room for an event. -/
theorem Sorter.exists_throttledFor (maxBatch : Nat) (maxOutstanding : Option Nat)
    (workers : List Nat) :
    ∃ slots : Slots, throttledFor maxBatch maxOutstanding workers = .throttled slots ∧
      slots.used = 0 ∧ slots.maxBatch ≠ 0 := by
  have init (slots : Slots) (new : slots.used = 0 ∧ slots.maxBatch ≠ 0) :
      ∃ slots' : Slots, workers.foldl (fun sorter count => init count sorter)
        (.throttled slots) = .throttled slots' ∧ slots'.used = 0 ∧ slots'.maxBatch ≠ 0 := by
    induction workers generalizing slots with
    | nil => exact ⟨slots, rfl, new⟩
    | cons count rest ih =>
      rw [List.foldl_cons, Sorter.init]
      split
      · exact ih _ new
      · exact ih _ new
  exact init _ ⟨rfl, show max maxBatch 1 ≠ 0 by omega⟩

variable [Quantity α]

/-- What a run of a lending keeps. -/
theorem Lending.booked_of_steps {channel : Channel α ε} {maxBatch : Nat}
    {maxOutstanding : Option Nat} {workers : List Nat}
    (fixed : channel.sorter = .throttledFor maxBatch maxOutstanding workers)
    {w : Lending α ε} (steps : Relation.ReflTransGen Step ⟨.ofChannel channel, []⟩ w) :
    ∃ slots : Slots, channel.sorter = .throttled slots ∧ w.Booked slots ∧
      w.exchange.Attended channel := by
  obtain ⟨slots, throttled, new, roomy⟩ :=
    Sorter.exists_throttledFor maxBatch maxOutstanding workers
  have throttled := fixed.trans throttled
  have greedy : channel.sorter.maxBatch? ≠ some 0 := by
    rw [throttled]
    exact fun none => roomy (Option.some.inj none)
  have begins : Booked slots ⟨.ofChannel channel, []⟩ := by
    refine ⟨by simp, ?_, fun _ => Nat.zero_le _, by simp [Exchange.ofChannel]⟩
    show channel.sorter = .throttled { slots with used := 0 }
    rw [throttled, ← new]
  refine ⟨slots, throttled, ?_⟩
  induction steps with
  | refl => exact ⟨begins, Exchange.attended_ofChannel channel⟩
  | tail _ step ih => exact ⟨step.booked ih.1, step.attended greedy ih.2⟩

theorem Lending.settled_of_steps {v w : Lending α ε} {i : Nat}
    (settled : v.slips[i]? = some ⟨.nothing, 1⟩) (steps : Relation.ReflTransGen Step v w) :
    w.slips[i]? = some ⟨.nothing, 1⟩ := by
  induction steps with
  | refl => exact settled
  | tail _ step ih => exact step.settled ih

theorem Lending.steps_within {x y : Exchange α ε} {published : List ε}
    (steps : Exchange.Steps Call.Lends x published y) (slips : List Slip) :
    Relation.ReflTransGen Step ⟨x, slips⟩ ⟨y, slips⟩ := by
  induction steps with
  | refl => exact .refl
  | tail _ step ih => exact ih.tail (.within step)

/-- **Slots are accounted for.** Take a throttled sorter whose limit is fixed before the first
    fetch. However fetches, the endings of their batches and calls of others are interleaved:

    * the slots in use are those of batches that are out and of fetches that hold one;
    * they are no more than the limit, if there is one;
    * the completion of a batch fires when the batch comes to an end, and never again;
    * whenever a slot is given back, there is one in use;
    * when no fetch is about to take a step and no one is about to signal, a fetch sleeps for
      want of a slot only if the limit is reached. -/
theorem slots_accounted {channel : Channel α ε} {maxBatch : Nat} {maxOutstanding : Option Nat}
    {workers : List Nat}
    (fixed : channel.sorter = .throttledFor maxBatch maxOutstanding workers)
    {w : Lending α ε} (steps : Relation.ReflTransGen Lending.Step ⟨.ofChannel channel, []⟩ w) :
    ∃ slots : Slots, channel.sorter = .throttled slots ∧
      let used := unfired w.slips + held w.exchange.clients
      w.exchange.channel.sorter.outstanding? = some used ∧
      (slots.limit ≠ 0 → used ≤ slots.limit) ∧
      (∀ s ∈ w.slips, s.fired = (if s.completion = .freesSlot then 0 else 1) ∧
        ∀ ending, (s.settle ending w.exchange.channel).2.2.fired = 1) ∧
      (∀ v, Relation.ReflTransGen Lending.Step w v → ∀ (i : Nat) (s : Slip),
        w.slips[i]? = some s → s.fired = 1 → v.slips[i]? = some s) ∧
      ((∃ s ∈ w.slips, s.completion = .freesSlot) → 0 < used) ∧
      ((∃ c ∈ w.exchange.clients, ∃ answer dropped expired,
        c.phase = .ready (.fetch (.returnSlot answer) dropped) expired) → 0 < used) ∧
      (w.Rests → ∀ c ∈ w.exchange.clients, c.sleepsOn .slotFreed = true →
        slots.limit ≠ 0 ∧ slots.limit ≤ used) := by
  obtain ⟨slots, throttled, booked, attended⟩ := Lending.booked_of_steps fixed steps
  have books := booked.books
  refine ⟨slots, throttled, ?_, books.within, ?_, ?_, ?_, ?_, ?_⟩
  · rw [books.sorter]
    rfl
  · intro s mem
    refine ⟨?_, fun ending => ?_⟩
    · rcases booked.once s mem with rfl | rfl <;> rfl
    · rw [(booked.once s mem).settle]
  · intro v later i s found fired
    rcases booked.once s (List.mem_of_getElem? found) with rfl | rfl
    · exact absurd fired (by simp)
    · exact Lending.settled_of_steps found later
  · rintro ⟨s, mem, frees⟩
    exact Nat.add_pos_left (booked.unfired_pos mem frees) _
  · rintro ⟨c, mem, answer, dropped, expired, ready⟩
    have holds : c.held = 1 := by
      rw [Client.held, ready]
      rfl
    exact Nat.add_pos_right _ (holds.ge.trans (le_held mem))
  · intro rests c mem sleeps
    exact rests.no_slot attended mem sleeps _ books.sorter

/-- There are two events, and one worker. -/
def lone : Channel Float Nat :=
  { sink :=
      { queue := { capacity := none, events := [7, 8], reserved := 0, closed := false }
        gate := .openToAll, stats := .new }
    sorter := .throttledFor 1 none [1] }

/-- A worker has the only batch that may be out, and another sleeps for want of a slot. -/
theorem slots_accounted_reached : ∃ w : Lending Float Nat,
    Relation.ReflTransGen Lending.Step ⟨.ofChannel lone, []⟩ w ∧ w.Rests ∧
      w.slips = [⟨.freesSlot, 0⟩] ∧
      (∃ c ∈ w.exchange.clients, c.sleepsOn .slotFreed = true) ∧
      w.exchange.channel.sorter.outstanding? = some 1 := by
  let slot : Channel Float Nat := { lone with sorter := .throttled ⟨1, 1, 1⟩ }
  let rest : Channel Float Nat :=
    { slot with sink := { lone.sink with queue := { lone.queue with events := [8] } } }
  let first : Client Nat := ⟨0, .returned (.fetched (.ok (some ⟨[7], .freesSlot⟩))), none⟩
  let second : Client Nat := ⟨1, .asleep (.fetch .takeSlot false) .slotFreed, none⟩
  have begins : Exchange.Steps Call.Lends (.ofChannel lone) []
      ⟨slot, [⟨0, .ready (.fetch .takeEvents false) false, none⟩], 0⟩ :=
    .call 0 (.fetch .takeSlot false) (by simp [Exchange.ofChannel]) ⟨rfl, rfl⟩ rfl
  have heard : HeardAll [⟨.notFull, true⟩] [first] [first] := .cons (.all rfl) .nil
  have fetches : Exchange.Step Call.Lends
      ⟨slot, [⟨0, .ready (.fetch .takeEvents false) false, none⟩], 0⟩ [] ⟨rest, [first], 0⟩ :=
    @Exchange.Step.run _ _ _ _ ⟨slot, _, 0⟩ [] [] _ 0 (.fetch .takeEvents false) false none rfl
      heard
  have sleeps : Exchange.Steps Call.Lends ⟨rest, [], 0⟩ [] ⟨rest, [second], 0⟩ :=
    .call 1 (.fetch .takeSlot false) (by simp) ⟨rfl, rfl⟩ rfl
  have hands : Lending.Step ⟨⟨rest, [first], 0⟩, []⟩ ⟨⟨rest, [], 0⟩, [⟨.freesSlot, 0⟩]⟩ :=
    @Lending.Step.handOut _ _ _ ⟨rest, [first], 0⟩ [] [] [] 0 ⟨[7], .freesSlot⟩ none rfl
  have steps := ((Lending.steps_within (begins.tail fetches) []).tail hands).trans
    (Lending.steps_within sleeps _)
  obtain ⟨slots, -, used, -⟩ :=
    slots_accounted (show lone.sorter = .throttledFor 1 none [1] from rfl) steps
  refine ⟨_, steps, ⟨?_, ?_⟩, rfl, ⟨second, by simp, rfl⟩, used⟩
  · intro c mem state dropped expired
    rw [List.mem_singleton.1 mem]
    simp [second]
  · simp [owed, Client.owed, second]

end StagedEvents
