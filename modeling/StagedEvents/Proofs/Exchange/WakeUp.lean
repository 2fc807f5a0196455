import Mathlib.Algebra.BigOperators.Group.List.Basic
import Mathlib.Algebra.Ring.Nat
import StagedEvents.Proofs.Exchange.Interleaving

/-!
# No call sleeps on what is there

A signal for one sleeper may reach someone who finds that another was faster, and whoever
gives a signal may give it long after what it is about. Yet no wake-up is lost. The reason
is `Covered`: those who are about to look for something and the signals that are still
owed are together at least as many as there is to find, unless everyone is going to be
signalled or no one sleeps.

* `Exchange.Attended`: the invariant of all steps.
* `nothing_for_sleepers`: when no one can go on, those who sleep have nothing to find.
-/

namespace StagedEvents

variable {α ε : Type}

namespace Client

/-- The signals that a client has still to give. -/
def owed (c : Client ε) : List Signal :=
  match c.phase with
  | .owing signals _ => signals
  | _ => []

/-- How many calls a client may still bring to look for `on`: its own, if it is about to
    look, and those it is going to wake one by one. -/
def hands (c : Client ε) (on : Condition) : Nat :=
  match c.phase with
  | .ready call _ => call.hands on
  | .owing signals _ => signals.count ⟨on, false⟩
  | _ => 0

/-- A client who sleeps is waiting for what its call wants. -/
def Patient (c : Client ε) : Prop :=
  ∀ call on, c.phase = .asleep call on → call.wants = some on

theorem awaken_of_sleepsOn {c : Client ε} {on : Condition} (h : c.sleepsOn on = true) :
    ∃ call, c.phase = .asleep call on ∧
      c.awaken = { c with phase := .ready call false } := by
  obtain ⟨id, phase, deadline⟩ := c
  cases phase with
  | asleep call on' =>
    obtain rfl : on' = on := by simpa [sleepsOn] using h
    exact ⟨call, rfl, rfl⟩
  | ready | owing | returned => exact absurd h (by simp [sleepsOn])

end Client

/-- How many of the clients sleep on `on`. -/
def sleepers (clients : List (Client ε)) (on : Condition) : Nat :=
  clients.countP (·.sleepsOn on)

/-- How many calls the clients may still bring to look for `on`. -/
def hands (clients : List (Client ε)) (on : Condition) : Nat :=
  (clients.map (·.hands on)).sum

/-- The signals that the clients have still to give. -/
def owed (clients : List (Client ε)) : List Signal := clients.flatMap (·.owed)

theorem sleepers_insert (before after : List (Client ε)) (c : Client ε) (on : Condition) :
    sleepers (before ++ c :: after) on =
      sleepers (before ++ after) on + (if c.sleepsOn on then 1 else 0) := by
  simp only [sleepers, List.countP_append, List.countP_cons]
  omega

theorem hands_insert (before after : List (Client ε)) (c : Client ε) (on : Condition) :
    hands (before ++ c :: after) on = hands (before ++ after) on + c.hands on := by
  simp only [hands, List.map_append, List.map_cons, List.sum_append, List.sum_cons]
  omega

theorem mem_owed_insert {before after : List (Client ε)} {c : Client ε} {s : Signal} :
    s ∈ owed (before ++ c :: after) ↔ s ∈ owed (before ++ after) ∨ s ∈ c.owed := by
  simp only [owed, List.flatMap_append, List.flatMap_cons, List.mem_append]
  tauto

theorem sleepers_eq_zero_iff {clients : List (Client ε)} {on : Condition} :
    sleepers clients on = 0 ↔ ∀ c ∈ clients, c.sleepsOn on = false := by
  simp [sleepers, List.countP_eq_zero]

/-! ## Signals -/

/-- A client who is woken has its hands free for what it slept on, and for nothing else. -/
theorem Client.hands_awaken {c : Client ε} {on : Condition} (patient : c.Patient)
    (sleeps : c.sleepsOn on = true) (on' : Condition) :
    c.hands on' = 0 ∧ c.awaken.hands on' = if on' = on then 1 else 0 := by
  obtain ⟨call, asleep, awake⟩ := awaken_of_sleepsOn sleeps
  have wants := patient call on asleep
  refine ⟨by simp [hands, asleep], ?_⟩
  rw [awake]
  show call.hands on' = _
  simp only [Call.hands, wants, Option.some.injEq, eq_comm]

theorem Client.patient_awaken (c : Client ε) (h : c.Patient) : c.awaken.Patient := by
  obtain ⟨id, phase, deadline⟩ := c
  cases phase with
  | asleep call on => exact fun _ _ asleep => absurd asleep (by simp [awaken])
  | ready | owing | returned => exact h

theorem Client.owed_awaken (c : Client ε) : c.awaken.owed = c.owed := by
  obtain ⟨id, phase, deadline⟩ := c
  cases phase <;> rfl

/-- What a signal does to a client, as far as another condition is concerned. -/
theorem Client.awaken_elsewhere {c : Client ε} {on on' : Condition} (patient : c.Patient)
    (sleeps : c.sleepsOn on = true) (other : on' ≠ on) :
    c.awaken.hands on' = c.hands on' ∧ c.awaken.sleepsOn on' = c.sleepsOn on' := by
  obtain ⟨none, some⟩ := c.hands_awaken patient sleeps on'
  obtain ⟨call, asleep, awake⟩ := awaken_of_sleepsOn sleeps
  refine ⟨by rw [none, some, if_neg other], ?_⟩
  rw [awake]
  simp [sleepsOn, asleep, other.symm]

theorem Heard.owed_eq {s : Signal} {clients clients' : List (Client ε)}
    (h : Heard s clients clients') : owed clients' = owed clients := by
  simp only [owed, List.flatMap, h.map_eq Client.owed_awaken]

/-- Who sleeps on another condition than that of the signal sleeps on. -/
theorem Heard.elsewhere {s : Signal} {clients clients' : List (Client ε)}
    (h : Heard s clients clients') (patient : ∀ c ∈ clients, c.Patient) {on : Condition}
    (other : on ≠ s.on) :
    sleepers clients' on = sleepers clients on ∧ hands clients' on = hands clients on := by
  cases h with
  | all =>
    simp only [sleepers, hands, List.countP_map, List.map_map]
    constructor
    · refine List.countP_congr fun c mem => ?_
      simp only [Function.comp_apply]
      split
      · rename_i sleeps
        rw [((c.awaken_elsewhere (patient c mem) sleeps other)).2]
      · rfl
    · refine congrArg List.sum (List.map_congr_left fun c mem => ?_)
      simp only [Function.comp_apply]
      split
      · rename_i sleeps
        exact (c.awaken_elsewhere (patient c mem) sleeps other).1
      · rfl
  | @one before after c _ sleeps =>
    obtain ⟨same, same'⟩ := c.awaken_elsewhere (patient c (by simp)) sleeps other
    rw [sleepers_insert, sleepers_insert, hands_insert, hands_insert, same, same']
    exact ⟨rfl, rfl⟩
  | lost => exact ⟨rfl, rfl⟩

/-- No one who sleeps on the condition of a signal goes on sleeping, or one of them is
    about to look. -/
theorem Heard.here {s : Signal} {clients clients' : List (Client ε)}
    (h : Heard s clients clients') (patient : ∀ c ∈ clients, c.Patient) :
    sleepers clients' s.on = 0 ∨ s.all = false ∧
      sleepers clients s.on = sleepers clients' s.on + 1 ∧
      hands clients' s.on = hands clients s.on + 1 := by
  cases h with
  | all =>
    refine .inl (sleepers_eq_zero_iff.2 fun c mem => ?_)
    obtain ⟨d, -, rfl⟩ := List.mem_map.1 mem
    split
    · rename_i sleeps
      obtain ⟨call, -, awake⟩ := Client.awaken_of_sleepsOn sleeps
      rw [awake]
      rfl
    · rename_i awake
      exact Bool.not_eq_true _ ▸ awake
  | @one before after c toOne sleeps =>
    obtain ⟨none, one⟩ := c.hands_awaken (patient c (by simp)) sleeps s.on
    obtain ⟨call, -, awake⟩ := Client.awaken_of_sleepsOn sleeps
    have up : c.awaken.sleepsOn s.on = false := by rw [awake]; rfl
    refine .inr ⟨toOne, ?_, ?_⟩
    · rw [sleepers_insert, sleepers_insert, sleeps, up, if_pos rfl, if_neg (by simp)]
    · rw [hands_insert, hands_insert, none, one, if_pos rfl, Nat.add_zero]
  | lost toOne awake => exact .inl (sleepers_eq_zero_iff.2 awake)

/-! ## What covers a condition -/

/-- Nothing that sleepers on `on` could find is left to no one: no one sleeps on it, or all
    who do are going to be signalled, or those who are about to look for it and the
    signals to come (`pending` among them) will use up what there is. -/
def Covered (channel : Channel α ε) (clients : List (Client ε)) (pending : List Signal)
    (on : Condition) : Prop :=
  sleepers clients on = 0 ∨ ⟨on, true⟩ ∈ owed clients ∨ ⟨on, true⟩ ∈ pending ∨
    channel.SuppliesAtMost (hands clients on + pending.count ⟨on, false⟩) on

variable {channel : Channel α ε} {clients clients' : List (Client ε)}
  {pending : List Signal} {on : Condition}

theorem Heard.covered {s : Signal} (h : Heard s clients clients')
    (patient : ∀ c ∈ clients, c.Patient) (covered : Covered channel clients (s :: pending) on) :
    Covered channel clients' pending on := by
  unfold Covered at covered ⊢
  rw [h.owed_eq]
  by_cases same : on = s.on
  · subst same
    rcases h.here patient with none | ⟨toOne, fewer, more⟩
    · exact .inl none
    · have signal : s = ⟨s.on, false⟩ := by rw [← toOne]
      have count : (s :: pending).count ⟨s.on, false⟩ = pending.count ⟨s.on, false⟩ + 1 := by
        rw [signal, List.count_cons_self]
      refine .inr ?_
      rcases covered with none | all | all | supplies
      · omega
      · exact .inl all
      · refine .inr (.inl ((List.mem_cons.1 all).resolve_left fun this => ?_))
        exact absurd (congrArg Signal.all this) (by simp [toOne])
      · rw [count] at supplies
        exact .inr (.inr (supplies.mono (by omega)))
  · obtain ⟨sleeping, looking⟩ := h.elsewhere patient same
    have other (all : Bool) : (⟨on, all⟩ : Signal) ≠ s := fun this =>
      same (congrArg Signal.on this)
    rw [sleeping, looking]
    rwa [List.mem_cons, or_iff_right (other true), List.count_cons_of_ne (other false).symm]
      at covered

theorem HeardAll.covered {signals : List Signal} (h : HeardAll signals clients clients')
    (patient : ∀ c ∈ clients, c.Patient) (covered : Covered channel clients signals on) :
    Covered channel clients' [] on := by
  induction h with
  | nil => exact covered
  | cons first _ ih =>
    refine ih (first.forall (fun c => c.patient_awaken) patient) ?_
    exact first.covered patient covered

/-- A client who comes awake uncovers nothing. -/
theorem Covered.cons (h : Covered channel clients [] on) {c : Client ε}
    (up : c.sleepsOn on = false) : Covered channel (c :: clients) [] on := by
  have sleeping := sleepers_insert [] clients c on
  have looking := hands_insert [] clients c on
  rw [up, if_neg Bool.false_ne_true, List.nil_append, List.nil_append] at sleeping
  rw [List.nil_append, List.nil_append] at looking
  rcases h with none | owed | waiting | supplies
  · exact .inl (sleeping.trans none)
  · exact .inr (.inl (List.mem_append_right _ owed))
  · exact absurd waiting List.not_mem_nil
  · exact .inr (.inr (.inr (supplies.mono (by omega))))

/-- A client uncovers nothing by another phase in which it does not sleep, unless it did
    before, and in which its signals are still to come and it can still look. -/
theorem Covered.replace {before after : List (Client ε)} {c c' : Client ε}
    (h : Covered channel (before ++ c :: after) [] on)
    (sleeping : c'.sleepsOn on = true → c.sleepsOn on = true)
    (all : ⟨on, true⟩ ∈ c.owed → ⟨on, true⟩ ∈ c'.owed ∨ ⟨on, true⟩ ∈ pending)
    (looking : c.hands on ≤ c'.hands on + pending.count ⟨on, false⟩) :
    Covered channel (before ++ c' :: after) pending on := by
  unfold Covered at h ⊢
  rw [sleepers_insert, mem_owed_insert, hands_insert] at h ⊢
  rcases h with none | (others | owed) | waiting | supplies
  · refine .inl ?_
    have up : ¬ c'.sleepsOn on = true := fun sleeps => by
      rw [if_pos (sleeping sleeps)] at none
      omega
    rw [if_neg up]
    omega
  · exact .inr (.inl (.inl others))
  · rcases all owed with owed | waiting
    · exact .inr (.inl (.inr owed))
    · exact .inr (.inr (.inl waiting))
  · exact absurd waiting List.not_mem_nil
  · refine .inr (.inr (.inr (supplies.mono ?_)))
    rw [List.count_nil]
    omega

/-! ## Steps -/

namespace Outcome

variable {o : Outcome α ε} {call : Call ε} {c : Client ε}

/-- After its step a client owes the signals that come late. -/
theorem owed_of_phase (h : c.phase = o.phase call)
    (unfinished : (∀ reply, o.progress ≠ .done reply) → o.late = []) : c.owed = o.late := by
  unfold Client.owed
  rw [h]
  unfold phase
  cases progress : o.progress with
  | next | sleep => exact (unfinished fun reply => by simp [progress]).symm
  | done reply =>
    unfold Phase.after
    cases late : o.late <;> rfl

theorem count_late_le_hands (h : c.phase = o.phase call)
    (unfinished : (∀ reply, o.progress ≠ .done reply) → o.late = []) (on : Condition) :
    o.late.count ⟨on, false⟩ ≤ c.hands on := by
  unfold Client.hands
  rw [h]
  unfold phase
  cases progress : o.progress with
  | next | sleep => simp [unfinished fun reply => by simp [progress]]
  | done reply =>
    unfold Phase.after
    cases late : o.late
    · exact Nat.zero_le _
    · exact Nat.le_refl _

theorem sleep_of_sleepsOn (h : c.phase = o.phase call) (sleeps : c.sleepsOn on = true) :
    o.progress = .sleep on := by
  obtain ⟨call', asleep, -⟩ := Client.awaken_of_sleepsOn sleeps
  rw [h] at asleep
  unfold phase at asleep
  cases progress : o.progress with
  | next =>
    rw [progress] at asleep
    exact absurd asleep (by simp)
  | sleep on' =>
    rw [progress] at asleep
    rw [(Phase.asleep.inj asleep).2]
  | done =>
    rw [progress] at asleep
    unfold Phase.after at asleep
    cases late : o.late
    all_goals exact absurd asleep (by simp [late])

/-- Whoever goes to sleep waits for what it wants. -/
theorem patient_of_phase (h : c.phase = o.phase call)
    (sleeps : ∀ on, o.progress = .sleep on → call.wants = some on) : c.Patient := by
  intro call' on asleep
  have progress : o.progress = .sleep on :=
    sleep_of_sleepsOn h (by simp [Client.sleepsOn, asleep])
  rw [h, phase, progress] at asleep
  rw [← (Phase.asleep.inj asleep).1]
  exact sleeps on progress

end Outcome

namespace Exchange

/-- The invariant of an exchange whose sorter is bounded as that of `channel`: everything is
    covered, whoever sleeps waits for what it wants, and whoever finds events takes some. -/
structure Attended (channel : Channel α ε) (x : Exchange α ε) : Prop where
  covered : ∀ on, Covered x.channel x.clients [] on
  patient : ∀ c ∈ x.clients, c.Patient
  bound : x.channel.sorter.maxBatch? = channel.sorter.maxBatch?
  greedy : ∀ c ∈ x.clients, ∀ call, c.call? = some call → channel.Greedy call

theorem attended_ofChannel (channel : Channel α ε) :
    (ofChannel channel).Attended channel where
  covered _ := .inl rfl
  patient _ mem := absurd mem List.not_mem_nil
  bound := rfl
  greedy _ mem := absurd mem List.not_mem_nil

end Exchange

variable [Quantity α]

/-- A step of a call leaves everything covered, with its prompt signals to be given. -/
theorem covered_run {before after : List (Client ε)} {c c' : Client ε} {call : Call ε}
    {expired : Bool} (greedy : channel.Greedy call) (ready : c.phase = .ready call expired)
    (stepped : c'.phase = (channel.step call expired).phase call)
    (covered : Covered channel (before ++ c :: after) [] on) :
    Covered (channel.step call expired).channel (before ++ c' :: after)
      (channel.step call expired).prompt on := by
  have effect := channel.step_effect call expired
  generalize channel.step call expired = o at effect stepped ⊢
  have owed' := Outcome.owed_of_phase stepped effect.late_eq_nil
  have looking := Outcome.count_late_le_hands stepped effect.late_eq_nil on
  by_cases asleep : o.progress = .sleep on
  · -- whoever goes to sleep has just seen that there is nothing
    exact .inr (.inr (.inr ((effect.sleeps asleep).2.mono (Nat.zero_le _))))
  · have up : c'.sleepsOn on = false :=
      Bool.eq_false_iff.2 fun sleeps => asleep (Outcome.sleep_of_sleepsOn stepped sleeps)
    have owes : c.owed = [] := by rw [Client.owed, ready]
    have hands : c.hands on = call.hands on := by rw [Client.hands, ready]
    unfold Covered at covered ⊢
    rw [sleepers_insert, mem_owed_insert, hands_insert] at covered ⊢
    rw [owes, hands, List.count_nil, Nat.add_zero] at covered
    rw [owed', up, if_neg Bool.false_ne_true]
    rcases covered with none | owed | waiting | supplies
    · exact .inl (by omega)
    · exact .inr (.inl (.inl (owed.resolve_right List.not_mem_nil)))
    · exact absurd waiting List.not_mem_nil
    · rcases effect.supplies greedy supplies with all | supplies
      · rcases List.mem_append.1 all with prompt | late
        · exact .inr (.inr (.inl prompt))
        · exact .inr (.inl (.inr late))
      · rw [List.count_append] at supplies
        exact .inr (.inr (.inr (supplies.mono (by omega))))

namespace Channel

omit [Quantity α] in
theorem Greedy.congr {c c' : Channel α ε} {call : Call ε} (h : c.Greedy call)
    (bound : c'.sorter.maxBatch? = c.sorter.maxBatch?) : c'.Greedy call := by
  cases call with
  | fetch => exact fun none => h (bound.symm.trans none)
  | _ => exact h

/-- A call that follows on a greedy one is greedy. -/
theorem Greedy.next {c c' : Channel α ε} {call call' : Call ε} {expired : Bool}
    (h : c.Greedy call) (next : (c'.step call expired).progress = .next call') :
    c.Greedy call' := by
  obtain ⟨state, dropped, rfl, ⟨state', rfl⟩ | ⟨completion, reply, rfl⟩⟩ := next_of_step next
  · exact h
  · exact True.intro

end Channel

namespace Exchange

variable {x y : Exchange α ε} {published : List ε}

omit [Quantity α] in
/-- One client goes on, and others hear its signals. -/
theorem Attended.replace (hx : x.Attended channel) {before after : List (Client ε)}
    {c c' : Client ε} {signals : List Signal} (found : x.clients = before ++ c :: after)
    (heard : HeardAll signals (before ++ c' :: after) y.clients)
    (covered : ∀ on, Covered y.channel (before ++ c' :: after) signals on)
    (bound : y.channel.sorter.maxBatch? = x.channel.sorter.maxBatch?) (patient : c'.Patient)
    (greedy : ∀ call, c'.call? = some call → channel.Greedy call) : y.Attended channel := by
  have patient' : ∀ d ∈ before ++ c' :: after, d.Patient :=
    forall_replace (found ▸ hx.patient) patient
  have greedy' : ∀ d ∈ before ++ c' :: after, ∀ call, d.call? = some call →
      channel.Greedy call :=
    forall_replace (found ▸ hx.greedy) greedy
  refine ⟨fun on => heard.covered patient' (covered on),
    heard.forall Client.patient_awaken patient', bound.trans hx.bound,
    heard.forall (fun d may call busy => ?_) greedy'⟩
  exact may call (d.call?_awaken ▸ busy)

/-- Every step keeps the invariant. -/
theorem Step.attended (h : Step channel.Greedy x published y) (hx : x.Attended channel) :
    y.Attended channel := by
  cases h with
  | @enter id call patience fresh may =>
    exact ⟨fun on => (hx.covered on).cons rfl,
      List.forall_mem_cons.2 ⟨fun _ _ asleep => absurd asleep (by simp), hx.patient⟩, hx.bound,
      List.forall_mem_cons.2 ⟨fun _ busy => Option.some.inj busy ▸ may, hx.greedy⟩⟩
  | @run before after clients id call expired deadline found heard =>
    have covered := found ▸ hx.covered
    have effect := x.channel.step_effect call expired
    have may : channel.Greedy call :=
      hx.greedy ⟨id, .ready call expired, deadline⟩ (by simp [found]) call rfl
    refine hx.replace found heard (fun on => ?_) effect.maxBatch? ?_ fun call' busy => ?_
    · exact covered_run (may.congr hx.bound) rfl rfl (covered on)
    · exact Outcome.patient_of_phase rfl fun on asleep => (effect.sleeps asleep).1
    · rcases Outcome.call?_of_phase rfl busy with rfl | next
      · exact may
      · exact may.next next
  | @wake before after id call on deadline expired found =>
    have covered := found ▸ hx.covered
    refine hx.replace found .nil (fun on' => (covered on').replace ?_ ?_ ?_) rfl ?_ ?_
    · exact fun sleeps => absurd sleeps Bool.false_ne_true
    · exact fun owed => absurd owed List.not_mem_nil
    · exact Nat.zero_le _
    · exact fun _ _ asleep => absurd asleep (by simp)
    · exact hx.greedy ⟨id, .asleep call on, deadline⟩ (by simp [found])
  | @signal before after clients id s rest reply deadline found heard =>
    have covered := found ▸ hx.covered
    have heard' := HeardAll.cons heard .nil
    refine hx.replace found heard' (fun on => (covered on).replace ?_ (fun all => ?_) ?_) rfl
      ?_ ?_
    · exact fun sleeps => absurd sleeps Bool.false_ne_true
    · rcases List.mem_cons.1 all with first | later
      · exact .inr (List.mem_singleton.2 first)
      · exact .inl later
    · show (s :: rest).count ⟨on, false⟩ ≤ rest.count ⟨on, false⟩ + [s].count ⟨on, false⟩
      exact Nat.le_of_eq (by rw [List.count_cons, List.count_singleton])
    · exact fun _ _ asleep => absurd asleep (by simp)
    · exact fun _ busy => absurd busy (by simp [Client.call?])
  | @finish before after id reply deadline found =>
    have covered := found ▸ hx.covered
    refine hx.replace found .nil (fun on => (covered on).replace ?_ ?_ ?_) rfl ?_ ?_
    · exact fun sleeps => absurd sleeps Bool.false_ne_true
    · exact fun owed => absurd owed List.not_mem_nil
    · exact Nat.zero_le _
    · exact fun _ _ asleep => absurd asleep (by simp)
    · exact fun _ busy => absurd busy (by simp [Client.call?])
  | around gate clock => exact ⟨hx.covered, hx.patient, hx.bound, hx.greedy⟩

/-! ## When no one can go on -/

/-- Every call has returned or is asleep. -/
def Quiet (x : Exchange α ε) : Prop :=
  ∀ c ∈ x.clients, (∃ call on, c.phase = .asleep call on) ∨ ∃ reply, c.phase = .returned reply

omit [Quantity α] in
theorem Quiet.idle (quiet : x.Quiet) (on : Condition) :
    hands x.clients on = 0 ∧ owed x.clients = [] := by
  constructor
  · refine List.sum_eq_zero fun n hn => ?_
    obtain ⟨c, mem, rfl⟩ := List.mem_map.1 hn
    rcases quiet c mem with ⟨call, on, asleep⟩ | ⟨reply, returned⟩
    · rw [Client.hands, asleep]
    · rw [Client.hands, returned]
  · refine List.flatMap_eq_nil_iff.2 fun c mem => ?_
    rcases quiet c mem with ⟨call, on, asleep⟩ | ⟨reply, returned⟩
    · rw [Client.owed, asleep]
    · rw [Client.owed, returned]

omit [Quantity α] in
/-- With no one left to look and no signal to come, sleepers have nothing to find. -/
theorem Attended.nothing (hx : x.Attended channel) (quiet : x.Quiet) {c : Client ε}
    (mem : c ∈ x.clients) {call : Call ε} (asleep : c.phase = .asleep call on) :
    call.wants = some on ∧ x.channel.SuppliesAtMost 0 on := by
  refine ⟨hx.patient c mem call on asleep, ?_⟩
  obtain ⟨looking, owed⟩ := quiet.idle on
  rcases hx.covered on with none | all | waiting | supplies
  · have up := sleepers_eq_zero_iff.1 none c mem
    exact absurd up (by simp [Client.sleepsOn, asleep])
  · rw [owed] at all
    exact absurd all List.not_mem_nil
  · exact absurd waiting List.not_mem_nil
  · rwa [looking] at supplies

/-- **No lost wake-up.** However the steps of any number of calls are interleaved, when
    every call has returned or is asleep, a producer sleeps only if the queue is open and
    full, and a consumer only if it is open and empty. -/
theorem nothing_for_sleepers {x : Exchange α ε} {published : List ε}
    (steps : Steps channel.Greedy (ofChannel channel) published x) (quiet : x.Quiet)
    {c : Client ε} (mem : c ∈ x.clients) {call : Call ε} {on : Condition}
    (asleep : c.phase = .asleep call on) :
    (∀ event, call = .offer event → x.queue.closed = false ∧ x.queue.hasRoom 1 = false) ∧
      (∀ most, call = .poll most → x.queue.closed = false ∧ x.queue.events = []) ∧
      ∀ dropped, call = .fetch .takeEvents dropped →
        x.queue.closed = false ∧ x.queue.events = [] := by
  have attended : x.Attended channel :=
    steps.invariant (fun step => step.attended) (attended_ofChannel channel)
  obtain ⟨wants, nothing⟩ := attended.nothing quiet mem asleep
  have empty (h : x.channel.SuppliesAtMost 0 .notEmpty) :
      x.queue.closed = false ∧ x.queue.events = [] :=
    ⟨h.1, List.length_eq_zero_iff.1 (Nat.le_zero.1 h.2)⟩
  refine ⟨?_, ?_, ?_⟩
  · rintro event rfl
    obtain rfl := Option.some.inj wants
    obtain ⟨isOpen, most, bounded, full⟩ := nothing
    refine ⟨isOpen, Bool.eq_false_iff.2 fun room => ?_⟩
    have := (Queue.hasRoom_iff bounded 1).1 room
    omega
  · rintro most rfl
    obtain rfl := Option.some.inj wants
    exact empty nothing
  · rintro dropped rfl
    obtain rfl := Option.some.inj wants
    exact empty nothing

/-- A producer and a consumer sleep while a transaction has the only room. -/
theorem nothing_for_sleepers_reserved : ∃ x : Exchange Float Nat,
    x.Quiet ∧ x.queue = { capacity := some 1, events := [], reserved := 1, closed := false } ∧
      (x.queue.closed = false ∧ x.queue.hasRoom 1 = false) ∧
      x.queue.closed = false ∧ x.queue.events = [] := by
  let channel : Channel Float Nat :=
    { sink := { queue := .withCapacity (some 1), gate := .openToAll, stats := .new }
      sorter := .drainAll }
  let reserved : Channel Float Nat :=
    channel.withQueue { capacity := some 1, events := [], reserved := 1, closed := false }
  let preparer : Client Nat := ⟨0, .returned (.prepared (.ok ⟨[7]⟩)), none⟩
  let producer : Client Nat := ⟨1, .asleep (.offer 8) .notFull, none⟩
  let consumer : Client Nat := ⟨2, .asleep (.poll none) .notEmpty, none⟩
  let x : Exchange Float Nat := ⟨reserved, [consumer, producer, preparer], 0⟩
  have prepared : Steps channel.Greedy (ofChannel channel) [] ⟨reserved, [preparer], 0⟩ :=
    .call 0 (.prepare false [7]) (by simp [ofChannel]) True.intro rfl
  have offered : Steps channel.Greedy ⟨reserved, [preparer], 0⟩ []
      ⟨reserved, [producer, preparer], 0⟩ :=
    .call 1 (.offer 8) (by simp [preparer]) True.intro rfl
  have polled : Steps channel.Greedy ⟨reserved, [producer, preparer], 0⟩ [] x :=
    .call 2 (.poll none) (by simp [preparer, producer]) (by simp [Channel.Greedy])
      rfl
  have steps := (prepared.trans offered).trans polled
  have quiet : x.Quiet := by
    intro c mem
    simp only [x, List.mem_cons, List.not_mem_nil, or_false] at mem
    rcases mem with rfl | rfl | rfl
    · exact .inl ⟨_, _, rfl⟩
    · exact .inl ⟨_, _, rfl⟩
    · exact .inr ⟨_, rfl⟩
  have first := nothing_for_sleepers steps quiet (c := producer) (by simp [x]) rfl
  have second := nothing_for_sleepers steps quiet (c := consumer) (by simp [x]) rfl
  exact ⟨x, quiet, rfl, first.1 8 rfl, second.2.1 none rfl⟩

end Exchange

end StagedEvents
