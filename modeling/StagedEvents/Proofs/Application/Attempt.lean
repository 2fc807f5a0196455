import StagedEvents.Application.Schedule
import StagedEvents.Proofs.Application.PendingCall
import StagedEvents.Proofs.Exchange.Closing

/-!
# What a failed attempt to make a stage leaves behind

A caller that makes a stage builds it, tells its handler, has it served and enters it into the
registry. Each but the last may fail. The tables of the application are then what they were,
and no pool serves what was built. If the stage could not be served its queue is closed, and
nothing is let in ever again; if its handler would not have it the queue is left open.

* `Fails`: a caller carries out its chores until one fails, with others in between.
* `fails_of_createStage`: the program's attempts are of this kind.
* `Adds`, `AddsUnserved`: the application has one stage more, which no pool serves.
* `failed_creation`: the result.
-/

namespace StagedEvents

variable {ε : Type}

/-- Nothing is let into a closed queue, whoever does what. -/
theorem Exchange.Steps.published_of_closed {α : Type} [Quantity α] {allowed : Call ε → Prop}
    {x y : Exchange α ε} {published : List ε} (steps : Steps allowed x published y)
    (closed : x.queue.closed = true) : published = [] ∧ y.queue.closed = true := by
  induction steps with
  | refl => exact ⟨rfl, closed⟩
  | tail _ step ih =>
    obtain ⟨rfl, closed⟩ := ih
    cases step with
    | @run _ _ _ _ call expired =>
      exact ⟨Channel.published_of_closed closed call expired,
        Channel.closed_step _ call expired closed⟩
    | enter | wake | signal | finish | around => exact ⟨rfl, closed⟩

namespace Application

variable {others : Application ε → Application ε → Prop} {cause : StageError}
  {a b c : Application ε} {chore : Chore ε} {chores rest : List (Chore ε)}
  {refusals : ThreadRefusals}

/-! ## Callers who fail -/

/-- A caller carries out chores one after the other and is told that one failed. Before each
    of them `others` may act, and the system may refuse any threads it takes. -/
inductive Fails (others : Application ε → Application ε → Prop) (cause : StageError) :
    Application ε → List (Chore ε) → Application ε → Prop where
  | meanwhile {a b c : Application ε} {chores : List (Chore ε)} (acts : others a b)
      (later : Fails others cause b chores c) : Fails others cause a chores c
  | blocked {a c : Application ε} {chore : Chore ε} {rest : List (Chore ε)}
      {refusals : ThreadRefusals} (outcome : (a.doChore chore refusals).2 = .blocked)
      (later : Fails others cause (a.doChore chore refusals).1 (chore :: rest) c) :
      Fails others cause a (chore :: rest) c
  | done {a c : Application ε} {chore : Chore ε} {next rest : List (Chore ε)}
      {refusals : ThreadRefusals} (outcome : (a.doChore chore refusals).2 = .done next)
      (later : Fails others cause (a.doChore chore refusals).1 (next ++ rest) c) :
      Fails others cause a (chore :: rest) c
  | told {a : Application ε} {chore : Chore ε} {rest : List (Chore ε)}
      {refusals : ThreadRefusals} (outcome : (a.doChore chore refusals).2 = .failed cause) :
      Fails others cause a (chore :: rest) (a.doChore chore refusals).1

theorem not_fails_nil : ¬ Fails others cause a [] c := by
  intro fails
  generalize eq : ([] : List (Chore ε)) = chores at fails
  induction fails with
  | meanwhile _ _ ih => exact ih eq
  | blocked | done | told => cases eq

/-- What a chore has to come to if the caller fails, now or later: it fails, or is done and
    others take its place. -/
def FailsAfter (others : Application ε → Application ε → Prop) (cause : StageError)
    (rest : List (Chore ε)) (c : Application ε) : Application ε × ChoreOutcome ε → Prop
  | (b, .failed reason) => reason = cause ∧ c = b
  | (b, .done next) => Fails others cause b (next ++ rest) c
  | _ => False

/-- The next chore of a caller who fails later. To try it too early has no effect. -/
theorem Fails.next (fails : Fails others cause a (chore :: rest) c)
    (idle : ∀ (b : Application ε) (refusals : ThreadRefusals),
      (b.doChore chore refusals).2 = .blocked → (b.doChore chore refusals).1 = b) :
    ∃ b refusals, Relation.ReflTransGen others a b ∧
      FailsAfter others cause rest c (b.doChore chore refusals) := by
  generalize eq : chore :: rest = chores at fails
  induction fails with
  | meanwhile acts _ ih =>
    obtain ⟨b, refusals, before, ends⟩ := ih eq
    exact ⟨b, refusals, before.head acts, ends⟩
  | blocked outcome _ ih =>
    obtain ⟨rfl, rfl⟩ := List.cons.inj eq
    obtain ⟨b, refusals, before, ends⟩ := ih rfl
    exact ⟨b, refusals, idle _ _ outcome ▸ before, ends⟩
  | @done a c _ next _ refusals outcome later =>
    obtain ⟨rfl, rfl⟩ := List.cons.inj eq
    refine ⟨a, refusals, .refl, ?_⟩
    rw [show a.doChore chore refusals = ((a.doChore chore refusals).1, .done next) from
      Prod.ext rfl outcome]
    exact later
  | @told a _ _ refusals outcome =>
    obtain ⟨rfl, rfl⟩ := List.cons.inj eq
    refine ⟨a, refusals, .refl, ?_⟩
    rw [show a.doChore chore refusals = ((a.doChore chore refusals).1, .failed cause) from
      Prod.ext rfl outcome]
    exact ⟨rfl, rfl⟩

/-! ## The chores of those who make stages -/

/-- The application after a handler was told that its stage is made. -/
def tellMade (number : ℕ) (a : Application ε) : Application ε :=
  a.mapStage number fun s => { s with life := s.life ++ [.made] }

theorem doChore_introduce (number : ℕ) (a : Application ε) (refusals : ThreadRefusals) :
    a.doChore (.introduce number) refusals =
      match ((a.tellMade number).stage? number).bind fun s => s.handler.refusal? with
      | none => (a.tellMade number, .done [])
      | some reason =>
        ({ a.tellMade number with registryHeld := false }, .failed (.handlerFailure reason)) := rfl

/-- What a caller who makes a stage does once it is built. -/
inductive Makes : Chore ε → Prop where
  | introduce (number : ℕ) : Makes (.introduce number)
  | serve (number : ℕ) : Makes (.serve number)
  | enter (number : ℕ) : Makes (.enter number)
  | close (number : ℕ) : Makes (.close number)
  | dismiss (number : ℕ) : Makes (.dismiss number)
  | giveUp (cause : StageError) : Makes (.giveUp cause)

/-- Nothing keeps a caller who has built a stage from going on. -/
theorem Makes.outcome (makes : Makes chore) (a : Application ε) (refusals : ThreadRefusals) :
    (∃ next, (a.doChore chore refusals).2 = .done next ∧ ∀ chore ∈ next, Makes chore) ∨
      (∃ cause, (a.doChore chore refusals).2 = .failed cause) ∨
      ∃ fault, (a.doChore chore refusals).2 = .faulty fault := by
  cases makes with
  | introduce number =>
    cases refusal : ((a.tellMade number).stage? number).bind fun s => s.handler.refusal? with
    | none => exact .inl ⟨[], by simp only [doChore_introduce, refusal], List.forall_mem_nil _⟩
    | some reason =>
      exact .inr (.inl ⟨.handlerFailure reason, by simp only [doChore_introduce, refusal]⟩)
  | serve number =>
    rcases registered : a.register number refusals with ⟨b, fault | cause | ref⟩
    · exact .inr (.inr ⟨fault, by simp only [doChore, registered]⟩)
    · refine .inl ⟨[.close number, .dismiss number, .giveUp cause], ?_, ?_⟩
      · simp only [doChore, registered]
      · exact List.forall_mem_cons.2 ⟨.close number, List.forall_mem_cons.2
          ⟨.dismiss number, List.forall_mem_singleton.2 (.giveUp cause)⟩⟩
    · exact .inl ⟨[], by simp only [doChore, registered], List.forall_mem_nil _⟩
  | enter | close | dismiss => exact .inl ⟨[], rfl, List.forall_mem_nil _⟩
  | giveUp cause => exact .inr (.inl ⟨cause, rfl⟩)

theorem Makes.next (makes : Makes chore) {next : List (Chore ε)}
    (done : (a.doChore chore refusals).2 = .done next) : ∀ chore ∈ next, Makes chore := by
  rcases makes.outcome a refusals with ⟨next', outcome, makes'⟩ | ⟨_, outcome⟩ | ⟨_, outcome⟩
  · rw [outcome] at done
    exact ChoreOutcome.done.inj done ▸ makes'
  · rw [outcome] at done
    cases done
  · rw [outcome] at done
    cases done

theorem Makes.not_blocked (makes : Makes chore) (a : Application ε) (refusals : ThreadRefusals) :
    (a.doChore chore refusals).2 ≠ .blocked := by
  rcases makes.outcome a refusals with ⟨_, outcome, -⟩ | ⟨_, outcome⟩ | ⟨_, outcome⟩ <;>
    simp [outcome]

/-- The next chore of a caller who fails after the stage is built. -/
theorem Fails.after (fails : Fails others cause a (chore :: rest) c) (makes : Makes chore) :
    ∃ b refusals, Relation.ReflTransGen others a b ∧
      FailsAfter others cause rest c (b.doChore chore refusals) :=
  fails.next fun b refusals blocked => absurd blocked (makes.not_blocked b refusals)

theorem undisturbed_of_acts (undisturbed : ∀ a b, others a b → a.Undisturbed b)
    (acts : Relation.ReflTransGen others a b) : a.Undisturbed b := by
  induction acts with
  | refl => exact .refl a
  | tail _ act ih => exact ih.trans (undisturbed _ _ act)

theorem doBuild_of_held (held : a.registryHeld = true) (blueprint : Blueprint ε) :
    a.doBuild blueprint = (a, .blocked) := if_pos held

theorem doBuild_of_free (free : a.registryHeld = false) (blueprint : Blueprint ε) :
    a.doBuild blueprint = (a, .failed (.duplicateStage blueprint.name)) ∨
      (∃ fault, a.doBuild blueprint = (a, .faulty fault)) ∨
      ∃ stage, blueprint.build? (a.config.resolve blueprint.name) = .ok stage ∧
        a.doBuild blueprint = ({ a.addStage stage with registryHeld := true },
          .done [.introduce a.services.length, .serve a.services.length,
            .enter a.services.length]) := by
  unfold doBuild buildStage
  rw [if_neg (by simp [free])]
  cases a.registry.lookup blueprint.name with
  | some => exact .inl rfl
  | none =>
    cases built : blueprint.build? (a.config.resolve blueprint.name) with
    | error fault => exact .inr (.inl ⟨fault, rfl⟩)
    | ok stage => exact .inr (.inr ⟨stage, rfl, rfl⟩)

theorem held_of_blocked {blueprint : Blueprint ε}
    (blocked : (a.doBuild blueprint).2 = .blocked) : a.registryHeld = true := by
  cases held : a.registryHeld with
  | true => rfl
  | false =>
    rcases doBuild_of_free held blueprint with outcome | ⟨fault, outcome⟩ | ⟨_, -, outcome⟩ <;>
      rw [outcome] at blocked <;> cases blocked

/-- A caller who fails to make a stage has found the registry free before. -/
theorem Fails.build {blueprint : Blueprint ε} (fails : Fails others cause a [.build blueprint] c) :
    ∃ b, Relation.ReflTransGen others a b ∧ b.registryHeld = false ∧
      FailsAfter others cause [] c (b.doBuild blueprint) := by
  obtain ⟨b, refusals, acts, ends⟩ := fails.next fun b _ blocked =>
    congrArg Prod.fst (doBuild_of_held (held_of_blocked blocked) blueprint)
  refine ⟨b, acts, ?_, ends⟩
  cases held : b.registryHeld with
  | false => rfl
  | true =>
    rw [show b.doChore (.build blueprint) refusals = _ from doBuild_of_held held blueprint] at ends
    exact ends.elim

/-! ## The program's schedule -/

theorem held_untilStep (w : Worker ε) (a : Application ε) :
    (a.untilStep w).registryHeld = a.registryHeld := by
  unfold untilStep
  split <;> rfl

/-- Workers do not touch the registry. -/
theorem held_stepFirst? (stepped : a.stepFirst? = some b) : b.registryHeld = a.registryHeld := by
  obtain ⟨number, -, stepped⟩ := List.exists_of_findSome?_eq_some stepped
  split at stepped
  · cases stepped
  · obtain ⟨⟨pool, w⟩, -, stepped⟩ := List.exists_of_findSome?_eq_some stepped
    simp only at stepped
    split at stepped
    · cases stepped
    · exact (undisturbed_stepWorker? stepped).held.trans (held_untilStep w a)

theorem held_settleWithin (fuel : ℕ) (a : Application ε) :
    (a.settleWithin fuel).registryHeld = a.registryHeld := by
  induction fuel generalizing a with
  | zero => rfl
  | succ fuel ih =>
    unfold settleWithin
    split
    · rfl
    · split
      · rfl
      · rename_i stepped
        exact (ih _).trans (held_stepFirst? stepped)

theorem held_foldl {β : Type} {f : Application ε → β → Application ε}
    (keeps : ∀ a x, (f a x).registryHeld = a.registryHeld) (list : List β) (a : Application ε) :
    (list.foldl f a).registryHeld = a.registryHeld := by
  induction list generalizing a with
  | nil => rfl
  | cons x _ ih => exact (ih (f a x)).trans (keeps a x)

theorem held_wakeExpired (a : Application ε) : a.wakeExpired.registryHeld = a.registryHeld := by
  refine held_foldl (fun a number => ?_) _ a
  split
  · rfl
  · refine held_foldl (fun a entry => ?_) _ a
    simp only
    split
    · cases stepped : a.stepWorker? number entry.1 entry.2.id with
      | none => rfl
      | some b => exact (undisturbed_stepWorker? stepped).held
    · rfl

theorem held_tick (limit : ℕ) (a : Application ε) :
    (a.tick limit).1.registryHeld = a.registryHeld :=
  (held_settleWithin settleFuel _).trans (held_wakeExpired (a.pass _))

/-- A caller who comes while another holds the registry waits in vain under the program's
    schedule, which has one caller at a time. -/
theorem stuck_of_held (held : a.registryHeld = true) (blueprint : Blueprint ε) (fuel : ℕ)
    (settled : Bool) : (a.carryOutWithin fuel settled [.build blueprint]).2 = .stuck := by
  induction fuel generalizing a settled with
  | zero => rfl
  | succ fuel ih =>
    have blocked : a.doChore (.build blueprint) = (a, .blocked) := doBuild_of_held held blueprint
    simp only [carryOutWithin, blocked]
    split
    · exact ih ((held_settleWithin settleFuel a).trans held) true
    · split
      · rfl
      · exact ih ((held_tick _ a).trans held) true

theorem carryOutWithin_done {fuel : ℕ} {settled : Bool} {next : List (Chore ε)}
    (outcome : (a.doChore chore).2 = .done next) :
    a.carryOutWithin (fuel + 1) settled (chore :: rest) =
      (a.doChore chore).1.carryOutWithin fuel false (next ++ rest) := by
  rw [carryOutWithin, show a.doChore chore = ((a.doChore chore).1, .done next) from
    Prod.ext rfl outcome]

theorem carryOutWithin_failed {fuel : ℕ} {settled : Bool} {reason : StageError}
    (outcome : (a.doChore chore).2 = .failed reason) :
    a.carryOutWithin (fuel + 1) settled (chore :: rest) =
      ((a.doChore chore).1, .failed reason) := by
  rw [carryOutWithin, show a.doChore chore = ((a.doChore chore).1, .failed reason) from
    Prod.ext rfl outcome]

theorem carryOutWithin_faulty {fuel : ℕ} {settled : Bool} {fault : Fault}
    (outcome : (a.doChore chore).2 = .faulty fault) :
    a.carryOutWithin (fuel + 1) settled (chore :: rest) =
      ((a.doChore chore).1, .faulty fault) := by
  rw [carryOutWithin, show a.doChore chore = ((a.doChore chore).1, .faulty fault) from
    Prod.ext rfl outcome]

/-- Without a chore that is blocked the schedule lets the caller go on by itself. -/
theorem fails_of_carried {fuel : ℕ} {settled : Bool}
    (failed : a.carryOutWithin (fuel + 1) settled (chore :: rest) = (c, .failed cause))
    (later : ∀ next, (a.doChore chore).2 = .done next →
      (a.doChore chore).1.carryOutWithin fuel false (next ++ rest) = (c, .failed cause) →
      Fails others cause (a.doChore chore).1 (next ++ rest) c)
    (free : (a.doChore chore).2 ≠ .blocked) : Fails others cause a (chore :: rest) c := by
  cases outcome : (a.doChore chore).2 with
  | done next =>
    rw [carryOutWithin_done outcome] at failed
    exact .done outcome (later next outcome failed)
  | blocked => exact absurd outcome free
  | failed reason =>
    rw [carryOutWithin_failed outcome] at failed
    obtain ⟨rfl, same⟩ := Prod.mk.inj failed
    obtain rfl := Ending.failed.inj same
    exact .told outcome
  | faulty fault =>
    rw [carryOutWithin_faulty outcome] at failed
    cases (Prod.mk.inj failed).2

/-- Once the stage is built no chore is blocked. -/
theorem fails_of_carryOutWithin {fuel : ℕ} {settled : Bool}
    (failed : a.carryOutWithin fuel settled chores = (c, .failed cause))
    (makes : ∀ chore ∈ chores, Makes chore) : Fails others cause a chores c := by
  induction fuel generalizing a settled chores with
  | zero => simp [carryOutWithin] at failed
  | succ fuel ih =>
    cases chores with
    | nil => simp [carryOutWithin] at failed
    | cons chore rest =>
      obtain ⟨first, others⟩ := List.forall_mem_cons.1 makes
      refine fails_of_carried failed (fun next outcome failed => ih failed ?_)
        (first.not_blocked a noRefusals)
      exact List.forall_mem_append.2 ⟨first.next outcome, others⟩

theorem forall_makes_built (number : ℕ) :
    ∀ chore ∈ ([.introduce number, .serve number, .enter number] : List (Chore ε)),
      Makes chore :=
  List.forall_mem_cons.2 ⟨.introduce number, List.forall_mem_cons.2 ⟨.serve number,
    List.forall_mem_singleton.2 (.enter number)⟩⟩

theorem fails_of_build {fuel : ℕ} {settled : Bool} {blueprint : Blueprint ε}
    (failed : a.carryOutWithin fuel settled [.build blueprint] = (c, .failed cause)) :
    Fails others cause a [.build blueprint] c := by
  have free : a.registryHeld = false := by
    refine Bool.eq_false_iff.2 fun held => ?_
    have stuck := stuck_of_held held blueprint fuel settled
    rw [failed] at stuck
    cases stuck
  cases fuel with
  | zero => simp [carryOutWithin] at failed
  | succ fuel =>
    refine fails_of_carried failed (fun next outcome failed => ?_) fun blocked => ?_
    · refine fails_of_carryOutWithin failed ?_
      have done : (a.doBuild blueprint).2 = .done next := outcome
      rcases doBuild_of_free free blueprint with built | ⟨fault, built⟩ | ⟨stage, -, built⟩
      · rw [built] at done
        cases done
      · rw [built] at done
        cases done
      · rw [built] at done
        obtain rfl := ChoreOutcome.done.inj done
        exact forall_makes_built _
    · rw [held_of_blocked blocked] at free
      cases free

/-- An attempt under the program's schedule is one in which nobody else does anything. -/
theorem fails_of_createStage {blueprint : Blueprint ε}
    (failed : a.createStage blueprint = (c, .failed cause)) :
    Fails others cause a [.build blueprint] c := by
  unfold createStage at failed
  split at failed
  · exact fails_of_build failed
  · cases (Prod.mk.inj failed).2

/-! ## What is built -/

/-- From `a` to `b` the application has one stage more, which is that of the blueprint. It is
    not entered anywhere. -/
structure Adds (blueprint : Blueprint ε) (s : Service ε) (a b : Application ε) : Prop where
  registry : b.registry = a.registry
  served : b.served = a.served
  count : b.services.length = a.services.length + 1
  known : b.services[a.services.length]? = some s
  name : s.stage.name = blueprint.name
  handler : s.stage.handler = blueprint.handler

/-- The stage has no pool. -/
structure AddsUnserved (blueprint : Blueprint ε) (s : Service ε) (a b : Application ε) : Prop
    extends Adds blueprint s a b where
  unserved : s.pools = []

variable {blueprint : Blueprint ε} {s : Service ε}

/-- A stage as it is built has the handler of its blueprint, and an open queue. -/
theorem open_of_build? {defaults : Resolved} {stage : Stage ε}
    (built : blueprint.build? defaults = .ok stage) :
    stage.handler = blueprint.handler ∧ stage.queue.closed = false := by
  rcases Blueprint.frame_of_build? built with rfl | ⟨console, rfl⟩
  · exact ⟨rfl, rfl⟩
  · unfold Stage.putConsole
    simp only
    split <;> exact ⟨rfl, rfl⟩

theorem addsUnserved_build (same : a.Undisturbed b) {stage : Stage ε}
    (built : blueprint.build? (b.config.resolve blueprint.name) = .ok stage) :
    AddsUnserved blueprint { stage, pools := [] } a
      { b.addStage stage with registryHeld := true } := by
  refine ⟨⟨same.registry, same.served, ?_, ?_, (PendingCall.fresh_of_build? built).1,
    (open_of_build? built).1⟩, rfl⟩
  · show (b.services ++ [_]).length = _
    rw [List.length_append, same.count]
    rfl
  · show (b.services ++ [_])[a.services.length]? = _
    rw [← same.count, List.getElem?_concat_length]

/-- Others leave an open queue open. -/
def LeavesOpen (number : ℕ) (a b : Application ε) : Prop :=
  ∀ s ∈ a.services[number]?, ∀ s' ∈ b.services[number]?,
    s.stage.queue.closed = false → s'.stage.queue.closed = false

/-- A service in a later state: its queue is closed if it was, and open if it was and others
    leave it so; it has no pool if it had none. -/
structure Trails (others : Application ε → Application ε → Prop) (number : ℕ)
    (s s' : Service ε) : Prop where
  closed : s.stage.queue.closed = true → s'.stage.queue.closed = true
  isOpen : (∀ a b, others a b → LeavesOpen number a b) → s.stage.queue.closed = false →
    s'.stage.queue.closed = false
  unserved : s.pools = [] → s'.pools = []

/-- What others do to a stage that is being made. -/
theorem Adds.meanwhile (adds : Adds blueprint s a b)
    (undisturbed : ∀ a b, others a b → a.Undisturbed b)
    (acts : Relation.ReflTransGen others b c) :
    ∃ s', Adds blueprint s' a c ∧ Trails others a.services.length s s' := by
  induction acts with
  | refl => exact ⟨s, adds, id, fun _ => id, id⟩
  | @tail between c _ acts ih =>
    obtain ⟨t, adds, trails⟩ := ih
    have same := undisturbed between c acts
    have count : c.services.length = a.services.length + 1 := same.count.trans adds.count
    have known : c.services[a.services.length]? = some c.services[a.services.length] :=
      List.getElem?_eq_getElem (by omega)
    obtain ⟨t', known', left⟩ := same.services _ _ known
    obtain rfl := Option.some.inj (known'.symm.trans adds.known)
    refine ⟨_, ⟨same.registry.trans adds.registry, same.served.trans adds.served, count, known,
      left.stage.name.trans adds.name, left.stage.handler.trans adds.handler⟩,
      left.stage.closed ∘ trails.closed, fun leave isOpen => ?_,
      left.pools_eq_nil.2 ∘ trails.unserved⟩
    exact leave between c acts t' known' _ known (trails.isOpen leave isOpen)

/-- The next chore of a caller who has built a stage and fails later. -/
theorem Adds.next (adds : Adds blueprint s a b)
    (undisturbed : ∀ a b, others a b → a.Undisturbed b)
    (fails : Fails others cause b (chore :: rest) c) (makes : Makes chore) :
    ∃ b' refusals s', Adds blueprint s' a b' ∧ Trails others a.services.length s s' ∧
      FailsAfter others cause rest c (b'.doChore chore refusals) := by
  obtain ⟨b', refusals, acts, ends⟩ := fails.after makes
  obtain ⟨s', adds', trails⟩ := adds.meanwhile undisturbed acts
  exact ⟨b', refusals, s', adds', trails, ends⟩

theorem Adds.mapStage (adds : Adds blueprint s a b) {f : Stage ε → Stage ε}
    (name : (f s.stage).name = s.stage.name) (handler : (f s.stage).handler = s.stage.handler) :
    Adds blueprint { s with stage := f s.stage } a (b.mapStage a.services.length f) where
  registry := adds.registry
  served := adds.served
  count := (List.length_modify ..).trans adds.count
  known := getElem?_mapService_self adds.known _
  name := name.trans adds.name
  handler := handler.trans adds.handler

/-- Whether someone holds the registry does not matter. -/
theorem Adds.withHeld (adds : Adds blueprint s a b) (held : Bool) :
    Adds blueprint s a { b with registryHeld := held } :=
  ⟨adds.registry, adds.served, adds.count, adds.known, adds.name, adds.handler⟩

theorem Adds.stage? (adds : Adds blueprint s a b) :
    b.stage? a.services.length = some s.stage := by
  rw [Application.stage?, adds.known]
  rfl

/-- The first pool of a stage has not been started, and starts unless a thread is refused. -/
theorem startPool?_addPool_isSome (unserved : s.pools = []) (policy : FailurePolicy)
    (refusals : ThreadRefusals) : ∃ s' answer,
      (s.addPool policy).startPool? 0 refusals = some (s', answer) ∧
        s'.stage.name = s.stage.name ∧ s'.stage.handler = s.stage.handler ∧
        ∀ cause, answer = .ok (.error cause) → ∃ reason, cause = .threadSpawn reason := by
  rw [Service.addPool, unserved]
  exact ⟨_, _, rfl, rfl, rfl, fun _ => Pool.spawnMany?_cause⟩

/-- A new stage is refused a pool only if another pool serves the name, or a thread is
    refused. -/
theorem AddsUnserved.register (adds : AddsUnserved blueprint s a b) (refusals : ThreadRefusals) :
    b.register a.services.length refusals =
        (b, .ok (.error (.alreadyRegistered blueprint.name))) ∨
      (∃ b' fault, b.register a.services.length refusals = (b', .error fault)) ∨
      (∃ b' ref, b.register a.services.length refusals = (b', .ok (.ok ref))) ∨
      ∃ b' s' reason, Adds blueprint s' a b' ∧
        b.register a.services.length refusals = (b', .ok (.error (.threadSpawn reason))) := by
  have named : b.nameOf a.services.length = blueprint.name := by
    rw [nameOf, adds.stage?]
    exact adds.name
  cases free : b.served.lookup blueprint.name with
  | some =>
    refine .inl ?_
    simp only [Application.register, named, free]
  | none =>
    let set : Application ε := b.mapService a.services.length (Service.addPool b.policy)
    have found : set.services[a.services.length]? = some (s.addPool b.policy) :=
      getElem?_mapService_self adds.known _
    have place : b.newPool a.services.length = (set, ⟨a.services.length, 0⟩) := by
      rw [newPool, adds.known, Option.map_some, adds.unserved]
      rfl
    obtain ⟨s', answer, started, name, handler, cause⟩ :=
      startPool?_addPool_isSome adds.unserved b.policy refusals
    let b' : Application ε := set.mapService a.services.length fun _ => s'
    have start : set.startPool ⟨a.services.length, 0⟩ refusals = (b', answer) := by
      simp only [startPool, found, Option.bind_some, started]
      rfl
    refine .inr ?_
    simp only [Application.register, named, free, place, start]
    rcases answer with fault | refused | ok
    · exact .inl ⟨_, fault, rfl⟩
    · obtain ⟨reason, rfl⟩ := cause refused rfl
      refine .inr (.inr ⟨b', s', reason, ⟨adds.registry, adds.served, ?_, ?_, ?_, ?_⟩, rfl⟩)
      · exact ((List.length_modify ..).trans (List.length_modify ..)).trans adds.count
      · exact getElem?_mapService_self found _
      · exact name.trans adds.name
      · exact handler.trans adds.handler
    · exact .inr (.inl ⟨_, _, rfl⟩)

/-! ## The attempt, from its end -/

theorem not_fails_enter {number : ℕ} : ¬ Fails others cause b [.enter number] c := by
  intro fails
  obtain ⟨b', refusals, -, ends⟩ := fails.after (.enter number)
  exact not_fails_nil ends

/-- A caller whose stage was refused a pool closes its queue, and fails. -/
theorem Adds.withdraw (adds : Adds blueprint s a b)
    (undisturbed : ∀ a b, others a b → a.Undisturbed b) {reason : StageError}
    (fails : Fails others cause b [.close a.services.length, .dismiss a.services.length,
      .giveUp reason, .enter a.services.length] c) :
    cause = reason ∧ ∃ s', Adds blueprint s' a c ∧ (s.pools = [] → s'.pools = []) ∧
      s'.stage.queue.closed = true := by
  obtain ⟨b₁, _, s₁, adds₁, trails₁, ends₁⟩ := adds.next undisturbed fails (.close _)
  have closed : Adds blueprint _ a (b₁.doChore (.close a.services.length)).1 :=
    adds₁.mapStage rfl rfl
  have shut : (s₁.stage.mapExchange fun x => (x.atOnce .close).1).queue.closed = true := by
    show ((s₁.stage.exchange.atOnce .close).1).queue.closed = true
    rw [Exchange.queue, Exchange.atOnce_channel]
    rfl
  obtain ⟨b₂, _, s₂, adds₂, trails₂, ends₂⟩ := closed.next undisturbed ends₁ (.dismiss _)
  have dismissed : Adds blueprint _ a (b₂.doChore (.dismiss a.services.length)).1 :=
    adds₂.mapStage (f := fun s => { s with life := s.life ++ [.tornDown] }) rfl rfl
  obtain ⟨b₃, _, s₃, adds₃, trails₃, same, rfl⟩ :=
    dismissed.next undisturbed ends₂ (.giveUp reason)
  exact ⟨same.symm, s₃, adds₃.withHeld false,
    fun none => trails₃.unserved (trails₂.unserved (trails₁.unserved none)),
    trails₃.closed (trails₂.closed shut)⟩

/-- A caller whose stage is welcome fails only if another pool serves the name, or a thread is
    refused. -/
theorem AddsUnserved.serve (adds : AddsUnserved blueprint s a b)
    (undisturbed : ∀ a b, others a b → a.Undisturbed b)
    (fails : Fails others cause b [.serve a.services.length, .enter a.services.length] c) :
    (cause = .alreadyRegistered blueprint.name ∧
      ∃ s', AddsUnserved blueprint s' a c ∧ s'.stage.queue.closed = true) ∨
    ((∃ reason, cause = .threadSpawn reason) ∧
      ∃ s', Adds blueprint s' a c ∧ s'.stage.queue.closed = true) := by
  obtain ⟨b₁, refusals, s₁, adds₁, trails₁, ends⟩ :=
    adds.toAdds.next undisturbed fails (.serve _)
  have unserved₁ : AddsUnserved blueprint s₁ a b₁ := ⟨adds₁, trails₁.unserved adds.unserved⟩
  rcases unserved₁.register refusals with
    refused | ⟨b', fault, faulty⟩ | ⟨b', ref, served⟩ | ⟨b', s', reason, adds', refused⟩
  · simp only [doChore, refused] at ends
    obtain ⟨same, s', adds', none, closed⟩ := adds₁.withdraw undisturbed ends
    exact .inl ⟨same, s', ⟨adds', none unserved₁.unserved⟩, closed⟩
  · simp only [doChore, faulty] at ends
    exact ends.elim
  · simp only [doChore, served] at ends
    exact absurd ends not_fails_enter
  · simp only [doChore, refused] at ends
    obtain ⟨same, s', adds', -, closed⟩ := adds'.withdraw undisturbed ends
    exact .inr ⟨⟨reason, same⟩, s', adds', closed⟩

/-- A caller who has built a stage fails when its handler will not have it, or later. -/
theorem AddsUnserved.introduce (adds : AddsUnserved blueprint s a b)
    (undisturbed : ∀ a b, others a b → a.Undisturbed b)
    (fails : Fails others cause b [.introduce a.services.length, .serve a.services.length,
      .enter a.services.length] c) :
    ((∃ reason, blueprint.handler.refusal? = some reason ∧ cause = .handlerFailure reason) ∧
      ∃ s', AddsUnserved blueprint s' a c ∧ Trails others a.services.length s s') ∨
    (cause = .alreadyRegistered blueprint.name ∧
      ∃ s', AddsUnserved blueprint s' a c ∧ s'.stage.queue.closed = true) ∨
    ((∃ reason, cause = .threadSpawn reason) ∧
      ∃ s', Adds blueprint s' a c ∧ s'.stage.queue.closed = true) := by
  obtain ⟨b₁, _, s₁, adds₁, trails, ends⟩ := adds.toAdds.next undisturbed fails (.introduce _)
  have told : Adds blueprint _ a (b₁.tellMade a.services.length) :=
    adds₁.mapStage (f := fun s => { s with life := s.life ++ [.made] }) rfl rfl
  have none : s₁.pools = [] := trails.unserved adds.unserved
  rw [doChore_introduce, told.stage?, Option.bind_some, told.handler] at ends
  cases refusal : blueprint.handler.refusal? with
  | none =>
    simp only [refusal] at ends
    exact .inr (AddsUnserved.serve ⟨told, none⟩ undisturbed ends)
  | some reason =>
    simp only [refusal] at ends
    obtain ⟨same, rfl⟩ := ends
    exact .inl ⟨⟨reason, rfl, same.symm⟩, _, ⟨told.withHeld false, none⟩,
      ⟨trails.closed, trails.isOpen, trails.unserved⟩⟩

/-- **What a failed attempt leaves behind.** A caller tries to make a stage while workers go on,
    pools are resized, producers use whatever sinks they have and time passes, and is told that
    it failed. Then the registry and the table of served pools are what they were. Either the
    name was taken, and nothing was built, or

    * the handler refused: one stage was built, which has no pool, and its queue is open unless
      someone else closed it; or
    * the name was served: one stage was built, which has no pool, its queue is closed, and
      nothing is let in by any of its sinks, whoever does what from then on; or
    * a thread was refused: one stage was built, whose pool is in no table, and the same is so of
      its queue.

    The attempts that the program's own schedule makes are of this kind. -/
theorem failed_creation (blueprint : Blueprint ε) (a b : Application ε) (cause : StageError) :
    (a.createStage blueprint = (b, .failed cause) →
      Fails (fun _ _ => False) cause a [.build blueprint] b) ∧
    ∀ others : Application ε → Application ε → Prop,
      (∀ a b, others a b → a.Undisturbed b) → Fails others cause a [.build blueprint] b →
      b.registry = a.registry ∧ b.served = a.served ∧
      ((cause = .duplicateStage blueprint.name ∧ a.Undisturbed b) ∨
        (∃ s, AddsUnserved blueprint s a b ∧
          (((∃ reason, blueprint.handler.refusal? = some reason ∧ cause = .handlerFailure reason) ∧
              ((∀ a' b', others a' b' → LeavesOpen a.services.length a' b') →
                s.stage.queue.closed = false)) ∨
            (cause = .alreadyRegistered blueprint.name ∧ s.stage.queue.closed = true ∧
              ∀ allowed published y, Exchange.Steps allowed s.stage.exchange published y →
                published = []))) ∨
        ∃ s reason, cause = .threadSpawn reason ∧ Adds blueprint s a b ∧
          s.stage.queue.closed = true ∧
          ∀ allowed published y, Exchange.Steps allowed s.stage.exchange published y →
            published = []) := by
  refine ⟨fails_of_createStage, fun others undisturbed fails => ?_⟩
  obtain ⟨a₁, acts, free, ends⟩ := fails.build
  have same : a.Undisturbed a₁ := undisturbed_of_acts undisturbed acts
  rcases doBuild_of_free free blueprint with taken | ⟨fault, faulty⟩ | ⟨stage, built, done⟩
  · rw [taken] at ends
    obtain ⟨reason, rfl⟩ := ends
    exact ⟨same.registry, same.served, .inl ⟨reason.symm, same⟩⟩
  · rw [faulty] at ends
    exact ends.elim
  · rw [done, same.count] at ends
    rcases (addsUnserved_build same built).introduce undisturbed ends with
      ⟨refused, s, adds, trails⟩ | ⟨name, s, adds, closed⟩ | ⟨⟨reason, refused⟩, s, adds, closed⟩
    · exact ⟨adds.registry, adds.served, .inr (.inl ⟨s, adds, .inl ⟨refused, fun leave =>
        trails.isOpen leave (open_of_build? built).2⟩⟩)⟩
    · exact ⟨adds.registry, adds.served, .inr (.inl ⟨s, adds, .inr ⟨name, closed,
        fun _ _ _ steps => (steps.published_of_closed closed).1⟩⟩)⟩
    · exact ⟨adds.registry, adds.served, .inr (.inr ⟨s, reason, refused, adds, closed,
        fun _ _ _ steps => (steps.published_of_closed closed).1⟩)⟩

/-- An application in which a stage was built and is served without being registered. -/
def elsewhere : Application ℕ :=
  (((new .empty).buildStage (.new "stage" .idle)).1.register 0).1

/-- A caller makes a stage whose name is served already. -/
theorem failed_creation_taken : ∃ (b : Application ℕ) (s : Service ℕ),
    elsewhere.createStage (.new "stage" .idle) = (b, .failed (.alreadyRegistered "stage")) ∧
    b.registry = [] ∧ b.served = [("stage", ⟨0, 0⟩)] ∧ b.services[1]? = some s ∧ s.pools = [] ∧
    s.stage.queue.closed = true ∧ ∀ allowed published y,
      Exchange.Steps allowed s.stage.exchange published y → published = [] := by
  let b : Application ℕ := (elsewhere.createStage (.new "stage" .idle)).1
  have ends : (elsewhere.createStage (.new "stage" .idle)).2 =
      .failed (.alreadyRegistered "stage") := by decide +kernel
  have failed : elsewhere.createStage (.new "stage" .idle) =
      (b, .failed (.alreadyRegistered "stage")) := Prod.ext rfl ends
  have registry : elsewhere.registry = [] := by decide +kernel
  have served : elsewhere.served = [("stage", ⟨0, 0⟩)] := by decide +kernel
  have count : elsewhere.services.length = 1 := by decide +kernel
  obtain ⟨alone, left⟩ := failed_creation (.new "stage" .idle) elsewhere b _
  obtain ⟨registry', served', ⟨duplicate, -⟩ | ⟨s, adds, ⟨⟨_, _, refused⟩, -⟩ |
    ⟨-, closed, silent⟩⟩ | ⟨_, _, refused, -⟩⟩ :=
    left (fun _ _ => False) (fun _ _ => False.elim) (alone failed)
  · cases duplicate
  · cases refused
  · exact ⟨b, s, failed, registry'.trans registry, served'.trans served, count ▸ adds.known,
      adds.unserved, closed, silent⟩
  · cases refused

/-- A stage whose handler will not have it. -/
def unwelcome : Blueprint ℕ := .new "stage" { Handler.idle with refusal? := some "not ready" }

/-- The stage of it that a failed attempt leaves behind. -/
def unwanted : Stage ℕ :=
  let defaults := Config.empty.resolve "stage"
  { unwelcome.frame defaults (unwelcome.rigging defaults) with life := [.made] }

/-- A handler refuses its stage. Nothing is registered and nothing served, and the queue of the
    stage is open: an event is let in that nobody will handle. -/
theorem failed_creation_open : ∃ (b : Application ℕ) (s : Service ℕ) (y : Exchange Float ℕ),
    (new .empty).createStage unwelcome = (b, .failed (.handlerFailure "not ready")) ∧
    b.registry = [] ∧ b.served = [] ∧ b.services = [s] ∧ s.pools = [] ∧
    s.stage.queue.closed = false ∧
    Exchange.Steps (fun _ => True) s.stage.exchange [7] y ∧ y.queue.events = [7] := by
  let b : Application ℕ :=
    { config := .empty, services := [{ stage := unwanted, pools := [] }], registry := []
      registryHeld := false, served := [] }
  have offered : Exchange.Steps (fun _ => True) unwanted.exchange [7] _ :=
    .call 0 (.enqueue true 7) (List.forall_mem_nil _) True.intro rfl
  exact ⟨b, _, _, rfl, rfl, rfl, rfl, rfl, rfl, offered, rfl⟩

end Application

end StagedEvents
