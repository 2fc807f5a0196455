import StagedEvents.Application
import StagedEvents.Proofs.Service.Crew

/-!
# What callers and workers do to services

Callers of an application interleave their chores with each other and with the steps of
workers. Whatever one of them does, each service stays as it is, or takes a few turns: a turn
changes what is around its pools, or one of the pools, or gives it one pool more.

* `SharedApplication`, `SharedApplication.Move`: all that callers and workers do.
* `Service.Turn`, `Application.Onward`: all that becomes of services.
* `SharedApplication.Move.onward`: a move is a few turns of each service.
-/

namespace StagedEvents

variable {ε : Type}

/-! ## Services -/

namespace Service

/-- What can happen to a service. It gets another pool only if it `may`. -/
inductive Turn (may : Service ε → Prop) (s : Service ε) : Service ε → Prop where
  | around (stage : Stage ε) (capability : stage.capability = s.stage.capability) :
      Turn may s { s with stage }
  | change {pool : ℕ} {p p' : Pool ε} (stage : Stage ε)
      (capability : stage.capability = s.stage.capability) (found : s.pools[pool]? = some p)
      (change : p.Change (fun _ => True) True True p') :
      Turn may s { stage, pools := s.pools.set pool p' }
  | add (policy : FailurePolicy) (allowed : may s) : Turn may s (s.addPool policy)

variable {may : Service ε → Prop} {s s' : Service ε} {pool worker : ℕ}

theorem turn_mapPool {p : Pool ε} (stage : Stage ε)
    (capability : stage.capability = s.stage.capability) (found : s.pools[pool]? = some p)
    {f : Pool ε → Pool ε} (change : p.Change (fun _ => True) True True (f p)) :
    s.Turn may (({ s with stage } : Service ε).mapPool pool f) := by
  have turn : s.Turn may { stage, pools := s.pools.set pool (f p) } :=
    .change stage capability found change
  rw [← mapPool_set found f] at turn
  exact turn

/-- A section of a pool is a turn of the service, or nothing at all. -/
theorem turns_mapPool {f : Pool ε → Pool ε}
    (change : ∀ p, s.pools[pool]? = some p → p.Change (fun _ => True) True True (f p)) :
    Relation.ReflTransGen (Turn may) s (s.mapPool pool f) := by
  cases found : s.pools[pool]? with
  | some p => exact .single (turn_mapPool s.stage rfl found (change p found))
  | none =>
    rw [mapPool_of_none found]

theorem Took.turns {p p' : Pool ε} {d d' : Duty ε} (took : s.Took s' pool p p' d d') :
    Relation.ReflTransGen (Turn may) s s' := by
  obtain ⟨stage, pools⟩ := s'
  obtain rfl := took.pools
  rcases took.change with rfl | change
  · obtain ⟨lt, rfl⟩ := List.getElem?_eq_some_iff.1 took.found
    rw [List.set_getElem_self lt]
    exact .single (.around stage took.capability)
  · exact .single (.change stage took.capability took.found
      (change.mono (fun _ _ => True.intro) False.elim False.elim))

theorem isAt_of_worker? {w : Worker ε} (h : s.worker? pool worker = some w) :
    s.IsAt pool worker w.duty := by
  obtain ⟨p, found, known⟩ := Option.bind_eq_some_iff.1 h
  rw [Pool.worker?] at known
  obtain rfl : w.id = worker := by simpa using List.find?_some known
  exact ⟨p, found, List.mem_map.2 ⟨w, List.mem_of_find?_eq_some known, rfl⟩⟩

end Service

/-! ## Applications -/

namespace Application

variable {may : Service ε → Prop} {a b c : Application ε} {number : ℕ}

/-- Whether a stage may be served: its name is served already, so that nothing happens, or
    the service `may` get another pool. -/
def MayServe (may : Service ε → Prop) (number : ℕ) (a : Application ε) : Prop :=
  a.served.lookup (a.nameOf number) = none → ∀ s ∈ a.services[number]?, may s

/-- Every service comes from one there was, or from one without pools, by turns. -/
def Onward (may : Service ε → Prop) (a b : Application ε) : Prop :=
  ∀ s' ∈ b.services, ∃ s, (s ∈ a.services ∨ s.pools = []) ∧
    Relation.ReflTransGen (Service.Turn may) s s'

theorem Onward.refl (a : Application ε) : Onward may a a :=
  fun s mem => ⟨s, .inl mem, .refl⟩

theorem Onward.trans (first : Onward may a b) (second : Onward may b c) : Onward may a c := by
  intro s mem
  obtain ⟨between, known | empty, turns⟩ := second s mem
  · obtain ⟨origin, known, before⟩ := first between known
    exact ⟨origin, known, before.trans turns⟩
  · exact ⟨between, .inr empty, turns⟩

theorem onward_mapService {f : Service ε → Service ε}
    (turns : ∀ s ∈ a.services[number]?, Relation.ReflTransGen (Service.Turn may) s (f s)) :
    Onward may a (a.mapService number f) := by
  intro s' mem
  obtain ⟨place, known⟩ := List.mem_iff_getElem?.1 mem
  have modified : (a.services.modify number f)[place]? = some s' := known
  rw [List.getElem?_modify] at modified
  obtain ⟨s, found, rfl⟩ := Option.map_eq_some_iff.1 modified
  refine ⟨s, .inl (List.mem_of_getElem? found), ?_⟩
  by_cases here : number = place
  · rw [if_pos here]
    exact turns s (here ▸ found)
  · rw [if_neg here]

theorem onward_mapStage {f : Stage ε → Stage ε}
    (keeps : ∀ s, (f s).capability = s.capability) : Onward may a (a.mapStage number f) :=
  onward_mapService fun s _ => .single (.around (f s.stage) (keeps s.stage))

theorem onward_mapPool {ref : PoolRef} {f : Pool ε → Pool ε}
    (change : ∀ p, a.pool? ref = some p → p.Change (fun _ => True) True True (f p)) :
    Onward may a (a.mapPool ref f) := by
  refine onward_mapService fun s known => Service.turns_mapPool fun p found => change p ?_
  rw [pool?, Option.mem_def.1 known]
  exact found

theorem onward_addStage (stage : Stage ε) : Onward may a (a.addStage stage) := by
  intro s mem
  rcases List.mem_append.1 mem with mem | mem
  · exact ⟨s, .inl mem, .refl⟩
  · obtain rfl := List.mem_singleton.1 mem
    exact ⟨_, .inr rfl, .refl⟩

theorem onward_buildStage (blueprint : Blueprint ε) : Onward may a (a.buildStage blueprint).1 := by
  unfold buildStage
  split
  · exact .refl a
  · exact onward_addStage _

theorem onward_startPool (ref : PoolRef) (refusals : ThreadRefusals) :
    Onward may a (a.startPool ref refusals).1 := by
  unfold startPool
  split
  · exact .refl a
  · rename_i s' answer started
    obtain ⟨s, known, started⟩ := Option.bind_eq_some_iff.1 started
    obtain ⟨p, p', found, start, rfl⟩ := Service.startPool?_cases started
    refine onward_mapService fun t same => ?_
    obtain rfl := Option.some.inj (known.symm.trans same)
    let tuned := s.stage.mapChannel fun c => { c with sorter := c.sorter.init p.settings.most }
    exact .single (Service.turn_mapPool tuned rfl found (.start start fun _ => True.intro))

theorem onward_resizePool (ref : PoolRef) (size : ℕ) (refusals : ThreadRefusals) :
    Onward may a (a.resizePool ref size refusals).1 := by
  unfold resizePool
  split
  · exact .refl a
  · rename_i s known
    refine onward_mapService fun t same => ?_
    obtain rfl := Option.some.inj (known.symm.trans same)
    rw [Service.resizePool_eq]
    exact Service.turns_mapPool fun p _ => .resize s.clock refusals size fun _ => True.intro

/-- To register a stage gives its service a pool, which starts, or does nothing. -/
theorem onward_register (allowed : a.MayServe may number) (refusals : ThreadRefusals) :
    Onward may a (a.register number refusals).1 := by
  have served (free : a.served.lookup (a.nameOf number) = none) :
      Onward may a ((a.newPool number).1.startPool (a.newPool number).2 refusals).1 :=
    (onward_mapService fun s known => .single (.add a.policy (allowed free s known))).trans
      (onward_startPool (a.newPool number).2 refusals)
  unfold register
  simp only
  cases free : a.served.lookup (a.nameOf number) with
  | some ref => exact .refl a
  | none =>
    have served := served free
    simp only
    split <;> rename_i started <;> rw [started] at served <;> exact served

/-- Only the stage of a service changes. -/
theorem pools_mapStage (f : Stage ε → Stage ε) (place : ℕ) (a : Application ε) :
    ((a.mapStage number f).services[place]?).map Service.pools =
      (a.services[place]?).map Service.pools := by
  show ((a.services.modify number _)[place]?).map Service.pools = _
  rw [List.getElem?_modify]
  cases a.services[place]? with
  | none => rfl
  | some s => by_cases here : number = place <;> simp [here]

theorem pools_offer (number target : ℕ) (events : List ε) (a : Application ε) :
    ((a.offer target events).1.services[number]?).map Service.pools =
      (a.services[number]?).map Service.pools := by
  unfold offer
  split
  · rfl
  · exact pools_mapStage _ _ a

theorem onward_offer (target : ℕ) (events : List ε) :
    Onward may a (a.offer target events).1 := by
  unfold offer
  split
  · exact .refl a
  · exact onward_mapStage fun _ => rfl

theorem isAt_of_sending? {pool worker target since : ℕ} {batch : Batch ε} {events : List ε}
    {next : Bool → Plan ε}
    (h : a.sending? number pool worker = some (batch, target, events, next, since)) :
    ∃ s, a.services[number]? = some s ∧
      s.IsAt pool worker (.handling batch (.send target events next) since) := by
  unfold sending? at h
  split at h
  · exact absurd h (by simp)
  · rename_i w found
    obtain ⟨s, known, found⟩ := Option.bind_eq_some_iff.1 found
    split at h
    · rename_i here
      obtain ⟨rfl, rfl, rfl, rfl, rfl⟩ : _ ∧ _ ∧ _ ∧ _ ∧ _ := by simpa using h
      exact ⟨s, known, here ▸ Service.isAt_of_worker? found⟩
    · exact absurd h (by simp)

/-- A step of a worker is a turn of its service; if it sends events, the stage they go to
    has had one before. -/
theorem onward_stepWorker? {pool worker : ℕ}
    (numbered : ∀ s ∈ a.services, ∀ p ∈ s.pools, p.Numbered) {refusals : ThreadRefusals}
    (h : a.stepWorker? number pool worker refusals = some b) : Onward may a b := by
  unfold stepWorker? at h
  split at h
  · rename_i batch target events next since sends
    obtain rfl := Option.some.inj h
    refine (onward_offer target events).trans (onward_mapService fun t known => ?_)
    have pools := a.pools_offer number target events
    rw [Option.mem_def.1 known] at pools
    obtain ⟨s, found, here⟩ := isAt_of_sending? sends
    rw [found] at pools
    have same : t.pools = s.pools := Option.some.inj pools
    have numbered : ∀ p ∈ t.pools, p.Numbered := same ▸ numbered s (List.mem_of_getElem? found)
    have sends : t.IsAt pool worker (.handling batch (.send target events next) since) := by
      unfold Service.IsAt
      rw [same]
      exact here
    obtain ⟨p, p', took⟩ := Service.took_of_isAt numbered sends
      (.handling batch (next (a.offer target events).2) since) rfl rfl rfl rfl
    exact took.turns
  · obtain ⟨s', stepped, rfl⟩ := Option.map_eq_some_iff.1 h
    obtain ⟨s, known, stepped⟩ := Option.bind_eq_some_iff.1 stepped
    refine onward_mapService fun t same => ?_
    obtain rfl := Option.some.inj (known.symm.trans same)
    obtain ⟨p, p', d, d', took⟩ :=
      Service.step?_took (numbered s (List.mem_of_getElem? known)) stepped
    exact took.turns

theorem onward_doBuild (blueprint : Blueprint ε) : Onward may a (a.doBuild blueprint).1 := by
  have built : Onward may a (a.buildStage blueprint).1 := onward_buildStage blueprint
  unfold doBuild
  split
  · exact .refl a
  · split
    · exact .refl a
    · simp only
      split <;> rename_i result <;> rw [result] at built <;> exact built

theorem onward_introduce : Onward may a (a.introduce number).1 := by
  have told : Onward may a (a.mapStage number fun s => { s with life := s.life ++ [.made] }) :=
    onward_mapStage fun _ => rfl
  unfold introduce
  simp only
  split <;> exact told

theorem onward_beginStop (ref : PoolRef) : Onward may a (a.beginStop ref).1 := by
  unfold beginStop
  split
  · exact .refl a
  · rename_i p found
    refine onward_mapPool fun q same => ?_
    obtain rfl := Option.some.inj (found.symm.trans same)
    exact .beginStop

theorem onward_awaitExits (ref : PoolRef) (deadline : Option ℕ) :
    Onward may a (a.awaitExits ref deadline).1 := by
  have reaped : Onward may a (a.mapPool ref Pool.reapAll) := onward_mapPool fun _ _ => .reap
  unfold awaitExits
  simp only
  split <;> split <;> exact reaped

end Application

/-- The stage that a chore serves, if it serves one. -/
def Chore.served? : Chore ε → Option ℕ
  | .serve number => some number
  | _ => none

namespace Application

variable {may : Service ε → Prop} {a : Application ε}

/-- **One chore of a caller.** -/
theorem onward_doChore (chore : Chore ε)
    (allowed : ∀ number ∈ chore.served?, a.MayServe may number) (refusals : ThreadRefusals) :
    Onward may a (a.doChore chore refusals).1 := by
  cases chore with
  | build blueprint => exact onward_doBuild blueprint
  | introduce number => exact onward_introduce
  | serve number =>
    have registered := onward_register (allowed number rfl) refusals
    unfold doChore
    simp only
    split <;> rename_i result <;> rw [result] at registered <;> exact registered
  | enter | giveUp | unserveAll => exact .refl a
  | remove name =>
    unfold doChore
    simp only
    split
    · exact .refl a
    · split <;> exact .refl a
  | removeAll =>
    unfold doChore
    simp only
    split <;> exact .refl a
  | close number => exact onward_mapStage fun _ => rfl
  | unserve name =>
    unfold doChore
    simp only
    split <;> exact .refl a
  | beginStop ref => exact onward_beginStop ref
  | awaitExits ref deadline => exact onward_awaitExits ref deadline
  | endStop ref => exact onward_mapPool fun _ _ => .endStop
  | dismiss number => exact onward_mapStage fun _ => rfl

end Application

/-! ## Callers -/

/-- What a caller asks an application for begins with one of these chores: to make a stage
    or tear it down, or all; to stop the pool that serves a name, or all; to stop a pool. -/
inductive Chore.Begins : Chore ε → Prop where
  | create (blueprint : Blueprint ε) : Begins (.build blueprint)
  | destroy (name : String) : Begins (.remove name)
  | shutdown : Begins .removeAll
  | deregister (name : String) : Begins (.unserve name)
  | deregisterAll : Begins .unserveAll
  | stop (ref : PoolRef) : Begins (.beginStop ref)

/-- The chores of a caller after the first was tried. -/
def ChoreOutcome.remaining (chore : Chore ε) (rest : List (Chore ε)) :
    ChoreOutcome ε → List (Chore ε)
  | .done next => next ++ rest
  | .blocked => chore :: rest
  | .failed _ => []
  | .faulty _ => []

/-- An application, and the chores that each of its callers still has. -/
structure SharedApplication (ε : Type) where
  application : Application ε
  callers : List (List (Chore ε))

namespace SharedApplication

/-- The application in another state. -/
def withApplication (h : SharedApplication ε) (application : Application ε) :
    SharedApplication ε :=
  { h with application }

/-- The application after a caller has tried its first chore. -/
def attempt (h : SharedApplication ε) (caller : ℕ) (chore : Chore ε) (rest : List (Chore ε))
    (refusals : ThreadRefusals := noRefusals) : SharedApplication ε :=
  let (application, outcome) := h.application.doChore chore refusals
  { application, callers := h.callers.set caller (outcome.remaining chore rest) }

/-- All that can happen to an application and its callers, whether or not the system gives the
    threads that are asked for. A stage is served only if its service `may` get another pool,
    or is served already. -/
inductive Move (may : Service ε → Prop) : SharedApplication ε → SharedApplication ε → Prop where
  /-- Someone has a stage served. -/
  | register {h : SharedApplication ε} (number : ℕ) (allowed : h.application.MayServe may number)
      (refusals : ThreadRefusals) :
      Move may h (h.withApplication (h.application.register number refusals).1)
  /-- A caller comes. -/
  | call {h : SharedApplication ε} {chore : Chore ε} (begins : chore.Begins) :
      Move may h { h with callers := h.callers ++ [[chore]] }
  /-- A caller tries its next chore. -/
  | chore {h : SharedApplication ε} {caller : ℕ} {chore : Chore ε} {rest : List (Chore ε)}
      (next : h.callers[caller]? = some (chore :: rest))
      (allowed : ∀ number ∈ chore.served?, h.application.MayServe may number)
      (refusals : ThreadRefusals) : Move may h (h.attempt caller chore rest refusals)
  /-- Someone has a stage built that is not entered into the registry. -/
  | build {h : SharedApplication ε} (blueprint : Blueprint ε) :
      Move may h (h.withApplication (h.application.buildStage blueprint).1)
  | resize {h : SharedApplication ε} (ref : PoolRef) (size : ℕ) (refusals : ThreadRefusals) :
      Move may h (h.withApplication (h.application.resizePool ref size refusals).1)
  /-- A worker takes its next step. -/
  | worker {h : SharedApplication ε} {a : Application ε} (number pool worker : ℕ)
      (refusals : ThreadRefusals)
      (step : h.application.stepWorker? number pool worker refusals = some a) :
      Move may h (h.withApplication a)
  /-- Something else of a stage changes: producers act on its queue, time passes, its latch
      opens. -/
  | around {h : SharedApplication ε} (number : ℕ) {f : Stage ε → Stage ε}
      (keeps : ∀ s, (f s).capability = s.capability) :
      Move may h (h.withApplication (h.application.mapStage number f))

variable {may : Service ε → Prop} {h₀ h h' : SharedApplication ε}

theorem Move.mono {may' : Service ε → Prop} (move : Move may h h') (imp : ∀ s, may s → may' s) :
    Move may' h h' := by
  cases move with
  | register number allowed refusals =>
    exact .register number (fun free s known => imp s (allowed free s known)) refusals
  | call begins => exact .call begins
  | chore next allowed refusals =>
    exact .chore next
      (fun number serves free s known => imp s (allowed number serves free s known)) refusals
  | build blueprint => exact .build blueprint
  | resize ref size refusals => exact .resize ref size refusals
  | worker number pool worker refusals step => exact .worker number pool worker refusals step
  | around number keeps => exact .around number keeps

/-- **A move is a few turns of each service.** -/
theorem Move.onward (move : Move may h h')
    (numbered : ∀ s ∈ h.application.services, ∀ p ∈ s.pools, p.Numbered) :
    h.application.Onward may h'.application := by
  cases move with
  | register number allowed refusals => exact Application.onward_register allowed refusals
  | call begins => exact .refl h.application
  | chore next allowed refusals => exact Application.onward_doChore _ allowed refusals
  | build blueprint => exact Application.onward_buildStage blueprint
  | resize ref size refusals => exact Application.onward_resizePool ref size refusals
  | worker number pool worker refusals step => exact Application.onward_stepWorker? numbered step
  | around number keeps => exact Application.onward_mapStage keeps

/-- What is so of a service without pools, and kept by every turn, is so of every service of
    an application that starts without pools. -/
theorem forall_services {P : Service ε → Prop} (empty : ∀ s, s.pools = [] → P s)
    (numbered : ∀ s, P s → ∀ p ∈ s.pools, p.Numbered)
    (turn : ∀ s s', s.Turn may s' → P s → P s')
    (new : ∀ s ∈ h₀.application.services, s.pools = [])
    (run : Relation.ReflTransGen (Move may) h₀ h) : ∀ s ∈ h.application.services, P s := by
  induction run with
  | refl => exact fun s mem => empty s (new s mem)
  | tail _ move ih =>
    intro s' mem
    obtain ⟨s, origin, turns⟩ := move.onward (fun s mem => numbered s (ih s mem)) s' mem
    have start : P s := origin.elim (ih s) (empty s)
    clear mem
    induction turns with
    | refl => exact start
    | tail _ step known => exact turn _ _ step known

end SharedApplication

end StagedEvents
