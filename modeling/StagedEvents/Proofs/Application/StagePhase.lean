import Mathlib.Data.List.Basic
import Mathlib.Data.List.Perm.Basic
import StagedEvents.Application
import StagedEvents.Proofs.Service.Undisturbed

/-!
# Phases in the life of a stage

A stage of an application is made and torn down in several critical sections, each of which
the lock of one of two tables guards, or none. In between the stage is in a phase: it says what
the handler was told, whether the queue is closed, in what state the pool is, and whether the
table of served pools has the stage. The statuses of an application tell the phase of each of
its stages, and with it all that the table has to say.

* `StagePhase`, `StageStatus`, `StageStatus.Holds`: what the phase of a stage says about its
  service.
* `Application.Tracked`: a phase for each stage, and together the table of served pools.
* `Tracked.undisturbed`: workers and producers change no phase.
* `Tracked.advance`, `Tracked.relabel`, `Tracked.serve`, `Tracked.unserve`, `Tracked.build`: what
  changes one.
-/

namespace StagedEvents

variable {ε : Type}

/-! ## The phase of a stage -/

/-- Where a stage is between its making and its end. -/
inductive StagePhase where
  /-- Its handler is about to be told that it is made. -/
  | introducing
  /-- It is about to be served. -/
  | serving
  /-- It is about to be entered into the registry. -/
  | entering
  /-- It could not be served, and is about to be closed. -/
  | withdrawing
  /-- It is in the registry. -/
  | listed
  /-- It was taken out of the registry, and is about to be closed. -/
  | closing
  /-- Its pool is about to be taken off the table. -/
  | leaving
  /-- Its pool is about to be stopped. -/
  | stopping
  /-- Its pool is being stopped. -/
  | awaiting
  /-- Its handler is about to be told that it is torn down. -/
  | parting
  /-- Its handler would not have it. -/
  | refused
  /-- It is torn down. -/
  | dismissed
deriving DecidableEq

namespace StagePhase

/-- What the handler was told. -/
def life : StagePhase → List LifeEvent
  | introducing => []
  | dismissed => [.made, .tornDown]
  | _ => [.made]

/-- Whether the queue is closed for certain. -/
def isClosed : StagePhase → Bool
  | leaving | stopping | awaiting | parting | dismissed => true
  | _ => false

/-- Whether the table of served pools has the stage. -/
def isServed : StagePhase → Bool
  | entering | listed | closing | leaving => true
  | _ => false

/-- Whether nothing more will be done about the stage. -/
def isOver : StagePhase → Bool
  | refused | dismissed => true
  | _ => false

/-- In what states the pools of the stage are: there is one at most. -/
def Allows : StagePhase → List PoolState → Prop
  | entering, states | listed, states | closing, states | leaving, states | stopping, states =>
    states = [.running]
  | awaiting, states => states = [.shuttingDown]
  | parting, states | dismissed, states => ∀ state ∈ states, state = .terminated
  | _, states => states = []

variable {phase : StagePhase} {states : List PoolState}

theorem eq_introducing (unmade : .made ∉ phase.life) : phase = .introducing := by
  cases phase with
  | introducing => rfl
  | _ => exact absurd (.head _) unmade

theorem eq_dismissed (tornDown : .tornDown ∈ phase.life) : phase = .dismissed := by
  cases phase with
  | dismissed => rfl
  | _ => simp [life] at tornDown

/-- While the queue of a stage may be open its pool runs, if it has one. -/
theorem Allows.eq_running (allows : phase.Allows states) (unclosed : phase.isClosed = false) :
    ∀ state ∈ states, state = .running := by
  have one (single : states = [.running]) : ∀ state ∈ states, state = .running :=
    single ▸ List.forall_mem_singleton.2 rfl
  have none (empty : states = []) : ∀ state ∈ states, state = .running := empty ▸ nofun
  cases phase with
  | introducing | serving | withdrawing | refused => exact none allows
  | entering | listed | closing => exact one allows
  | leaving | stopping | awaiting | parting | dismissed => cases unclosed

end StagePhase

/-- The phase of the stage with the given number and name. -/
structure StageStatus where
  stage : ℕ
  name : String
  phase : StagePhase

namespace StageStatus

/-- The stage with another phase. -/
def withPhase (phase : StagePhase) (status : StageStatus) : StageStatus := { status with phase }

/-- What the table of served pools has of the stage: its first pool. -/
def service? (status : StageStatus) : Option (String × PoolRef) :=
  if status.phase.isServed then some (status.name, ⟨status.stage, 0⟩) else none

/-- The service of the stage is as the phase says. -/
structure Holds (status : StageStatus) (s : Service ε) : Prop where
  name : s.stage.name = status.name
  usable : namesWorkers status.name = true
  life : s.stage.life = status.phase.life
  welcome : status.phase ≠ .introducing →
    (s.stage.handler.refusal? = none ↔ status.phase ≠ .refused)
  closed : status.phase.isClosed = true → s.stage.queue.closed = true
  pools : status.phase.Allows (s.pools.map Pool.state)
  idle : s.pools = [] → s.stage.latest = []

variable {status : StageStatus} {s s' : Service ε}

theorem Holds.undisturbed (holds : status.Holds s) (same : s.Undisturbed s') : status.Holds s' where
  name := same.stage.name.trans holds.name
  usable := holds.usable
  life := same.stage.life.trans holds.life
  welcome known := by
    rw [same.stage.handler]
    exact holds.welcome known
  closed known := same.stage.closed (holds.closed known)
  pools := by
    rw [same.states]
    exact holds.pools
  idle empty :=
    (same.latest (same.pools_eq_nil.1 empty)).trans (holds.idle (same.pools_eq_nil.1 empty))

/-- A stage whose handler would have it goes on, and its handler is told nothing. -/
theorem Holds.turn {phase : StagePhase} (holds : status.Holds s)
    (stage : s.stage.Undisturbed s'.stage) (life : phase.life = status.phase.life)
    (known : status.phase ≠ .introducing) (welcome : status.phase ≠ .refused)
    (welcome' : phase ≠ .refused)
    (closed : phase.isClosed = true → s'.stage.queue.closed = true)
    (pools : phase.Allows (s'.pools.map Pool.state))
    (idle : s'.pools = [] → s'.stage.latest = []) : (status.withPhase phase).Holds s' where
  name := stage.name.trans holds.name
  usable := holds.usable
  life := stage.life.trans (holds.life.trans life.symm)
  welcome _ := by
    rw [stage.handler]
    exact (holds.welcome known).trans (iff_of_true welcome welcome')
  closed := closed
  pools := pools
  idle := idle

/-- The handler of a stage is told something, and nothing else changes. -/
theorem Holds.told {phase : StagePhase} (holds : status.Holds s) (event : LifeEvent)
    (life : phase.life = status.phase.life ++ [event])
    (welcome : s.stage.handler.refusal? = none ↔ phase ≠ .refused)
    (closed : phase.isClosed = true → status.phase.isClosed = true)
    (pools : ∀ states, status.phase.Allows states → phase.Allows states) :
    (status.withPhase phase).Holds
      { s with stage := { s.stage with life := s.stage.life ++ [event] } } where
  name := holds.name
  usable := holds.usable
  life := (congrArg (· ++ [event]) holds.life).trans life.symm
  welcome _ := welcome
  closed := holds.closed ∘ closed
  pools := pools _ holds.pools
  idle := holds.idle

/-- The one pool of a stage that has one for certain. -/
theorem Holds.pool {state : PoolState} (holds : status.Holds s)
    (allows : ∀ states, status.phase.Allows states → states = [state]) :
    ∃ p, s.pools = [p] ∧ p.state = state := by
  have states := allows _ holds.pools
  obtain ⟨p, pools⟩ : ∃ p, s.pools = [p] := by
    rw [← List.length_eq_one_iff, ← List.length_map (f := Pool.state), states]
    rfl
  rw [pools] at states
  exact ⟨p, pools, List.singleton_inj.1 states⟩

end StageStatus

/-! ## Tables -/

namespace Application

section Tables

variable {β : Type} {name : String} {value : β} {table : List (String × β)}

theorem mem_of_lookup (found : table.lookup name = some value) : (name, value) ∈ table := by
  obtain ⟨before, after, rfl, -⟩ := List.lookup_eq_some_iff.1 found
  exact List.mem_append_right _ (.head _)

/-- No other entry has the name of an entry. -/
theorem ne_of_unique {before after : List (String × β)}
    (unique : ((before ++ (name, value) :: after).map Prod.fst).Nodup) :
    ∀ entry ∈ before ++ after, entry.1 ≠ name := by
  rw [List.map_append, List.map_cons, List.nodup_middle, ← List.map_append] at unique
  intro entry known same
  have listed : entry.1 ∈ (before ++ after).map Prod.fst := List.mem_map_of_mem known
  exact (List.nodup_cons.1 unique).1 (same ▸ listed)

theorem lookup_of_mem (unique : (table.map Prod.fst).Nodup) (mem : (name, value) ∈ table) :
    table.lookup name = some value := by
  obtain ⟨before, after, rfl⟩ := List.append_of_mem mem
  refine List.lookup_eq_some_iff.2 ⟨before, after, rfl, fun entry known => bne_iff_ne.2 ?_⟩
  exact (ne_of_unique unique entry (List.mem_append_left _ known)).symm

/-- The entry of a name, and the table without it. -/
theorem perm_without (unique : (table.map Prod.fst).Nodup) (mem : (name, value) ∈ table) :
    table.Perm ((name, value) :: without name table) := by
  obtain ⟨before, after, rfl⟩ := List.append_of_mem mem
  have rest : without name (before ++ (name, value) :: after) = before ++ after := by
    rw [without, List.filter_append, List.filter_cons_of_neg (by simp), ← List.filter_append]
    exact List.filter_eq_self.2 fun entry known => bne_iff_ne.2 (ne_of_unique unique entry known)
  rw [rest]
  exact List.perm_middle

theorem nodup_without (unique : (table.map Prod.fst).Nodup) :
    ((without name table).map Prod.fst).Nodup :=
  unique.sublist (List.filter_sublist.map _)

end Tables

/-! ## All stages of an application -/

/-- The application in a later state: every service is undisturbed, and the tables are what
    they were. -/
structure Undisturbed (a b : Application ε) : Prop where
  registry : b.registry = a.registry
  held : b.registryHeld = a.registryHeld
  served : b.served = a.served
  count : b.services.length = a.services.length
  services : ∀ (number : ℕ) (s' : Service ε), b.services[number]? = some s' →
    ∃ s, a.services[number]? = some s ∧ s.Undisturbed s'

variable {a b c : Application ε} {number : ℕ} {statuses rest : List StageStatus}
  {status : StageStatus}
  {f : Service ε → Service ε}

theorem Undisturbed.refl (a : Application ε) : a.Undisturbed a :=
  ⟨rfl, rfl, rfl, rfl, fun _ s' known => ⟨s', known, .refl s'⟩⟩

theorem Undisturbed.trans (first : a.Undisturbed b) (second : b.Undisturbed c) :
    a.Undisturbed c := by
  refine ⟨second.registry.trans first.registry, second.held.trans first.held,
    second.served.trans first.served, second.count.trans first.count, fun number s'' known => ?_⟩
  obtain ⟨s', between, same'⟩ := second.services number s'' known
  obtain ⟨s, origin, same⟩ := first.services number s' between
  exact ⟨s, origin, same.trans same'⟩

theorem pool?_of_pools {s : Service ε} {p : Pool ε} (known : a.services[number]? = some s)
    (pools : s.pools = [p]) : a.pool? ⟨number, 0⟩ = some p := by
  rw [pool?, known, Option.bind_some, pools]
  rfl

theorem getElem?_mapService (f : Service ε → Service ε) (number place : ℕ) (a : Application ε) :
    (a.mapService number f).services[place]? =
      (a.services[place]?).map fun s => if number = place then f s else s := by
  show (a.services.modify number f)[place]? = _
  rw [List.getElem?_modify]
  cases a.services[place]? with
  | none => rfl
  | some s => by_cases here : number = place <;> simp [here]

theorem getElem?_mapService_self {s : Service ε} (known : a.services[number]? = some s)
    (f : Service ε → Service ε) : (a.mapService number f).services[number]? = some (f s) := by
  simp only [getElem?_mapService, known, Option.map_some, if_true]

theorem getElem?_mapService_ne {place : ℕ} (ne : number ≠ place) (f : Service ε → Service ε)
    (a : Application ε) : (a.mapService number f).services[place]? = a.services[place]? := by
  simp only [getElem?_mapService, if_neg ne, Option.map_id_fun', id]

theorem undisturbed_mapService (same : ∀ s ∈ a.services[number]?, s.Undisturbed (f s)) :
    a.Undisturbed (a.mapService number f) := by
  refine ⟨rfl, rfl, rfl, List.length_modify .., fun place s' known => ?_⟩
  rw [getElem?_mapService] at known
  obtain ⟨s, found, rfl⟩ := Option.map_eq_some_iff.1 known
  refine ⟨s, found, ?_⟩
  split
  · rename_i here
    exact same s (here ▸ found)
  · exact .refl s

theorem undisturbed_mapStage {f : Stage ε → Stage ε}
    (same : ∀ s ∈ a.stage? number, s.Undisturbed (f s) ∧ (f s).latest = s.latest) :
    a.Undisturbed (a.mapStage number f) := by
  refine undisturbed_mapService fun s known => ?_
  have known : s.stage ∈ a.stage? number := by
    rw [stage?, Option.mem_def.1 known]
    rfl
  exact Service.undisturbed_withStage (same _ known).1 fun _ => (same _ known).2

theorem undisturbed_close (number : ℕ) (a : Application ε) :
    a.Undisturbed (a.doChore (.close number)).1 :=
  undisturbed_mapStage fun s _ => ⟨s.undisturbed_atOnce .close, rfl⟩

theorem undisturbed_offer (target : ℕ) (events : List ε) (a : Application ε) :
    a.Undisturbed (a.offer target events).1 := by
  unfold offer
  split
  · exact .refl a
  · rename_i s known
    have turned : a.Undisturbed (a.mapStage target fun stage =>
        { stage with exchange := (s.stage.exchange.atOnce (.enqueueMany true events)).1 }) := by
      refine undisturbed_mapStage fun stage same => ?_
      rw [stage?, known] at same
      obtain rfl := Option.some.inj same
      exact ⟨s.stage.undisturbed_atOnce _, rfl⟩
    exact turned

theorem undisturbed_resizePool (ref : PoolRef) (size : ℕ) (refusals : ThreadRefusals)
    (a : Application ε) : a.Undisturbed (a.resizePool ref size refusals).1 := by
  unfold resizePool
  split
  · exact .refl a
  · rename_i s known
    refine undisturbed_mapService fun t same => ?_
    obtain rfl := Option.some.inj (known.symm.trans same)
    exact s.undisturbed_resizePool ref.pool size refusals

/-- **A step of a worker**, which may send events to another stage. -/
theorem undisturbed_stepWorker? {pool worker : ℕ} {refusals : ThreadRefusals}
    (h : a.stepWorker? number pool worker refusals = some b) : a.Undisturbed b := by
  unfold stepWorker? at h
  split at h
  · obtain rfl := Option.some.inj h
    exact (undisturbed_offer _ _ a).trans
      (undisturbed_mapService fun s _ => s.undisturbed_setDuty pool worker _)
  · obtain ⟨s', stepped, rfl⟩ := Option.map_eq_some_iff.1 h
    obtain ⟨s, known, stepped⟩ := Option.bind_eq_some_iff.1 stepped
    refine undisturbed_mapService fun t same => ?_
    obtain rfl := Option.some.inj (known.symm.trans same)
    exact Service.undisturbed_step? stepped

/-- Every stage has one phase, its service is as the phase says, and the table of served
    pools has what the phases say, under each name once. -/
structure Tracked (a : Application ε) (statuses : List StageStatus) : Prop where
  all : (statuses.map StageStatus.stage).Perm (List.range a.services.length)
  holds : ∀ status ∈ statuses, ∀ s, a.services[status.stage]? = some s → status.Holds s
  served : a.served.Perm (statuses.filterMap StageStatus.service?)
  unique : (a.served.map Prod.fst).Nodup

theorem Tracked.perm (tracked : a.Tracked statuses) (perm : statuses.Perm rest) :
    a.Tracked rest where
  all := (perm.map _).symm.trans tracked.all
  holds := fun status mem => tracked.holds status (perm.mem_iff.2 mem)
  served := tracked.served.trans (perm.filterMap _)
  unique := tracked.unique

theorem Tracked.congr (tracked : a.Tracked statuses) (services : b.services = a.services)
    (served : b.served = a.served) : b.Tracked statuses := by
  refine ⟨?_, ?_, ?_, ?_⟩
  · rw [services]
    exact tracked.all
  · rw [services]
    exact tracked.holds
  · rw [served]
    exact tracked.served
  · rw [served]
    exact tracked.unique

theorem Tracked.undisturbed (tracked : a.Tracked statuses) (same : a.Undisturbed b) :
    b.Tracked statuses := by
  refine ⟨?_, fun status mem s' known => ?_, ?_, ?_⟩
  · rw [same.count]
    exact tracked.all
  · obtain ⟨s, origin, same⟩ := same.services status.stage s' known
    exact (tracked.holds status mem s origin).undisturbed same
  · rw [same.served]
    exact tracked.served
  · rw [same.served]
    exact tracked.unique

theorem Tracked.nodup (tracked : a.Tracked statuses) : (statuses.map StageStatus.stage).Nodup :=
  tracked.all.nodup_iff.2 List.nodup_range

/-- Every status is about a service. -/
theorem Tracked.exists_service (tracked : a.Tracked statuses) (mem : status ∈ statuses) :
    ∃ s, a.services[status.stage]? = some s ∧ status.Holds s := by
  have listed := tracked.all.mem_iff.1 (List.mem_map_of_mem mem)
  rw [List.mem_range] at listed
  exact ⟨_, List.getElem?_eq_getElem listed,
    tracked.holds status mem _ (List.getElem?_eq_getElem listed)⟩

/-- Every service has a status. -/
theorem Tracked.exists_status (tracked : a.Tracked statuses) {s : Service ε}
    (known : a.services[number]? = some s) :
    ∃ status ∈ statuses, status.stage = number ∧ status.Holds s := by
  obtain ⟨lt, -⟩ := List.getElem?_eq_some_iff.1 known
  obtain ⟨status, mem, rfl⟩ := List.mem_map.1 (tracked.all.mem_iff.2 (List.mem_range.2 lt))
  exact ⟨status, mem, rfl, tracked.holds status mem s known⟩

theorem Tracked.nameOf (tracked : a.Tracked statuses) (mem : status ∈ statuses) :
    a.nameOf status.stage = status.name := by
  obtain ⟨s, known, holds⟩ := tracked.exists_service mem
  rw [Application.nameOf, stage?, known]
  exact holds.name

/-- What is served under the name of a stage is the first pool of the stage. -/
theorem Tracked.lookup_served (tracked : a.Tracked statuses) (mem : status ∈ statuses)
    (served : status.phase.isServed = true) :
    a.served.lookup status.name = some ⟨status.stage, 0⟩ := by
  have listed : (status.name, (⟨status.stage, 0⟩ : PoolRef)) ∈ a.served :=
    tracked.served.mem_iff.2 (List.mem_filterMap.2 ⟨status, mem, if_pos served⟩)
  exact lookup_of_mem tracked.unique listed

/-! ## One stage goes on -/

/-- The service of one stage changes, and with it what the table has of the stage. -/
theorem Tracked.turn {status' : StageStatus} (tracked : a.Tracked (status :: rest))
    (stage : status'.stage = status.stage) (count : b.services.length = a.services.length)
    (others : ∀ number, status.stage ≠ number → b.services[number]? = a.services[number]?)
    (holds : ∀ s, b.services[status.stage]? = some s → status'.Holds s)
    (served : b.served.Perm ((status' :: rest).filterMap StageStatus.service?))
    (unique : (b.served.map Prod.fst).Nodup) : b.Tracked (status' :: rest) := by
  have apart := (List.nodup_cons.1 tracked.nodup).1
  refine ⟨?_, List.forall_mem_cons.2 ⟨?_, fun other mem s known => ?_⟩, served, unique⟩
  · rw [count, List.map_cons, stage]
    exact tracked.all
  · rw [stage]
    exact holds
  · have ne : status.stage ≠ other.stage := fun same => apart (same ▸ List.mem_map_of_mem mem)
    rw [others other.stage ne] at known
    exact tracked.holds other (.tail _ mem) s known

/-- A stage goes on, and the table has of it what it had. -/
theorem Tracked.advance (phase : StagePhase) (tracked : a.Tracked (status :: rest))
    (turn : ∀ s, a.services[status.stage]? = some s → status.Holds s →
      (status.withPhase phase).Holds (f s))
    (same : phase.isServed = status.phase.isServed) :
    (a.mapService status.stage f).Tracked (status.withPhase phase :: rest) := by
  refine tracked.turn rfl (List.length_modify ..) (fun number ne => ?_) (fun s' known => ?_) ?_
    tracked.unique
  · exact getElem?_mapService_ne ne f a
  · simp only [getElem?_mapService, if_true] at known
    obtain ⟨s, found, rfl⟩ := Option.map_eq_some_iff.1 known
    exact turn s found (tracked.holds status (.head _) s found)
  · have entry : (status.withPhase phase).service? = status.service? := by
      rw [StageStatus.service?, StageStatus.service?]
      exact congrArg (fun served : Bool => if served then _ else _) same
    have served := tracked.served
    rw [List.filterMap_cons] at served ⊢
    rw [entry]
    exact served

/-- Nothing happens to stages, but they have another phase from now on. -/
theorem Tracked.relabel (front : List StageStatus) (was phase : StagePhase)
    (tracked : a.Tracked (front ++ rest)) (all : ∀ status ∈ front, status.phase = was)
    (life : phase.life = was.life) (known : was ≠ .introducing) (welcome : was ≠ .refused)
    (welcome' : phase ≠ .refused) (unclosed : phase.isClosed = false)
    (pools : ∀ states, was.Allows states → phase.Allows states)
    (same : phase.isServed = was.isServed) :
    a.Tracked (front.map (StageStatus.withPhase phase) ++ rest) := by
  refine ⟨?_, ?_, ?_, tracked.unique⟩
  · rw [List.map_append, List.map_map]
    exact (List.map_append ▸ tracked.all :)
  · refine List.forall_mem_append.2 ⟨fun other mem s found => ?_, fun other mem =>
      tracked.holds other (List.mem_append_right _ mem)⟩
    obtain ⟨status, before, rfl⟩ := List.mem_map.1 mem
    have holds := tracked.holds status (List.mem_append_left _ before) s found
    have here := all status before
    refine holds.turn (.refl s.stage) (here ▸ life) (here ▸ known) (here ▸ welcome) welcome'
      (fun closed => ?_) (pools _ (here ▸ holds.pools)) holds.idle
    rw [unclosed] at closed
    cases closed
  · have entries : (front.map (StageStatus.withPhase phase)).filterMap StageStatus.service? =
        front.filterMap StageStatus.service? := by
      rw [List.filterMap_map]
      refine List.filterMap_congr fun status mem => ?_
      rw [Function.comp_apply, StageStatus.service?, StageStatus.service?, all status mem]
      exact congrArg (fun served : Bool => if served then _ else _) same
    have served := tracked.served
    rw [List.filterMap_append] at served ⊢
    rw [entries]
    exact served

/-- A stage is taken off the table. -/
theorem Tracked.unserve (phase : StagePhase) (tracked : a.Tracked (status :: rest))
    (turn : ∀ s : Service ε, status.Holds s → (status.withPhase phase).Holds s)
    (served : status.phase.isServed = true) (unserved : phase.isServed = false) :
    ({ a with served := without status.name a.served } : Application ε).Tracked
      (status.withPhase phase :: rest) := by
  refine tracked.turn rfl rfl (fun _ _ => rfl) (fun s known => ?_) ?_ (nodup_without tracked.unique)
  · exact turn s (tracked.holds status (.head _) s known)
  · have entry : status.service? = some (status.name, ⟨status.stage, 0⟩) := if_pos served
    have none : (status.withPhase phase).service? = none :=
      if_neg (by simp [StageStatus.withPhase, unserved])
    have table := tracked.served
    rw [List.filterMap_cons, entry] at table
    rw [List.filterMap_cons, none]
    have mem : (status.name, (⟨status.stage, 0⟩ : PoolRef)) ∈ a.served :=
      table.mem_iff.2 (.head _)
    exact ((perm_without tracked.unique mem).symm.trans table).cons_inv

/-- A new stage. -/
theorem Tracked.build (tracked : a.Tracked statuses) {stage : Stage ε} (status : StageStatus)
    (new : status.stage = a.services.length) (unserved : status.phase.isServed = false)
    (holds : status.Holds { stage, pools := [] }) :
    (a.addStage stage).Tracked (status :: statuses) := by
  have none : status.service? = none := if_neg (by simp [unserved])
  refine ⟨?_, List.forall_mem_cons.2 ⟨fun s known => ?_, fun other mem s known => ?_⟩, ?_,
    tracked.unique⟩
  · rw [addStage, List.length_append, List.length_singleton, List.range_succ, List.map_cons, new]
    exact (tracked.all.cons _).trans (List.perm_append_singleton _ _).symm
  · rw [new, addStage, List.getElem?_concat_length] at known
    obtain rfl := Option.some.inj known
    exact holds
  · have before : other.stage < a.services.length :=
      List.mem_range.1 (tracked.all.mem_iff.1 (List.mem_map_of_mem mem))
    rw [addStage, List.getElem?_append_left before] at known
    exact tracked.holds other mem s known
  · rw [List.filterMap_cons, none]
    exact tracked.served

/-! ## A stage is served -/

/-- The first pool of a stage starts, if it gets its threads. -/
theorem startPool?_addPool {s : Service ε} (empty : s.pools = [])
    (usable : namesWorkers s.stage.name = true) (policy : FailurePolicy) :
    ∃ s', (s.addPool policy).startPool? 0 = some (s', .ok (.ok ())) ∧
      s.stage.Undisturbed s'.stage ∧ s'.stage.latest = s.stage.latest ∧
      s'.pools.map Pool.state = [.running] := by
  let single := s.stage.capability == .singleThreaded
  let p : Pool ε := .new s.stage.name s.stage.pool single policy
  have added : s.addPool policy = { stage := s.stage, pools := [p] } := by
    rw [Service.addPool, empty]
    rfl
  let running : Pool ε := { p with state := .running }
  let started := (running.spawnMany? s.clock noRefusals p.settings.initial).1
  have told : running.ExitsTold := fun _ mem => absurd mem List.not_mem_nil
  have grants : running.Grants noRefusals p.settings.initial := fun _ _ => ⟨usable, rfl⟩
  have able : running.spawnMany? s.clock noRefusals p.settings.initial =
      (started, .ok (.ok ())) :=
    Prod.ext rfl (Pool.spawnMany?_of_grants told grants s.clock).1
  have start : p.start? s.clock noRefusals = some (started, .ok (.ok ())) :=
    (if_pos rfl).trans (congrArg some able)
  have state : started.state = .running :=
    congrArg (·.2.2) (running.frame_spawnMany? s.clock noRefusals p.settings.initial)
  let stage := s.stage.mapChannel fun c => { c with sorter := c.sorter.init p.settings.most }
  refine ⟨{ stage, pools := [started] }, ?_, ⟨rfl, rfl, rfl, id⟩, rfl, ?_⟩
  · have clock : Service.clock { stage := s.stage, pools := [p] } = s.clock := rfl
    rw [added, Service.startPool?]
    simp only [List.getElem?_cons_zero, clock, start]
    rfl
  · exact congrArg (fun state => [state]) state

/-- To serve a stage whose name is free gives it a pool that runs; if another stage is served
    under the name, nothing happens. -/
theorem Tracked.serve (tracked : a.Tracked (status :: rest)) (serving : status.phase = .serving) :
    a.register status.stage = (a, .ok (.error (.alreadyRegistered status.name))) ∨
      ∃ b, a.register status.stage = (b, .ok (.ok ⟨status.stage, 0⟩)) ∧ b.registry = a.registry ∧
        b.registryHeld = a.registryHeld ∧ b.Tracked (status.withPhase .entering :: rest) := by
  obtain ⟨s, known, holds⟩ := tracked.exists_service (.head _)
  have empty : s.pools = [] := by
    have pools := holds.pools
    rw [serving] at pools
    exact List.map_eq_nil_iff.1 pools
  have named := tracked.nameOf (.head _)
  cases free : a.served.lookup status.name with
  | some ref =>
    refine .inl ?_
    rw [register, named, free]
  | none =>
    refine .inr ?_
    obtain ⟨s', started, undisturbed, latest, states⟩ :=
      startPool?_addPool empty (holds.name ▸ holds.usable) a.policy
    let set : Application ε := a.mapService status.stage (Service.addPool a.policy)
    let b : Application ε :=
      { set.mapService status.stage (fun _ => s') with
        served := a.served ++ [(status.name, ⟨status.stage, 0⟩)] }
    have found : set.services[status.stage]? = some (s.addPool a.policy) :=
      getElem?_mapService_self known _
    have place : a.newPool status.stage = (set, ⟨status.stage, 0⟩) := by
      rw [newPool, known, Option.map_some, empty]
      rfl
    have start : set.startPool ⟨status.stage, 0⟩ =
        (set.mapService status.stage (fun _ => s'), .ok (.ok ())) := by
      simp only [startPool, found, Option.bind_some, started]
    refine ⟨b, ?_, rfl, rfl, ?_⟩
    · rw [register, named, free]
      simp only [place, start]
      rfl
    · refine tracked.turn rfl ?_ (fun number ne => ?_) (fun t now => ?_) ?_ ?_
      · exact (List.length_modify ..).trans (List.length_modify ..)
      · exact (getElem?_mapService_ne ne _ set).trans (getElem?_mapService_ne ne _ a)
      · obtain rfl := Option.some.inj ((getElem?_mapService_self found _).symm.trans now)
        refine ⟨undisturbed.name.trans holds.name, holds.usable, ?_, fun _ => ?_, nofun, states,
          fun none => ?_⟩
        · rw [undisturbed.life, holds.life, serving]
          rfl
        · rw [undisturbed.handler, holds.welcome (by simp [serving]), serving]
          simp [StageStatus.withPhase]
        · rw [none] at states
          cases states
      · have entry : status.service? = none := if_neg (by simp [serving, StagePhase.isServed])
        have served := tracked.served
        rw [List.filterMap_cons, entry] at served
        exact (List.perm_append_singleton _ _).trans (served.cons _)
      · show ((a.served ++ [(status.name, (⟨status.stage, 0⟩ : PoolRef))]).map Prod.fst).Nodup
        rw [List.map_append, List.nodup_append_comm]
        refine List.nodup_cons.2 ⟨fun mem => ?_, tracked.unique⟩
        obtain ⟨⟨name, ref⟩, listed, rfl⟩ := List.mem_map.1 mem
        have known := lookup_of_mem tracked.unique listed
        exact absurd (free.symm.trans known) (by simp)

end Application

end StagedEvents
