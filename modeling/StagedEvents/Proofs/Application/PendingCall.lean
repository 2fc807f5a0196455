import StagedEvents.Proofs.Application.StagePhase
import StagedEvents.Proofs.Application.Turns

/-!
# Calls that make stages and tear them down

What is left of such a call is a pending call: it makes one stage, or tears stages down. Once its
next chore is carried out another call is pending, and the stages that it is about are in other
phases; all others stay in theirs.

* `Chore.Asks`: what callers ask for: to make a stage, to tear one down, or all of them.
* `PendingCall`, `PendingCall.chores`, `PendingCall.statuses`: what is still to do, and for which
  stages.
* `PendingCall.Leads`, `PendingCall.leads_doChore`: the next chore of a pending call.
-/

namespace StagedEvents

variable {ε : Type}

/-- What a caller asks an application for begins with one of these chores: to make a stage
    whose workers can be named, to tear a stage down, or all stages. -/
inductive Chore.Asks : Chore ε → Prop where
  | create (blueprint : Blueprint ε) (usable : namesWorkers blueprint.name = true) :
      Asks (.build blueprint)
  | destroy (name : String) : Asks (.remove name)
  | shutdown : Asks .removeAll

/-- The number of a stage and its name. -/
abbrev Label := ℕ × String

/-- What is left of a call that makes a stage or tears stages down, chore by chore. -/
inductive PendingCall (ε : Type) where
  | asking (chore : Chore ε) (asks : chore.Asks)
  | introducing (stage : Label)
  | serving (stage : Label)
  | entering (stage : Label)
  /-- A stage could not be served. -/
  | withdrawing (stage : Label) (cause : StageError)
  | withdrawn (stage : Label) (cause : StageError)
  | yielding (number : ℕ) (cause : StageError)
  /-- Queues are to be closed, and then stages torn down. -/
  | tearing (closes : List ℕ) (later : List Label)
  /-- One stage is being torn down, and others are to be later. -/
  | leaving (stage : Label) (later : List Label)
  | stopping (stage : Label) (later : List Label)
  | awaiting (stage : Label) (deadline : Option ℕ) (later : List Label)
  | ending (stage : Label) (later : List Label)
  | parting (stage : Label) (later : List Label)

namespace Label

/-- A stage with a phase. -/
def status (phase : StagePhase) (stage : Label) : StageStatus := ⟨stage.1, stage.2, phase⟩

/-- What has to be done to tear a stage down. -/
def tearDown (stage : Label) : List (Chore ε) :=
  [.close stage.1, .unserve stage.2, .dismiss stage.1]

end Label

namespace PendingCall

/-- The chores of a pending call. -/
def chores : PendingCall ε → List (Chore ε)
  | asking chore _ => [chore]
  | introducing (number, _) => [.introduce number, .serve number, .enter number]
  | serving (number, _) => [.serve number, .enter number]
  | entering (number, _) => [.enter number]
  | withdrawing (number, _) cause =>
    [.close number, .dismiss number, .giveUp cause, .enter number]
  | withdrawn (number, _) cause => [.dismiss number, .giveUp cause, .enter number]
  | yielding number cause => [.giveUp cause, .enter number]
  | tearing closes later => closes.map .close ++ later.flatMap Label.tearDown
  | leaving (number, name) later =>
    .unserve name :: .dismiss number :: later.flatMap Label.tearDown
  | stopping (number, _) later =>
    .beginStop ⟨number, 0⟩ :: .dismiss number :: later.flatMap Label.tearDown
  | awaiting (number, _) deadline later =>
    .awaitExits ⟨number, 0⟩ deadline :: .endStop ⟨number, 0⟩ :: .dismiss number ::
      later.flatMap Label.tearDown
  | ending (number, _) later =>
    .endStop ⟨number, 0⟩ :: .dismiss number :: later.flatMap Label.tearDown
  | parting (number, _) later => .dismiss number :: later.flatMap Label.tearDown

/-- The phases of the stages that a pending call is about. -/
def statuses : PendingCall ε → List StageStatus
  | asking _ _ | yielding _ _ => []
  | introducing stage => [stage.status .introducing]
  | serving stage => [stage.status .serving]
  | entering stage => [stage.status .entering]
  | withdrawing stage _ => [stage.status .withdrawing]
  | withdrawn stage _ => [stage.status .parting]
  | tearing _ later => later.map (Label.status .closing)
  | leaving stage later => stage.status .leaving :: later.map (Label.status .closing)
  | stopping stage later => stage.status .stopping :: later.map (Label.status .closing)
  | awaiting stage _ later => stage.status .awaiting :: later.map (Label.status .closing)
  | ending stage later => stage.status .awaiting :: later.map (Label.status .closing)
  | parting stage later => stage.status .parting :: later.map (Label.status .closing)

/-- Whether the caller holds the registry. -/
def holds : PendingCall ε → Bool
  | introducing _ | serving _ | entering _ | withdrawing _ _ | withdrawn _ _ | yielding _ _ => true
  | _ => false

/-- Nothing is left to do. -/
def done : PendingCall ε := tearing [] []

end PendingCall

namespace Application

/-- The stages in the registry. -/
def labels (a : Application ε) : List Label := a.registry.map fun entry => (entry.2, entry.1)

/-- The phases of the stages in the registry. -/
def listing (a : Application ε) : List StageStatus := a.labels.map (Label.status .listed)

theorem names_listing (a : Application ε) :
    (a.listing.filterMap StageStatus.service?).map Prod.fst = a.registry.map Prod.fst := by
  have entry : (StageStatus.service? ∘ Label.status .listed) ∘
      (fun entry : String × ℕ => (entry.2, entry.1)) =
      fun entry => some (entry.1, ⟨entry.2, 0⟩) := rfl
  rw [listing, labels, List.filterMap_map, List.filterMap_map, entry, List.filterMap_eq_map',
    List.map_map]
  rfl

/-- All stages in the registry are served, so no two have the same name. -/
theorem Tracked.unique_registry {a : Application ε} (front : List StageStatus)
    {others : List StageStatus}
    (tracked : a.Tracked (front ++ (a.listing ++ others))) : (a.registry.map Prod.fst).Nodup := by
  have unique := (tracked.served.map Prod.fst).nodup_iff.1 tracked.unique
  rw [List.filterMap_append, List.filterMap_append, List.map_append, List.map_append] at unique
  exact a.names_listing ▸ (List.nodup_append.1 (List.nodup_append.1 unique).2.1).1

end Application

namespace PendingCall

/-- What the first chore of a pending call leads to: the application and the chores of the caller
    are then as another pending call has them, and some stages are done with. -/
def Leads (pending : PendingCall ε) (a b : Application ε) (others : List StageStatus)
    (chores : List (Chore ε)) : Prop :=
  ∃ (pending' : PendingCall ε) (ended : List StageStatus), chores = pending'.chores ∧
    (∀ status ∈ ended, status.phase.isOver = true) ∧
    b.Tracked (pending'.statuses ++ (b.listing ++ (ended ++ others))) ∧
    b.registryHeld.toNat + pending.holds.toNat = a.registryHeld.toNat + pending'.holds.toNat

variable {a b : Application ε} {others : List StageStatus} {pending : PendingCall ε} {stage : Label}
  {later : List Label}

/-- The caller has another pending call, and no stage is done with. -/
theorem leads_of_tracked (pending' : PendingCall ε)
    (tracked : b.Tracked (pending'.statuses ++ (b.listing ++ others)))
    (held : b.registryHeld.toNat + pending.holds.toNat =
      a.registryHeld.toNat + pending'.holds.toNat) :
    pending.Leads a b others pending'.chores :=
  ⟨pending', [], rfl, nofun, tracked, held⟩

/-- The caller has another pending call, and one stage is done with. -/
theorem leads_of_ended (pending' : PendingCall ε) (status : StageStatus)
    (ended : status.phase.isOver = true)
    (tracked : b.Tracked (status :: (pending'.statuses ++ (b.listing ++ others))))
    (held : b.registryHeld.toNat + pending.holds.toNat =
      a.registryHeld.toNat + pending'.holds.toNat) :
    pending.Leads a b others pending'.chores := by
  refine ⟨pending', [status], rfl, List.forall_mem_singleton.2 ended, tracked.perm ?_, held⟩
  rw [← List.append_assoc, ← List.append_assoc]
  exact List.perm_middle.symm

/-! ## A stage is made -/

/-- A stage as it is built has the name of its blueprint, and nothing has happened to it. -/
theorem fresh_of_build? {blueprint : Blueprint ε} {defaults : Resolved} {built : Stage ε}
    (ok : blueprint.build? defaults = .ok built) :
    built.name = blueprint.name ∧ built.life = [] ∧ built.latest = [] := by
  rcases Blueprint.frame_of_build? ok with rfl | ⟨console, rfl⟩
  · exact ⟨rfl, rfl, rfl⟩
  · unfold Stage.putConsole
    simp only
    split <;> exact ⟨rfl, rfl, rfl⟩

theorem leads_build {blueprint : Blueprint ε} (asks : (Chore.build blueprint).Asks)
    (usable : namesWorkers blueprint.name = true) (tracked : a.Tracked (a.listing ++ others)) :
    (asking _ asks).Leads a (a.doChore (.build blueprint)).1 others
      ((a.doChore (.build blueprint)).2.remaining (.build blueprint) []) := by
  show (asking _ asks).Leads a (a.doBuild blueprint).1 others
    ((a.doBuild blueprint).2.remaining (.build blueprint) [])
  unfold Application.doBuild
  split
  · exact leads_of_tracked (asking _ asks) tracked rfl
  · rename_i free
    split
    · exact leads_of_tracked done tracked rfl
    · unfold Application.buildStage
      cases built : blueprint.build? (a.config.resolve blueprint.name) with
      | error fault => exact leads_of_tracked done tracked rfl
      | ok stage =>
        obtain ⟨name, life, latest⟩ := fresh_of_build? built
        let label : Label := (a.services.length, blueprint.name)
        have holds : (label.status .introducing).Holds { stage, pools := [] } :=
          ⟨name, usable, life, fun known => absurd rfl known, nofun, rfl, fun _ => latest⟩
        refine leads_of_tracked (introducing label)
          ((tracked.build (label.status .introducing) rfl rfl holds).congr rfl rfl) ?_
        simp only [free]
        rfl

theorem leads_introduce
    (tracked : a.Tracked (stage.status .introducing :: (a.listing ++ others)))
    (held : a.registryHeld = true) :
    (introducing stage).Leads a (a.doChore (.introduce stage.1)).1 others
      ((a.doChore (.introduce stage.1)).2.remaining (.introduce stage.1)
        [.serve stage.1, .enter stage.1]) := by
  obtain ⟨s, known, -⟩ := tracked.exists_service (.head _)
  let told : Application ε :=
    a.mapStage stage.1 fun s => { s with life := s.life ++ [.made] }
  have found : (told.stage? stage.1).bind (fun s => s.handler.refusal?) =
      s.stage.handler.refusal? := by
    have service : told.services[stage.1]? =
        some { s with stage := { s.stage with life := s.stage.life ++ [.made] } } :=
      Application.getElem?_mapService_self known _
    rw [Application.stage?, service]
    rfl
  have made (phase : StagePhase) (life : phase.life = [.made])
      (welcome : s.stage.handler.refusal? = none ↔ phase ≠ .refused)
      (unclosed : phase.isClosed = false) (pools : phase.Allows [])
      (unserved : phase.isServed = false) :
      told.Tracked (stage.status phase :: (a.listing ++ others)) := by
    refine tracked.advance phase (fun t same holds => ?_) unserved
    obtain rfl := Option.some.inj (known.symm.trans same)
    refine holds.told .made life welcome (fun closed => ?_) fun states none => ?_
    · rw [unclosed] at closed
      cases closed
    · obtain rfl : states = [] := none
      exact pools
  show (introducing stage).Leads a (a.introduce stage.1).1 others
    ((a.introduce stage.1).2.remaining _ _)
  unfold Application.introduce
  simp only
  rw [show (told.stage? stage.1).bind (fun s => s.handler.refusal?) = _ from found]
  cases refusal : s.stage.handler.refusal? with
  | none =>
    exact leads_of_tracked (serving stage) (made .serving rfl (by simp [refusal]) rfl rfl rfl) rfl
  | some reason =>
    refine leads_of_ended done (stage.status .refused) rfl
      ((made .refused rfl (by simp [refusal]) rfl rfl rfl).congr rfl rfl) ?_
    rw [held]
    rfl

theorem leads_serve (tracked : a.Tracked (stage.status .serving :: (a.listing ++ others))) :
    (serving stage).Leads a (a.doChore (.serve stage.1)).1 others
      ((a.doChore (.serve stage.1)).2.remaining (.serve stage.1) [.enter stage.1]) := by
  unfold Application.doChore
  simp only
  rcases tracked.serve rfl with taken | ⟨b, served, registry, held, tracked⟩
  · rw [show a.register stage.1 = _ from taken]
    have withdrawing' : a.Tracked (stage.status .withdrawing :: (a.listing ++ others)) :=
      tracked.relabel [_] .serving .withdrawing (List.forall_mem_singleton.2 rfl) rfl nofun nofun
        nofun rfl (fun _ => id) rfl
    exact leads_of_tracked (withdrawing stage _) withdrawing' rfl
  · rw [show a.register stage.1 = _ from served]
    have listing : b.listing = a.listing := by
      rw [Application.listing, Application.labels, registry]
      rfl
    rw [← listing] at tracked
    exact leads_of_tracked (entering stage) tracked (congrArg (fun held => held.toNat + 1) held)

theorem leads_enter (tracked : a.Tracked (stage.status .entering :: (a.listing ++ others)))
    (held : a.registryHeld = true) :
    (entering stage).Leads a (a.doChore (.enter stage.1)).1 others
      ((a.doChore (.enter stage.1)).2.remaining (.enter stage.1) []) := by
  have named : a.nameOf stage.1 = stage.2 := tracked.nameOf (.head _)
  have listed : a.Tracked (stage.status .listed :: (a.listing ++ others)) :=
    tracked.relabel [_] .entering .listed (List.forall_mem_singleton.2 rfl) rfl nofun nofun nofun
      rfl (fun _ => id) rfl
  let b : Application ε :=
    { a with registry := a.registry ++ [(a.nameOf stage.1, stage.1)], registryHeld := false }
  have listing : b.listing = a.listing ++ [stage.status .listed] := by
    rw [Application.listing, Application.labels, List.map_append, List.map_append, named]
    rfl
  have tracked' : b.Tracked (b.listing ++ others) := by
    rw [listing, List.append_assoc]
    exact (listed.perm List.perm_middle.symm).congr rfl rfl
  exact leads_of_tracked done tracked' (by rw [held]; rfl)

/-! ## A stage is torn down -/

/-- To close the queue of any stage is not to be noticed. -/
theorem tracked_close {statuses : List StageStatus} (tracked : a.Tracked statuses) (number : ℕ) :
    (a.doChore (.close number)).1.Tracked statuses :=
  tracked.undisturbed (a.undisturbed_close number)

/-- The queue of a stage is closed. -/
theorem tracked_closed {statuses : List StageStatus} (was phase : StagePhase)
    (tracked : a.Tracked (stage.status was :: statuses)) (life : phase.life = was.life)
    (known : was ≠ .introducing) (welcome : was ≠ .refused) (welcome' : phase ≠ .refused)
    (pools : ∀ states, was.Allows states → phase.Allows states)
    (same : phase.isServed = was.isServed) :
    (a.doChore (.close stage.1)).1.Tracked (stage.status phase :: statuses) := by
  refine tracked.advance phase (fun s _ holds => ?_) same
  refine holds.turn (s.stage.undisturbed_atOnce .close) life known welcome welcome' (fun _ => ?_)
    (pools _ holds.pools) holds.idle
  show ((s.stage.exchange.atOnce .close).1).queue.closed = true
  rw [Exchange.queue, Exchange.atOnce_channel]
  rfl

theorem leads_close_withdrawing {cause : StageError}
    (tracked : a.Tracked (stage.status .withdrawing :: (a.listing ++ others))) :
    (withdrawing stage cause).Leads a (a.doChore (.close stage.1)).1 others
      ((a.doChore (.close stage.1)).2.remaining (.close stage.1)
        [.dismiss stage.1, .giveUp cause, .enter stage.1]) := by
  have closed := tracked_closed .withdrawing .parting tracked rfl nofun nofun nofun
    (fun states none state mem => by rw [show states = [] from none] at mem; cases mem) rfl
  exact leads_of_tracked (withdrawn stage cause) closed rfl

theorem leads_close (number : ℕ) (closes : List ℕ)
    (tracked : a.Tracked (later.map (Label.status .closing) ++ (a.listing ++ others))) :
    (tearing (number :: closes) later).Leads a (a.doChore (.close number)).1 others
      ((a.doChore (.close number)).2.remaining (.close number)
        (closes.map .close ++ later.flatMap Label.tearDown)) :=
  leads_of_tracked (tearing closes later) (tracked_close tracked number) rfl

theorem leads_close_closing (tracked : a.Tracked (stage.status .closing ::
      (later.map (Label.status .closing) ++ (a.listing ++ others)))) :
    (tearing [] (stage :: later)).Leads a (a.doChore (.close stage.1)).1 others
      ((a.doChore (.close stage.1)).2.remaining (.close stage.1)
        (.unserve stage.2 :: .dismiss stage.1 :: later.flatMap Label.tearDown)) :=
  leads_of_tracked (leaving stage later)
    (tracked_closed .closing .leaving tracked rfl nofun nofun nofun (fun _ => id) rfl) rfl

theorem leads_unserve (tracked : a.Tracked (stage.status .leaving ::
      (later.map (Label.status .closing) ++ (a.listing ++ others)))) :
    (leaving stage later).Leads a (a.doChore (.unserve stage.2)).1 others
      ((a.doChore (.unserve stage.2)).2.remaining (.unserve stage.2)
        (.dismiss stage.1 :: later.flatMap Label.tearDown)) := by
  have served : a.served.lookup stage.2 = some ⟨stage.1, 0⟩ := tracked.lookup_served (.head _) rfl
  have unserved := tracked.unserve .stopping (fun s holds => holds.turn (.refl s.stage) rfl nofun
    nofun nofun (fun _ => holds.closed rfl) holds.pools holds.idle) rfl rfl
  unfold Application.doChore
  simp only
  rw [served]
  exact leads_of_tracked (stopping stage later) unserved rfl

/-- The pool of a stage goes through a section that brings it into another state. -/
theorem tracked_mapPool {statuses : List StageStatus} {f : Pool ε → Pool ε}
    {before after : PoolState}
    (was phase : StagePhase) (tracked : a.Tracked (stage.status was :: statuses))
    (turns : ∀ p, a.pool? ⟨stage.1, 0⟩ = some p → (f p).state = after)
    (allows : ∀ states, was.Allows states → states = [before])
    (allowed : phase.Allows [after]) (life : phase.life = was.life)
    (known : was ≠ .introducing) (welcome : was ≠ .refused) (welcome' : phase ≠ .refused)
    (closed : was.isClosed = true) (same : phase.isServed = was.isServed) :
    (a.mapPool ⟨stage.1, 0⟩ f).Tracked (stage.status phase :: statuses) := by
  refine tracked.advance phase (fun s found holds => ?_) same
  obtain ⟨p, pools, -⟩ := holds.pool allows
  have pools' : (s.mapPool 0 f).pools = [f p] := by
    rw [Service.mapPool, pools]
    rfl
  refine holds.turn (.refl s.stage) life known welcome welcome' (fun _ => holds.closed closed) ?_
    fun none => ?_
  · rw [pools', List.map_singleton, turns p (Application.pool?_of_pools found pools)]
    exact allowed
  · rw [pools'] at none
    cases none

theorem leads_beginStop (tracked : a.Tracked (stage.status .stopping ::
      (later.map (Label.status .closing) ++ (a.listing ++ others)))) :
    (stopping stage later).Leads a (a.doChore (.beginStop ⟨stage.1, 0⟩)).1 others
      ((a.doChore (.beginStop ⟨stage.1, 0⟩)).2.remaining (.beginStop ⟨stage.1, 0⟩)
        (.dismiss stage.1 :: later.flatMap Label.tearDown)) := by
  obtain ⟨s, known, holds⟩ := tracked.exists_service (.head _)
  obtain ⟨p, pools, running⟩ := holds.pool fun _ => id
  have found : a.pool? ⟨stage.1, 0⟩ = some p := Application.pool?_of_pools known pools
  have begun : p.beginStop = (p.beginStop.1, true) ∧ p.beginStop.1.state = .shuttingDown := by
    simp [Pool.beginStop, running]
  have stopped : (a.mapPool ⟨stage.1, 0⟩ fun _ => p.beginStop.1).Tracked
      (stage.status .awaiting :: (later.map (Label.status .closing) ++ (a.listing ++ others))) :=
    tracked_mapPool .stopping .awaiting tracked (fun _ _ => begun.2) (fun _ => id) rfl rfl nofun
      nofun nofun rfl rfl
  show (stopping stage later).Leads a (a.beginStop ⟨stage.1, 0⟩).1 others
    ((a.beginStop ⟨stage.1, 0⟩).2.remaining _ _)
  rw [Application.beginStop, found]
  simp only
  rw [begun.1]
  exact leads_of_tracked (awaiting stage _ later) stopped rfl

theorem leads_awaitExits (deadline : Option ℕ) (tracked : a.Tracked (stage.status .awaiting ::
      (later.map (Label.status .closing) ++ (a.listing ++ others)))) :
    (awaiting stage deadline later).Leads a (a.doChore (.awaitExits ⟨stage.1, 0⟩ deadline)).1 others
      ((a.doChore (.awaitExits ⟨stage.1, 0⟩ deadline)).2.remaining
        (.awaitExits ⟨stage.1, 0⟩ deadline)
        (.endStop ⟨stage.1, 0⟩ :: .dismiss stage.1 :: later.flatMap Label.tearDown)) := by
  have same : a.Undisturbed (a.mapPool ⟨stage.1, 0⟩ Pool.reapAll) :=
    Application.undisturbed_mapService fun s _ =>
      s.undisturbed_mapPool 0 Pool.reapAll fun p _ => congrArg (·.2.2) p.frame_reapAll
  have reaped := tracked.undisturbed same
  show (awaiting stage deadline later).Leads a (a.awaitExits ⟨stage.1, 0⟩ deadline).1 others
    ((a.awaitExits ⟨stage.1, 0⟩ deadline).2.remaining _ _)
  unfold Application.awaitExits
  simp only
  split
  · split
    · exact leads_of_tracked (awaiting stage _ later) reaped rfl
    · exact leads_of_tracked (ending stage later) reaped rfl
  · split
    · exact leads_of_tracked (awaiting stage _ later) reaped rfl
    · exact leads_of_tracked (ending stage later) reaped rfl

theorem leads_endStop (tracked : a.Tracked (stage.status .awaiting ::
      (later.map (Label.status .closing) ++ (a.listing ++ others)))) :
    (ending stage later).Leads a (a.doChore (.endStop ⟨stage.1, 0⟩)).1 others
      ((a.doChore (.endStop ⟨stage.1, 0⟩)).2.remaining (.endStop ⟨stage.1, 0⟩)
        (.dismiss stage.1 :: later.flatMap Label.tearDown)) :=
  leads_of_tracked (parting stage later)
    (tracked_mapPool .awaiting .parting tracked (fun _ _ => rfl) (fun _ => id)
      (List.forall_mem_singleton.2 rfl) rfl nofun nofun nofun rfl rfl) rfl

/-- The handler of a stage is told that it is torn down. -/
theorem tracked_dismissed {statuses : List StageStatus}
    (tracked : a.Tracked (stage.status .parting :: statuses)) :
    (a.doChore (.dismiss stage.1)).1.Tracked (stage.status .dismissed :: statuses) := by
  refine tracked.advance .dismissed (fun s _ holds => ?_) rfl
  exact holds.told .tornDown rfl (iff_of_true ((holds.welcome nofun).2 nofun) nofun) id
    fun _ => id

theorem leads_dismiss (tracked : a.Tracked (stage.status .parting ::
      (later.map (Label.status .closing) ++ (a.listing ++ others)))) :
    (parting stage later).Leads a (a.doChore (.dismiss stage.1)).1 others
      ((a.doChore (.dismiss stage.1)).2.remaining (.dismiss stage.1)
        (later.flatMap Label.tearDown)) :=
  leads_of_ended (tearing [] later) (stage.status .dismissed) rfl (tracked_dismissed tracked) rfl

theorem leads_dismiss_withdrawn {cause : StageError}
    (tracked : a.Tracked (stage.status .parting :: (a.listing ++ others))) :
    (withdrawn stage cause).Leads a (a.doChore (.dismiss stage.1)).1 others
      ((a.doChore (.dismiss stage.1)).2.remaining (.dismiss stage.1)
        [.giveUp cause, .enter stage.1]) :=
  leads_of_ended (yielding stage.1 cause) (stage.status .dismissed) rfl
    (tracked_dismissed tracked) rfl

theorem leads_giveUp {number : ℕ} {cause : StageError} (tracked : a.Tracked (a.listing ++ others))
    (held : a.registryHeld = true) :
    (yielding number cause).Leads a (a.doChore (.giveUp cause)).1 others
      ((a.doChore (.giveUp cause)).2.remaining (.giveUp cause) [.enter number]) :=
  leads_of_tracked done (tracked.congr rfl rfl) (by rw [held]; rfl)

/-! ## Stages are taken out of the registry -/

theorem tearDown_eq {statuses : List StageStatus} {was : StagePhase} (tracked : a.Tracked statuses)
    (mem : stage.status was ∈ statuses) : a.tearDown stage.1 = stage.tearDown := by
  have named : a.nameOf stage.1 = stage.2 := tracked.nameOf mem
  rw [Application.tearDown, named]
  rfl

/-- Some of the stages in the registry are taken out of it, to be torn down. -/
theorem tracked_removed (registry : List (String × ℕ)) (out : List Label)
    (tracked : a.Tracked (a.listing ++ others))
    (perm : a.labels.Perm (out ++ ({ a with registry } : Application ε).labels)) :
    ({ a with registry } : Application ε).Tracked (out.map (Label.status .closing) ++
      (({ a with registry } : Application ε).listing ++ others)) := by
  have split := tracked.perm ((perm.map (Label.status .listed)).append_right others)
  rw [List.map_append, List.append_assoc] at split
  have listed : ∀ status ∈ out.map (Label.status .listed), status.phase = .listed := by
    intro status mem
    obtain ⟨label, -, rfl⟩ := List.mem_map.1 mem
    rfl
  have closing :=
    split.relabel _ .listed .closing listed rfl nofun nofun nofun rfl (fun _ => id) rfl
  rw [List.map_map] at closing
  exact closing.congr rfl rfl

theorem leads_remove {name : String} (asks : (Chore.remove name : Chore ε).Asks)
    (tracked : a.Tracked (a.listing ++ others)) :
    (asking _ asks).Leads a (a.doChore (.remove name)).1 others
      ((a.doChore (.remove name)).2.remaining (.remove name) []) := by
  unfold Application.doChore
  simp only
  split
  · exact leads_of_tracked (asking _ asks) tracked rfl
  · split
    · exact leads_of_tracked done tracked rfl
    · rename_i number found
      have mem := Application.mem_of_lookup found
      have perm := Application.perm_without (tracked.unique_registry []) mem
      have listed : (number, name) ∈ a.labels := List.mem_map_of_mem mem
      have chores : a.tearDown number = Label.tearDown (number, name) :=
        tearDown_eq tracked (List.mem_append_left _ (List.mem_map_of_mem listed))
      rw [chores]
      exact leads_of_tracked (tearing [] [(number, name)])
        (tracked_removed _ [(number, name)] tracked (perm.map _)) rfl

theorem leads_removeAll (asks : (Chore.removeAll : Chore ε).Asks)
    (tracked : a.Tracked (a.listing ++ others)) :
    (asking _ asks).Leads a (a.doChore .removeAll).1 others
      ((a.doChore .removeAll).2.remaining .removeAll []) := by
  unfold Application.doChore
  simp only
  split
  · exact leads_of_tracked (asking _ asks) tracked rfl
  · let numbers := a.registry.map (·.2)
    have removed := tracked_removed [] a.labels tracked (.of_eq (List.append_nil a.labels).symm)
    have chores : (numbers.map a.tearDown).flatten = a.labels.flatMap Label.tearDown := by
      rw [List.flatMap, Application.labels, List.map_map, List.map_map]
      refine congrArg List.flatten (List.map_congr_left fun entry mem => ?_)
      exact tearDown_eq tracked
        (List.mem_append_left _ (List.mem_map_of_mem (List.mem_map_of_mem mem)))
    have remaining : (numbers.map Chore.close ++ (numbers.map a.tearDown).flatten) ++ [] =
        (tearing numbers a.labels).chores := by
      rw [List.append_nil, chores]
      rfl
    show (asking _ asks).Leads a { a with registry := [] } others
      ((numbers.map Chore.close ++ (numbers.map a.tearDown).flatten) ++ [])
    rw [remaining]
    exact leads_of_tracked (tearing numbers a.labels) removed rfl

/-! ## The next chore -/

/-- **The next chore of a caller** leads to another pending call. -/
theorem leads_doChore {chore : Chore ε} {rest : List (Chore ε)}
    (next : pending.chores = chore :: rest)
    (tracked : a.Tracked (pending.statuses ++ (a.listing ++ others)))
    (held : pending.holds = true → a.registryHeld = true) :
    pending.Leads a (a.doChore chore).1 others ((a.doChore chore).2.remaining chore rest) := by
  cases pending with
  | asking chore' asks =>
    obtain ⟨rfl, rfl⟩ := List.cons.inj next
    have tracked : a.Tracked (a.listing ++ others) := tracked
    cases asks with
    | create blueprint usable => exact leads_build _ usable tracked
    | destroy name => exact leads_remove _ tracked
    | shutdown => exact leads_removeAll _ tracked
  | introducing stage =>
    obtain ⟨rfl, rfl⟩ := List.cons.inj next
    exact leads_introduce tracked (held rfl)
  | serving stage =>
    obtain ⟨rfl, rfl⟩ := List.cons.inj next
    exact leads_serve tracked
  | entering stage =>
    obtain ⟨rfl, rfl⟩ := List.cons.inj next
    exact leads_enter tracked (held rfl)
  | withdrawing stage cause =>
    obtain ⟨rfl, rfl⟩ := List.cons.inj next
    exact leads_close_withdrawing tracked
  | withdrawn stage cause =>
    obtain ⟨rfl, rfl⟩ := List.cons.inj next
    exact leads_dismiss_withdrawn tracked
  | yielding number cause =>
    obtain ⟨rfl, rfl⟩ := List.cons.inj next
    exact leads_giveUp tracked (held rfl)
  | tearing closes later =>
    cases closes with
    | cons number closes =>
      obtain ⟨rfl, rfl⟩ := List.cons.inj next
      exact leads_close number closes tracked
    | nil =>
      cases later with
      | nil => cases next
      | cons stage later =>
        obtain ⟨rfl, rfl⟩ := List.cons.inj next
        exact leads_close_closing tracked
  | leaving stage later =>
    obtain ⟨rfl, rfl⟩ := List.cons.inj next
    exact leads_unserve tracked
  | stopping stage later =>
    obtain ⟨rfl, rfl⟩ := List.cons.inj next
    exact leads_beginStop tracked
  | awaiting stage deadline later =>
    obtain ⟨rfl, rfl⟩ := List.cons.inj next
    exact leads_awaitExits deadline tracked
  | ending stage later =>
    obtain ⟨rfl, rfl⟩ := List.cons.inj next
    exact leads_endStop tracked
  | parting stage later =>
    obtain ⟨rfl, rfl⟩ := List.cons.inj next
    exact leads_dismiss tracked

end PendingCall

end StagedEvents
