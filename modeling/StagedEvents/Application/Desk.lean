import StagedEvents.Application.Schedule

/-!
# Desks

A desk is a caller of an application who keeps things under the names of stages: the
stage that was last built or made under a name, the pool that was last set up there, and
a transaction that is open. The application itself may have forgotten the stage or serve
the name with another pool.

A transaction goes back to the stage it was prepared on, whatever has been built under
its name since.
-/

namespace StagedEvents

/-- A caller of an application and what the caller keeps. -/
structure Desk (ε : Type) where
  app : Application ε
  stages : List (String × Nat)
  pools : List (String × PoolRef)
  /-- Open transactions, each with the number of its stage. -/
  transactions : List (String × Nat × Transaction ε)

namespace Desk

open Application (without)

variable {ε : Type}

/-- A desk with a new application, where nothing is kept. -/
def new (config : Config) : Desk ε :=
  { app := .new config, stages := [], pools := [], transactions := [] }

/-- The stage under a name, and its number. -/
def stage? (name : String) (d : Desk ε) : Option (Nat × Stage ε) :=
  (d.stages.lookup name).bind fun number => (d.app.stage? number).map fun s => (number, s)

/-- The pool under a name. -/
def pool? (name : String) (d : Desk ε) : Option PoolRef := d.pools.lookup name

/-- Keeps a stage under a name. -/
def keepStage (name : String) (number : Nat) (d : Desk ε) : Desk ε :=
  { d with stages := (name, number) :: without name d.stages }

/-- Keeps a pool under a name. -/
def keepPool (name : String) (ref : PoolRef) (d : Desk ε) : Desk ε :=
  { d with pools := (name, ref) :: without name d.pools }

/-- Has the application do something. -/
def perform {ρ : Type} (operation : Application ε → Application ε × ρ) (d : Desk ε) :
    Desk ε × ρ :=
  let (app, answer) := operation d.app
  ({ d with app }, answer)

/-- Whether every stage that is kept has done with all its events. -/
def isSettled (d : Desk ε) (app : Application ε) : Bool :=
  d.stages.all fun (_, number) => (app.services[number]?).all Service.isSettled

/-! ## Stages and pools -/

/-- Makes a stage. If that can be done, the stage and the pool that serves it are kept. -/
def create (blueprint : Blueprint ε) (d : Desk ε) : Desk ε × Ending :=
  let number := d.app.services.length
  let (app, ending) := d.app.createStage blueprint
  let d := { d with app }
  match ending, app.served.lookup blueprint.name with
  | .finished, some ref =>
    ((d.keepStage blueprint.name number).keepPool blueprint.name ref, ending)
  | _, _ => (d, ending)

/-- Builds a stage that the application will not list, and keeps it. -/
def build (blueprint : Blueprint ε) (d : Desk ε) : Desk ε × Except Fault Nat :=
  match d.app.buildStage blueprint with
  | (app, .error fault) => ({ d with app }, .error fault)
  | (app, .ok number) => ({ d with app }.keepStage blueprint.name number, .ok number)

/-- Serves a stage with a new pool, which is kept. -/
def register (name : String) (number : Nat) (d : Desk ε) :
    Desk ε × Except Fault (Except StageError PoolRef) :=
  match d.app.register number with
  | (app, .ok (.ok ref)) => ({ d with app }.keepPool name ref, .ok (.ok ref))
  | (app, answer) => ({ d with app }, answer)

/-- Sets up a pool for a stage, and keeps it. -/
def newPool (name : String) (number : Nat) (d : Desk ε) : Desk ε × PoolRef :=
  let (app, ref) := d.app.newPool number
  ({ d with app }.keepPool name ref, ref)

/-- The end of an application and its caller: all latches are opened, all stages are torn
    down, and all pools that are kept are stopped. -/
def finish (d : Desk ε) : Desk ε :=
  let ended := d.app.openLatches.shutdown.1
  { d with app := d.pools.foldl (fun app entry => (app.stopPool entry.2).1) ended }

/-! ## Calls -/

/-- Makes a call that does not wait on the channel of a stage. -/
def call (number : Nat) (call : Call ε) (d : Desk ε) : Desk ε × Option (Reply ε) :=
  match d.app.stage? number with
  | none => (d, none)
  | some s =>
    let (exchange, reply) := s.exchange.atOnce call
    ({ d with app := d.app.mapStage number fun s => { s with exchange } }, reply)

/-- The open transaction under a name with the number of its stage, and the desk without
    it. -/
def takeTransaction? (name : String) (d : Desk ε) : Option (Nat × Transaction ε × Desk ε) :=
  (d.transactions.lookup name).map fun (number, transaction) =>
    (number, transaction, { d with transactions := without name d.transactions })

/-- Gives up the open transaction under a name, if there is one. -/
def giveUp (name : String) (d : Desk ε) : Desk ε × Option (Reply ε) :=
  match d.takeTransaction? name with
  | none => (d, none)
  | some (number, transaction, d) => d.call number (.release transaction)

/-- Publishes the open transaction under a name, if there is one. -/
def commit (name : String) (d : Desk ε) : Desk ε × Option (Reply ε) :=
  match d.takeTransaction? name with
  | none => (d, none)
  | some (number, transaction, d) => d.call number (.commit transaction)

/-- Prepares events for a stage. The transaction is kept, and the one that was open under
    the name is given up. -/
def prepare (name : String) (number : Nat) (events : List ε) (d : Desk ε) :
    Desk ε × Option (Reply ε) :=
  match d.call number (.prepare true events) with
  | (d, some (.prepared (.ok transaction))) =>
    let d := (d.giveUp name).1
    ({ d with transactions := (name, number, transaction) :: d.transactions },
      some (.prepared (.ok transaction)))
  | answer => answer

end Desk

end StagedEvents
