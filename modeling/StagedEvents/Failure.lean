/-!
# Failures

Why an operation did not do what was asked, one type per kind of caller:

* `QueueError` — what a producer or consumer of a queue is told;
* `Refused` — a refused enqueue with everything handed back;
* `StageError` — what someone who builds and runs stages is told;
* `Fault` — a computation that has no result. Whoever asked for it loses
  control, and what was changed before stays changed.
-/

namespace StagedEvents

/-- Why a queue refuses an operation. -/
inductive QueueError where
  | closed
  | full
  | admissionRejected
deriving DecidableEq, Repr

/-- The name of a refusal. -/
def QueueError.name : QueueError → String
  | .closed => "Closed"
  | .full => "Full"
  | .admissionRejected => "AdmissionRejected"

/-- The message for a refusal. -/
def QueueError.message : QueueError → String
  | .closed => "Queue is closed"
  | .full => "Queue is full"
  | .admissionRejected => "Enqueue rejected by admission predicate"

/-- A refused enqueue: the cause, and what was to be enqueued, handed back. Model of
    `EnqueueError`. -/
structure Refused (β : Type) where
  cause : QueueError
  back : β
deriving DecidableEq, Repr

/-- The answer to an enqueue of `β`. -/
abbrev Enqueued (β : Type) := Except (Refused β) Unit

/-- Why building, configuring or running a stage fails. Model of `RuntimeError`. -/
inductive StageError where
  | duplicateStage (name : String)
  | unknownStage (name : String)
  | alreadyRegistered (name : String)
  | handlerFailure (reason : String)
  | config (reason : String)
  | threadSpawn (reason : String)
  | queue (error : QueueError)
deriving DecidableEq, Repr

/-- The name of the kind of failure. -/
def StageError.name : StageError → String
  | .duplicateStage _ => "DuplicateStage"
  | .unknownStage _ => "UnknownStage"
  | .alreadyRegistered _ => "AlreadyRegistered"
  | .handlerFailure _ => "HandlerFailure"
  | .config _ => "Config"
  | .threadSpawn _ => "ThreadSpawn"
  | .queue _ => "Queue"

/-- The message for a failure. -/
def StageError.message : StageError → String
  | .duplicateStage name => "Stage " ++ name ++ " already exists"
  | .unknownStage name => "Unknown stage: " ++ name
  | .alreadyRegistered name => "Stage " ++ name ++ " already registered"
  | .handlerFailure reason => "Event handler failed: " ++ reason
  | .config reason => "Configuration error: " ++ reason
  | .threadSpawn reason => "Thread spawn error: " ++ reason
  | .queue error => error.message

/-- Why a computation has no result. -/
inductive Fault where
  /-- A value was to be moved between bounds that are out of order. -/
  | disorderedBounds
  /-- No span of time is near the number of seconds. -/
  | unrepresentableSpan
  /-- A window was to keep more measurements than can be addressed. -/
  | oversizedWindow
  /-- A worker was to have a name that a worker cannot have. -/
  | unusableName
deriving DecidableEq, Repr

end StagedEvents
