import StagedEvents.Text.Record

/-!
# Batches

A batch is a list of events handed to one worker, with what has to happen when the
worker is done with them. A completion happens once, when the batch is reported
done or is dropped, whichever comes first.
-/

namespace StagedEvents

/-- What has to happen when a batch is done with. -/
inductive Completion where
  | nothing
  /-- The slot that the batch holds becomes free. -/
  | freesSlot
  /-- Someone who counts completions counts one more. -/
  | counts
deriving DecidableEq, Repr

/-- Whether something still has to happen. -/
def Completion.isPending : Completion → Bool
  | .nothing => false
  | _ => true

/-- The description of a completion. -/
def Completion.text (c : Completion) : String :=
  recordText "Completion" [("pending", toString c.isPending)]

/-- Events handed to one worker. -/
structure Batch (ε : Type) where
  events : List ε
  completion : Completion
deriving DecidableEq, Repr

/-- The description of a batch. -/
def Batch.text {ε : Type} (eventText : ε → String) (b : Batch ε) : String :=
  recordText "Batch" [("events", listText eventText b.events), ("completion", b.completion.text)]

end StagedEvents
