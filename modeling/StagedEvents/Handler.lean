/-!
# Handlers

A handler is the application's part of a stage: it is told when the stage is made
and when it is torn down, and in between it is given batches. What it does with a
batch is a plan: a tree of the steps in which it touches the world outside, each
continued by what the world answers.
-/

namespace StagedEvents

/-- How the handling of a batch ended. -/
inductive Verdict where
  | handled
  | failed (reason : String)
  /-- The handler broke off in the middle, with a message if there was one. -/
  | broke (message? : Option String)
deriving DecidableEq, Repr

/-- What a handler does with a batch. Stages are known by number. -/
inductive Plan (ε : Type) where
  | finish (verdict : Verdict)
  /-- Waits until the latch of the handler's own stage lets it pass. -/
  | hold (next : Plan ε)
  /-- Offers events to the sink of a stage; goes on knowing whether they were let in. -/
  | send (target : Nat) (events : List ε) (next : Bool → Plan ε)

/-- The application's part of a stage. Model of `EventHandler`. -/
structure Handler (ε : Type) where
  /-- Why the handler refuses to serve a new stage, if it does. -/
  refusal? : Option String
  /-- What it does with a batch; the first argument is the number of its own stage, once
      it was told of it. -/
  plan : Option Nat → List ε → Plan ε
  /-- Why the handler fails when its stage is torn down, if it does. -/
  lastFailure? : Option String

/-- A handler that does nothing with any batch. -/
def Handler.idle {ε : Type} : Handler ε :=
  { refusal? := none, plan := fun _ _ => .finish .handled, lastFailure? := none }

end StagedEvents
