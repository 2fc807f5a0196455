import StagedEvents.Handler

/-!
# Scripted handlers

Handlers of whole numbers described by data, for trying out how stages work
together. A script can hold every batch at the latch, break off or fail on given
events, count events down on its own stage if it was told of it, and forward multiples
of the events to another stage, in this order.
-/

namespace StagedEvents

/-- What a scripted handler does. -/
structure Script where
  /-- Why it refuses to serve a new stage, if it does. -/
  refusal? : Option String
  /-- Why it fails when its stage is torn down, if it does. -/
  lastFailure? : Option String
  /-- Whether it holds every batch at the latch of its stage. -/
  gated : Bool
  /-- Events on which it breaks off. -/
  breaksOn : List Int
  /-- Events on which it fails. -/
  failsOn : List Int
  /-- Whether it sends `e - 1` to its own stage for every positive event `e`, once it was
      told of it. -/
  countsDown : Bool
  /-- Where it forwards all events to, if anywhere. -/
  forwardTo? : Option Nat
  /-- What forwarded events are multiplied by. -/
  factor : Int

namespace Script

/-- The end of a plan whose events were refused somewhere. -/
def refused : Plan Int := .finish (.failed "refused")

/-- Sends events one by one, as long as they are let in. -/
def sendEach (target : Nat) (next : Plan Int) : List Int → Plan Int
  | [] => next
  | event :: rest =>
    .send target [event] fun accepted => if accepted then sendEach target next rest else refused

/-- The multiple of an event that is forwarded: events are signed 64-bit numbers, and one
    that becomes too large wraps around. -/
def multiple (s : Script) (event : Int) : Int := (event * s.factor).bmod UInt64.size

/-- The forwarding of a batch, if the script forwards. -/
def forwarding (s : Script) (events : List Int) : Plan Int :=
  match s.forwardTo? with
  | none => .finish .handled
  | some target =>
    .send target (events.map s.multiple) fun accepted =>
      if accepted then .finish .handled else refused

/-- What the script does with a batch once it is past the latch. -/
def work (s : Script) (own? : Option Nat) (events : List Int) : Plan Int :=
  if events.any s.breaksOn.contains then .finish (.broke (some "scripted"))
  else if events.any s.failsOn.contains then .finish (.failed "scripted")
  else
    match own?.filter fun _ => s.countsDown with
    | none => s.forwarding events
    | some own => sendEach own (s.forwarding events) ((events.filter (0 < ·)).map (· - 1))

/-- What the script does with a batch. -/
def plan (s : Script) (own? : Option Nat) (events : List Int) : Plan Int :=
  if s.gated then .hold (s.work own? events) else s.work own? events

/-- The handler of a script. -/
def handler (s : Script) : Handler Int :=
  { refusal? := s.refusal?, plan := s.plan, lastFailure? := s.lastFailure? }

end Script

end StagedEvents
