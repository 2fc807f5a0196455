import StagedEvents.Channel

/-!
# Exchanges: many clients of one channel

An exchange is a channel with the clients that are busy with it. Each client
carries out one call, and at any moment any client that is not asleep may take its
next step. A client that sleeps may go on when it is signalled, or when its time is
over.

`stepClient?` is the step of one chosen client, and so all interleavings are
sequences of such steps. `settle` is one of them, the one in which the first client
that can go on does; `await` lets time pass until a client has its reply; `atOnce`
is for callers who never sleep and need no client.
-/

namespace StagedEvents

/-- Where a client is in its call. -/
inductive Phase (ε : Type) where
  /-- About to take the next step; `expired` says that it woke because its time was over. -/
  | ready (call : Call ε) (expired : Bool)
  | asleep (call : Call ε) (on : Condition)
  /-- Out of its last critical section, with signals still to give. -/
  | owing (signals : List Signal) (reply : Reply ε)
  | returned (reply : Reply ε)

/-- Someone who is busy with a channel. -/
structure Client (ε : Type) where
  id : Nat
  phase : Phase ε
  /-- When the time of the call is over; without it never. -/
  deadline : Option Nat

/-- Where a client is who owes signals: at the end of its call once all are given. -/
def Phase.after {ε : Type} (signals : List Signal) (reply : Reply ε) : Phase ε :=
  if signals.isEmpty then .returned reply else .owing signals reply

/-- Where a client is after this step of its call. -/
def Outcome.phase {α ε : Type} (o : Outcome α ε) (call : Call ε) : Phase ε :=
  match o.progress with
  | .next call => .ready call false
  | .sleep on => .asleep call on
  | .done reply => .after o.late reply

/-- A channel and those who are busy with it. Model of the threads in calls of a `BoundedQueue` and
    of a `BatchSorter`, and of their condition variables. -/
structure Exchange (α ε : Type) where
  channel : Channel α ε
  clients : List (Client ε)
  /-- Nanoseconds passed. -/
  clock : Nat

namespace Client

variable {ε : Type}

/-- Whether the client sleeps on the condition. -/
def sleepsOn (c : Client ε) (on : Condition) : Bool :=
  match c.phase with
  | .asleep _ condition => condition == on
  | _ => false

/-- A sleeping client is ready to try again; others are left as they are. -/
def awaken (c : Client ε) : Client ε :=
  match c.phase with
  | .asleep call _ => { c with phase := .ready call false }
  | _ => c

/-- Whether the time of the client is over. -/
def isExpired (c : Client ε) (clock : Nat) : Bool :=
  match c.deadline with
  | none => false
  | some deadline => decide (deadline ≤ clock)

/-- The reply of a client that has one. -/
def reply? (c : Client ε) : Option (Reply ε) :=
  match c.phase with
  | .returned reply => some reply
  | _ => none

/-- When a sleeping client will go on by itself. -/
def alarm? (c : Client ε) : Option Nat :=
  match c.phase with
  | .asleep _ _ => c.deadline
  | _ => none

end Client

/-- The clients after a signal: all that sleep on its condition are awake, or the
    first of them is. -/
def signalClients {ε : Type} (signal : Signal) : List (Client ε) → List (Client ε)
  | [] => []
  | c :: rest =>
    if c.sleepsOn signal.on then
      if signal.all then c.awaken :: signalClients signal rest else c.awaken :: rest
    else c :: signalClients signal rest

namespace Exchange

variable {α ε : Type} [Quantity α]

/-- A channel that no one is busy with. -/
def ofChannel (channel : Channel α ε) : Exchange α ε := { channel, clients := [], clock := 0 }

/-- The client with the given number. -/
def client? (x : Exchange α ε) (id : Nat) : Option (Client ε) := x.clients.find? (·.id == id)

/-- The exchange with a client in another phase. -/
def setPhase (x : Exchange α ε) (id : Nat) (phase : Phase ε) : Exchange α ε :=
  { x with clients := x.clients.map fun c => if c.id = id then { c with phase } else c }

/-- The exchange after signals were given. -/
def signal (signals : List Signal) (x : Exchange α ε) : Exchange α ε :=
  { x with clients := signals.foldl (fun clients s => signalClients s clients) x.clients }

/-- One step of a call by a client, with its signals. -/
def runCall (x : Exchange α ε) (id : Nat) (call : Call ε) (expired : Bool) : Exchange α ε :=
  let outcome := x.channel.step call expired
  let x := { x with channel := outcome.channel }.setPhase id (outcome.phase call)
  x.signal outcome.prompt

/-- The next step of a client, if it can take one. -/
def stepClient? (x : Exchange α ε) (c : Client ε) : Option (Exchange α ε) :=
  match c.phase with
  | .ready call expired => some (x.runCall c.id call expired)
  | .asleep call _ => if c.isExpired x.clock then some (x.runCall c.id call true) else none
  | .owing signals reply => some ((x.setPhase c.id (.returned reply)).signal signals)
  | .returned _ => none

/-- The next step of the first client that can take one. -/
def stepFirst? (x : Exchange α ε) : Option (Exchange α ε) := x.clients.findSome? x.stepClient?

/-- Steps until no client can take one, at most `fuel` of them. -/
def settleWithin : (fuel : Nat) → Exchange α ε → Exchange α ε
  | 0, x => x
  | fuel + 1, x =>
    match x.stepFirst? with
    | none => x
    | some x => settleWithin fuel x

/-- Steps until no client can take one. A client takes few steps before it sleeps, and
    every client that ends wakes others at most once. -/
def settle (x : Exchange α ε) : Exchange α ε :=
  x.settleWithin (16 * (x.clients.length + 1) * (x.clients.length + 1))

/-- When the first of the sleeping clients will go on by itself. -/
def nextAlarm? (x : Exchange α ε) : Option Nat := (x.clients.filterMap Client.alarm?).min?

/-- A new client in front of the others. -/
def enter (x : Exchange α ε) (id : Nat) (call : Call ε) (patience : Span) : Exchange α ε :=
  let deadline := if patience = .longest then none else some (x.clock + patience.nanos)
  { x with clients := { id, phase := .ready call false, deadline } :: x.clients }

/-- The exchange without a client. -/
def leave (x : Exchange α ε) (id : Nat) : Exchange α ε :=
  { x with clients := x.clients.filter (·.id != id) }

/-- Lets everyone go on, and time pass up to `limit` while no one can. -/
def elapseWithin (limit : Nat) : (fuel : Nat) → Exchange α ε → Exchange α ε
  | 0, x => x.settle
  | fuel + 1, x =>
    let x := x.settle
    match x.nextAlarm? with
    | some alarm =>
      if alarm ≤ limit then elapseWithin limit fuel { x with clock := max x.clock alarm }
      else { x with clock := max x.clock limit }
    | none => { x with clock := max x.clock limit }

/-- The exchange after a span of time. -/
def elapse (span : Span) (x : Exchange α ε) : Exchange α ε :=
  x.elapseWithin (x.clock + span.nanos) (4 * x.clients.length + 4)

/-- Lets everyone go on, and time pass while no one can, until a client has its reply;
    none if it will never have one. -/
def awaitWithin (id : Nat) : (fuel : Nat) → Exchange α ε → Exchange α ε × Option (Reply ε)
  | 0, x => (x, none)
  | fuel + 1, x =>
    let x := x.settle
    match (x.client? id).bind Client.reply? with
    | some reply => (x.leave id, some reply)
    | none =>
      match x.nextAlarm? with
      | some alarm => awaitWithin id fuel { x with clock := max x.clock alarm }
      | none => (x, none)

/-- The reply of a client, once it has one. -/
def await (id : Nat) (x : Exchange α ε) : Exchange α ε × Option (Reply ε) :=
  x.awaitWithin id (4 * x.clients.length + 4)

/-- A number that no client has. -/
def freshId (x : Exchange α ε) : Nat := (x.clients.map (·.id)).foldl max 0 + 1

/-- Carries out a call and waits for its reply. -/
def perform (call : Call ε) (patience : Span) (x : Exchange α ε) :
    Exchange α ε × Option (Reply ε) :=
  let id := x.freshId
  (x.enter id call patience).await id

/-! ## Calls that never sleep -/

/-- Carries out a call of one step, and gives its signals, before anyone else goes on.
    There is no reply if the call would take another step or sleep. -/
def atOnce (call : Call ε) (x : Exchange α ε) : Exchange α ε × Option (Reply ε) :=
  let outcome := x.channel.step call false
  let x := { x with channel := outcome.channel }.signal (outcome.prompt ++ outcome.late)
  match outcome.progress with
  | .done reply => (x, some reply)
  | _ => (x, none)

end Exchange

end StagedEvents
