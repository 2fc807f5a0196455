import StagedEvents.Exchange

/-!
# Sessions

A session is one user of a channel who keeps things under numbers: transactions that
are open, batches and completions that are not done with, and calls that others make
on the user's behalf. To keep a thing under a number that is in use means to be done
with the thing that was there: an open transaction is given up, a batch or completion
is completed.
-/

namespace StagedEvents

/-- Things kept under numbers. -/
abbrev Shelf (β : Type) := List (Int × β)

namespace Shelf

variable {β : Type}

/-- The shelf with a thing under a number, and nothing else there. -/
def put (number : Int) (thing : β) (s : Shelf β) : Shelf β :=
  (number, thing) :: s.filter fun entry => entry.1 != number

/-- The thing under a number, and the shelf without it. -/
def take? (number : Int) (s : Shelf β) : Option (β × Shelf β) :=
  (s.lookup number).map fun thing => (thing, s.filter fun entry => entry.1 != number)

end Shelf

/-- A user of a channel and what the user keeps. -/
structure Session (α ε : Type) where
  exchange : Exchange α ε
  transactions : Shelf (Transaction ε)
  batches : Shelf (Batch ε)
  completions : Shelf Completion
  /-- The clients that make calls for the user. -/
  calls : Shelf Nat
  /-- How many completions were counted. -/
  counted : Nat

namespace Session

variable {α ε : Type} [Quantity α]

/-- A session that keeps nothing. -/
def ofExchange (exchange : Exchange α ε) : Session α ε :=
  { exchange, transactions := [], batches := [], completions := [], calls := [], counted := 0 }

/-- The channel of the session. -/
def channel (s : Session α ε) : Channel α ε := s.exchange.channel

/-- The session with its channel changed. -/
def mapChannel (f : Channel α ε → Channel α ε) (s : Session α ε) : Session α ε :=
  { s with exchange := { s.exchange with channel := f s.exchange.channel } }

/-- The session with another gate in front of the queue. -/
def setGate (gate : Gate α) (s : Session α ε) : Session α ε :=
  s.mapChannel fun c => { c with sink := { c.sink with gate } }

/-- Makes a call and waits for its reply. -/
def perform (call : Call ε) (patience : Span) (s : Session α ε) :
    Session α ε × Option (Reply ε) :=
  let (exchange, reply) := s.exchange.perform call patience
  ({ s with exchange }, reply)

/-- Makes a call that does not wait. -/
def run (call : Call ε) (s : Session α ε) : Session α ε × Option (Reply ε) :=
  s.perform call .zero

/-! ## Transactions -/

/-- Gives up the transaction under a number, if there is one. -/
def giveUp (number : Int) (s : Session α ε) : Session α ε × Option (Reply ε) :=
  match s.transactions.take? number with
  | none => (s, none)
  | some (transaction, transactions) => { s with transactions }.run (.release transaction)

/-- Publishes the transaction under a number, if there is one. -/
def commit (number : Int) (s : Session α ε) : Session α ε × Option (Reply ε) :=
  match s.transactions.take? number with
  | none => (s, none)
  | some (transaction, transactions) => { s with transactions }.run (.commit transaction)

/-- Reserves room for events and keeps the transaction. -/
def prepare (guarded : Bool) (number : Int) (events : List ε) (s : Session α ε) :
    Session α ε × Option (Reply ε) :=
  let (s, reply) := s.run (.prepare guarded events)
  match reply with
  | some (.prepared (.ok transaction)) =>
    let s := (s.giveUp number).1
    ({ s with transactions := s.transactions.put number transaction }, reply)
  | _ => (s, reply)

/-! ## Batches and completions -/

/-- Carries out a completion. -/
def complete (completion : Completion) (s : Session α ε) : Session α ε :=
  let (s, _) := s.run (.complete completion .done)
  if completion = .counts then { s with counted := s.counted + 1 } else s

/-- Completes the batch under a number; the answer says whether there is one. -/
def completeBatch (number : Int) (s : Session α ε) : Session α ε × Bool :=
  match s.batches.take? number with
  | none => (s, false)
  | some (batch, batches) => ({ s with batches }.complete batch.completion, true)

/-- Carries out the completion under a number; the answer says whether there is one. -/
def completeKept (number : Int) (s : Session α ε) : Session α ε × Bool :=
  match s.completions.take? number with
  | none => (s, false)
  | some (completion, completions) => ({ s with completions }.complete completion, true)

/-- Keeps a batch. -/
def keepBatch (number : Int) (batch : Batch ε) (s : Session α ε) : Session α ε :=
  let s := (s.completeBatch number).1
  { s with batches := s.batches.put number batch }

/-- Fetches a batch and keeps it. -/
def fetch (number : Int) (patience : Span) (s : Session α ε) :
    Session α ε × Option (Reply ε) :=
  let (s, reply) := s.perform (.fetch .takeSlot false) patience
  match reply with
  | some (.fetched (.ok (some batch))) => (s.keepBatch number batch, reply)
  | _ => (s, reply)

/-- Takes the events of a batch and keeps its completion. -/
def split (number : Int) (s : Session α ε) : Session α ε × Option (List ε) :=
  match s.batches.take? number with
  | none => (s, none)
  | some (batch, batches) =>
    let s := ({ s with batches }.completeKept number).1
    ({ s with completions := s.completions.put number batch.completion }, some batch.events)

/-! ## Calls of others -/

/-- Has someone else make a call, and gives them some time. -/
def send (number : Int) (call : Call ε) (patience head : Span) (s : Session α ε) :
    Session α ε :=
  let client := s.exchange.freshId
  { s with
    exchange := (s.exchange.enter client call patience).elapse head
    calls := s.calls.put number client }

/-- Waits for the reply to the call made under a number. -/
def join (number : Int) (s : Session α ε) : Session α ε × Option (Reply ε) :=
  match s.calls.take? number with
  | none => (s, none)
  | some (client, calls) =>
    let (exchange, reply) := s.exchange.await client
    ({ s with exchange, calls }, reply)

/-- Waits for all replies, in the order of the calls. -/
def joinAll (s : Session α ε) : Session α ε × List (Option (Reply ε)) :=
  s.calls.reverse.foldl (fun acc entry =>
    let (s, reply) := acc.1.join entry.1
    (s, acc.2 ++ [reply])) (s, [])

end Session

end StagedEvents
