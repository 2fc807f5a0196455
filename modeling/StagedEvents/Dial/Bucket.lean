import StagedEvents.Quantity

/-!
# Token bucket

A bucket holds up to `depth` tokens and gains `rate` tokens a second. A call for
`n` events is let through when `n` tokens are there, and takes them. Tokens are
added at the moment of a call, for the time since the previous one that counted.
With a rate of zero or less the bucket lets everything through and is not touched.
-/

namespace StagedEvents

/-- A store of tokens that limits a rate of events. Model of `RateLimitingPredicate`. -/
structure Bucket (α : Type) where
  /-- Tokens gained in a second; zero or less lifts the limit. -/
  rate : α
  /-- Most tokens held, at least one. -/
  depth : Nat
  tokens : α
  /-- Time since tokens were last added. -/
  idle : Span

namespace Bucket

variable {α : Type} [Quantity α]

/-- A full bucket of at least one token. Model of `RateLimitingPredicate::new`. -/
def full (rate : α) (depth : Nat) : Bucket α :=
  { rate, depth := max depth 1, tokens := Quantity.ofInt ((max depth 1 : Nat) : Int),
    idle := Span.zero }

/-- The bucket with the tokens of the idle time added, up to its depth. -/
def refill (b : Bucket α) : Bucket α :=
  { b with
    tokens := Quantity.smaller (b.tokens + Quantity.seconds b.idle * b.rate)
      (Quantity.ofInt (b.depth : Int))
    idle := Span.zero }

/-- Takes `wanted` tokens if they are there. -/
def take (b : Bucket α) (wanted : Nat) : Bool × Bucket α :=
  if Quantity.ofInt (wanted : Int) ≤ b.tokens then
    (true, { b with tokens := b.tokens - Quantity.ofInt (wanted : Int) })
  else (false, b)

/-- Whether `incoming` events are let through, and the bucket afterwards. Model of
    `RateLimitingPredicate::accept`. -/
def accept (b : Bucket α) (incoming : Nat) : Bool × Bucket α :=
  if b.rate ≤ 0.0 then (true, b) else b.refill.take incoming

/-- The bucket after `elapsed` more time without a call. -/
def wait (b : Bucket α) (elapsed : Span) : Bucket α :=
  { b with idle := ⟨b.idle.nanos + elapsed.nanos⟩ }

/-- The depth as it reads back from its number. Model of `RateLimitingPredicate::depth`. -/
def shownDepth (b : Bucket α) : Nat :=
  Quantity.truncUpTo (UInt64.size - 1) (Quantity.ofInt (b.depth : Int) : α)

theorem accept_unlimited {b : Bucket α} (h : b.rate ≤ 0.0) (incoming : Nat) :
    b.accept incoming = (true, b) := by
  simp [accept, h]

theorem take_refused {b : Bucket α} {wanted : Nat} (h : (b.take wanted).1 = false) :
    (b.take wanted).2 = b := by
  unfold take at h ⊢
  split <;> simp_all

end Bucket

end StagedEvents
