import StagedEvents.Number.Binary64

/-!
# Spans of time

A span is a whole number of nanoseconds. The longest span has `2^64 - 1` seconds
and `999 999 999` nanoseconds.

* `Span.seconds` — the span as a double, whole seconds and the rest added up.
* `Span.ofSeconds?` — the nearest span to a double, a tie going to the even
  nanosecond; none for numbers that no span is near.
* `Span.text` — the largest of the units `s`, `ms`, `µs`, `ns` that is not below
  one, with all decimals and no trailing zeros.
-/

namespace StagedEvents

/-- A length of time in nanoseconds. -/
structure Span where
  nanos : Nat
deriving DecidableEq, Repr, Inhabited

namespace Span

/-- No time at all. -/
def zero : Span := ⟨0⟩

/-- The longest span; a wait for it has no end. -/
def longest : Span := ⟨(UInt64.size - 1) * 1_000_000_000 + 999_999_999⟩

def ofMicros (n : Nat) : Span := ⟨n * 1000⟩

def ofMillis (n : Nat) : Span := ⟨n * 1_000_000⟩

/-- The span in seconds: whole seconds plus the fraction, each rounded once. -/
def seconds (s : Span) : Float :=
  Float.ofNat (s.nanos / 1_000_000_000) +
    Float.ofNat (s.nanos % 1_000_000_000) / 1000000000.0

/-- The span of `x` seconds to the nearest nanosecond. There is none if `x` is not
    a number, is negative by more than half a nanosecond, or reaches `2^64`. -/
def ofSeconds? (x : Float) : Option Span :=
  match Binary64.ofFloat x with
  | .nan => none
  | .infinite _ => none
  | .finite negative m e =>
    let (n, d) := Binary64.fraction m e
    let nanos := divHalfEven (n * 1_000_000_000) d
    if negative ∧ nanos ≠ 0 then none
    else if UInt64.size * 1_000_000_000 ≤ nanos then none
    else some ⟨nanos⟩

/-- `units` whole units and `rest` out of `10^places` more, without trailing zeros. -/
def decimalText (units rest places : Nat) : String :=
  let digits := toString (Nat.pow 10 places + rest)
  let shown := ((digits.toList.drop 1).reverse.dropWhile (· == '0')).reverse
  if shown = [] then toString units else toString units ++ "." ++ String.ofList shown

/-- The span in its largest unit that is not below one. -/
def text (s : Span) : String :=
  let n := s.nanos
  if 1_000_000_000 ≤ n then decimalText (n / 1_000_000_000) (n % 1_000_000_000) 9 ++ "s"
  else if 1_000_000 ≤ n then decimalText (n / 1_000_000) (n % 1_000_000) 6 ++ "ms"
  else if 1000 ≤ n then decimalText (n / 1000) (n % 1000) 3 ++ "µs"
  else toString n ++ "ns"

end Span

end StagedEvents
