import StagedEvents.Span

/-!
# Quantities the formulas compute with

Rates, token counts, response times and control values are computed in double
precision when the library runs. The formulas are written once, over any type
with the operations of `Quantity`, so that the same definitions can also be read
in exact arithmetic.

* `Quantity` — the four operations, the order, literals, and the passages to and
  from integers and spans of time.
* `clamp?`, `larger`, `smaller` — the forms of clamping, maximum and minimum
  that say what happens to a value that is not a number.
-/

namespace StagedEvents

/-- A type of numbers with the operations that the formulas use. -/
class Quantity (α : Type) extends Add α, Sub α, Mul α, Div α, LT α, LE α, OfScientific α where
  decidableLT : DecidableLT α
  decidableLE : DecidableLE α
  /-- A value above every finite one. -/
  infinity : α
  /-- The value nearest to an integer. -/
  ofInt : Int → α
  /-- The nearest integer, a half going away from zero, moved into `[lo, hi]`. -/
  roundInto : (lo hi : Int) → α → Int
  /-- The least natural number not below the value, at most `hi`. -/
  ceilUpTo : (hi : Nat) → α → Nat
  /-- The whole part of the value, zero if it is negative, at most `hi`. -/
  truncUpTo : (hi : Nat) → α → Nat
  /-- A span of time in seconds. -/
  seconds : Span → α
  /-- The span nearest to a number of seconds, if there is one. -/
  ofSeconds? : α → Option Span

attribute [reducible, instance] Quantity.decidableLT Quantity.decidableLE

namespace Quantity

variable {α : Type} [Quantity α]

/-- Whether the value is a number: only what is not a number is not at most itself. -/
def isNumber (x : α) : Bool := decide (x ≤ x)

/-- Whether two values are equal as numbers; nothing equals what is not a number. -/
def same (x y : α) : Bool := decide (x ≤ y) && decide (y ≤ x)

/-- `x` moved to the nearer end of `[lo, hi]`. There is no result when the bounds
    are out of order or not numbers; an `x` that is not a number stays. -/
def clamp? (lo hi x : α) : Option α :=
  if lo ≤ hi then some (if x < lo then lo else if hi < x then hi else x) else none

/-- The larger of two values, the second if neither is larger; one that is not a number
    does not count. -/
def larger (x y : α) : α :=
  if isNumber y then (if y < x then x else y) else x

/-- The smaller of two values, the second if neither is smaller; one that is not a
    number does not count. -/
def smaller (x y : α) : α :=
  if isNumber y then (if x < y then x else y) else x

end Quantity

end StagedEvents
