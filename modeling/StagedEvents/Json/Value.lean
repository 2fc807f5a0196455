import StagedEvents.Number.Binary64
import StagedEvents.Number.Literal

/-!
# JSON values

A JSON value as it was written. A number keeps its digits, because what it is
worth depends on who reads it: a count, an integer or a double. A string that
holds half of a surrogate pair stands for no text.
-/

namespace StagedEvents

namespace Json

/-- A number as it was written. -/
structure Numeral where
  negative : Bool
  whole : List Char
  /-- The digits after the point, if there is one. -/
  places : Option (List Char)
  /-- The sign and digits of the exponent, if there is one: `true` for minus. -/
  exponent : Option (Bool × List Char)
deriving DecidableEq, Repr

end Json

/-- A JSON value. -/
inductive Json where
  | null
  | truth (value : Bool)
  | number (numeral : Json.Numeral)
  | string (value : Option String)
  | array (items : List Json)
  | object (members : List (Option String × Json))

namespace Json.Numeral

/-- Whether the number is written with a point or an exponent. -/
def isDecimal (n : Numeral) : Bool := n.places.isSome || n.exponent.isSome

/-- The magnitude of a number written without point and exponent. -/
def magnitude (n : Numeral) : Nat := digitsValue n.whole

/-- A count up to `hi`. A number with a point, an exponent or a minus sign is none. -/
def natural? (hi : Nat) (n : Numeral) : Option Nat :=
  if n.isDecimal || n.negative then none else some n.magnitude |>.filter (· ≤ hi)

/-- An integer in `[lo, hi]`. A number with a point or an exponent is none, and
    neither is zero with a minus sign. -/
def integer? (lo hi : Int) (n : Numeral) : Option Int :=
  if n.isDecimal || (n.negative && n.magnitude == 0) then none
  else
    let value : Int := if n.negative then -(n.magnitude : Int) else n.magnitude
    if lo ≤ value ∧ value ≤ hi then some value else none

/-- The power of ten that is written after the digits. -/
def power (n : Numeral) : Int :=
  match n.exponent with
  | none => 0
  | some (negative, digits) => Binary64.signed negative (digitsValue digits)

/-- The double nearest to the number; none if it is too large for a double. Zero keeps
    its sign, and so does a number that is nearer to zero than to any other double. -/
def double? (n : Numeral) : Option Float :=
  let places := n.places.getD []
  let magnitude := nearestDouble (digitsValue (n.whole ++ places)) (n.power - places.length)
  if magnitude.isInf then none else some (if n.negative then -magnitude else magnitude)

end Json.Numeral

end StagedEvents
