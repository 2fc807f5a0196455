/-!
# Rounding a quotient

The three ways of turning a fraction `n / d` of natural numbers into a natural
number that the formats and formulas of the library need.

* `divHalfEven` — to the nearest, a tie to the even neighbour (decimal text,
  nanoseconds of a span).
* `divHalfUp` — to the nearest, a tie upwards (whole values of a gate).
* `divCeil` — upwards (ranks).
-/

namespace StagedEvents

/-- `n / d` rounded to the nearest natural number; a tie goes to the even one. -/
def divHalfEven (n d : Nat) : Nat :=
  let q := n / d
  let r := n % d
  if 2 * r < d then q
  else if d < 2 * r then q + 1
  else if q % 2 = 0 then q
  else q + 1

/-- `n / d` rounded to the nearest natural number; a tie goes upwards. -/
def divHalfUp (n d : Nat) : Nat :=
  if d ≤ 2 * (n % d) then n / d + 1 else n / d

/-- The least natural number that is at least `n / d`. -/
def divCeil (n d : Nat) : Nat :=
  if n % d = 0 then n / d else n / d + 1

/-- `x` moved to the nearer end of `[lo, hi]` when it lies outside. -/
def clampInt (lo hi x : Int) : Int := max lo (min hi x)

end StagedEvents
