import StagedEvents.Number.Rounding

/-!
# Double-precision numbers as exact fractions

A finite double is `± m · 2^e` for natural `m` and integer `e`. `Binary64.ofFloat`
reads sign, significand and exponent off the 64-bit word, and everything that
has to be exact (rounding, decimal text, spans of time) is then computed on the
fraction `numerator / denominator` with natural numbers.
-/

namespace StagedEvents

/-- What a 64-bit floating-point word stands for. -/
inductive Binary64 where
  /-- The value `± significand · 2^exponent`; zero keeps its sign. -/
  | finite (negative : Bool) (significand : Nat) (exponent : Int)
  | infinite (negative : Bool)
  | nan
deriving DecidableEq, Repr

namespace Binary64

/-- The number with the given 64-bit word: a sign bit, eleven exponent bits and
    fifty-two fraction bits. -/
def ofWord (word : Nat) : Binary64 :=
  let negative := decide (Nat.pow 2 63 ≤ word)
  let biased : Nat := word / Nat.pow 2 52 % Nat.pow 2 11
  let fraction : Nat := word % Nat.pow 2 52
  if biased = 2047 then
    if fraction = 0 then .infinite negative else .nan
  else if biased = 0 then .finite negative fraction (-1074)
  else .finite negative (Nat.pow 2 52 + fraction) ((biased : Int) - 1075)

/-- The exact number a double stands for. -/
def ofFloat (x : Float) : Binary64 := ofWord x.toBits.toNat

/-- `m · 2^e` as a fraction of natural numbers with a positive denominator. -/
def fraction (significand : Nat) : Int → Nat × Nat
  | .ofNat e => (significand * Nat.pow 2 e, 1)
  | .negSucc e => (significand, Nat.pow 2 (e + 1))

/-- The integer with the given sign and magnitude. -/
def signed (negative : Bool) (magnitude : Nat) : Int :=
  if negative then -(magnitude : Int) else magnitude

/-- The nearest integer, a half going away from zero, moved into `[lo, hi]`.
    An infinity goes to the end of its sign and a NaN to zero. -/
def roundInto (lo hi : Int) : Binary64 → Int
  | .nan => 0
  | .infinite negative => if negative then lo else hi
  | .finite negative m e =>
    let (n, d) := fraction m e
    clampInt lo hi (signed negative (divHalfUp n d))

/-- The least natural number not below the value, at most `hi`: zero for
    negative values and NaN. -/
def ceilUpTo (hi : Nat) : Binary64 → Nat
  | .nan => 0
  | .infinite negative => if negative then 0 else hi
  | .finite negative m e =>
    let (n, d) := fraction m e
    if negative then 0 else min hi (divCeil n d)

/-- The whole part of the value, at most `hi`: zero for negative values and NaN. -/
def truncUpTo (hi : Nat) : Binary64 → Nat
  | .nan => 0
  | .infinite negative => if negative then 0 else hi
  | .finite negative m e =>
    let (n, d) := fraction m e
    if negative then 0 else min hi (n / d)

end Binary64

end StagedEvents
