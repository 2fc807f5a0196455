/-!
# Number literals in settings

The texts that count as a number when a setting is read, for the three kinds of
number a setting can hold. Only the digits `0` to `9` count, and nothing may
stand before or after the number.

* `naturalLiteral?`, `integerLiteral?` — an optional sign and at least one digit,
  inside the given range; a natural number takes no minus sign, not even on zero.
* `floatLiteral?` — an optional sign, then `inf`, `infinity` or `nan` in any mix
  of cases, or digits with at most one point and at least one digit beside it,
  then an optional exponent. The result is the nearest double; what is too large
  for one is an infinity.
* `truthLiteral?` — exactly `true` or `false`.
-/

namespace StagedEvents

/-- The value of a decimal digit. -/
def digitValue? (c : Char) : Option Nat :=
  if '0' ≤ c ∧ c ≤ '9' then some (c.toNat - '0'.toNat) else none

/-- Whether the character is one of `0` to `9`. -/
def isDecimalDigit (c : Char) : Bool := (digitValue? c).isSome

/-- The value of a list of decimal digits, most significant first. -/
def digitsValue (digits : List Char) : Nat :=
  digits.foldl (fun n c => 10 * n + (digitValue? c).getD 0) 0

/-- A sign, if the text starts with one, and the rest: `true` for minus. -/
def splitSign : List Char → Bool × List Char
  | '+' :: rest => (false, rest)
  | '-' :: rest => (true, rest)
  | rest => (false, rest)

/-- The value of a text that is nothing but digits, of which there is at least one. -/
def digitsLiteral? (text : List Char) : Option Nat :=
  if text ≠ [] ∧ text.all isDecimalDigit then some (digitsValue text) else none

/-- A natural number up to `hi`, with an optional plus sign. -/
def naturalLiteral? (hi : Nat) (text : List Char) : Option Nat :=
  match splitSign text with
  | (true, _) => none
  | (false, rest) => (digitsLiteral? rest).filter (· ≤ hi)

/-- An integer in `[lo, hi]`, with an optional sign. -/
def integerLiteral? (lo hi : Int) (text : List Char) : Option Int :=
  let (negative, rest) := splitSign text
  (digitsLiteral? rest).bind fun n =>
    let value : Int := if negative then -(n : Int) else n
    if lo ≤ value ∧ value ≤ hi then some value else none

/-- `true` or `false`, spelt exactly so. -/
def truthLiteral? (text : List Char) : Option Bool :=
  if text = "true".toList then some true
  else if text = "false".toList then some false
  else none

/-- The double nearest to `digits · 10^exponent`. The guards on the exponent only
    cut off numbers far beyond the largest or far below the smallest double. -/
def nearestDouble (digits : Nat) (exponent : Int) : Float :=
  let width := (toString digits).length
  if digits = 0 then 0.0
  else if 400 < exponent + width then 1.0 / 0.0
  else if exponent + width < -400 then 0.0
  else
    match exponent with
    | .ofNat e => OfScientific.ofScientific digits false e
    | .negSucc e => OfScientific.ofScientific digits true (e + 1)

/-- The exponent of a float literal: nothing at all, or `e` or `E` followed by an
    optional sign and digits. -/
def exponentLiteral? : List Char → Option Int
  | [] => some 0
  | c :: rest =>
    if c = 'e' ∨ c = 'E' then
      let (negative, digits) := splitSign rest
      (digitsLiteral? digits).map fun n => if negative then -(n : Int) else n
    else none

/-- A float literal after its sign, when it is written with digits. -/
def decimalLiteral? (text : List Char) : Option Float :=
  let whole := text.takeWhile isDecimalDigit
  let afterWhole := text.dropWhile isDecimalDigit
  let (places, tail) :=
    match afterWhole with
    | '.' :: rest => (rest.takeWhile isDecimalDigit, rest.dropWhile isDecimalDigit)
    | rest => ([], rest)
  if whole = [] ∧ places = [] then none
  else
    (exponentLiteral? tail).map fun exponent =>
      nearestDouble (digitsValue (whole ++ places)) (exponent - places.length)

/-- A double in any of its spellings. -/
def floatLiteral? (text : List Char) : Option Float :=
  let (negative, rest) := splitSign text
  let word := rest.map Char.toLower
  let magnitude :=
    if word = "inf".toList ∨ word = "infinity".toList then some (1.0 / 0.0)
    else if word = "nan".toList then some (0.0 / 0.0)
    else decimalLiteral? rest
  magnitude.map fun x => if negative then -x else x

end StagedEvents
