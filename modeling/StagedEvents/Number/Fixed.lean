import StagedEvents.Number.Binary64

/-!
# Decimal text with a fixed number of places

`fixedText places x` writes the exact value of the double `x` with `places`
digits after the point. The last digit is rounded to nearest, a tie to the even
digit. The sign of a number is kept even when all digits written are zero.
-/

namespace StagedEvents

/-- `text` with zeros put in front of it until it has `width` characters. -/
def padZeros (width : Nat) (text : String) : String :=
  String.ofList (List.replicate (width - text.length) '0') ++ text

/-- The decimal text of `units / 10^places` with exactly `places` digits after
    the point, and no point when there are none. -/
def pointedText (places units : Nat) : String :=
  if places = 0 then toString units
  else
    let whole := Nat.pow 10 places
    toString (units / whole) ++ "." ++ padZeros places (toString (units % whole))

/-- A double with `places` digits after the point. -/
def fixedText (places : Nat) (x : Float) : String :=
  match Binary64.ofFloat x with
  | .nan => "NaN"
  | .infinite negative => if negative then "-inf" else "inf"
  | .finite negative m e =>
    let (n, d) := Binary64.fraction m e
    let text := pointedText places (divHalfEven (n * Nat.pow 10 places) d)
    if negative then "-" ++ text else text

end StagedEvents
