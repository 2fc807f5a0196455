import StagedEvents.Config.Field
import StagedEvents.Number.Literal
import StagedEvents.Text.Blank

/-!
# Settings: values of fields

A setting is a value of one of the four kinds. `Setting.ofText?` reads one from a
text; numbers are read as far as 64 bits go.
-/

namespace StagedEvents

/-- A value of a field. -/
inductive Setting where
  | count (n : Nat)
  | limit (n : Int)
  | truth (b : Bool)
  | amount (x : Float)
deriving BEq, Repr

namespace Setting

/-- The kind of a setting. -/
def kind : Setting → FieldKind
  | count _ => .count
  | limit _ => .limit
  | truth _ => .truth
  | amount _ => .amount

/-- The largest count or number of milliseconds. -/
def largestCount : Nat := UInt64.size - 1

/-- The least and the greatest limit. -/
def lowestLimit : Int := -9_223_372_036_854_775_808

def highestLimit : Int := 9_223_372_036_854_775_807

/-- A limit that a text stands for. -/
def limitOfText? (text : List Char) : Option Int :=
  integerLiteral? lowestLimit highestLimit (trimBlanks text)

/-- The value of a kind that a text stands for, after the blank space around the text
    is taken away. -/
def ofText? (kind : FieldKind) (text : List Char) : Option Setting :=
  match kind with
  | .count => (naturalLiteral? largestCount (trimBlanks text)).map count
  | .limit => (limitOfText? text).map limit
  | .truth => (truthLiteral? (trimBlanks text)).map truth
  | .amount => (floatLiteral? (trimBlanks text)).map amount

end Setting

end StagedEvents
