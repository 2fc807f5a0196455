/-!
# Text of a record

Values are described as `Name { field: value, other: value }`: the name of the
kind of value, then its fields in their order. This module joins names and
already described fields; each type describes itself.
-/

namespace StagedEvents

/-- The description of a record with the given fields in order. -/
def recordText (name : String) (fields : List (String × String)) : String :=
  match fields with
  | [] => name
  | _ =>
    let entries := fields.map fun field => field.1 ++ ": " ++ field.2
    name ++ " \x7b " ++ ", ".intercalate entries ++ " \x7d"

/-- The description of a value that may be absent. -/
def optionText {α : Type} (text : α → String) : Option α → String
  | none => "None"
  | some a => "Some(" ++ text a ++ ")"

/-- The description of a list of values. -/
def listText {α : Type} (text : α → String) (items : List α) : String :=
  "[" ++ ", ".intercalate (items.map text) ++ "]"

end StagedEvents
