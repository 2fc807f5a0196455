import StagedEvents.Config
import StagedEvents.Json.Reader

/-!
# Configurations written in JSON

A configuration is an object with the members `global` and `stages`; a section is
an object with options under their canonical names. Members that are not known are
passed over, members that are missing are not set, and no known member may occur
twice. An option may be null, which leaves it unset. A configuration or a section
may also be an array of its members in their order, from the first on. Of two
sections for one stage the later one counts.
-/

namespace StagedEvents

/-- The value of a kind that a JSON value is. -/
def Setting.ofJson? (kind : FieldKind) (value : Json) : Option Setting :=
  match kind, value with
  | .count, .number numeral => (numeral.natural? Setting.largestCount).map Setting.count
  | .limit, .number numeral =>
    (numeral.integer? Setting.lowestLimit Setting.highestLimit).map Setting.limit
  | .truth, .truth b => some (.truth b)
  | .amount, .number numeral => numeral.double?.map Setting.amount
  | _, _ => none

namespace Options

/-- The options with a field, not set before, set to a JSON value of its kind. Null
    leaves it unset. -/
def load? (f : Field) (value : Json) (o : Options) : Option Options :=
  match value with
  | .null => some o
  | value => (Setting.ofJson? f.kind value).map fun setting => o.put f setting

/-- The options of a section's members, the fields in `seen` having occurred. -/
def ofMembers? (seen : List Field) : List (Option String × Json) → Options → Option Options
  | [], o => some o
  | (none, _) :: _, _ => none
  | (some key, value) :: rest, o =>
    match Field.ofCanonical? key with
    | none => ofMembers? seen rest o
    | some f =>
      if seen.contains f then none
      else (o.load? f value).bind (ofMembers? (f :: seen) rest)

/-- The options of a section's values in the order of the fields. -/
def ofItems? : List Field → List Json → Options → Option Options
  | _, [], o => some o
  | [], _ :: _, _ => none
  | f :: fields, value :: rest, o => (o.load? f value).bind (ofItems? fields rest)

/-- The options of a section. -/
def ofJson? : Json → Option Options
  | .object members => ofMembers? [] members .empty
  | .array items => ofItems? Field.all items .empty
  | _ => none

end Options

namespace Config

/-- The sections of stages, added to those in `held`. -/
def stagesOf? : List (Option String × Json) → List (String × Options) →
    Option (List (String × Options))
  | [], held => some held
  | (none, _) :: _, _ => none
  | (some name, value) :: rest, held =>
    (Options.ofJson? value).bind fun options => stagesOf? rest (putStage name options held)

/-- The sections of stages, by name. -/
def stagesOfJson? : Json → Option (List (String × Options))
  | .object members => stagesOf? members []
  | _ => none

/-- The configuration of the members of an object. The flags say whether the global
    section and the sections of stages have occurred. -/
def ofMembers? (seenGlobal seenStages : Bool) :
    List (Option String × Json) → Config → Option Config
  | [], c => some c
  | (none, _) :: _, _ => none
  | (some key, value) :: rest, c =>
    if key = "global" then
      if seenGlobal then none
      else (Options.ofJson? value).bind fun global =>
        ofMembers? true seenStages rest { c with global }
    else if key = "stages" then
      if seenStages then none
      else (stagesOfJson? value).bind fun stages =>
        ofMembers? seenGlobal true rest { c with stages }
    else ofMembers? seenGlobal seenStages rest c

/-- The configuration that a JSON value describes. -/
def ofJson? : Json → Option Config
  | .object members => ofMembers? false false members .empty
  | .array [] => some .empty
  | .array [global] => (Options.ofJson? global).map fun global => { empty with global }
  | .array [global, stages] =>
    (Options.ofJson? global).bind fun global =>
      (stagesOfJson? stages).map fun stages => { global, stages }
  | _ => none

/-- The configuration that a JSON text describes. -/
def read? (text : String) : Option Config := (Json.read? text).bind ofJson?

end Config

end StagedEvents
