/-!
# Keys of settings

A setting is addressed by a key of segments between points. The first segment
names the section: `global`, or `stages` followed by the name of a stage. Of the
segments after that, those that name a group are passed over, and the last one
left names the option.
-/

namespace StagedEvents

/-- A section of a configuration. -/
inductive Section where
  | global
  | stage (name : String)
deriving DecidableEq, Repr

/-- The segments of a key: the texts between its points, one more than there are
    points. -/
def keySegments (key : List Char) : List (List Char) :=
  match key with
  | [] => [[]]
  | c :: rest =>
    match keySegments rest with
    | [] => [[c]]
    | segment :: others =>
      if c = '.' then [] :: segment :: others else (c :: segment) :: others

/-- The names of groups, which a key may use for the reader's sake. -/
def groupNames : List String := ["threadPool", "sizeController", "rtController", "batchSorter"]

/-- What a key addresses: a section, and the name of an option unless only groups
    follow the section. -/
structure Address where
  place : Section
  option? : Option String
deriving DecidableEq, Repr

/-- The option named by the segments after the section. -/
def optionSegment? (segments : List String) : Option String :=
  (segments.filter fun segment => !groupNames.contains segment).getLast?

/-- What a key addresses, if it starts with a section. -/
def Address.ofKey? (key : String) : Option Address :=
  match (keySegments key.toList).map String.ofList with
  | "global" :: rest => some ⟨.global, optionSegment? rest⟩
  | "stages" :: name :: rest => some ⟨.stage name, optionSegment? rest⟩
  | _ => none

end StagedEvents
