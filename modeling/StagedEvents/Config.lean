import StagedEvents.Config.Key
import StagedEvents.Config.Options
import StagedEvents.Failure
import StagedEvents.Text.Quoted

/-!
# Configurations

A configuration has a global section and a section for some stages, by name. It
can be built from key and value pairs; a key that addresses nothing is passed
over, and a value that its option cannot take is an error.
-/

namespace StagedEvents

/-- Global options and options of single stages. Model of `RuntimeConfig`. -/
structure Config where
  global : Options
  /-- The sections of stages, each name once, in the order they were first named. -/
  stages : List (String × Options)
deriving BEq, Repr

namespace Config

/-- No option set anywhere. -/
def empty : Config := { global := .empty, stages := [] }

/-- The section of a stage, if it has one. -/
def stage? (c : Config) (name : String) : Option Options := c.stages.lookup name

/-- The options in a section; a stage without a section has none set. -/
def options (c : Config) : Section → Options
  | .global => c.global
  | .stage name => (c.stage? name).getD .empty

/-- The sections with the section of one stage replaced, or added at the end. -/
def putStage (name : String) (options : Options) :
    List (String × Options) → List (String × Options)
  | [] => [(name, options)]
  | (other, held) :: rest =>
    if other = name then (name, options) :: rest
    else (other, held) :: putStage name options rest

/-- The configuration with the options of one section replaced. -/
def put (c : Config) (place : Section) (options : Options) : Config :=
  match place with
  | .global => { c with global := options }
  | .stage name => { c with stages := putStage name options c.stages }

/-- The message for a value that an option cannot take. -/
def invalidValue (value option : String) : StageError :=
  .config ("invalid value " ++ quoted value ++ " for " ++ option)

/-- Applies one setting. A key that names a stage gives it a section even if the
    option is not known or the value does not fit. Model of `RuntimeConfig::set`. -/
def set (c : Config) (key value : String) : Config × Except StageError Unit :=
  match Address.ofKey? key with
  | none => (c, .ok ())
  | some address =>
    let options := c.options address.place
    match address.option? with
    | none => (c.put address.place options, .ok ())
    | some option =>
      match Field.ofName? option with
      | none => (c.put address.place options, .ok ())
      | some field =>
        match options.write? field value.toList with
        | none => (c.put address.place options, .error (invalidValue value option))
        | some options => (c.put address.place options, .ok ())

/-- The configuration after all settings in order, up to the first error. -/
def apply (c : Config) : List (String × String) → Except StageError Config
  | [] => .ok c
  | (key, value) :: rest =>
    match c.set key value with
    | (_, .error error) => .error error
    | (c, .ok ()) => c.apply rest

/-- The configuration given by settings. Model of `RuntimeConfig::from_pairs`. -/
def ofPairs (pairs : List (String × String)) : Except StageError Config := empty.apply pairs

/-- Whether a failing handler ends the program. Model of `RuntimeConfig::crash_on_exception`. -/
def crashOnException (c : Config) : Bool := c.global.crashOnException.getD false

/-- The options of a stage: its own over the global ones. -/
def merged (c : Config) (name : String) : Options :=
  match c.stage? name with
  | none => c.global
  | some own => own.withDefaults c.global

end Config

end StagedEvents
