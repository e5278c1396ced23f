import Crosswalk.Settings
import Crosswalk.Text.Case

/-!
# How to log

What is logged follows from the amount of detail that was asked for, then from the settings, and
last from the environment, each of which may override what comes before.  The settings do not
change the level once more detail was asked for.  A quiet program logs errors only, and those only
to a file.
-/

set_option autoImplicit false

namespace Crosswalk.Log

inductive Format where
  | compact
  | full
  | json
  deriving DecidableEq, Repr

namespace Format

def names : List (String × Format) :=
  [("compact", .compact), ("full", .full), ("json", .json)]

/-- The format of a name in any case. -/
def ofName? (name : String) : Option Format :=
  names.lookup (String.ofList (Text.lowercase name.toList))

end Format

structure Setup where
  /-- The text of the filter. -/
  level : String
  format : Format
  /-- Without a file, log to the error output. -/
  console : Bool
  file : Option String
  threadIds : Bool
  sourceLocation : Bool
  deriving DecidableEq, Repr

namespace Setup

/-- The setup for an amount of detail. -/
def ofVerbosity (verbosity : Nat) : Setup :=
  let plain (level : String) : Setup := ⟨level, .compact, true, none, false, false⟩
  match verbosity with
  | 0 => plain "warn"
  | 1 => plain "info"
  | 2 => { plain "debug" with sourceLocation := true }
  | _ => { plain "trace" with format := .full, sourceLocation := true, threadIds := true }

def withSettings (settings : LogSettings) (verbosity : Nat) (setup : Setup) : Setup :=
  { setup with
    level := if verbosity = 0 then settings.level.getD setup.level else setup.level
    format := (settings.format.bind Format.ofName?).getD setup.format
    file := settings.file.or setup.file }

/-- The environment says that there shall be output on the console. -/
def wantsConsole (value : String) : Bool :=
  String.ofList (Text.lowercase value.toList) == "true" || value == "1"

def withEnvironment (environment : List (String × String)) (setup : Setup) : Setup :=
  { setup with
    level := (environment.lookup "RUST_LOG").getD setup.level
    format := ((environment.lookup "STTM_LOG_FORMAT").bind Format.ofName?).getD setup.format
    file := (environment.lookup "STTM_LOG_FILE").or setup.file
    console := ((environment.lookup "STTM_LOG_CONSOLE").map wantsConsole).getD setup.console }

def quieted (setup : Setup) : Setup :=
  { setup with level := "error", console := false }

/-- The setup of a program with the given detail, settings and environment. -/
def of (verbosity : Nat) (quiet : Bool) (settings : Option LogSettings)
    (environment : List (String × String)) : Setup :=
  let plain := ofVerbosity verbosity
  let set :=
    match settings with
    | some settings => plain.withSettings settings verbosity
    | none => plain
  let full := set.withEnvironment environment
  if quiet then full.quieted else full

/-- What is said about the names of formats that are unknown. -/
def complaints (settings : Option LogSettings) (environment : List (String × String)) :
    List String :=
  let unknown (name : Option String) : Option String :=
    name.filter fun name => (Format.ofName? name).isNone
  let inSettings := unknown (settings.bind LogSettings.format)
  let inEnvironment := unknown (environment.lookup "STTM_LOG_FORMAT")
  (inSettings.map fun name =>
      "Invalid log format in configuration: " ++ name ++ ", using default").toList
    ++ (inEnvironment.map fun name =>
      "Invalid STTM_LOG_FORMAT: " ++ name ++ ", using default").toList

end Setup

end Crosswalk.Log
