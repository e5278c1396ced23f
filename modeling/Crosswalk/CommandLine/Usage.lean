import Crosswalk.CommandLine.Options

/-!
# Usage

The ways in which a command line ends before there is a command to run: it asks for help or for
the version, or it cannot be understood.
-/

set_option autoImplicit false

namespace Crosswalk.CommandLine

inductive Usage where
  | help (level : Level)
  | version (level : Level)
  /-- Nothing at all is given, so there is help. -/
  | nothingGiven
  | missingSubcommand
  | unknownSubcommand (name : String)
  | unknownArgument (argument : String)
  /-- A switch with a value attached to it. -/
  | unexpectedValue (switch : Switch) (value : String)
  | missingValue (setting : Setting)
  | repeated (option : OptionName)
  | exclusive (option other : OptionName)
  /-- A value that is empty or not among the choices; the argument is named as in help. -/
  | badValue (argument value : String) (choices : List String)
  /-- A number that is no number or out of range. -/
  | badNumber (setting : Setting) (value : String)
  | missingPlaces (places : List Place)
  deriving DecidableEq, Repr

namespace Usage

/-- What was asked for is a text and not a command. -/
def isAnswer : Usage → Bool
  | .help _ | .version _ => true
  | _ => false

def exitCode (usage : Usage) : Nat :=
  if usage.isAnswer then 0 else 2

/-! ## Help -/

def optionLabel (option : OptionName) : String :=
  let short :=
    match option.short? with
    | some c => String.ofList ['-', c, ',', ' ']
    | none => "    "
  let value :=
    match option with
    | .setting s => " <" ++ s.valueName ++ ">"
    | .switch _ => ""
  short ++ "--" ++ option.long ++ value

def placeLabel (place : Place) : String :=
  "<" ++ place.valueName ++ ">"

/-- Labels in a column, each followed by what it means. -/
def columnText (rows : List (String × String)) : String :=
  let width := (rows.map fun row => row.1.length).foldl max 0
  String.join (rows.map fun (label, about) =>
    "  " ++ label ++ String.ofList (List.replicate (width - label.length + 2) ' ') ++ about ++ "\n")

def choicesText (choices : List (String × String)) : String :=
  if choices.isEmpty then ""
  else " [possible values: " ++ ", ".intercalate (choices.map Prod.fst) ++ "]"

def usageLine (level : Level) : String :=
  let rest :=
    match level with
    | .top => ["<COMMAND>"]
    | .within subcommand => subcommand.places.map placeLabel
  "Usage: " ++ " ".intercalate (level.words ++ ["[OPTIONS]"] ++ rest) ++ "\n"

def helpText (level : Level) : String :=
  let commands :=
    match level with
    | .top =>
      "\nCommands:\n" ++ columnText
        (Subcommand.all.map (fun s => (s.name, s.about)) ++ [(helpWord, helpAbout)])
    | .within _ => ""
  let places :=
    if level.places.isEmpty then ""
    else
      "\nArguments:\n" ++ columnText
        (level.places.map fun p => (placeLabel p, p.about ++ choicesText p.choices))
  level.about ++ "\n\n" ++ usageLine level ++ commands ++ places ++ "\nOptions:\n"
    ++ columnText (level.options.map fun o => (optionLabel o, o.about ++ choicesText o.choices))

def versionText (level : Level) : String :=
  "-".intercalate level.words ++ " " ++ programVersion ++ "\n"

/-! ## Complaints -/

/-- What is wrong with the command line. -/
def complaint : Usage → String
  | .help _ | .version _ | .nothingGiven => ""
  | .missingSubcommand => "a subcommand is required but one was not provided"
  | .unknownSubcommand name => "unrecognized subcommand '" ++ name ++ "'"
  | .unknownArgument argument => "unexpected argument '" ++ argument ++ "' found"
  | .unexpectedValue switch value =>
    "unexpected value '" ++ value ++ "' for '--" ++ switch.long ++ "' found; no more were expected"
  | .missingValue setting =>
    "a value is required for '--" ++ setting.long ++ " <" ++ setting.valueName
      ++ ">' but none was supplied"
  | .repeated option =>
    "the argument '--" ++ option.long ++ "' cannot be used multiple times"
  | .exclusive option other =>
    "the argument '--" ++ option.long ++ "' cannot be used with '--" ++ other.long ++ "'"
  | .badValue argument value choices =>
    "invalid value '" ++ value ++ "' for '" ++ argument ++ "'"
      ++ (if choices.isEmpty then ""
        else "\n  [possible values: " ++ ", ".intercalate choices ++ "]")
  | .badNumber setting value =>
    "invalid value '" ++ value ++ "' for '--" ++ setting.long ++ " <" ++ setting.valueName ++ ">'"
  | .missingPlaces places =>
    "the following required arguments were not provided:\n"
      ++ "\n".intercalate (places.map fun place => "  " ++ placeLabel place)

/-- The text that the program ends with. -/
def text : Usage → String
  | .help level => helpText level
  | .version level => versionText level
  | .nothingGiven => helpText .top
  | usage =>
    "error: " ++ usage.complaint ++ "\n\n" ++ usageLine .top
      ++ "\nFor more information, try '--help'.\n"

end Usage

end Crosswalk.CommandLine
