import Crosswalk.CommandLine.Given

/-!
# Reading a command line

Arguments are taken one after another.  What is taken last stays open until the next argument or
the end: a setting may still get its value, and a value is only looked at once it is settled.
Two hyphens alone end the options, and the first subcommand takes all arguments after it.
-/

set_option autoImplicit false

namespace Crosswalk.CommandLine

/-- What was taken last and is not settled yet. -/
inductive Pending where
  /-- A setting that has no value so far. -/
  | awaiting (setting : Setting)
  | valued (setting : Setting) (value : String)
  | placed (place : Place) (value : String)
  deriving DecidableEq, Repr

/-- The state between two arguments of a level. -/
structure Reading where
  level : Level
  given : Given
  /-- The places that are still free. -/
  places : List Place
  pending : Option Pending
  /-- No further argument is an option. -/
  optionsOver : Bool
  deriving DecidableEq, Repr

namespace Reading

def start (level : Level) : Reading :=
  ⟨level, {}, level.places, none, false⟩

/-- Settle what was taken last. -/
def settle (reading : Reading) : Except Usage Reading :=
  let settled (given : Given) : Reading := { reading with given, pending := none }
  match reading.pending with
  | none => .ok reading
  | some (.awaiting setting) => .error (.missingValue setting)
  | some (.valued setting value) => (reading.given.assign setting value).map settled
  | some (.placed place value) => (reading.given.place place value).map settled

/-- The setting that the next argument is the value of. -/
def awaiting? (reading : Reading) : Option Setting :=
  match reading.pending with
  | some (.awaiting setting) => if reading.optionsOver then none else some setting
  | _ => none

def turn (switch : Switch) (reading : Reading) : Except Usage Reading := do
  let reading ← reading.settle
  let given ← reading.given.turn reading.level switch
  pure { reading with given }

/-- Take a setting with the value attached to it, or else wait for its value. -/
def assign (setting : Setting) (value : Option String) (reading : Reading) :
    Except Usage Reading := do
  let reading ← reading.settle
  match value with
  | some value =>
    let given ← reading.given.assign setting value
    pure { reading with given }
  | none => pure { reading with pending := some (.awaiting setting) }

/-- Take an option by its long name, perhaps with a value attached to it. -/
def takeLong (name : String) (value : Option String) (reading : Reading) :
    Except Usage Reading :=
  match reading.level.optionOfLong? name with
  | none => .error (.unknownArgument ("--" ++ name))
  | some (.setting setting) => reading.assign setting value
  | some (.switch switch) =>
    match value with
    | some value => .error (.unexpectedValue switch value)
    | none => reading.turn switch

/-- Take options by their letters.  What follows the letter of a setting is its value, which an
equals sign may precede. -/
def takeLetters : List Char → Reading → Except Usage Reading
  | [], reading => .ok reading
  | c :: rest, reading =>
    match reading.level.optionOfShort? c with
    | none => .error (.unknownArgument (String.ofList ['-', c]))
    | some (.switch switch) => do takeLetters rest (← reading.turn switch)
    | some (.setting setting) =>
      match rest with
      | [] => reading.assign setting none
      | '=' :: value => reading.assign setting (some (String.ofList value))
      | value => reading.assign setting (some (String.ofList value))

/-- What an argument is where no place is free for it. -/
def surplus (argument : String) (reading : Reading) : Usage :=
  let isSubcommand := (Subcommand.ofName? argument).isSome || argument == helpWord
  match reading.level with
  | .within _ => .unknownArgument argument
  | .top =>
    if reading.optionsOver && isSubcommand then .unknownArgument argument
    else .unknownSubcommand argument

/-- Take an argument without a name. -/
def takePlace (argument : String) (reading : Reading) : Except Usage Reading :=
  match reading.places with
  | [] => .error (reading.surplus argument)
  | place :: places => do
    let reading ← reading.settle
    pure { reading with places, pending := some (.placed place argument) }

/-- A long name and what follows its first equals sign. -/
def splitLong (cs : List Char) : String × Option String :=
  let name := String.ofList (cs.takeWhile (· != '='))
  match cs.dropWhile (· != '=') with
  | [] => (name, none)
  | _ :: value => (name, some (String.ofList value))

/-- Take an argument that is no subcommand. -/
def take (argument : String) (reading : Reading) : Except Usage Reading :=
  if reading.optionsOver then
    reading.takePlace argument
  else
    match argument.toList with
    | ['-', '-'] => .ok { reading with optionsOver := true }
    | '-' :: '-' :: long =>
      let (name, value) := splitLong long
      reading.takeLong name value
    | '-' :: c :: letters => takeLetters (c :: letters) reading
    | _ =>
      match reading.awaiting? with
      | some setting => .ok { reading with pending := some (.valued setting argument) }
      | none => reading.takePlace argument

/-- Settle what was taken last, and check the configuration of the environment. -/
def finish (environment : Option String) (reading : Reading) : Except Usage Given := do
  let reading ← reading.settle
  reading.given.checkEnvironment environment
  pure reading.given

/-- The command after a subcommand, and what is given with it. -/
def within (environment : Option String) (subcommand : Subcommand) (arguments : List String) :
    Except Usage (Given × Command) := do
  let reading ← arguments.foldlM (fun reading argument => reading.take argument)
    (start (.within subcommand))
  let given ← reading.finish environment
  given.checkExclusive
  let command ← given.command subcommand
  pure (given, command)

/-- What asking for help by a word comes to. -/
def helpFor : List String → Usage
  | [] => .help .top
  | name :: rest =>
    match Subcommand.ofName? name with
    | some subcommand =>
      match rest with
      | [] => .help (.within subcommand)
      | other :: _ => .unknownSubcommand other
    | none =>
      if name == helpWord && rest.isEmpty then .help .top else .unknownSubcommand name

/-- What is given ahead of the subcommand and, if there is one, the command after it. -/
def above (environment : Option String) :
    List String → Reading → Except Usage (Given × Option (Given × Command))
  | [], reading => do
    let given ← reading.finish environment
    pure (given, none)
  | argument :: rest, reading => do
    let mayStart := !reading.optionsOver && reading.awaiting?.isNone
    match if mayStart then Subcommand.ofName? argument else none with
    | some subcommand =>
      let reading ← reading.settle
      let found ← within environment subcommand rest
      let given ← reading.finish environment
      pure (given, some found)
    | none =>
      if mayStart && argument == helpWord then
        .error (helpFor rest)
      else
        above environment rest (← reading.take argument)

end Reading

/-- The arguments that a command line stands for, where the environment may name a
configuration. -/
def parse (environment : Option String) (arguments : List String) : Except Usage Arguments := do
  let (given, found) ← Reading.above environment arguments (Reading.start .top)
  match found with
  | none =>
    .error (if given.isEmpty && environment.isNone then .nothingGiven else .missingSubcommand)
  | some (inner, command) =>
    given.checkExclusive
    pure (given.arguments inner environment command)

end Crosswalk.CommandLine
