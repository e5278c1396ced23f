import Crosswalk.CommandLine.Usage

/-!
# What is given at one level

Options may stand before a subcommand and after it.  What is given at each of the two levels is
collected on its own, where a value is taken once and a switch counts once, apart from the one
that asks for more detail each time.  Then what is given after the subcommand goes before what is
given ahead of it.
-/

set_option autoImplicit false

namespace Crosswalk.CommandLine

structure Given where
  verbose : Nat := 0
  quiet : Bool := false
  noColor : Bool := false
  lazy : Bool := false
  config : Option String := none
  output : Option OutputFormat := none
  policy : Option FailurePolicy := none
  workers : Option Nat := none
  saveTo : Option String := none
  catalog : Option String := none
  records : Option String := none
  shell : Option Shell := none
  deriving DecidableEq, Repr

/-! ## Values -/

/-- A path can be any text but the empty one. -/
def readPathValue (argument value : String) : Except Usage String :=
  if value.isEmpty then .error (.badValue argument value []) else .ok value

/-- One of the named choices. -/
def readChoice {α : Type} (argument : String) (choices : List (String × α)) (value : String) :
    Except Usage α :=
  match choices.lookup value with
  | some choice => .ok choice
  | none => .error (.badValue argument value (choices.map Prod.fst))

/-- The number that digits spell, perhaps after a sign. -/
def signedNumber? (value : String) : Option Int :=
  let digits? (cs : List Char) : Option Nat :=
    if cs.isEmpty || !cs.all Char.isDigit then none else some (Nat.ofDigitChars 10 cs 0)
  match value.toList with
  | '-' :: rest => (digits? rest).map fun n => -(n : Int)
  | '+' :: rest => (digits? rest).map Int.ofNat
  | cs => (digits? cs).map Int.ofNat

def greatestWorkers : Nat :=
  65535

/-- A number of workers, of which there is at least one. -/
def readWorkers (value : String) : Except Usage Nat :=
  match signedNumber? value with
  | some n =>
    if 1 ≤ n ∧ n ≤ greatestWorkers then .ok n.toNat else .error (.badNumber .workers value)
  | none => .error (.badNumber .workers value)

/-! ## Taking arguments -/

namespace Given

/-- The greatest number of times that a switch counts. -/
def greatestCount : Nat :=
  255

/-- A switch that counts once. -/
def turnOnce (switch : Switch) (old : Bool) : Except Usage Bool :=
  if old then .error (.repeated (.switch switch)) else .ok true

/-- Take a switch.  A request for help or for the version ends the reading. -/
def turn (level : Level) (switch : Switch) (given : Given) : Except Usage Given :=
  match switch with
  | .verbose => .ok { given with verbose := min (given.verbose + 1) greatestCount }
  | .quiet => (turnOnce switch given.quiet).map fun quiet => { given with quiet }
  | .noColor => (turnOnce switch given.noColor).map fun noColor => { given with noColor }
  | .lazy => (turnOnce switch given.lazy).map fun lazy => { given with lazy }
  | .help => .error (.help level)
  | .version => .error (.version level)

/-- The value of a setting, which must not have one already. -/
def fill {α : Type} (setting : Setting) (read : String → Except Usage α) (old : Option α)
    (value : String) : Except Usage (Option α) :=
  match old with
  | some _ => .error (.repeated (.setting setting))
  | none => (read value).map some

/-- Take a setting with its value. -/
def assign (setting : Setting) (value : String) (given : Given) : Except Usage Given :=
  let label := "--" ++ setting.long ++ " <" ++ setting.valueName ++ ">"
  match setting with
  | .config =>
    (fill setting (readPathValue label) given.config value).map fun config =>
      { given with config }
  | .output =>
    let choices := OutputFormat.all.map fun format => (format.name, format)
    (fill setting (readChoice label choices) given.output value).map fun output =>
      { given with output }
  | .policy =>
    (fill setting (readChoice label policyChoices) given.policy value).map fun policy =>
      { given with policy }
  | .workers =>
    (fill setting readWorkers given.workers value).map fun workers => { given with workers }
  | .saveTo =>
    (fill setting (readPathValue label) given.saveTo value).map fun saveTo =>
      { given with saveTo }

/-- Take an argument without a name. -/
def place (place : Place) (value : String) (given : Given) : Except Usage Given :=
  let label := Usage.placeLabel place
  match place with
  | .catalog =>
    (readPathValue label value).map fun catalog => { given with catalog := some catalog }
  | .records =>
    (readPathValue label value).map fun records => { given with records := some records }
  | .shell =>
    let choices := Shell.all.map fun shell => (shell.name, shell)
    (readChoice label choices value).map fun shell => { given with shell := some shell }

/-- Whether anything is given at all. -/
def isEmpty (given : Given) : Bool :=
  given == {}

/-- The configuration that the environment names has to be a path where none is given. -/
def checkEnvironment (environment : Option String) (given : Given) : Except Usage Unit :=
  match given.config, environment with
  | none, some value => (given.assign .config value).map fun _ => ()
  | _, _ => .ok ()

/-- Quiet and more detail exclude each other at one level. -/
def checkExclusive (given : Given) : Except Usage Unit :=
  if given.quiet && given.verbose != 0 then
    .error (.exclusive (.switch .quiet) (.switch .verbose))
  else
    .ok ()

/-! ## Together -/

/-- The command of a subcommand.  All its places have to be filled. -/
def command (subcommand : Subcommand) (given : Given) : Except Usage Command :=
  let missing : Usage :=
    .missingPlaces (subcommand.places.filter fun
      | .catalog => given.catalog.isNone
      | .records => given.records.isNone
      | .shell => given.shell.isNone)
  match subcommand with
  | .validate =>
    match given.catalog with
    | some catalog => .ok (.validate catalog)
    | none => .error missing
  | .transform =>
    match given.catalog, given.records with
    | some catalog, some records =>
      .ok (.transform
        { catalog
          records
          policy := given.policy
          workers := given.workers
          saveTo := given.saveTo
          lazy := given.lazy })
    | _, _ => .error missing
  | .masks => .ok .masks
  | .completions =>
    match given.shell with
    | some shell => .ok (.completions shell)
    | none => .error missing

/-- The arguments from what is given ahead of the subcommand, what is given after it, and the
configuration that the environment names. -/
def arguments (above within : Given) (environment : Option String) (command : Command) :
    Arguments where
  verbose := if within.verbose = 0 then above.verbose else within.verbose
  quiet := above.quiet || within.quiet
  config := (within.config.or above.config).or environment
  output := within.output.or above.output
  noColor := above.noColor || within.noColor
  command

end Given

end Crosswalk.CommandLine
