import Crosswalk.Batch.Policy
import Crosswalk.Output.Format

/-!
# Arguments

What a command line asks for: one command with its own arguments, and the options that go with
every command.
-/

set_option autoImplicit false

namespace Crosswalk.CommandLine

/-- Shells for which there are completion scripts. -/
inductive Shell where
  | bash
  | zsh
  | fish
  | powerShell
  | elvish
  deriving DecidableEq, Repr

namespace Shell

def all : List Shell :=
  [.bash, .zsh, .fish, .powerShell, .elvish]

def name : Shell → String
  | .bash => "bash"
  | .zsh => "zsh"
  | .fish => "fish"
  | .powerShell => "power-shell"
  | .elvish => "elvish"

def about : Shell → String
  | .bash => "Bash shell"
  | .zsh => "Zsh shell"
  | .fish => "Fish shell"
  | .powerShell => "PowerShell"
  | .elvish => "Elvish shell"

def ofName? (name : String) : Option Shell :=
  all.find? fun shell => shell.name == name

end Shell

/-- What a batch of records is transformed with; what is not given is left to the settings. -/
structure TransformArguments where
  catalog : String
  records : String
  policy : Option FailurePolicy
  workers : Option Nat
  saveTo : Option String
  lazy : Bool
  deriving DecidableEq, Repr

inductive Command where
  | validate (catalog : String)
  | transform (arguments : TransformArguments)
  | masks
  | completions (shell : Shell)
  deriving DecidableEq, Repr

structure Arguments where
  /-- How often more detail was asked for. -/
  verbose : Nat
  quiet : Bool
  config : Option String
  output : Option OutputFormat
  noColor : Bool
  command : Command
  deriving DecidableEq, Repr

/-- The amount of detail that is wanted, none if quiet is. -/
def Arguments.verbosity (arguments : Arguments) : Nat :=
  if arguments.quiet then 0 else arguments.verbose

end Crosswalk.CommandLine
