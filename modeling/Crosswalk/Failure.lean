import Crosswalk.Output.Console
import Crosswalk.Error
import Crosswalk.Settings

/-!
# Failures of commands

Why a command ends without success.  Every sort of failure has an exit code of its own, and its
message follows a label.
-/

set_option autoImplicit false

namespace Crosswalk

inductive Failure where
  | io (message : String)
  | core (error : Error)
  | fileNotFound (path : String)
  | invalidRecords (path message : String)
  | settings (fault : SettingsFault)
  /-- Arguments that do not go together. -/
  | invalidArguments (message : String)
  | recordsFailed (failed submitted : Nat)
  | json (cause : DecodeError)
  | yaml (cause : DecodeError)
  | other (message : String)
  deriving DecidableEq

namespace Failure

def message : Failure → String
  | .io message => "IO error: " ++ message
  | .core error => error.message
  | .fileNotFound path => "File not found: " ++ path
  | .invalidRecords path message => "Invalid record input " ++ path ++ ": " ++ message
  | .settings fault => "Configuration error: " ++ fault.message
  | .invalidArguments message => "Invalid arguments: " ++ message
  | .recordsFailed failed submitted =>
    toString failed ++ " of " ++ toString submitted ++ " record(s) failed to transform"
  | .json cause => "JSON error: " ++ cause.message
  | .yaml cause => "YAML error: " ++ cause.message
  | .other message => message

def exitCode : Failure → Nat
  | .io _ => 1
  | .core error => if error.isCatalogLevel then 2 else 3
  | .fileNotFound _ => 4
  | .invalidRecords _ _ => 5
  | .settings _ => 6
  | .invalidArguments _ => 7
  | .recordsFailed _ _ => 8
  | .json _ => 12
  | .yaml _ => 13
  | .other _ => 99

/-- The failure is one of usage, for which there is help. -/
def hasHelp : Failure → Bool
  | .invalidArguments _ => true
  | _ => false

def label : Failure → String
  | .core error => if error.isCatalogLevel then "Catalog error:" else "Error:"
  | _ => "Error:"

/-- The message after the label.  A fault of a catalog has no label of its own here, and what it
is about follows in brackets. -/
def report : Failure → String
  | .core (.catalog fault) =>
    match fault.entity? with
    | some entity => fault.message ++ " (" ++ entity ++ ")"
    | none => fault.message
  | failure => failure.message

/-- The line that tells of the failure. -/
def text (color : Bool) (failure : Failure) : String :=
  let label := failure.label
  (if color then Paint.boldRed.apply label else label) ++ " " ++ failure.report

end Failure

end Crosswalk
