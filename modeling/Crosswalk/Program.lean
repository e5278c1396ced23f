import Crosswalk.CommandLine.Completion
import Crosswalk.CommandLine.Reader
import Crosswalk.Job.Masks
import Crosswalk.Job.Transform
import Crosswalk.Job.Validate
import Crosswalk.Log.Line

/-!
# The program

The program as a function of its arguments and of the circumstances in which it is started: what it
prints, what it logs, which files it leaves and with which code it ends.
-/

set_option autoImplicit false

namespace Crosswalk

open CommandLine

/-- Everything that the program depends on besides its arguments. -/
structure Circumstances where
  environment : List (String × String)
  tree : Files.Tree
  /-- The output goes to a terminal, which can show colours. -/
  terminal : Bool
  /-- The number of workers that the machine can run at a time. -/
  workers : Nat
  /-- The order in which parts of a batch finish. -/
  schedule : Pool.Schedule
  startedAt : Timestamp
  duration : Int
  run : RunId

namespace Circumstances

/-- The arguments of the program; the environment may name the settings. -/
def parse (circumstances : Circumstances) (arguments : List String) : Except Usage Arguments :=
  CommandLine.parse (circumstances.environment.lookup "STTM_CONFIG") arguments

def settings (circumstances : Circumstances) (arguments : Arguments) :
    Except SettingsFault Settings :=
  Settings.load circumstances.workers circumstances.tree circumstances.environment
    arguments.config

/-- Arguments go before settings; colours need a terminal and the consent of both. -/
def session (circumstances : Circumstances) (arguments : Arguments) (settings : Settings) :
    Session where
  console :=
    { format := (arguments.output.or settings.output.format).getD .human
      color := !arguments.noColor && circumstances.terminal && settings.output.color
      quiet := arguments.quiet }
  engine := settings.engine
  schedule := circumstances.schedule
  startedAt := circumstances.startedAt
  duration := circumstances.duration

end Circumstances

namespace Job

def ofCommand (session : Session) : Command → Job Unit
  | .validate catalog => validate session catalog
  | .transform arguments => transform session arguments
  | .masks => masks session
  | .completions shell => print session [.raw (completionScript shell)]

/-- The whole work of the program once its settings are known. -/
def ofArguments (session : Session) (arguments : Arguments) : Job Unit :=
  timed "cli_execution" do
    report [.commandStarted arguments.verbosity]
    ofCommand session arguments.command

end Job

/-! ## Execution -/

/-- How a command ended, what it printed, and what else it did. -/
structure Execution where
  result : Except Failure Unit
  output : String
  /-- Failures are told in colour. -/
  color : Bool
  events : List Event
  tree : Files.Tree

namespace Execution

/-- Carry out a command. -/
def ofSettings (circumstances : Circumstances) (arguments : Arguments) (settings : Settings) :
    Execution :=
  let session := circumstances.session arguments settings
  let (result, progress) :=
    (Job.ofArguments session arguments).run (Progress.start circumstances.tree)
  ⟨result, progress.text session.console, session.console.color, progress.events, progress.tree⟩

/-- Carry out a command, unless the settings cannot be had. -/
def ofArguments (circumstances : Circumstances) (arguments : Arguments)
    (settings : Except SettingsFault Settings) : Execution :=
  match settings with
  | .ok settings => ofSettings circumstances arguments settings
  | .error fault =>
    ⟨.error (.settings fault), "", circumstances.terminal, [], circumstances.tree⟩

def exitCode (execution : Execution) : Nat :=
  match execution.result with
  | .ok () => 0
  | .error failure => failure.exitCode

/-- What is said about a failure, with a hint where there is help. -/
def failureLines (execution : Execution) : List String :=
  match execution.result with
  | .ok () => []
  | .error failure =>
    failure.text execution.color
      :: if failure.hasHelp then ["", "For more information, try '--help'"] else []

end Execution

/-! ## The program with its log -/

/-- A line of the error output. -/
inductive ErrorLine where
  | plain (text : String)
  | log (line : Log.Line)

/-- What the program leaves behind. -/
structure Ending where
  exitCode : Nat
  output : String
  errors : List ErrorLine
  /-- The files as the command leaves them.  A log file is there as it was before the command. -/
  tree : Files.Tree
  /-- The file of the log and the lines that were added to it. -/
  log : Option (String × List Log.Line)

namespace Ending

/-- The ending of a command line without a command. -/
def ofUsage (circumstances : Circumstances) (usage : Usage) : Ending where
  exitCode := usage.exitCode
  output := if usage.isAnswer then usage.text else ""
  errors := if usage.isAnswer then [] else [.plain usage.text]
  tree := circumstances.tree
  log := none

/-- The files once the log is open.  A log file is made if it is not there. -/
def openLog (setup : Log.Setup) (tree : Files.Tree) : Except String Files.Tree :=
  match setup.file with
  | none => .ok tree
  | some path =>
    (tree.append path "").mapError fun e =>
      (Failure.settings (.stated ("cannot open log file " ++ path ++ ": " ++ e.message))).message

/-- The ending of a command.  A log that cannot be opened is told of, and the command is carried
out without it. -/
def ofArguments (circumstances : Circumstances) (arguments : Arguments) : Ending :=
  let settings := circumstances.settings arguments
  let logSettings := settings.toOption.map Settings.logging
  let setup :=
    Log.Setup.of arguments.verbosity arguments.quiet logSettings circumstances.environment
  let complaints := (Log.Setup.complaints logSettings circumstances.environment).map ErrorLine.plain
  match openLog setup circumstances.tree with
  | .error message =>
    let execution := Execution.ofArguments circumstances arguments settings
    { exitCode := execution.exitCode
      output := execution.output
      errors := complaints ++ [.plain ("Failed to initialize logging: " ++ message)]
        ++ execution.failureLines.map .plain
      tree := execution.tree
      log := none }
  | .ok tree =>
    let execution := Execution.ofArguments { circumstances with tree } arguments settings
    let lines := Log.Line.ofEvents setup (.loggingStarted circumstances.run :: execution.events)
    { exitCode := execution.exitCode
      output := execution.output
      errors := complaints
        ++ (if setup.file.isNone && setup.console then lines.map .log else [])
        ++ execution.failureLines.map .plain
      tree := execution.tree
      log := setup.file.map fun path => (path, lines) }

end Ending

/-- The program. -/
def run (circumstances : Circumstances) (arguments : List String) : Ending :=
  match circumstances.parse arguments with
  | .error usage => Ending.ofUsage circumstances usage
  | .ok arguments => Ending.ofArguments circumstances arguments

end Crosswalk
