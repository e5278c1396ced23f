import Crosswalk.Program
import Std.Time.DateTime.Timestamp

/-!
# The executable

Looks up what the program depends on, runs it, and carries out what it leaves behind.
-/

set_option autoImplicit false

namespace Crosswalk.Main

open Files (Location Node Tree)

/-- The names of the environment that the program looks at. -/
def variableNames : List String :=
  ["HOME", "XDG_CONFIG_HOME", "STTM_CONFIG", "RUST_LOG", "STTM_LOG_FORMAT", "STTM_LOG_FILE",
    "STTM_LOG_CONSOLE"]

def readEnvironment : IO (List (String × String)) := do
  let found ← variableNames.mapM fun name => do
    pure ((← IO.getEnv name).map fun value => (name, value))
  pure (found.filterMap id)

/-! ## Files -/

def pathOf (location : Location) : String :=
  "/" ++ "/".intercalate location

/-- What is at a location. -/
def probe (location : Location) : IO (Option Node) := do
  try
    let bytes ← IO.FS.readBinFile (pathOf location)
    match String.fromUTF8? bytes with
    | some text => pure (some (.file text))
    | none => pure (some (.binary bytes.toList))
  catch
    | .inappropriateType _ _ _ => pure (some (.directory []))
    | _ => pure none

/-- Look at everything on the way along some pieces of a path. -/
def explore : Location → List String → Tree → IO Tree
  | _, [], tree => pure tree
  | location, piece :: rest, tree =>
    if piece = "." then explore location rest tree
    else if piece = ".." then explore location.dropLast rest tree
    else do
      let next := location ++ [piece]
      if (tree.node? next).isSome then
        explore next rest tree
      else
        match ← probe next with
        | none => pure tree
        | some node => explore next rest { tree with root := Node.put node next tree.root }

/-- Look at everything on the way along paths. -/
def exploreAll (paths : List String) (tree : Tree) : IO Tree :=
  paths.foldlM (fun tree path => explore (tree.origin path) (Files.pieces path) tree) tree

/-- The working directory, without anything in it. -/
def bareTree : IO Tree := do
  let location := Files.pieces (← IO.currentDir).toString
  explore [] location ⟨.directory [], location⟩

/-- Write the files that are new or changed. -/
def writeChanges (before after : Tree) : IO Unit := do
  let old := before.root.files []
  for (location, text) in after.root.files [] do
    if old.lookup location != some text then
      IO.FS.createDirAll (pathOf location.dropLast)
      IO.FS.writeFile (pathOf location) text

/-! ## The run -/

def now : IO Timestamp := do
  let time ← Std.Time.Timestamp.now
  pure ⟨time.val.second.val, time.val.nano.val.toNat⟩

/-- The number of processors, as far as it can be found out. -/
def processors : IO Nat := do
  try
    let lines := (← IO.FS.readFile "/proc/cpuinfo").splitOn "\n"
    pure (max 1 (lines.filter fun line => line.startsWith "processor").length)
  catch _ => pure 1

/-- The paths that a command line is about, after those of settings files. -/
def commandPaths : CommandLine.Command → List String
  | .validate catalog => [catalog]
  | .transform arguments =>
    [arguments.catalog, arguments.records] ++ arguments.saveTo.toList
  | .masks | .completions _ => []

/-- The circumstances, with the files that a command line is about. -/
def lookAround (circumstances : Circumstances) (arguments : CommandLine.Arguments) :
    IO Circumstances := do
  let usual := Settings.usualPaths circumstances.environment
  let tree ← exploreAll (arguments.config.toList ++ usual) circumstances.tree
  let settings := ({ circumstances with tree }).settings arguments
  let setup :=
    Log.Setup.of arguments.verbosity arguments.quiet (settings.toOption.map Settings.logging)
      circumstances.environment
  let tree ← exploreAll (commandPaths arguments.command ++ setup.file.toList) tree
  pure { circumstances with tree }

/-- Add the lines of the log to its file. -/
def writeLog (stamp : String) (log : Option (String × List Log.Line)) : IO Unit :=
  match log with
  | none => pure ()
  | some (path, lines) => do
    let handle ← IO.FS.Handle.mk path .append
    for line in lines do
      handle.putStrLn (line.text stamp)

def writeErrors (stamp : String) (errors : List ErrorLine) : IO Unit := do
  for line in errors do
    match line with
    | .plain text => IO.eprintln text
    | .log line => IO.eprintln (line.text stamp)

/-- The program with the time that it takes, which a first run shows. -/
def timedRun (circumstances : Circumstances) (arguments : List String) : IO Ending := do
  let start ← IO.monoMsNow
  let trial := run circumstances arguments
  let size := trial.output.length
  let stop ← IO.monoMsNow
  if size = 0 then pure trial
  else pure (run { circumstances with duration := (stop - start : Nat) } arguments)

end Crosswalk.Main

open Crosswalk in
def main (arguments : List String) : IO UInt32 := do
  let stdout ← IO.getStdout
  let startedAt ← Main.now
  let bytes ← IO.getRandomBytes 16
  let circumstances : Circumstances :=
    { environment := ← Main.readEnvironment
      tree := ← Main.bareTree
      terminal := ← stdout.isTty
      workers := ← Main.processors
      schedule := Pool.inOrder
      startedAt
      duration := 0
      run := RunId.ofBytes bytes.toList }
  let circumstances ←
    match circumstances.parse arguments with
    | .ok parsed => Main.lookAround circumstances parsed
    | .error _ => pure circumstances
  let ending ← Main.timedRun circumstances arguments
  try
    Main.writeChanges circumstances.tree ending.tree
    stdout.putStr ending.output
    stdout.flush
    Main.writeLog startedAt.text ending.log
    Main.writeErrors startedAt.text ending.errors
    pure (UInt32.ofNat ending.exitCode)
  catch e =>
    let failure : Failure := .io e.toString
    IO.eprintln (failure.text false)
    pure (UInt32.ofNat failure.exitCode)
