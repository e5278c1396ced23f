import Crosswalk.Catalog.Load
import Crosswalk.Event
import Crosswalk.Failure
import Crosswalk.Records

/-!
# Jobs

What a command does: it reads and writes files, prints items and reports events, and ends well or
with a failure.  Whatever it did before a failure stays done.  Events are kept apart from the files:
the lines that they add to a log file are not in the tree while the job runs, nor after it, so a job
that is to read its own log file is not described here.
-/

set_option autoImplicit false

namespace Crosswalk

/-- The items that a console gives as data, with the size of their text. -/
def Event.ofPrinted (console : Console) : Printed → List Event
  | .data value => [.dataWritten (console.format.write value).utf8ByteSize]
  | .record _ value =>
    if console.format = .human then []
    else [.dataWritten (console.format.write value).utf8ByteSize]
  | _ => []

/-- The circumstances of a job. -/
structure Session where
  console : Console
  engine : EngineSettings
  /-- The order in which parts of a batch finish. -/
  schedule : Pool.Schedule
  /-- When batches start, and how many milliseconds they take. -/
  startedAt : Timestamp
  duration : Int

/-- What has been done so far. -/
structure Progress where
  tree : Files.Tree
  printed : List Printed
  events : List Event

abbrev Job (α : Type) :=
  ExceptT Failure (StateM Progress) α

namespace Progress

def start (tree : Files.Tree) : Progress :=
  ⟨tree, [], []⟩

/-- The text of everything printed. -/
def text (console : Console) (progress : Progress) : String :=
  String.join (progress.printed.map console.text)

end Progress

namespace Job

/-- Report events. -/
def report (events : List Event) : Job Unit :=
  modify fun progress => { progress with events := progress.events ++ events }

/-- Print items one after another. -/
def print (session : Session) (items : List Printed) : Job Unit :=
  modify fun progress =>
    { progress with
      printed := progress.printed ++ items
      events := progress.events ++ items.flatMap (Event.ofPrinted session.console) }

def tree : Job Files.Tree := do
  pure (← get).tree

def setTree (tree : Files.Tree) : Job Unit :=
  modify fun progress => { progress with tree }

/-- Go on with a value, or fail with the error in its place. -/
def ofExcept {ε α : Type} (fail : ε → Failure) : Except ε α → Job α
  | .ok a => pure a
  | .error e => throw (fail e)

/-- Report the end of an operation, be it a failure or not. -/
def timed {α : Type} (operation : String) (job : Job α) : Job α := fun progress =>
  let (result, done) := job.run progress
  (result, { done with events := done.events ++ [.operationCompleted operation] })

/-! ## Input -/

/-- Fail if nothing is at a path. -/
def need (path : String) : Job Unit := do
  if (← tree).contains path then pure () else throw (.fileNotFound path)

/-- The catalog in a file. -/
def loadCatalog (path : String) : Job Catalog := do
  need path
  let text ← ofExcept .core (Catalog.readText (← tree) path)
  report [.catalogRead path text.utf8ByteSize]
  let catalog := Catalog.ofText (CatalogFormat.ofPath path) text
  report (Event.ofCatalog catalog)
  ofExcept .core catalog

/-- The engine of a catalog with the built-in masks. -/
def buildEngine (catalog : Catalog) (validation : LinkValidation) : Job Engine := do
  report (Event.ofBuild catalog Registry.builtIn validation)
  ofExcept .core (Engine.build catalog Registry.builtIn validation)

/-- The records in a file. -/
def loadRecords (path : String) : Job (List Json) := do
  need path
  let text ← ofExcept (fun e => .io e.message) ((← tree).read path)
  let records ← ofExcept (fun fault => .invalidRecords path fault.message)
    (Records.ofText (Records.Format.ofPath path) text)
  report [.recordsRead path records.length]
  pure records

end Job

end Crosswalk
