import Crosswalk.CommandLine.Arguments
import Crosswalk.Job.Basic

/-!
# Transforming records

The records of a file are transformed by a catalog, in parts, and the results are printed or saved
to a file.  Only a batch that was run writes to the file.
-/

set_option autoImplicit false

namespace Crosswalk

namespace Records

/-- Save records under a path, in the form that its extension stands for. -/
def save (tree : Files.Tree) (path : String) (records : List Json) :
    Except Files.FileError Files.Tree :=
  tree.save path (toText (Format.ofPath path) records)

end Records

namespace Report

/-- The outputs with the places of their records. -/
def outputs (report : Report) : List (Nat × Json) :=
  report.successes.map fun (index, record) => (index, .object record)

end Report

/-- A failed record as data. -/
def failureJson (index : Nat) (error : Error) : Json :=
  .object
    [("index", .ofNat index), ("kind", .string error.className),
      ("message", .string error.message)]

namespace Job

open CommandLine (TransformArguments)

/-- How a batch is run, after arguments and settings. -/
structure BatchPlan where
  policy : FailurePolicy
  workers : Nat
  validation : LinkValidation
  deriving DecidableEq, Repr

/-- Arguments go before settings, and there is always a worker. -/
def BatchPlan.of (arguments : TransformArguments) (settings : EngineSettings) : BatchPlan where
  policy := arguments.policy.getD settings.policy
  workers := max (arguments.workers.getD settings.workers) 1
  validation := if arguments.lazy then .lazy else settings.validation

/-- The results of a batch as data; saved records are not repeated. -/
def batchJson (savedTo : Option String) (summary : BatchSummary) (report : Report) : Json :=
  let results : List (String × Json) :=
    match savedTo with
    | some path => [("saved_to", .string path)]
    | none => [("records", .array (report.outputs.map Prod.snd))]
  .object
    ([("summary", summary.toJson)] ++ results
      ++ [("failures", .array (report.failures.map fun (index, e) => failureJson index e))])

/-- The results of a batch for people. -/
def batchItems (savedTo : Option String) (summary : BatchSummary) (report : Report) :
    List Printed :=
  let outputs := report.outputs
  let results : List Printed :=
    match savedTo with
    | some path =>
      [.success ("✓ Wrote " ++ toString outputs.length ++ " record(s) to " ++ path)]
    | none => .heading "Records" :: outputs.map fun (index, record) => .record index record
  let failures : List Printed :=
    if report.failures.isEmpty then []
    else .heading "Failures" :: report.failures.map fun (index, e) => .failure index e.message
  results ++ failures ++ [.heading "Summary", .batchSummary summary]

/-- Save the outputs of a batch. -/
def saveOutputs (path : String) (report : Report) : Job Unit := do
  let records := report.outputs.map Prod.snd
  let saved ← ofExcept (fun e => .io e.message) (Records.save (← tree) path records)
  setTree saved
  Job.report [.recordsSaved path records.length]

/-- Run a batch in parts. -/
def runBatch (session : Session) (engine : Engine) (plan : BatchPlan) (records : List Json) :
    Job Report := do
  Job.report (Event.ofPartitions engine plan.policy plan.workers session.schedule records)
  pure (runPartitioned engine plan.policy plan.workers session.schedule records)

/-- What is said before a batch is run. -/
def batchNotice (plan : BatchPlan) (records : List Json) : String :=
  "Transforming " ++ toString records.length ++ " record(s) with " ++ toString plan.workers
    ++ " worker(s), policy '" ++ plan.policy.text ++ "'"

def transform (session : Session) (arguments : TransformArguments) : Job Unit :=
  timed "transform_command" do
    if arguments.saveTo.any fun path => Files.samePath path arguments.records then
      throw (.invalidArguments "--save-to must not overwrite the input records")
    let plan := BatchPlan.of arguments session.engine
    print session [.info ("Loading catalog: " ++ arguments.catalog)]
    let catalog ← loadCatalog arguments.catalog
    let engine ← buildEngine catalog plan.validation
    let records ← loadRecords arguments.records
    print session [.info (batchNotice plan records)]
    let report ← runBatch session engine plan records
    match arguments.saveTo with
    | some path => saveOutputs path report
    | none => pure ()
    let summary : BatchSummary := ⟨report.summary, session.startedAt, session.duration⟩
    print session
      (if session.console.format = .human then batchItems arguments.saveTo summary report
      else [.data (batchJson arguments.saveTo summary report)])
    Job.report [.transformFinished]
    if 0 < summary.counts.failed then
      throw (.recordsFailed summary.counts.failed summary.counts.submitted)

end Job

end Crosswalk
