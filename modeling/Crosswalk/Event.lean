import Crosswalk.Batch.Pool
import Crosswalk.RunId

/-!
# Events

What the program reports while it works, apart from its results.  An event is known by what
happened; its severity, its origin, its wording and its details follow from that.  The events of a
computation are a function of the computation's input.
-/

set_option autoImplicit false

namespace Crosswalk

/-- Severities, the most severe first. -/
inductive Level where
  | error
  | warn
  | info
  | debug
  | trace
  deriving DecidableEq, Repr

namespace Level

def rank : Level → Nat
  | .error => 1
  | .warn => 2
  | .info => 3
  | .debug => 4
  | .trace => 5

def name : Level → String
  | .error => "ERROR"
  | .warn => "WARN"
  | .info => "INFO"
  | .debug => "DEBUG"
  | .trace => "TRACE"

end Level

inductive Event where
  | catalogRead (path : String) (bytes : Nat)
  | catalogBuilt (summary : CatalogSummary)
  | linkOverwrites (link : EntryId) (destination : String)
  | engineReady (links masks : Nat) (validation : LinkValidation)
  | linkApplied (link : EntryId) (source destination : String) (defaulted : Bool)
  | recordFailed (index : Nat) (error : Error)
  | batchFinished (offset : Nat) (summary : ReportSummary)
  | loggingStarted (run : RunId)
  | commandStarted (verbosity : Nat)
  | catalogValidated (links : Nat)
  | recordsRead (path : String) (count : Nat)
  | recordsSaved (path : String) (count : Nat)
  | transformFinished
  | dataWritten (bytes : Nat)
  | operationCompleted (operation : String)

namespace Event

def level : Event → Level
  | .linkOverwrites _ _ | .recordFailed _ _ => .warn
  | .batchFinished _ _ | .loggingStarted _ | .commandStarted _ | .catalogValidated _
  | .recordsSaved _ _ => .info
  | .catalogRead _ _ | .catalogBuilt _ | .engineReady _ _ _ | .recordsRead _ _
  | .transformFinished | .operationCompleted _ => .debug
  | .linkApplied _ _ _ _ | .dataWritten _ => .trace

/-- The part of the program that the event comes from. -/
def origin : Event → String
  | .catalogRead _ _ => "sttm_core::catalog::loader"
  | .catalogBuilt _ | .linkOverwrites _ _ => "sttm_core::catalog"
  | .engineReady _ _ _ | .linkApplied _ _ _ _ => "sttm_core::translation::engine"
  | .recordFailed _ _ | .batchFinished _ _ => "sttm_core::translation::batch"
  | .loggingStarted _ => "sttm::logging"
  | .commandStarted _ => "sttm"
  | .catalogValidated _ => "sttm::handlers::validate"
  | .recordsRead _ _ => "sttm::handlers::utils"
  | .recordsSaved _ _ | .transformFinished => "sttm::handlers::transform"
  | .dataWritten _ => "sttm::output"
  | .operationCompleted _ => "sttm::logging::timing"

def message : Event → String
  | .catalogRead _ _ => "Loading catalog"
  | .catalogBuilt _ => "Catalog constructed"
  | .linkOverwrites _ _ =>
    "Destination field is written by more than one mapping link; the last one wins"
  | .engineReady _ _ _ => "Transformation engine ready"
  | .linkApplied _ _ _ _ => "Mapping link applied"
  | .recordFailed _ _ => "Record transformation failed"
  | .batchFinished _ _ => "Batch finished"
  | .loggingStarted _ => "Logging system initialized"
  | .commandStarted _ => "Executing command"
  | .catalogValidated _ => "Catalog validated"
  | .recordsRead _ _ => "Loaded input records"
  | .recordsSaved _ _ => "Saved transformed records"
  | .transformFinished => "Transform finished"
  | .dataWritten _ => "Writing formatted data"
  | .operationCompleted _ => "Operation completed"

/-- The name of a way of checking links, in events. -/
def validationName : LinkValidation → String
  | .eager => "Eager"
  | .lazy => "Lazy"

/-- The details besides the message. -/
def details : Event → Fields Json
  | .catalogRead path bytes => [("path", .string path), ("bytes", .ofNat bytes)]
  | .catalogBuilt summary =>
    [("sources", .ofNat summary.sources), ("destinations", .ofNat summary.destinations),
      ("transforms", .ofNat summary.maskUses), ("links", .ofNat summary.links)]
  | .linkOverwrites link destination =>
    [("link", .ofUInt64 link), ("destination", .string destination)]
  | .engineReady links masks validation =>
    [("links", .ofNat links), ("masks", .ofNat masks),
      ("validation", .string (validationName validation))]
  | .linkApplied link source destination defaulted =>
    [("link", .ofUInt64 link), ("source", .string source), ("destination", .string destination),
      ("defaulted", .bool defaulted)]
  | .recordFailed index error => [("index", .ofNat index), ("error", .string error.message)]
  | .batchFinished offset summary =>
    [("offset", .ofNat offset), ("submitted", .ofNat summary.submitted),
      ("succeeded", .ofNat summary.succeeded), ("failed", .ofNat summary.failed),
      ("halted", .bool summary.halted)]
  | .loggingStarted run => [("run_id", .string run.text)]
  | .commandStarted verbosity => [("verbosity", .ofNat verbosity)]
  | .catalogValidated links => [("links", .ofNat links)]
  | .recordsRead path count => [("path", .string path), ("count", .ofNat count)]
  | .recordsSaved path count => [("path", .string path), ("count", .ofNat count)]
  | .transformFinished => []
  | .dataWritten bytes => [("bytes", .ofNat bytes)]
  | .operationCompleted operation => [("operation", .string operation)]

/-- The message and the details. -/
def fields (event : Event) : Fields Json :=
  ("message", .string event.message) :: event.details

/-! ## The events of computations -/

/-- Building a catalog. -/
def ofCatalog (built : Except Error Catalog) : List Event :=
  match built with
  | .ok catalog => [.catalogBuilt catalog.summary]
  | .error _ => []

/-- Checking the links of a catalog. -/
def ofCheck (catalog : Catalog) (registry : Registry) : List Event :=
  (catalog.overwritingLinks registry).filterMap fun link =>
    (catalog.destinations.byId? link.destination).map fun destination =>
      .linkOverwrites link.id destination.name

/-- Building an engine. -/
def ofBuild (catalog : Catalog) (registry : Registry) (validation : LinkValidation) :
    List Event :=
  let checks :=
    match validation with
    | .eager => ofCheck catalog registry
    | .lazy => []
  let ready :=
    match Engine.build catalog registry validation with
    | .ok engine => [.engineReady engine.links.length registry.size validation]
    | .error _ => []
  checks ++ ready

/-- Transforming a record. -/
def ofTransform (engine : Engine) (record : Json) : List Event :=
  (engine.assignments record).map fun a =>
    .linkApplied a.link.id a.source.name a.destination.name a.defaulted

/-- The records of a batch and their outcomes. -/
def ofOutcomes (engine : Engine) : List Json → List Outcome → List Event
  | record :: records, outcome :: outcomes =>
    ofTransform engine record
      ++ (match outcome.result with
        | .ok _ => []
        | .error e => [.recordFailed outcome.index e])
      ++ ofOutcomes engine records outcomes
  | _, _ => []

/-- Running a part of an input. -/
def ofRun (engine : Engine) (policy : FailurePolicy) (records : List Json) (offset : Nat) :
    List Event :=
  let report := runFrom engine policy records offset
  ofOutcomes engine records report.outcomes ++ [.batchFinished offset report.summary]

/-- Running an input in parts, one part after another. -/
def ofPartitions (engine : Engine) (policy : FailurePolicy) (workers : Nat)
    (schedule : Pool.Schedule) (records : List Json) : List Event :=
  (poolAfter engine policy workers schedule records).finished.flatMap fun (range, _) =>
    ofRun engine policy (range.slice records) range.first

end Event

end Crosswalk
