import Crosswalk.Batch.Policy
import Crosswalk.Engine

/-!
# Batch reports

The outcomes of a batch, each with the place of its record in the input.  Reports of parts of an
input are merged into one: the outcomes stand in the order of the input, and under the halting
policy those after the first failure are dropped.
-/

set_option autoImplicit false

namespace Crosswalk

/-- The result of one record, with its place in the input. -/
structure Outcome where
  index : Nat
  result : Except Error Record

namespace Outcome

def failed (outcome : Outcome) : Bool :=
  !outcome.result.isOk

end Outcome

@[ext]
structure Report where
  outcomes : List Outcome
  /-- The batch ended before its last record. -/
  halted : Bool
  /-- The number of records handed in. -/
  submitted : Nat

/-- The counts of a report. -/
structure ReportSummary where
  submitted : Nat
  processed : Nat
  succeeded : Nat
  failed : Nat
  halted : Bool
  deriving DecidableEq, Repr

namespace Report

def successes (report : Report) : List (Nat × Record) :=
  report.outcomes.filterMap fun outcome =>
    outcome.result.toOption.map fun record => (outcome.index, record)

def failures (report : Report) : List (Nat × Error) :=
  report.outcomes.filterMap fun outcome =>
    (fault? outcome.result).map fun e => (outcome.index, e)

def hasFailures (report : Report) : Bool :=
  report.outcomes.any Outcome.failed

def summary (report : Report) : ReportSummary :=
  let failed := report.failures.length
  { submitted := report.submitted
    processed := report.outcomes.length
    succeeded := report.outcomes.length - failed
    failed
    halted := report.halted }

/-- The outcomes up to the first failure, that one included. -/
def upToFailure : List Outcome → List Outcome
  | [] => []
  | outcome :: rest =>
    if outcome.failed then [outcome] else outcome :: upToFailure rest

/-- The number of records handed in to several parts. -/
def totalSubmitted : List Report → Nat
  | [] => 0
  | part :: rest => part.submitted + totalSubmitted rest

/-- One report for several parts of an input. -/
def merge (policy : FailurePolicy) (parts : List Report) : Report :=
  let submitted := totalSubmitted parts
  let outcomes := (parts.flatMap Report.outcomes).mergeSort fun a b => a.index ≤ b.index
  let anyHalted := parts.any Report.halted
  if policy = .halt ∧ outcomes.any Outcome.failed then
    let kept := upToFailure outcomes
    ⟨kept, kept.length < submitted, submitted⟩
  else
    ⟨outcomes, anyHalted, submitted⟩

end Report

end Crosswalk
