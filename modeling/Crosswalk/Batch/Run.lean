import Crosswalk.Batch.Report

/-!
# Running a batch

The records of a batch are transformed in order.  Under the halting policy the first failure is
the last outcome.
-/

set_option autoImplicit false

namespace Crosswalk

/-- The loop over the records of a part of `total` records, of which the first left stands at
`position`: the outcomes, and whether a failure has stopped the loop before the last record. -/
def takeFrom (engine : Engine) (policy : FailurePolicy) (offset total : Nat) :
    Nat → List Json → List Outcome × Bool
  | _, [] => ([], false)
  | position, record :: rest =>
    let outcome : Outcome := ⟨offset + position, engine.transform record⟩
    if outcome.failed && policy == .halt then
      ([outcome], position + 1 < total)
    else
      let (outcomes, halted) := takeFrom engine policy offset total (position + 1) rest
      (outcome :: outcomes, halted)

/-- Run a part of an input that starts at an offset.  A batch that ends at its last record has
not halted, even if that record fails. -/
def runFrom (engine : Engine) (policy : FailurePolicy) (records : List Json) (offset : Nat) :
    Report :=
  let (outcomes, halted) := takeFrom engine policy offset records.length 0 records
  ⟨outcomes, halted, records.length⟩

/-- Run a whole input. -/
def runAll (engine : Engine) (policy : FailurePolicy) (records : List Json) : Report :=
  runFrom engine policy records 0

end Crosswalk
