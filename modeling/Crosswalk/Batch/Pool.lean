import Crosswalk.Batch.Run

/-!
# Running a batch in parts

The input is cut into ranges, of which several are run at a time.  Whenever there is room, and no
finished range has failed under the halting policy, the next range is started; any range that runs
may be the next to finish.  The merged report does not depend on the order in which they do.
-/

set_option autoImplicit false

namespace Crosswalk

/-- The positions from `first` up to but not including `stop`. -/
structure Range where
  first : Nat
  stop : Nat
  deriving DecidableEq, Repr

namespace Range

/-- The greatest number of records in one range. -/
def greatestSize : Nat :=
  1024

/-- The number of records in each range but the last. -/
def size (total workers : Nat) : Nat :=
  let share := max workers 1
  max 1 (min ((total + share - 1) / share) greatestSize)

/-- Ranges of a size from a position to the end; `fuel` bounds their number. -/
def cutFrom (size total : Nat) : Nat → Nat → List Range
  | 0, _ => []
  | fuel + 1, first =>
    if first < total then
      ⟨first, min (first + size) total⟩ :: cutFrom size total fuel (first + size)
    else
      []

/-- The ranges that an input is cut into for a number of workers. -/
def cut (total workers : Nat) : List Range :=
  cutFrom (size total workers) total total 0

/-- The records of a range. -/
def slice {α : Type} (range : Range) (records : List α) : List α :=
  (records.drop range.first).take (range.stop - range.first)

end Range

/-- The ranges that wait, that run and that are done. -/
structure Pool where
  waiting : List Range
  running : List Range
  finished : List (Range × Report)
  /-- No further range is started. -/
  stopped : Bool

namespace Pool

def start (ranges : List Range) : Pool :=
  ⟨ranges, [], [], false⟩

/-- Start the waiting ranges while there is room, at most `room` of them. -/
def fill (workers : Nat) : Nat → Pool → Pool
  | 0, pool => pool
  | room + 1, pool =>
    if pool.stopped || workers ≤ pool.running.length then
      pool
    else
      match pool.waiting with
      | [] => pool
      | range :: rest =>
        fill workers room { pool with waiting := rest, running := pool.running ++ [range] }

/-- Let the running range at a place finish. -/
def finish (run : Range → Report) (policy : FailurePolicy) (place : Nat) (pool : Pool) : Pool :=
  match pool.running[place]? with
  | none => pool
  | some range =>
    let report := run range
    { pool with
      running := pool.running.eraseIdx place
      finished := pool.finished ++ [(range, report)]
      stopped := pool.stopped || (policy == .halt && report.hasFailures) }

/-- Which of the running ranges finishes next, by the number of those that have finished. -/
abbrev Schedule :=
  Nat → Nat

/-- Ranges finish in the order in which they start. -/
def inOrder : Schedule :=
  fun _ => 0

/-- Run until no range is left; `fuel` bounds the number of ranges. -/
def run (ranges : Range → Report) (policy : FailurePolicy) (workers : Nat)
    (schedule : Schedule) : Nat → Pool → Pool
  | 0, pool => pool
  | fuel + 1, pool =>
    let filled := fill workers workers pool
    if filled.running.isEmpty then
      filled
    else
      let place := schedule filled.finished.length % filled.running.length
      run ranges policy workers schedule fuel (finish ranges policy place filled)

end Pool

/-- Run the records of a range. -/
def runRange (engine : Engine) (policy : FailurePolicy) (records : List Json) (range : Range) :
    Report :=
  runFrom engine policy (range.slice records) range.first

/-- The report of a pool that has come to rest.  Ranges that were never started count as
submitted. -/
def Pool.report (policy : FailurePolicy) (submitted : Nat) (pool : Pool) : Report :=
  let merged := Report.merge policy (pool.finished.map Prod.snd)
  let halted :=
    match policy with
    | .halt => merged.hasFailures && merged.outcomes.length < submitted
    | .collect => merged.halted
  { merged with submitted, halted }

/-- The pool at the end of a run in parts. -/
def poolAfter (engine : Engine) (policy : FailurePolicy) (workers : Nat)
    (schedule : Pool.Schedule) (records : List Json) : Pool :=
  let ranges := Range.cut records.length workers
  Pool.run (runRange engine policy records) policy workers schedule (ranges.length + 1)
    (Pool.start ranges)

/-- The report of a run in parts. -/
def runPartitioned (engine : Engine) (policy : FailurePolicy) (workers : Nat)
    (schedule : Pool.Schedule) (records : List Json) : Report :=
  (poolAfter engine policy workers schedule records).report policy records.length

end Crosswalk
