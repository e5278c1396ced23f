import Crosswalk.Batch.Run

/-!
# The outcomes of a batch

A run has the outcomes that its records have under the policy (`outcomesFrom`), and it has halted
just when there are fewer of them than records (`runFrom_eq`).  Those outcomes are what the policy
keeps (`keep`) of the outcomes of all records (`outcomesFrom_eq_keep`), and these are one for each
record, in the order of the input.  Two parts of an input one after the other yield their outcomes one after the other
(`outcomesFrom_collect_append`), but under the halting policy a failure in the first part ends the
batch there (`outcomesFrom_halt_append_of_failure`).
-/

set_option autoImplicit false

namespace Crosswalk

open Report (upToFailure)

/-! ## Up to the first failure -/

theorem upToFailure_of_no_failure (outcomes : List Outcome)
    (clean : outcomes.any Outcome.failed = false) : upToFailure outcomes = outcomes := by
  induction outcomes with
  | nil => rfl
  | cons outcome rest ih =>
      simp only [List.any_cons, Bool.or_eq_false_iff] at clean
      simp [upToFailure, clean.1, ih clean.2]

theorem any_failed_upToFailure (outcomes : List Outcome) :
    (upToFailure outcomes).any Outcome.failed = outcomes.any Outcome.failed := by
  induction outcomes with
  | nil => rfl
  | cons outcome rest ih =>
      by_cases failed : outcome.failed = true
      · simp [upToFailure, failed]
      · simp [upToFailure, failed, ih]

theorem upToFailure_idempotent (outcomes : List Outcome) :
    upToFailure (upToFailure outcomes) = upToFailure outcomes := by
  induction outcomes with
  | nil => rfl
  | cons outcome rest ih =>
      by_cases failed : outcome.failed = true
      · simp [upToFailure, failed]
      · simp [upToFailure, failed, ih]

theorem upToFailure_append_of_failure (first rest : List Outcome)
    (failure : first.any Outcome.failed = true) :
    upToFailure (first ++ rest) = upToFailure first := by
  induction first with
  | nil => simp at failure
  | cons outcome first ih =>
      by_cases failed : outcome.failed = true
      · simp [upToFailure, failed]
      · have later : first.any Outcome.failed = true := by simpa [failed] using failure
        simp [upToFailure, failed, ih later]

theorem upToFailure_append_of_no_failure (first rest : List Outcome)
    (clean : first.any Outcome.failed = false) :
    upToFailure (first ++ rest) = first ++ upToFailure rest := by
  induction first with
  | nil => rfl
  | cons outcome first ih =>
      simp only [List.any_cons, Bool.or_eq_false_iff] at clean
      simp [upToFailure, clean.1, ih clean.2]

theorem upToFailure_sublist (outcomes : List Outcome) :
    (upToFailure outcomes).Sublist outcomes := by
  induction outcomes with
  | nil => exact List.Sublist.slnil
  | cons outcome rest ih =>
      by_cases failed : outcome.failed = true
      · simp [upToFailure, failed]
      · simpa [upToFailure, failed] using ih

/-! ## What a policy keeps -/

/-- The outcomes that a batch yields under a policy, out of those of all its records. -/
def keep : FailurePolicy → List Outcome → List Outcome
  | .halt, outcomes => upToFailure outcomes
  | .collect, outcomes => outcomes

theorem any_failed_keep (policy : FailurePolicy) (outcomes : List Outcome) :
    (keep policy outcomes).any Outcome.failed = outcomes.any Outcome.failed := by
  cases policy with
  | halt => exact any_failed_upToFailure outcomes
  | collect => rfl

theorem keep_of_no_failure (policy : FailurePolicy) (outcomes : List Outcome)
    (clean : outcomes.any Outcome.failed = false) : keep policy outcomes = outcomes := by
  cases policy with
  | halt => exact upToFailure_of_no_failure outcomes clean
  | collect => rfl

theorem keep_sublist (policy : FailurePolicy) (outcomes : List Outcome) :
    (keep policy outcomes).Sublist outcomes := by
  cases policy with
  | halt => exact upToFailure_sublist outcomes
  | collect => exact List.Sublist.refl outcomes

theorem upToFailure_keep (policy : FailurePolicy) (outcomes : List Outcome) :
    upToFailure (keep policy outcomes) = upToFailure outcomes := by
  cases policy with
  | halt => exact upToFailure_idempotent outcomes
  | collect => rfl

/-- What comes before the first failure of two parts together is settled part by part, whatever
was kept of the first part. -/
theorem upToFailure_keep_append (policy : FailurePolicy) (first rest other : List Outcome)
    (same : upToFailure rest = upToFailure other) :
    upToFailure (keep policy first ++ rest) = upToFailure (first ++ other) := by
  by_cases failure : first.any Outcome.failed = true
  · have kept : (keep policy first).any Outcome.failed = true := by
      rw [any_failed_keep, failure]
    rw [upToFailure_append_of_failure _ _ kept, upToFailure_append_of_failure _ _ failure,
      upToFailure_keep]
  · have clean : first.any Outcome.failed = false := by simpa using failure
    rw [keep_of_no_failure _ _ clean, upToFailure_append_of_no_failure _ _ clean,
      upToFailure_append_of_no_failure _ _ clean, same]

/-! ## Records taken in order -/

/-- The outcomes of records of which the first has the given place in the input. -/
def outcomesFrom (engine : Engine) (policy : FailurePolicy) : Nat → List Json → List Outcome
  | _, [] => []
  | index, record :: rest =>
    let outcome : Outcome := ⟨index, engine.transform record⟩
    if outcome.failed && policy == .halt then
      [outcome]
    else
      outcome :: outcomesFrom engine policy (index + 1) rest

section Run
variable (engine : Engine)

theorem takeFrom_outcomes (policy : FailurePolicy) (offset total position : Nat)
    (records : List Json) :
    (takeFrom engine policy offset total position records).1 =
      outcomesFrom engine policy (offset + position) records := by
  induction records generalizing position with
  | nil => rfl
  | cons record rest ih =>
      have next := ih (position + 1)
      rw [takeFrom, outcomesFrom]
      split
      · rfl
      · exact congrArg (List.cons _) next

/-- The flag is set at a failure with records behind it, and these are the records that have no
outcome. -/
theorem takeFrom_halted (policy : FailurePolicy) (offset total position : Nat)
    (records : List Json) (left : position + records.length = total) :
    (takeFrom engine policy offset total position records).2 = true ↔
      (takeFrom engine policy offset total position records).1.length < records.length := by
  induction records generalizing position with
  | nil => simp [takeFrom]
  | cons record rest ih =>
      rw [List.length_cons] at left
      have next := ih (position + 1) (by omega)
      rw [takeFrom]
      split
      · simp only [decide_eq_true_eq, List.length_cons, List.length_nil]
        omega
      · simp only [next, List.length_cons]
        omega

theorem runFrom_outcomes (policy : FailurePolicy) (records : List Json) (offset : Nat) :
    (runFrom engine policy records offset).outcomes = outcomesFrom engine policy offset records :=
  takeFrom_outcomes engine policy offset records.length 0 records

theorem runFrom_halted_iff (policy : FailurePolicy) (records : List Json) (offset : Nat) :
    (runFrom engine policy records offset).halted = true ↔
      (runFrom engine policy records offset).outcomes.length < records.length :=
  takeFrom_halted engine policy offset records.length 0 records (Nat.zero_add _)

theorem runFrom_eq (policy : FailurePolicy) (records : List Json) (offset : Nat) :
    runFrom engine policy records offset =
      ⟨outcomesFrom engine policy offset records,
        (outcomesFrom engine policy offset records).length < records.length, records.length⟩ := by
  have outcomes := runFrom_outcomes engine policy records offset
  apply Report.ext
  · exact outcomes
  · rw [Bool.eq_iff_iff, runFrom_halted_iff, outcomes, decide_eq_true_eq]
  · rfl

theorem outcomesFrom_eq_keep (policy : FailurePolicy) (index : Nat) (records : List Json) :
    outcomesFrom engine policy index records =
      keep policy (outcomesFrom engine .collect index records) := by
  induction records generalizing index with
  | nil => cases policy <;> rfl
  | cons record rest ih =>
      cases policy with
      | collect => rfl
      | halt =>
          by_cases failed : (Outcome.mk index (engine.transform record)).failed = true
          · simp [outcomesFrom, keep, upToFailure, failed]
          · have tail := ih (index + 1)
            simp only [keep] at tail
            simp [outcomesFrom, keep, upToFailure, failed, tail]

/-- The outcomes of all records are numbered one after another. -/
theorem outcomesFrom_collect_indices (index : Nat) (records : List Json) :
    (outcomesFrom engine .collect index records).map Outcome.index =
      List.range' index records.length := by
  induction records generalizing index with
  | nil => rfl
  | cons record rest ih => simp [outcomesFrom, List.range'_succ, ih]

theorem outcomesFrom_collect_length (index : Nat) (records : List Json) :
    (outcomesFrom engine .collect index records).length = records.length := by
  have lengths := congrArg List.length (outcomesFrom_collect_indices engine index records)
  simpa using lengths

theorem outcomesFrom_collect_ascending (index : Nat) (records : List Json) :
    (outcomesFrom engine .collect index records).Pairwise fun a b => a.index < b.index := by
  have ascending : (List.range' index records.length).Pairwise (· < ·) :=
    List.pairwise_lt_range'
  rw [← outcomesFrom_collect_indices engine index records] at ascending
  exact List.pairwise_map.mp ascending

/-- A batch without a failure has taken every record. -/
theorem outcomesFrom_length_of_no_failure (policy : FailurePolicy) (index : Nat)
    (records : List Json)
    (clean : (outcomesFrom engine policy index records).any Outcome.failed = false) :
    (outcomesFrom engine policy index records).length = records.length := by
  rw [outcomesFrom_eq_keep, any_failed_keep] at clean
  rw [outcomesFrom_eq_keep, keep_of_no_failure _ _ clean, outcomesFrom_collect_length]

theorem outcomesFrom_collect_append (index : Nat) (front back : List Json) :
    outcomesFrom engine .collect index (front ++ back) =
      outcomesFrom engine .collect index front ++
        outcomesFrom engine .collect (index + front.length) back := by
  induction front generalizing index with
  | nil => rfl
  | cons record front ih =>
      have shifted : index + 1 + front.length = index + (front.length + 1) := by omega
      simp [outcomesFrom, ih, shifted]

/-- Under the halting policy the records after a failure are never taken. -/
theorem outcomesFrom_halt_append_of_failure (index : Nat) (front back : List Json)
    (failure : (outcomesFrom engine .halt index front).any Outcome.failed = true) :
    outcomesFrom engine .halt index (front ++ back) = outcomesFrom engine .halt index front := by
  rw [outcomesFrom_eq_keep, any_failed_keep] at failure
  rw [outcomesFrom_eq_keep, outcomesFrom_eq_keep _ _ _ front, outcomesFrom_collect_append]
  exact upToFailure_append_of_failure _ _ failure

theorem runFrom_halted_of_no_failure (policy : FailurePolicy) (index : Nat)
    (records : List Json) (clean : (runFrom engine policy records index).hasFailures = false) :
    (runFrom engine policy records index).halted = false := by
  rw [runFrom_eq] at clean ⊢
  have full := outcomesFrom_length_of_no_failure engine policy index records clean
  simp [full]

theorem runFrom_collect_halted (index : Nat) (records : List Json) :
    (runFrom engine .collect records index).halted = false := by
  rw [runFrom_eq]
  simp [outcomesFrom_collect_length]

end Run

end Crosswalk
