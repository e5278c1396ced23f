import Crosswalk.Output.Summary
import Crosswalk.Proofs.Batch.Interleaving

/-!
# The counts of a report

A summary is `Balanced` if successes and failures make up the outcomes, there are no more outcomes
than records handed in, and the batch is called halted just when there are fewer.  Runs are balanced
(`balanced_runFrom`) and a merge of balanced reports is (`balanced_merge`), so every report that is
`Built` from runs by merging is, and so is that of a run in parts.  A summary for people can
therefore name the records that are left.
-/

set_option autoImplicit false

namespace Crosswalk

open Report (merge totalSubmitted upToFailure)

structure ReportSummary.Balanced (summary : ReportSummary) : Prop where
  counted : summary.succeeded + summary.failed = summary.processed
  within : summary.processed ≤ summary.submitted
  halted_iff : summary.halted = true ↔ summary.processed < summary.submitted

/-- Reports that come from runs by merging, nested to any depth. -/
inductive Report.Built : Report → Prop where
  | run (engine : Engine) (policy : FailurePolicy) (records : List Json) (offset : Nat) :
      Built (runFrom engine policy records offset)
  | merge (policy : FailurePolicy) (parts : List Report) (built : ∀ part ∈ parts, Built part) :
      Built (Report.merge policy parts)

namespace Report

theorem successes_add_failures (report : Report) :
    report.successes.length + report.failures.length = report.outcomes.length := by
  obtain ⟨outcomes, halted, submitted⟩ := report
  simp only [successes, failures]
  induction outcomes with
  | nil => rfl
  | cons outcome rest ih =>
      cases result : outcome.result with
      | ok record =>
          have output : outcome.result.toOption = some record := by rw [result]; rfl
          have clean : fault? outcome.result = none := by rw [result]; rfl
          simp only [List.filterMap_cons, output, clean, Option.map_some, Option.map_none,
            List.length_cons]
          omega
      | error e =>
          have nothing : outcome.result.toOption = none := by rw [result]; rfl
          have failure : fault? outcome.result = some e := by rw [result]; rfl
          simp only [List.filterMap_cons, nothing, failure, Option.map_some, Option.map_none,
            List.length_cons]
          omega

theorem summary_succeeded (report : Report) :
    report.summary.succeeded = report.successes.length := by
  have both := report.successes_add_failures
  simp only [summary]
  omega

/-- The successes and failures of any report make up its outcomes, so the rest is what matters. -/
theorem balanced_of_counts (report : Report)
    (within : report.outcomes.length ≤ report.submitted)
    (halted_iff : report.halted = true ↔ report.outcomes.length < report.submitted) :
    report.summary.Balanced where
  counted := by
    rw [summary_succeeded]
    exact report.successes_add_failures
  within := within
  halted_iff := halted_iff

/-! ## Runs -/

theorem balanced_runFrom (engine : Engine) (policy : FailurePolicy) (records : List Json)
    (offset : Nat) : (runFrom engine policy records offset).summary.Balanced := by
  have kept := (keep_sublist policy (outcomesFrom engine .collect offset records)).length_le
  rw [← outcomesFrom_eq_keep, outcomesFrom_collect_length] at kept
  apply balanced_of_counts
  · rw [runFrom_outcomes]
    exact kept
  · exact runFrom_halted_iff engine policy records offset

/-! ## Merges -/

theorem gathered_length (parts : List Report) :
    (gathered parts).length = (parts.flatMap Report.outcomes).length :=
  (List.mergeSort_perm _ _).length_eq

theorem processed_le_submitted (parts : List Report)
    (balanced : ∀ part ∈ parts, part.summary.Balanced) :
    (parts.flatMap Report.outcomes).length ≤ totalSubmitted parts := by
  induction parts with
  | nil => exact Nat.le_refl 0
  | cons part rest ih =>
      obtain ⟨here, others⟩ := List.forall_mem_cons.mp balanced
      have first : part.outcomes.length ≤ part.submitted := here.within
      have later := ih others
      simp only [List.flatMap_cons, List.length_append, totalSubmitted]
      omega

/-- A part is halted just when the parts together have not processed all of their records. -/
theorem any_halted_iff (parts : List Report) (balanced : ∀ part ∈ parts, part.summary.Balanced) :
    parts.any Report.halted = true ↔
      (parts.flatMap Report.outcomes).length < totalSubmitted parts := by
  induction parts with
  | nil => simp [totalSubmitted]
  | cons part rest ih =>
      obtain ⟨here, others⟩ := List.forall_mem_cons.mp balanced
      have first : part.outcomes.length ≤ part.submitted := here.within
      have stopped : part.halted = true ↔ part.outcomes.length < part.submitted :=
        here.halted_iff
      have later := processed_le_submitted rest others
      simp only [List.any_cons, Bool.or_eq_true, stopped, ih others, List.flatMap_cons,
        List.length_append, totalSubmitted]
      omega

theorem balanced_merge (policy : FailurePolicy) (parts : List Report)
    (balanced : ∀ part ∈ parts, part.summary.Balanced) :
    (merge policy parts).summary.Balanced := by
  have whole := processed_le_submitted parts balanced
  rw [← gathered_length] at whole
  apply balanced_of_counts
  · have kept := (keep_sublist policy (gathered parts)).length_le
    rw [merge_outcomes, merge_submitted]
    omega
  · rw [merge_outcomes, merge_submitted]
    by_cases stopped : policy = .halt ∧ (gathered parts).any Outcome.failed = true
    · obtain ⟨rfl, failure⟩ := stopped
      rw [merge_halted_of_failure parts failure, decide_eq_true_eq]
    · -- nothing is dropped, so the parts decide
      have clean : policy = .halt → (gathered parts).any Outcome.failed = false := by
        intro halting
        simpa [halting] using stopped
      have everything : keep policy (gathered parts) = gathered parts := by
        cases policy with
        | halt => exact keep_of_no_failure .halt _ (clean rfl)
        | collect => rfl
      rw [merge_halted_of_no_failure policy parts clean, everything, gathered_length]
      exact any_halted_iff parts balanced

theorem Built.balanced (report : Report) (built : Built report) : report.summary.Balanced := by
  induction built with
  | run engine policy records offset => exact balanced_runFrom engine policy records offset
  | merge policy parts _ ih => exact balanced_merge policy parts ih

end Report

/-! ## What people are told -/

namespace BatchSummary

/-- What people are told of a batch that was halted with a number of records left. -/
def haltedLine (left : Nat) : String :=
  "Halted after the first failure; " ++ toString left ++ " record(s) not processed\n"

/-- The line of a halted batch names as many records as are left. -/
theorem humanText_of_halted (summary : BatchSummary) (balanced : summary.counts.Balanced)
    (halted : summary.counts.halted = true) :
    ∃ left, 0 < left ∧ summary.counts.processed + left = summary.counts.submitted ∧
      ∃ before after : String, summary.humanText = before ++ haltedLine left ++ after := by
  have fewer := balanced.halted_iff.mp halted
  have some : 0 < summary.counts.submitted - summary.counts.processed := by omega
  have all : summary.counts.processed + (summary.counts.submitted - summary.counts.processed) =
      summary.counts.submitted := by omega
  refine ⟨_, some, all, ?_⟩
  refine ⟨"Records: " ++ toString summary.counts.submitted ++ " submitted, "
      ++ toString summary.counts.processed ++ " processed, "
      ++ toString summary.counts.succeeded ++ " succeeded, "
      ++ toString summary.counts.failed ++ " failed\n",
    "Started: " ++ summary.startedAt.humanText ++ "  Duration: " ++ toString summary.duration
      ++ "ms\n", ?_⟩
  unfold humanText haltedLine
  simp only [halted, if_true]
  simp only [String.append_assoc]

end BatchSummary

/-- However runs are merged, and in whatever order the parts of a run finish, the counts of the
report balance; and when a batch is called halted, its summary for people names the records left. -/
theorem every_summary_balances :
    (∀ report, Report.Built report → report.summary.Balanced) ∧
      (∀ engine policy workers records, 1 ≤ workers →
        (∀ pool, Pool.Reaches (runRange engine policy records) policy workers
              (Pool.start (Range.cut records.length workers)) pool →
            Pool.AtRest (runRange engine policy records) policy workers pool →
            (pool.report policy records.length).summary.Balanced) ∧
          ∀ schedule,
            (runPartitioned engine policy workers schedule records).summary.Balanced) ∧
      ∀ summary : BatchSummary, summary.counts.Balanced → summary.counts.halted = true →
        ∃ left, 0 < left ∧ summary.counts.processed + left = summary.counts.submitted ∧
          ∃ before after : String,
            summary.humanText = before ++ BatchSummary.haltedLine left ++ after := by
  refine ⟨Report.Built.balanced, ?_, BatchSummary.humanText_of_halted⟩
  intro engine policy workers records worker
  have balanced := Report.balanced_runFrom engine policy records 0
  constructor
  · intro pool steps rest
    rw [report_of_rest engine policy records workers worker pool steps rest]
    exact balanced
  · intro schedule
    rw [runPartitioned_eq_runAll engine policy records workers worker schedule]
    exact balanced

/-- Three runs over the ages, of which two are merged under one policy and the third joins them
under the other. -/
def nestedAges : Report :=
  merge .collect
    [merge .halt [runFrom ageEngine .halt ageRecords 3, runFrom ageEngine .collect ageRecords 0],
      runFrom ageEngine .halt ageRecords 6]

theorem built_nestedAges : Report.Built nestedAges := by
  refine .merge .collect _ (List.forall_mem_cons.mpr ⟨?_, List.forall_mem_cons.mpr ⟨?_, ?_⟩⟩)
  · refine .merge .halt _ (List.forall_mem_cons.mpr ⟨?_, List.forall_mem_cons.mpr ⟨?_, ?_⟩⟩)
    · exact .run ageEngine .halt ageRecords 3
    · exact .run ageEngine .collect ageRecords 0
    · exact List.forall_mem_nil _
  · exact .run ageEngine .halt ageRecords 6
  · exact List.forall_mem_nil _

/-- Three of the five outcomes under the halting policy are dropped, and the others are kept. -/
theorem summary_nestedAges : nestedAges.summary = ⟨9, 4, 2, 2, true⟩ := by
  have inner : gathered
      [runFrom ageEngine .halt ageRecords 3, runFrom ageEngine .collect ageRecords 0] =
        outcomesFrom ageEngine .collect 0 ageRecords ++ outcomesFrom ageEngine .halt 3 ageRecords :=
    gathered_of_perm _ _ (by simpa [runFrom_outcomes] using List.perm_append_comm) (by decide)
  have halted : merge .halt
      [runFrom ageEngine .halt ageRecords 3, runFrom ageEngine .collect ageRecords 0] =
        ⟨outcomesFrom ageEngine .halt 0 ageRecords, true, 6⟩ := by
    rw [merge_eq, inner]
    rfl
  have outer : gathered
      [⟨outcomesFrom ageEngine .halt 0 ageRecords, true, 6⟩,
        runFrom ageEngine .halt ageRecords 6] =
        outcomesFrom ageEngine .halt 0 ageRecords ++ outcomesFrom ageEngine .halt 6 ageRecords :=
    gathered_of_perm _ _ (by simp [runFrom_outcomes]) (by decide)
  rw [nestedAges, halted, merge_eq, outer]
  rfl

/-- Nine records went in, and the first failure leaves five of them. -/
theorem nested_ages_balance :
    Report.Built nestedAges ∧ nestedAges.summary.Balanced ∧
      nestedAges.summary = ⟨9, 4, 2, 2, true⟩ ∧
      (runPartitioned ageEngine .halt 2 (fun _ => 1) ageRecords).summary.Balanced ∧
      ∃ before after : String, (BatchSummary.mk nestedAges.summary ⟨0, 0⟩ 7).humanText =
        before ++ BatchSummary.haltedLine 5 ++ after := by
  obtain ⟨merged, parallel, told⟩ := every_summary_balances
  have balanced := merged nestedAges built_nestedAges
  have counts := summary_nestedAges
  obtain ⟨left, _, all, line⟩ :=
    told (BatchSummary.mk nestedAges.summary ⟨0, 0⟩ 7) balanced (by rw [counts])
  have five : left = 5 := by
    simp only [counts] at all
    omega
  subst five
  have together := (parallel ageEngine .halt 2 ageRecords (by decide)).2 fun _ => 1
  exact ⟨built_nestedAges, balanced, counts, together, line⟩

end Crosswalk
