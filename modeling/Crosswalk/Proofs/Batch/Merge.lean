import Mathlib.Data.List.Nodup
import Crosswalk.Proofs.Batch.Outcomes
import Crosswalk.Proofs.Batch.Ranges

/-!
# Merging the parts of a batch

A merge puts the outcomes of its parts into the order of the input (`gathered`) and keeps what the
policy keeps of them.  Parts that were run on ranges which tile a range, in any order, merge into
the run of that range (`merge_runParts`): when errors are collected each part has to have collected
them, and under the halting policy a part may have gone on after its first failure or not.
-/

set_option autoImplicit false

namespace Crosswalk

open Report (merge totalSubmitted upToFailure)

/-! ## What a merge yields -/

/-- The outcomes of several parts in the order of the input. -/
def gathered (parts : List Report) : List Outcome :=
  (parts.flatMap Report.outcomes).mergeSort fun a b => a.index ≤ b.index

theorem any_failed_gathered (parts : List Report) :
    (gathered parts).any Outcome.failed = parts.any Report.hasFailures := by
  rw [gathered, (List.mergeSort_perm _ _).any_eq, List.any_flatMap]
  rfl

theorem merge_eq (policy : FailurePolicy) (parts : List Report) :
    merge policy parts =
      if policy = .halt ∧ (gathered parts).any Outcome.failed then
        ⟨upToFailure (gathered parts),
          (upToFailure (gathered parts)).length < totalSubmitted parts, totalSubmitted parts⟩
      else
        ⟨gathered parts, parts.any Report.halted, totalSubmitted parts⟩ := rfl

theorem merge_outcomes (policy : FailurePolicy) (parts : List Report) :
    (merge policy parts).outcomes = keep policy (gathered parts) := by
  rw [merge_eq]
  cases policy with
  | collect => simp [keep]
  | halt =>
      by_cases failure : (gathered parts).any Outcome.failed = true
      · rw [if_pos ⟨rfl, failure⟩]
        rfl
      · have clean : (gathered parts).any Outcome.failed = false := by simpa using failure
        rw [if_neg (fun both => failure both.2)]
        exact (keep_of_no_failure _ _ clean).symm

theorem merge_submitted (policy : FailurePolicy) (parts : List Report) :
    (merge policy parts).submitted = totalSubmitted parts := by
  rw [merge_eq]
  split <;> rfl

theorem merge_halted_of_failure (parts : List Report)
    (failure : (gathered parts).any Outcome.failed = true) :
    (merge .halt parts).halted =
      decide ((keep .halt (gathered parts)).length < totalSubmitted parts) := by
  rw [merge_eq, if_pos ⟨rfl, failure⟩]
  rfl

theorem merge_halted_of_no_failure (policy : FailurePolicy) (parts : List Report)
    (clean : policy = .halt → (gathered parts).any Outcome.failed = false) :
    (merge policy parts).halted = parts.any Report.halted := by
  rw [merge_eq, if_neg]
  rintro ⟨halting, failure⟩
  rw [clean halting] at failure
  cases failure

/-- Outcomes that a list has in ascending order are gathered in that order. -/
theorem gathered_of_perm (parts : List Report) (ordered : List Outcome)
    (perm : (parts.flatMap Report.outcomes).Perm ordered)
    (ascending : ordered.Pairwise fun a b => a.index < b.index) : gathered parts = ordered := by
  have sorted : (gathered parts).Pairwise fun a b => a.index ≤ b.index := by
    have pairs : (gathered parts).Pairwise fun a b => decide (a.index ≤ b.index) = true :=
      List.pairwise_mergeSort (by intro a b c; simpa using Nat.le_trans)
        (by intro a b; simpa using Nat.le_total _ _) _
    simpa using pairs
  have together : (gathered parts).Perm ordered := (List.mergeSort_perm _ _).trans perm
  have distinct : (ordered.map Outcome.index).Nodup :=
    List.pairwise_map.mpr (ascending.imp Nat.ne_of_lt)
  apply together.eq_of_pairwise ?_ sorted (ascending.imp Nat.le_of_lt)
  intro a b left right below above
  exact List.inj_on_of_nodup_map distinct (together.mem_iff.mp left) right
    (Nat.le_antisymm below above)

theorem totalSubmitted_perm (parts others : List Report) (perm : parts.Perm others) :
    totalSubmitted parts = totalSubmitted others := by
  induction perm with
  | nil => rfl
  | cons part _ ih => simp only [totalSubmitted, ih]
  | swap first second rest => simp only [totalSubmitted]; omega
  | trans _ _ ih₁ ih₂ => exact ih₁.trans ih₂

/-! ## Parts that tile a range -/

section Parts
variable (engine : Engine) (records : List Json)

/-- The outcomes of all records of a range. -/
def everyOutcome (range : Range) : List Outcome :=
  outcomesFrom engine .collect range.first (range.slice records)

/-- Run a range under a policy of its own. -/
def runPart (part : Range × FailurePolicy) : Report :=
  runRange engine part.2 records part.1

theorem runPart_outcomes (part : Range × FailurePolicy) :
    (runPart engine records part).outcomes =
      keep part.2 (everyOutcome engine records part.1) := by
  have outcomes := runFrom_outcomes engine part.2 (part.1.slice records) part.1.first
  exact outcomes.trans (outcomesFrom_eq_keep engine part.2 part.1.first (part.1.slice records))

theorem flatMap_runPart_outcomes (parts : List (Range × FailurePolicy)) :
    (parts.map (runPart engine records)).flatMap Report.outcomes =
      parts.flatMap fun part => keep part.2 (everyOutcome engine records part.1) := by
  rw [List.flatMap_map]
  simp only [runPart_outcomes]

/-- Ranges that tile a range have its outcomes between them. -/
theorem flatMap_everyOutcome (first stop : Nat) (ranges : List Range)
    (tiles : Tiles first ranges stop) (inside : stop ≤ records.length) :
    ranges.flatMap (everyOutcome engine records) = everyOutcome engine records ⟨first, stop⟩ := by
  induction tiles with
  | nil first => simp [everyOutcome, Range.slice, outcomesFrom]
  | @cons range rest stop ordered tail ih =>
      have after := tail.first_le_stop
      have length : (range.slice records).length = range.stop - range.first :=
        Range.slice_length range records (Nat.le_trans after inside)
      have next : range.first + (range.slice records).length = range.stop := by omega
      have joined := Range.slice_append range.first range.stop stop records ordered after
      rw [List.flatMap_cons, ih inside]
      simp only [everyOutcome]
      rw [← joined, outcomesFrom_collect_append, next]

theorem upToFailure_flatMap_keep (parts : List (Range × FailurePolicy)) :
    upToFailure (parts.flatMap fun part =>
        keep part.2 (everyOutcome engine records part.1)) =
      upToFailure (parts.flatMap fun part => everyOutcome engine records part.1) := by
  induction parts with
  | nil => rfl
  | cons part rest ih =>
      rw [List.flatMap_cons, List.flatMap_cons]
      exact upToFailure_keep_append part.2 _ _ _ ih

theorem flatMap_keep_sublist (parts : List (Range × FailurePolicy)) :
    (parts.flatMap fun part => keep part.2 (everyOutcome engine records part.1)).Sublist
      (parts.flatMap fun part => everyOutcome engine records part.1) := by
  induction parts with
  | nil => exact List.Sublist.slnil
  | cons part rest ih =>
      rw [List.flatMap_cons, List.flatMap_cons]
      exact (keep_sublist part.2 _).append ih

theorem runPart_halted (part : Range × FailurePolicy)
    (clean : part.2 = .collect ∨
      (everyOutcome engine records part.1).any Outcome.failed = false) :
    (runPart engine records part).halted = false := by
  rcases clean with collecting | clean
  · rw [runPart, collecting]
    exact runFrom_collect_halted engine part.1.first (part.1.slice records)
  · apply runFrom_halted_of_no_failure
    have outcomes := runPart_outcomes engine records part
    rw [Report.hasFailures]
    exact (congrArg (List.any · Outcome.failed) outcomes).trans
      ((any_failed_keep _ _).trans clean)

section Tiled
variable {first stop : Nat} {cuts parts : List (Range × FailurePolicy)}
  (tiles : Tiles first (cuts.map Prod.fst) stop) (inside : stop ≤ records.length)
  (reordered : parts.Perm cuts)

include tiles inside

theorem flatMap_everyOutcome_cuts :
    (cuts.flatMap fun cut => everyOutcome engine records cut.1) =
      everyOutcome engine records ⟨first, stop⟩ := by
  rw [← flatMap_everyOutcome engine records first stop _ tiles inside, List.flatMap_map]

theorem totalSubmitted_cuts :
    totalSubmitted (cuts.map (runPart engine records)) = stop - first := by
  induction cuts generalizing first with
  | nil =>
      cases tiles
      simp [totalSubmitted]
  | cons cut rest ih =>
      cases tiles with
      | cons _ ordered tail =>
          have after := tail.first_le_stop
          have here : (runPart engine records cut).submitted = cut.1.stop - cut.1.first :=
            Range.slice_length cut.1 records (Nat.le_trans after inside)
          simp only [List.map_cons, totalSubmitted, ih tail, here]
          omega

include reordered

theorem totalSubmitted_runParts :
    totalSubmitted (parts.map (runPart engine records)) =
      ((Range.mk first stop).slice records).length := by
  rw [totalSubmitted_perm _ _ (reordered.map _), totalSubmitted_cuts engine records tiles inside,
    Range.slice_length _ _ inside]

theorem gathered_runParts :
    gathered (parts.map (runPart engine records)) =
      cuts.flatMap fun cut => keep cut.2 (everyOutcome engine records cut.1) := by
  apply gathered_of_perm
  · rw [flatMap_runPart_outcomes]
    exact reordered.flatMap_right _
  · have ascending := outcomesFrom_collect_ascending engine first
      ((Range.mk first stop).slice records)
    apply List.Pairwise.sublist (flatMap_keep_sublist engine records cuts)
    rw [flatMap_everyOutcome_cuts engine records tiles inside]
    exact ascending

/-- What a policy keeps of the parts is what it keeps of the whole. -/
theorem keep_gathered_runParts (policy : FailurePolicy)
    (fitting : policy = .collect → ∀ cut ∈ cuts, cut.2 = .collect) :
    keep policy (gathered (parts.map (runPart engine records))) =
      keep policy (everyOutcome engine records ⟨first, stop⟩) := by
  rw [gathered_runParts engine records tiles inside reordered,
    ← flatMap_everyOutcome_cuts engine records tiles inside]
  cases policy with
  | halt => exact upToFailure_flatMap_keep engine records cuts
  | collect =>
      have same : ∀ cut ∈ cuts, keep cut.2 (everyOutcome engine records cut.1) =
          everyOutcome engine records cut.1 := by
        intro cut member
        rw [fitting rfl cut member]
        rfl
      exact List.flatMap_congr same

theorem any_failed_gathered_runParts :
    (gathered (parts.map (runPart engine records))).any Outcome.failed =
      (everyOutcome engine records ⟨first, stop⟩).any Outcome.failed := by
  have kept := keep_gathered_runParts engine records tiles inside reordered .halt
    (by intro collecting; cases collecting)
  rw [← any_failed_keep .halt, kept, any_failed_keep]

/-- When errors are collected or none comes up, no part ends early. -/
theorem runParts_not_halted
    (clean : (∀ cut ∈ cuts, cut.2 = .collect) ∨
      (everyOutcome engine records ⟨first, stop⟩).any Outcome.failed = false) :
    (parts.map (runPart engine records)).any Report.halted = false := by
  rw [List.any_map, List.any_eq_false]
  intro part member
  have cut := reordered.mem_iff.mp member
  have quiet : part.2 = .collect ∨
      (everyOutcome engine records part.1).any Outcome.failed = false := by
    rcases clean with collecting | clean
    · exact Or.inl (collecting part cut)
    · right
      rw [← flatMap_everyOutcome_cuts engine records tiles inside, List.any_flatMap,
        List.any_eq_false] at clean
      simpa using clean part cut
  simpa using runPart_halted engine records part quiet

theorem merge_runParts_halted (policy : FailurePolicy)
    (fitting : policy = .collect → ∀ cut ∈ cuts, cut.2 = .collect) :
    (merge policy (parts.map (runPart engine records))).halted =
      (runRange engine policy records ⟨first, stop⟩).halted := by
  have failures := any_failed_gathered_runParts engine records tiles inside reordered
  by_cases stopped : policy = .halt ∧
      (everyOutcome engine records ⟨first, stop⟩).any Outcome.failed = true
  · -- both sides compare the outcomes up to the first failure with the records handed in
    obtain ⟨rfl, failure⟩ := stopped
    have outcomes := runPart_outcomes engine records (⟨first, stop⟩, .halt)
    rw [merge_halted_of_failure _ (failures.trans failure),
      keep_gathered_runParts engine records tiles inside reordered .halt fitting,
      totalSubmitted_runParts engine records tiles inside reordered, ← outcomes, Bool.eq_iff_iff,
      decide_eq_true_eq]
    exact (runFrom_halted_iff engine .halt ((Range.mk first stop).slice records) first).symm
  · -- nothing ends early, neither a part nor the whole
    have clean : policy = .collect ∨
        (everyOutcome engine records ⟨first, stop⟩).any Outcome.failed = false := by
      cases policy with
      | collect => exact Or.inl rfl
      | halt => exact Or.inr (by simpa using stopped)
    have noPart := runParts_not_halted engine records tiles inside reordered
      (clean.imp_left fitting)
    have notWhole : (runRange engine policy records ⟨first, stop⟩).halted = false :=
      runPart_halted engine records (⟨first, stop⟩, policy) clean
    rw [merge_halted_of_no_failure, noPart, notWhole]
    intro halting
    rw [failures]
    exact clean.resolve_left (by simp [halting])

/-- Parts that tile a range merge into the run of the range.  When errors are collected every part
has to have collected them; under the halting policy the policies of the parts do not matter. -/
theorem merge_runParts (policy : FailurePolicy)
    (fitting : policy = .collect → ∀ cut ∈ cuts, cut.2 = .collect) :
    merge policy (parts.map (runPart engine records)) =
      runRange engine policy records ⟨first, stop⟩ := by
  apply Report.ext
  · rw [merge_outcomes, keep_gathered_runParts engine records tiles inside reordered policy fitting]
    exact (runPart_outcomes engine records (⟨first, stop⟩, policy)).symm
  · exact merge_runParts_halted engine records tiles inside reordered policy fitting
  · rw [merge_submitted]
    exact totalSubmitted_runParts engine records tiles inside reordered

end Tiled

end Parts

/-- However an input is cut into ranges, empty ones among them, and in whatever order the ranges
come, their reports merge into the report of one run over the input.  Under the halting policy each
range may have been run under either policy. -/
theorem merge_eq_runAll (engine : Engine) (records : List Json) (policy : FailurePolicy)
    (cuts parts : List (Range × FailurePolicy))
    (tiles : Tiles 0 (cuts.map Prod.fst) records.length) (reordered : parts.Perm cuts)
    (fitting : policy = .collect → ∀ part ∈ parts, part.2 = .collect) :
    merge policy (parts.map fun part =>
        runFrom engine part.2 (part.1.slice records) part.1.first) =
      runAll engine policy records := by
  have whole := merge_runParts engine records tiles (Nat.le_refl _) reordered policy
    (fun collecting cut member => fitting collecting cut (reordered.mem_iff.mpr member))
  rw [runRange, Range.slice_whole] at whole
  exact whole

/-- A catalog that reads a required text and writes it as an integer. -/
def ageCatalog : Catalog where
  sources :=
    { entries := [.ofName 1 "Age" .string true], index := ⟨[(1, 0)], [("Age", [0])]⟩,
      indexed := by decide }
  destinations :=
    { entries := [.ofName 1 "Age" .integer .null], index := ⟨[(1, 0)], [("Age", [0])]⟩,
      indexed := by decide }
  maskUses := { entries := [], index := ⟨[], []⟩, indexed := by decide }
  links := { entries := [.plain 1 1 1], index := ⟨[(1, 0)], []⟩, indexed := by decide }
  sound := by decide

def ageEngine : Engine :=
  ⟨ageCatalog, .empty, .lazy, [(1, ⟨"$.Age", [.key "Age"]⟩)]⟩

/-- Three records, of which the second lacks the age and the third has it as a number. -/
def ageRecords : List Json :=
  [.object [("Age", .string "34")], .object [], .object [("Age", .ofNat 35)]]

theorem merge_ages_eq_runAll :
    Tiles 0 [⟨0, 1⟩, ⟨1, 1⟩, ⟨1, 3⟩] ageRecords.length ∧
      (merge .halt
          [runFrom ageEngine .collect ((Range.mk 1 3).slice ageRecords) 1,
            runFrom ageEngine .halt ((Range.mk 0 1).slice ageRecords) 0,
            runFrom ageEngine .collect ((Range.mk 1 1).slice ageRecords) 1] =
        runAll ageEngine .halt ageRecords) ∧
      (runAll ageEngine .halt ageRecords).outcomes.map Outcome.index = [0, 1] ∧
      (runAll ageEngine .halt ageRecords).halted = true := by
  have tiles : Tiles 0 [⟨0, 1⟩, ⟨1, 1⟩, ⟨1, 3⟩] ageRecords.length :=
    .cons ⟨0, 1⟩ (by decide) (.cons ⟨1, 1⟩ (by decide)
      (.cons ⟨1, 3⟩ (by decide) (.nil 3)))
  refine ⟨tiles, ?_, by decide, by decide⟩
  exact merge_eq_runAll ageEngine ageRecords .halt
    [(⟨0, 1⟩, .halt), (⟨1, 1⟩, .collect), (⟨1, 3⟩, .collect)]
    [(⟨1, 3⟩, .collect), (⟨0, 1⟩, .halt), (⟨1, 1⟩, .collect)]
    tiles (by decide) (by intro collecting; cases collecting)

end Crosswalk
