import Crosswalk.Proofs.Files.Spelling
import Crosswalk.Proofs.Job.Transform

/-!
# The file that the records came from

A path to save to is refused if it is the path of the records, part by part
(`refused_of_samePath`).  Another path may spell the same location (`Respelled`), and then the
outputs take the place of the records (`replaced_of_respelled`).  Otherwise the records are kept
(`kept_unless_respelled`).
-/

set_option autoImplicit false

namespace Crosswalk.Job

open CommandLine (TransformArguments)
open Files (Tree)

/-! ## A batch -/

section Batch
variable {tree : Tree} {report : Report} {result : Except Failure Unit} {after : Tree}
  {other text : String}

/-- A batch leaves a file as it was unless its outputs are saved where that file is. -/
theorem read_of_endsBatch (saveTo : Option String) (held : tree.read other = .ok text)
    (ends : EndsBatch tree saveTo report result after) :
    after.read other = .ok text ∨
      ∃ path, saveTo = some path ∧ tree.spelled path = tree.spelled other ∧
        ∃ saved, Records.save tree path (report.outputs.map Prod.snd) = .ok saved := by
  cases saveTo with
  | none =>
      obtain ⟨_, rfl⟩ := ends
      exact .inl held
  | some path =>
      rw [EndsBatch] at ends
      cases saves : Records.save tree path (report.outputs.map Prod.snd) with
      | error e =>
          rw [saves] at ends
          obtain ⟨_, rfl⟩ := ends
          exact .inl held
      | ok saved =>
          rw [saves] at ends
          obtain ⟨_, rfl⟩ := ends
          by_cases same : tree.spelled path = tree.spelled other
          · exact .inr ⟨path, rfl, same, after, saves⟩
          · have read := tree.read_of_save after path _ other text saves held
            rw [if_neg fun equal => same equal.symm] at read
            exact .inl read

theorem read_of_endsBatch_same (path : String) (saved : Tree)
    (held : tree.read other = .ok text) (same : tree.spelled path = tree.spelled other)
    (saves : Records.save tree path (report.outputs.map Prod.snd) = .ok saved)
    (ends : EndsBatch tree (some path) report result after) :
    result = verdict report.summary ∧
      after.read other =
        .ok (Records.toText (Records.Format.ofPath path) (report.outputs.map Prod.snd)) := by
  rw [EndsBatch, saves] at ends
  obtain ⟨ended, rfl⟩ := ends
  have read := tree.read_of_save after path _ other text saves held
  rw [if_pos same.symm] at read
  exact ⟨ended, read⟩

end Batch

/-! ## The guard -/

theorem batchInput_of_samePath (tree : Tree) (arguments : TransformArguments) (plan : BatchPlan)
    (path : String) (saveTo : arguments.saveTo = some path)
    (same : Files.samePath path arguments.records = true) :
    batchInput tree arguments plan =
      .error (.invalidArguments "--save-to must not overwrite the input records") := by
  rw [batchInput, saveTo, Option.any_some, if_pos same]
  rfl

/-- A path that is not the path of the records spells their location, and there is a batch whose
outputs can be saved under it. -/
structure Respelled (tree : Tree) (arguments : TransformArguments) (plan : BatchPlan)
    (path : String) (engine : Engine) (records : List Json) : Prop where
  saveTo : arguments.saveTo = some path
  unlike : Files.samePath path arguments.records = false
  same : tree.spelled path = tree.spelled arguments.records
  input : batchInput tree arguments plan = .ok (engine, records)
  saves : ∃ saved, Records.save tree path
    ((runAll engine plan.policy records).outputs.map Prod.snd) = .ok saved

/-! ## The job -/

section Input
variable (session : Session) (arguments : TransformArguments) (progress : Progress)

theorem refused_of_samePath (path : String) (saveTo : arguments.saveTo = some path)
    (same : Files.samePath path arguments.records = true) :
    ((transform session arguments).run progress).1 =
        .error (.invalidArguments "--save-to must not overwrite the input records") ∧
      ((transform session arguments).run progress).2.tree = progress.tree := by
  have ends := transform_ends session arguments progress rfl
  rw [batchInput_of_samePath progress.tree arguments _ path saveTo same] at ends
  exact ends

variable (text : String) (held : progress.tree.read arguments.records = .ok text)
include held

theorem kept_unless_respelled :
    ((transform session arguments).run progress).2.tree.read arguments.records = .ok text ∨
      ∃ path engine records, Respelled progress.tree arguments
        (BatchPlan.of arguments session.engine) path engine records := by
  have ends := transform_ends session arguments progress rfl
  cases input : batchInput progress.tree arguments (BatchPlan.of arguments session.engine) with
  | error failure =>
      rw [input] at ends
      rw [ends.2]
      exact .inl held
  | ok loaded =>
      obtain ⟨engine, records⟩ := loaded
      rw [input] at ends
      rcases read_of_endsBatch arguments.saveTo held ends with
        kept | ⟨path, saveTo, same, saves⟩
      · exact .inl kept
      · have unlike : Files.samePath path arguments.records = false := by
          by_contra like
          rw [Bool.not_eq_false] at like
          rw [batchInput_of_samePath progress.tree arguments _ path saveTo like] at input
          cases input
        exact .inr ⟨path, engine, records, saveTo, unlike, same, input, saves⟩

theorem replaced_of_respelled (path : String) (engine : Engine) (records : List Json)
    (respelled : Respelled progress.tree arguments (BatchPlan.of arguments session.engine)
      path engine records) :
    let run := runAll engine (BatchPlan.of arguments session.engine).policy records
    ((transform session arguments).run progress).1 = verdict run.summary ∧
      ((transform session arguments).run progress).2.tree.read arguments.records =
        .ok (Records.toText (Records.Format.ofPath path) (run.outputs.map Prod.snd)) := by
  intro run
  obtain ⟨saved, saves⟩ := respelled.saves
  have ends := transform_ends session arguments progress rfl
  rw [respelled.input, respelled.saveTo] at ends
  exact read_of_endsBatch_same path saved held respelled.same saves ends

end Input

/-- The path of the records is refused as a path to save to, and nothing is changed.  The records
are kept, whatever the result, unless another path spells their location and there are outputs to
save there.  Then the outputs stand in place of the records. -/
theorem records_kept_unless_respelled (session : Session) (arguments : TransformArguments)
    (progress : Progress) (text : String)
    (held : progress.tree.read arguments.records = .ok text) :
    let plan := BatchPlan.of arguments session.engine
    let done := (transform session arguments).run progress
    (∀ path, arguments.saveTo = some path → Files.samePath path arguments.records = true →
      progress.tree.spelled path = progress.tree.spelled arguments.records ∧
        done.1 = .error (.invalidArguments "--save-to must not overwrite the input records") ∧
          done.2.tree = progress.tree) ∧
    ((∀ path engine records, ¬ Respelled progress.tree arguments plan path engine records) →
      done.2.tree.read arguments.records = .ok text) ∧
    ∀ path engine records, Respelled progress.tree arguments plan path engine records →
      let run := runAll engine plan.policy records
      done.1 = verdict run.summary ∧
        done.2.tree.read arguments.records =
          .ok (Records.toText (Records.Format.ofPath path) (run.outputs.map Prod.snd)) := by
  intro plan done
  refine ⟨?refused, ?kept, replaced_of_respelled session arguments progress text held⟩
  case refused =>
    intro path saveTo same
    exact ⟨progress.tree.spelled_of_samePath path _ same,
      refused_of_samePath session arguments progress path saveTo same⟩
  case kept =>
    intro none
    rcases kept_unless_respelled session arguments progress text held with
      kept | ⟨path, engine, records, respelled⟩
    · exact kept
    · exact absurd respelled (none path engine records)

/-! ## Ages saved where they were -/

def agesInto (path : String) : TransformArguments :=
  { agesArguments with saveTo := some path }

theorem read_ages :
    agesTree.read "ages.jsonl" = .ok (Records.toText .jsonLines ageRecords) :=
  rfl

/-- Ages that are saved in another directory are kept, and their own path is refused. -/
theorem ages_kept_or_refused :
    ((transform agesSession (agesInto "out/ages.jsonl")).run
        (Progress.start agesTree)).2.tree.read "ages.jsonl" =
      .ok (Records.toText .jsonLines ageRecords) ∧
    ((transform agesSession (agesInto "ages.jsonl")).run (Progress.start agesTree)).1 =
      .error (.invalidArguments "--save-to must not overwrite the input records") := by
  obtain ⟨_, kept, _⟩ := records_kept_unless_respelled agesSession (agesInto "out/ages.jsonl")
    (Progress.start agesTree) _ read_ages
  obtain ⟨refused, _⟩ := records_kept_unless_respelled agesSession (agesInto "ages.jsonl")
    (Progress.start agesTree) _ read_ages
  constructor
  · apply kept
    rintro path engine records ⟨saveTo, _, same, _, _⟩
    cases saveTo
    exact absurd same (by decide)
  · exact (refused "ages.jsonl" rfl (by decide)).2.1

theorem respelled_ages :
    Respelled agesTree (agesInto "./ages.jsonl")
      (BatchPlan.of (agesInto "./ages.jsonl") agesSession.engine) "./ages.jsonl" agesEngine
      ageRecords where
  saveTo := rfl
  unlike := by decide
  same := by decide
  input := batchInput_of_files _ _ ageCatalog agesEngine ageRecords (by decide) catalogAt_ages rfl
    recordsAt_ages
  saves := ⟨_, rfl⟩

/-- Under another spelling of their path the ages give way to the one output. -/
theorem ages_overwritten :
    agesTree.read "ages.jsonl" = .ok (Records.toText .jsonLines ageRecords) ∧
    ((transform agesSession (agesInto "./ages.jsonl")).run (Progress.start agesTree)).1 =
      .error (.recordsFailed 2 3) ∧
    ((transform agesSession (agesInto "./ages.jsonl")).run
        (Progress.start agesTree)).2.tree.read "ages.jsonl" =
      .ok (Records.toText .jsonLines [.object [("Age", .ofNat 34)]]) ∧
    Records.toText .jsonLines [.object [("Age", .ofNat 34)]] ≠
      Records.toText .jsonLines ageRecords := by
  obtain ⟨ended, read⟩ := replaced_of_respelled agesSession (agesInto "./ages.jsonl")
    (Progress.start agesTree) _ read_ages _ _ _ respelled_ages
  have policy : (BatchPlan.of (agesInto "./ages.jsonl") agesSession.engine).policy = .collect := by
    rfl
  have format : Records.Format.ofPath "./ages.jsonl" = .jsonLines := by rfl
  have told : verdict (runAll agesEngine .collect ageRecords).summary =
      .error (.recordsFailed 2 3) := by rfl
  have outputs : (runAll agesEngine .collect ageRecords).outputs.map Prod.snd =
      [.object [("Age", .ofNat 34)]] := by rfl
  rw [policy, told] at ended
  rw [policy, outputs, format] at read
  exact ⟨read_ages, ended, read, by decide⟩

end Crosswalk.Job
