import Crosswalk.Job.Transform
import Crosswalk.Proofs.Batch.Interleaving
import Crosswalk.Proofs.Catalog.WireFormat
import Crosswalk.Proofs.Job.Basic
import Crosswalk.Proofs.Records

/-!
# What transforming records leaves behind

Up to the batch nothing is written, and a batch is always one run over all records in order
(`yields_runBatch`).  So the job either fails before there is a result and leaves the files as they
were, or saves the outputs of that run if they can be saved (`transform_ends`), and tells by its own
result whether a record failed (`transform_ensures`).
-/

set_option autoImplicit false

namespace Crosswalk

/-! ## The outputs of a run -/

section Run
variable (engine : Engine) (policy : FailurePolicy)

theorem outcomesFrom_results (index : Nat) (records : List Json) :
    (outcomesFrom engine policy index records).map Outcome.result =
      (records.take (outcomesFrom engine policy index records).length).map engine.transform := by
  induction records generalizing index with
  | nil => rfl
  | cons record rest ih =>
      rw [outcomesFrom]
      split
      · rfl
      · rw [List.map_cons, List.length_cons, List.take_succ_cons, List.map_cons, ih]

/-- The outputs of a run are those of the records it has taken, in their order. -/
theorem outputs_runAll (records : List Json) :
    (runAll engine policy records).outputs.map Prod.snd =
      (records.take (runAll engine policy records).outcomes.length).filterMap fun record =>
        (engine.transform record).toOption.map Json.object := by
  have results := outcomesFrom_results engine policy 0 records
  rw [← runFrom_outcomes] at results
  have outputs : (runAll engine policy records).outputs.map Prod.snd =
      ((runAll engine policy records).outcomes.map Outcome.result).filterMap fun result =>
        result.toOption.map Json.object := by
    simp [Report.outputs, Report.successes, List.map_filterMap, List.filterMap_map,
      Function.comp_def]
  have taken : (runAll engine policy records).outcomes.map Outcome.result =
      (records.take (runAll engine policy records).outcomes.length).map engine.transform := results
  rw [outputs, taken, List.filterMap_map]
  rfl

end Run

namespace Job

open CommandLine (TransformArguments)
open Files (Tree)
open Files.Tree (SavedAs)

variable {tree : Tree}

/-- Arguments go before settings. -/
theorem BatchPlan.of_given (arguments : TransformArguments) (settings : EngineSettings) :
    (∀ policy, arguments.policy = some policy → (of arguments settings).policy = policy) ∧
      (∀ workers, arguments.workers = some workers →
        (of arguments settings).workers = max workers 1) ∧
      (arguments.lazy = true → (of arguments settings).validation = .lazy) := by
  refine ⟨?_, ?_, ?_⟩
  · intro policy given
    rw [of, given]
    rfl
  · intro workers given
    rw [of, given]
    rfl
  · intro given
    rw [of, given]
    rfl

/-- What no argument says is left to the settings. -/
theorem BatchPlan.of_not_given (arguments : TransformArguments) (settings : EngineSettings) :
    (arguments.policy = none → (of arguments settings).policy = settings.policy) ∧
      (arguments.workers = none → (of arguments settings).workers = max settings.workers 1) ∧
      (arguments.lazy = false → (of arguments settings).validation = settings.validation) := by
  refine ⟨?_, ?_, ?_⟩
  · intro missing
    rw [of, missing]
    rfl
  · intro missing
    rw [of, missing]
    rfl
  · intro missing
    rw [of, missing]
    rfl

theorem one_le_workers (arguments : TransformArguments) (settings : EngineSettings) :
    1 ≤ (BatchPlan.of arguments settings).workers :=
  Nat.le_max_right _ _

theorem yields_runBatch (session : Session) (engine : Engine) (plan : BatchPlan)
    (records : List Json) (worker : 1 ≤ plan.workers) :
    Yields tree (runBatch session engine plan records) (.ok (runAll engine plan.policy records)) := by
  have same := runPartitioned_eq_runAll engine plan.policy records plan.workers worker
    session.schedule
  refine yields_after_report _ _ _ ?_
  rw [same]
  exact yields_pure _

/-- Records can be saved under a path, whatever they are. -/
def CanSave (tree : Tree) (path : String) : Prop :=
  ∀ records, ∃ saved, Records.save tree path records = .ok saved

theorem saveOutputs_ensures (path : String) (report : Report) :
    Ensures tree (saveOutputs path report) fun result after =>
      match Records.save tree path (report.outputs.map Prod.snd) with
      | .ok saved => result = .ok () ∧ after = saved
      | .error e => result = .error (.io e.message) ∧ after = tree := by
  refine ensures_bind_yields _ _ _ _ yields_tree ?_ fun _ same => by cases same
  rintro _ ⟨⟩
  cases saves : Records.save tree path (report.outputs.map Prod.snd) with
  | ok saved =>
      refine ensures_bind_yields _ _ (.ok saved) _ (yields_ofExcept _ _) ?_
        fun _ same => by cases same
      rintro _ ⟨⟩
      exact ensures_bind _ _ _ (ensures_setTree _ _ (ensures_report _ _ ⟨rfl, rfl⟩))
  | error e =>
      refine ensures_bind_yields _ _ (.error (.io e.message)) _ (yields_ofExcept _ _)
        (fun _ same => by cases same) ?_
      rintro _ ⟨⟩
      exact ⟨rfl, rfl⟩

/-- The result that a batch has by its counts. -/
def verdict (counts : ReportSummary) : Except Failure Unit :=
  if 0 < counts.failed then .error (.recordsFailed counts.failed counts.submitted) else .ok ()

theorem finish_ensures (session : Session) (items : List Printed) (counts : ReportSummary) :
    Ensures tree
      (do
        print session items
        Job.report [.transformFinished]
        if 0 < counts.failed then
          throw (.recordsFailed counts.failed counts.submitted))
      fun result after => result = verdict counts ∧ after = tree := by
  refine ensures_bind _ _ _ (ensures_print _ _ _ ?_)
  refine ensures_bind _ _ _ (ensures_report _ _ ?_)
  by_cases some : 0 < counts.failed
  · simp only [verdict, if_pos some]
    exact ensures_throw _ _ ⟨rfl, rfl⟩
  · simp only [verdict, if_neg some]
    exact ensures_pure _ _ ⟨rfl, rfl⟩

/-- The engine and the records of a batch, as far as the arguments go together and the files hold
them. -/
def batchInput (tree : Tree) (arguments : TransformArguments) (plan : BatchPlan) :
    Except Failure (Engine × List Json) := do
  if arguments.saveTo.any fun path => Files.samePath path arguments.records then
    throw (.invalidArguments "--save-to must not overwrite the input records")
  let catalog ← catalogAt tree arguments.catalog
  let engine ← (Engine.build catalog Registry.builtIn plan.validation).mapError .core
  let records ← recordsAt tree arguments.records
  pure (engine, records)

theorem batchInput_of_files (arguments : TransformArguments) (plan : BatchPlan) (catalog : Catalog)
    (engine : Engine) (records : List Json)
    (apart : (arguments.saveTo.any fun path => Files.samePath path arguments.records) = false)
    (loaded : catalogAt tree arguments.catalog = .ok catalog)
    (built : Engine.build catalog Registry.builtIn plan.validation = .ok engine)
    (held : recordsAt tree arguments.records = .ok records) :
    batchInput tree arguments plan = .ok (engine, records) := by
  simp only [batchInput, apart, Bool.false_eq_true, if_false, loaded, built, held, ok_bind,
    Except.mapError]
  rfl

/-- The records are saved under a path, in the format that its extension tells, or nothing is done
if there is none. -/
def Settles (saveTo : Option String) (records : List Json) (before after : Tree) : Prop :=
  match saveTo with
  | none => after = before
  | some path => ∃ format text, Records.Format.Told path format ∧
      SavedAs path text before after ∧ Records.HeldBy format records text

/-- A batch ends by its counts, with its outputs saved if there is a path for them, unless they
cannot be saved. -/
def EndsBatch (tree : Tree) (saveTo : Option String) (report : Report)
    (result : Except Failure Unit) (after : Tree) : Prop :=
  match saveTo with
  | none => result = verdict report.summary ∧ after = tree
  | some path =>
    match Records.save tree path (report.outputs.map Prod.snd) with
    | .ok saved => result = verdict report.summary ∧ after = saved
    | .error e => result = .error (.io e.message) ∧ after = tree

theorem endsBatch_of_saved (path : String) (report : Report) (saved : Tree)
    (saves : Records.save tree path (report.outputs.map Prod.snd) = .ok saved) :
    EndsBatch tree (some path) report (verdict report.summary) saved := by
  rw [EndsBatch, saves]
  exact ⟨rfl, rfl⟩

theorem endsBatch_of_unsaved (path : String) (report : Report) (e : Files.FileError)
    (refused : Records.save tree path (report.outputs.map Prod.snd) = .error e) :
    EndsBatch tree (some path) report (.error (.io e.message)) tree := by
  rw [EndsBatch, refused]
  exact ⟨rfl, rfl⟩

/-- Without input the job fails as the input does, and with it the batch is run. -/
theorem transform_ends (session : Session) (arguments : TransformArguments) :
    Ensures tree (transform session arguments) fun result after =>
      match batchInput tree arguments (BatchPlan.of arguments session.engine) with
      | .error failure => result = .error failure ∧ after = tree
      | .ok (engine, records) =>
        EndsBatch tree arguments.saveTo
          (runAll engine (BatchPlan.of arguments session.engine).policy records) result after := by
  rw [transform, batchInput]
  refine ensures_timed _ _ _ ?_
  by_cases conflict :
      (arguments.saveTo.any fun path => Files.samePath path arguments.records) = true
  · simp only [if_pos conflict]
    exact ensures_bind _ _ _ (ensures_throw _ _ ⟨rfl, rfl⟩)
  · simp only [if_neg conflict]
    -- up to the batch each step yields, so that a failure leaves the tree as it was
    refine ensures_bind_yields _ _ _ _ (yields_print _ _) (fun _ _ => ?_)
      fun _ same => by cases same
    refine ensures_bind_yields _ _ _ _ (yields_loadCatalog _) (fun catalog loaded => ?_)
      fun failure failed => by rw [failed]; exact ⟨rfl, rfl⟩
    rw [loaded, ok_bind]
    refine ensures_bind_yields _ _ _ _ (yields_buildEngine _ _) (fun engine built => ?_)
      fun failure failed => by rw [failed]; exact ⟨rfl, rfl⟩
    rw [built, ok_bind]
    refine ensures_bind_yields _ _ _ _ (yields_loadRecords _) (fun records held => ?_)
      fun failure failed => by rw [failed]; exact ⟨rfl, rfl⟩
    rw [held, ok_bind]
    refine ensures_bind_yields _ _ _ _ (yields_print _ _) (fun _ _ => ?_)
      fun _ same => by cases same
    refine ensures_bind_yields _ _ _ _
      (yields_runBatch session engine _ records (one_le_workers arguments session.engine)) ?_
      fun _ same => by cases same
    rintro _ ⟨⟩
    cases saveTo : arguments.saveTo with
    | none => exact finish_ensures session _ _
    | some path =>
        refine ensures_bind _ _ _ ((saveOutputs_ensures path _).mono ?_)
        intro result after saves
        cases saved : Records.save tree path ((runAll engine
            (BatchPlan.of arguments session.engine).policy records).outputs.map Prod.snd) with
        | ok grown =>
            rw [saved] at saves
            obtain ⟨rfl, rfl⟩ := saves
            refine (finish_ensures session _ _).mono ?_
            rintro _ _ ⟨rfl, rfl⟩
            exact endsBatch_of_saved path _ _ saved
        | error e =>
            rw [saved] at saves
            obtain ⟨rfl, rfl⟩ := saves
            exact endsBatch_of_unsaved path _ e saved

theorem settles_of_endsBatch (saveTo : Option String) (report : Report)
    (result : Except Failure Unit) (after : Tree)
    (free : ∀ path, saveTo = some path → CanSave tree path)
    (ends : EndsBatch tree saveTo report result after) :
    result = verdict report.summary ∧
      Settles saveTo (report.outputs.map Prod.snd) tree after := by
  cases saveTo with
  | none => exact ends
  | some path =>
      obtain ⟨saved, saves⟩ := free path rfl (report.outputs.map Prod.snd)
      simp only [EndsBatch, saves] at ends
      obtain ⟨ended, rfl⟩ := ends
      exact ⟨ended, _, _, (Records.Format.told_iff path _).mpr rfl,
        Files.Tree.savedAs_of_save tree after path _ saves, Records.heldBy_toText _ _⟩

/-- Without input the job fails as the input does.  With it the batch is run and its outputs are
saved. -/
theorem transform_ensures (session : Session) (arguments : TransformArguments)
    (free : ∀ path, arguments.saveTo = some path → CanSave tree path) :
    Ensures tree (transform session arguments) fun result after =>
      match batchInput tree arguments (BatchPlan.of arguments session.engine) with
      | .error failure => result = .error failure ∧ after = tree
      | .ok (engine, records) =>
        let run := runAll engine (BatchPlan.of arguments session.engine).policy records
        result = verdict run.summary ∧
          Settles arguments.saveTo (run.outputs.map Prod.snd) tree after := by
  refine (transform_ends session arguments).mono ?_
  intro result after ends
  cases input : batchInput tree arguments (BatchPlan.of arguments session.engine) with
  | error failure =>
      rw [input] at ends
      exact ends
  | ok loaded =>
      rw [input] at ends
      exact settles_of_endsBatch arguments.saveTo _ result after free ends

theorem verdict_of_no_failure (report : Report) (clean : report.failures = []) :
    verdict report.summary = .ok () := by
  have none : report.summary.failed = 0 := by simp [Report.summary, clean]
  rw [verdict, none]
  rfl

theorem verdict_of_failure (report : Report) (failure : report.failures ≠ []) :
    verdict report.summary = .error (.recordsFailed report.failures.length report.submitted) :=
  if_pos (List.length_pos_iff.mpr failure)

theorem verdict_eq_ok_iff (report : Report) :
    verdict report.summary = .ok () ↔ report.failures = [] := by
  refine ⟨fun well => ?_, verdict_of_no_failure report⟩
  by_contra failure
  rw [verdict_of_failure report failure] at well
  cases well

theorem verdict_cases (report : Report) :
    verdict report.summary = .ok () ∨
      ∃ failed submitted, verdict report.summary = .error (.recordsFailed failed submitted) := by
  by_cases clean : report.failures = []
  · exact .inl (verdict_of_no_failure report clean)
  · exact .inr ⟨_, _, verdict_of_failure report clean⟩

/-- The failure is not that records failed. -/
def NotOfRecords (failure : Failure) : Prop :=
  ∀ failed submitted, failure ≠ .recordsFailed failed submitted

theorem mapError_eq_error {α ε : Type} (fail : ε → Failure) (value : Except ε α) (failure : Failure)
    (apart : ∀ e, NotOfRecords (fail e)) (failed : value.mapError fail = .error failure) :
    NotOfRecords failure := by
  cases value with
  | ok a => cases failed
  | error e =>
      cases failed
      exact apart e

theorem needed_eq_error (path : String) (failure : Failure)
    (failed : needed tree path = .error failure) : NotOfRecords failure := by
  rw [needed] at failed
  split at failed
  · cases failed
  · cases failed
    simp [NotOfRecords]

/-- A file that is needed, read and then taken for something. -/
theorem eq_error_of_needed {α : Type} (path : String) (text : Except Failure String)
    (next : String → Except Failure α) (failure : Failure)
    (unread : ∀ failure, text = .error failure → NotOfRecords failure)
    (refused : ∀ text failure, next text = .error failure → NotOfRecords failure)
    (failed : (needed tree path >>= fun _ => text >>= next) = .error failure) :
    NotOfRecords failure := by
  rcases bind_eq_error _ _ _ failed with missing | ⟨_, _, failed⟩
  · exact needed_eq_error path failure missing
  rcases bind_eq_error _ _ _ failed with failed | ⟨text, _, failed⟩
  · exact unread failure failed
  · exact refused text failure failed

theorem catalogAt_eq_error (path : String) (failure : Failure)
    (failed : catalogAt tree path = .error failure) : NotOfRecords failure :=
  eq_error_of_needed path _ _ failure
    (fun failure => mapError_eq_error _ _ failure (by simp [NotOfRecords]))
    (fun _ failure => mapError_eq_error _ _ failure (by simp [NotOfRecords])) failed

theorem recordsAt_eq_error (path : String) (failure : Failure)
    (failed : recordsAt tree path = .error failure) : NotOfRecords failure :=
  eq_error_of_needed path _ _ failure
    (fun failure => mapError_eq_error _ _ failure (by simp [NotOfRecords]))
    (fun _ failure => mapError_eq_error _ _ failure (by simp [NotOfRecords])) failed

theorem batchInput_eq_error (arguments : TransformArguments) (plan : BatchPlan) (failure : Failure)
    (failed : batchInput tree arguments plan = .error failure) : NotOfRecords failure := by
  rw [batchInput] at failed
  by_cases conflict :
      (arguments.saveTo.any fun path => Files.samePath path arguments.records) = true
  · simp only [if_pos conflict] at failed
    cases failed
    simp [NotOfRecords]
  · simp only [if_neg conflict] at failed
    rcases bind_eq_error _ _ _ failed with unloaded | ⟨catalog, _, failed⟩
    · exact catalogAt_eq_error _ failure unloaded
    rcases bind_eq_error _ _ _ failed with unbuilt | ⟨engine, _, failed⟩
    · exact mapError_eq_error _ _ failure (by simp [NotOfRecords]) unbuilt
    rcases bind_eq_error _ _ _ failed with unheld | ⟨records, _, done⟩
    · exact recordsAt_eq_error _ failure unheld
    · cases done

/-- If the job fails for another reason than that records failed, no file is changed.  It does not
whenever there is input; then at most the file to save to is changed, and holds the outputs of one
run over all records in order, and the result tells whether and how often that run failed. -/
theorem transform_writes_results_only (session : Session) (arguments : TransformArguments)
    (progress : Progress)
    (free : ∀ path, arguments.saveTo = some path → CanSave progress.tree path) :
    let policy := arguments.policy.getD session.engine.policy
    let workers := max (arguments.workers.getD session.engine.workers) 1
    let validation := if arguments.lazy then .lazy else session.engine.validation
    let plan := BatchPlan.mk policy workers validation
    let done := (transform session arguments).run progress
    (∀ failure, done.1 = .error failure → NotOfRecords failure →
      done.2.tree = progress.tree) ∧
    ((done.1 = .ok () ∨ ∃ failed submitted, done.1 = .error (.recordsFailed failed submitted)) ↔
      ∃ engine records, batchInput progress.tree arguments plan = .ok (engine, records)) ∧
    ∀ engine records, batchInput progress.tree arguments plan = .ok (engine, records) →
      let run := runAll engine policy records
      (done.1 = .ok () ↔ run.failures = []) ∧
      (run.failures ≠ [] →
        done.1 = .error (.recordsFailed run.failures.length records.length)) ∧
      run.outputs.map Prod.snd = (records.take run.outcomes.length).filterMap (fun record =>
        (engine.transform record).toOption.map Json.object) ∧
      Settles arguments.saveTo (run.outputs.map Prod.snd) progress.tree done.2.tree := by
  intro policy workers validation plan done
  have ends := transform_ensures session arguments free progress rfl
  cases input : batchInput progress.tree arguments plan with
  | error failure =>
      have apart := batchInput_eq_error arguments plan failure input
      have taken : batchInput progress.tree arguments (BatchPlan.of arguments session.engine) =
          .error failure := input
      rw [taken] at ends
      have ended : done.1 = .error failure := ends.1
      refine ⟨fun _ _ _ => ends.2, ⟨?_, ?_⟩, ?_⟩
      · rw [ended]
        rintro (well | ⟨failed, submitted, ofRecords⟩)
        · cases well
        · cases ofRecords
          exact absurd rfl (apart failed submitted)
      · rintro ⟨_, _, loaded⟩
        cases loaded
      · rintro _ _ ⟨⟩
  | ok loaded =>
      obtain ⟨engine, records⟩ := loaded
      have taken : batchInput progress.tree arguments (BatchPlan.of arguments session.engine) =
          .ok (engine, records) := input
      rw [taken] at ends
      have ended : done.1 = verdict (runAll engine policy records).summary := ends.1
      have settled : Settles arguments.saveTo
        ((runAll engine policy records).outputs.map Prod.snd) progress.tree done.2.tree := ends.2
      have told := verdict_cases (runAll engine policy records)
      rw [ended]
      refine ⟨fun failure failed apart => ?_, iff_of_true told ⟨engine, records, rfl⟩, ?_⟩
      · rcases told with well | ⟨_, _, ofRecords⟩
        · rw [well] at failed
          cases failed
        · rw [ofRecords] at failed
          cases failed
          exact absurd rfl (apart _ _)
      · rintro _ _ ⟨⟩
        exact ⟨verdict_eq_ok_iff _, verdict_of_failure _, outputs_runAll engine policy records,
          settled⟩

/-! ## A batch of files -/

/-- The catalog of ages and the records in files. -/
def agesTree : Tree where
  root := .directory
    [("ages.json", .file ageCatalog.toDocument.toJson.compact),
      ("ages.jsonl", .file (Records.toText .jsonLines ageRecords))]
  workingDirectory := []

/-- Every record is taken, and of two workers the second is the first to finish. -/
def agesSession : Session where
  console := ⟨.json, false, false⟩
  engine := ⟨.collect, .eager, 2⟩
  schedule _ := 1
  startedAt := ⟨0, 0⟩
  duration := 0

def agesArguments : TransformArguments :=
  ⟨"ages.json", "ages.jsonl", none, none, some "out/ages.jsonl", false⟩

def agesEngine : Engine :=
  ⟨ageCatalog, .builtIn, .eager, [(1, ⟨"$.Age", [.key "Age"]⟩)]⟩

theorem catalogAt_ages : catalogAt agesTree "ages.json" = .ok ageCatalog := by
  have fit : ageCatalog.toDocument.DefaultsFit Json.nestingLimit := by
    simp [Document.DefaultsFit, Catalog.toDocument, ageCatalog, DestinationField.ofName,
      Json.Distinct, Json.height, Json.nestingLimit]
  have floats : ageCatalog.toDocument.toJson.FloatsReadBack := by
    simp [Json.FloatsReadBack, Document.toJson, Catalog.toDocument, ageCatalog,
      SourceField.toJson, SourceField.ofName, DestinationField.toJson, DestinationField.ofName,
      Link.toJson, Link.plain, Json.ofUInt64, Number.ofUInt64]
  have decoded := (ageCatalog.toDocument.decodeText_written fit floats).1
  have made := Catalog.ofJson_of_decodeText ageCatalog _ decoded
  have format : CatalogFormat.ofPath "ages.json" = .json := by rfl
  refine catalogAt_of_read "ages.json" ageCatalog.toDocument.toJson.compact ageCatalog rfl ?_
  rw [format, Catalog.ofText]
  exact made

theorem recordsAt_ages : recordsAt agesTree "ages.jsonl" = .ok ageRecords := by
  have floats : ∀ record ∈ ageRecords, record.FloatsReadBack := by
    simp [ageRecords, Json.FloatsReadBack, Json.ofNat, Number.ofNat, FitsWord, wordLimit]
  have distinct : ∀ record ∈ ageRecords, record.Distinct := by
    simp [ageRecords, Json.Distinct, Fields.names, Json.ofNat]
  have made := Records.ofText_toText .jsonLines ageRecords (by decide) floats distinct (by decide)
  have format : Records.Format.ofPath "ages.jsonl" = .jsonLines := by rfl
  refine recordsAt_of_read "ages.jsonl" (Records.toText .jsonLines ageRecords) ageRecords rfl ?_
  rw [format]
  exact made

/-- The first failure is to end the batch, whatever the settings say. -/
def haltingAges : TransformArguments :=
  { agesArguments with policy := some .halt, workers := some 3, saveTo := some "out/ages.yaml" }

theorem canSave_halting_ages : CanSave agesTree "out/ages.yaml" :=
  fun _ => ⟨_, rfl⟩

theorem batchInput_halting_ages :
    batchInput agesTree haltingAges ⟨.halt, 3, .eager⟩ = .ok (agesEngine, ageRecords) :=
  batchInput_of_files haltingAges _ ageCatalog agesEngine ageRecords rfl catalogAt_ages rfl
    recordsAt_ages

/-- The second of three records fails; the output of the first is saved in a new directory. -/
theorem transform_ages_writes_output_only :
    ((transform agesSession haltingAges).run (Progress.start agesTree)).1 =
        .error (.recordsFailed 1 3) ∧
      ∃ text, ((transform agesSession haltingAges).run (Progress.start agesTree)).2.tree.read
          "out/ages.yaml" = .ok text ∧
        Records.ofText .yaml text = .ok [.object [("Age", .ofNat 34)]] := by
  obtain ⟨_, _, batch⟩ := transform_writes_results_only agesSession haltingAges
    (Progress.start agesTree) (by rintro _ ⟨⟩; exact canSave_halting_ages)
  obtain ⟨_, failed, _, settled⟩ := batch agesEngine ageRecords batchInput_halting_ages
  have policy : haltingAges.policy.getD agesSession.engine.policy = .halt := by rfl
  have saveTo : haltingAges.saveTo = some "out/ages.yaml" := by rfl
  have yaml : Records.Format.ofPath "out/ages.yaml" = .yaml := by rfl
  have total : ageRecords.length = 3 := by rfl
  have failures : (runAll agesEngine .halt ageRecords).failures.length = 1 := by rfl
  have outputs : (runAll agesEngine .halt ageRecords).outputs.map Prod.snd =
      [.object [("Age", .ofNat 34)]] := by rfl
  rw [policy, failures, total] at failed
  rw [policy, outputs, saveTo, Settles] at settled
  obtain ⟨format, text, told, saved, held⟩ := settled
  obtain rfl : .yaml = format := yaml.symm.trans ((Records.Format.told_iff _ _).mp told)
  have readable : Records.Readable .yaml [.object [("Age", .ofNat 34)]] := by
    refine ⟨absurd rfl, ?_, by decide⟩
    simp [Json.Distinct, Fields.names, Json.ofNat]
  exact ⟨failed (List.ne_nil_of_length_pos (failures ▸ Nat.one_pos)), text,
    Files.Tree.read_of_savedAs _ _ _ text saved, held.read readable⟩

end Job

end Crosswalk
