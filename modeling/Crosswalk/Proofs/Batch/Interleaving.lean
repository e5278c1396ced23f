import Mathlib.Data.List.Perm.Basic
import Mathlib.Logic.Relation
import Crosswalk.Proofs.Batch.Merge

/-!
# Any order of finishing

A pool takes one step at a time (`Step`): the next waiting range is started, if there is room and
nothing has stopped the pool, or any range that runs finishes.  Every step keeps the pool `Sound`:
the ranges started so far are the front ones, each of them runs or has finished, and only a failure
under the halting policy stops the pool.  A pool that has come to rest therefore holds the reports
of the front ranges up to a failure at least, which is all that a sequential run looks at; and every
order of steps comes to rest (`every_order_reports`).
-/

set_option autoImplicit false

namespace Crosswalk

namespace Pool

section Steps
variable (run : Range → Report) (policy : FailurePolicy) (workers : Nat)

inductive Step : Pool → Pool → Prop where
  | start (pool : Pool) (range : Range) (rest : List Range) (going : pool.stopped = false)
      (room : pool.running.length < workers) (next : pool.waiting = range :: rest) :
      Step pool { pool with waiting := rest, running := pool.running ++ [range] }
  | finish (pool : Pool) (place : Nat) (runs : place < pool.running.length) :
      Step pool (finish run policy place pool)

/-- The pools that some order of steps leads to. -/
def Reaches (pool next : Pool) : Prop :=
  Relation.ReflTransGen (Step run policy workers) pool next

/-- No step is left. -/
def AtRest (pool : Pool) : Prop :=
  ∀ next, ¬ Step run policy workers pool next

/-- What every order of steps keeps. -/
structure Sound (ranges : List Range) (pool : Pool) : Prop where
  started : ∃ started, ranges = started ++ pool.waiting ∧
    (pool.finished.map Prod.fst ++ pool.running).Perm started
  reported : ∀ entry ∈ pool.finished, entry.2 = run entry.1
  failed : pool.stopped = true →
    policy = .halt ∧ ∃ entry ∈ pool.finished, entry.2.hasFailures = true

theorem sound_start (ranges : List Range) : Sound run policy ranges (start ranges) where
  started := ⟨[], rfl, List.Perm.refl []⟩
  reported := by simp [start]
  failed := by simp [start]

/-- The range at a place finishes: it leaves those that run, and its report joins the others. -/
theorem finish_eq (place : Nat) (pool : Pool) (runs : place < pool.running.length) :
    finish run policy place pool =
      { pool with
        running := pool.running.eraseIdx place
        finished := pool.finished ++ [(pool.running[place], run pool.running[place])]
        stopped := pool.stopped ||
          (policy == .halt && (run pool.running[place]).hasFailures) } := by
  simp [finish, List.getElem?_eq_getElem runs]

theorem sound_finish (ranges : List Range) (pool : Pool) (place : Nat)
    (runs : place < pool.running.length) (sound : Sound run policy ranges pool) :
    Sound run policy ranges (finish run policy place pool) := by
  rw [finish_eq run policy place pool runs]
  obtain ⟨started, split, perm⟩ := sound.started
  refine ⟨⟨started, split, ?_⟩, ?_, ?_⟩
  · have moved : (pool.running[place] :: pool.running.eraseIdx place).Perm pool.running :=
      List.getElem_cons_eraseIdx_perm runs
    have joined := (moved.append_left (pool.finished.map Prod.fst)).trans perm
    simpa using joined
  · intro entry member
    rcases List.mem_append.mp member with earlier | now
    · exact sound.reported entry earlier
    · rw [List.mem_singleton.mp now]
  · intro stopped
    rcases Bool.or_eq_true_iff.mp stopped with before | now
    · obtain ⟨halting, entry, member, failure⟩ := sound.failed before
      exact ⟨halting, entry, List.mem_append_left _ member, failure⟩
    · simp only [Bool.and_eq_true, beq_iff_eq] at now
      exact ⟨now.1, _, List.mem_append_right _ (List.mem_singleton_self _), now.2⟩

theorem sound_step (ranges : List Range) (pool next : Pool)
    (step : Step run policy workers pool next) (sound : Sound run policy ranges pool) :
    Sound run policy ranges next := by
  cases step with
  | start range rest going room waiting =>
      obtain ⟨started, split, perm⟩ := sound.started
      refine ⟨⟨started ++ [range], by simp [split, waiting], ?_⟩, sound.reported, sound.failed⟩
      rw [← List.append_assoc]
      exact perm.append_right [range]
  | finish place runs => exact sound_finish run policy ranges pool place runs sound

theorem sound_of_reaches (ranges : List Range) (pool : Pool)
    (steps : Reaches run policy workers (start ranges) pool) :
    Sound run policy ranges pool := by
  induction steps with
  | refl => exact sound_start run policy ranges
  | tail _ step sound => exact sound_step run policy workers ranges _ _ step sound

/-- With a worker at all, a pool rests only when nothing runs, and nothing waits or it was
stopped. -/
theorem atRest_iff (pool : Pool) (worker : 1 ≤ workers) :
    AtRest run policy workers pool ↔
      pool.running = [] ∧ (pool.stopped = true ∨ pool.waiting = []) := by
  constructor
  · intro rest
    have idle : pool.running = [] := by
      cases running : pool.running with
      | nil => rfl
      | cons range ranges => exact absurd (Step.finish pool 0 (by simp [running])) (rest _)
    refine ⟨idle, ?_⟩
    cases stopped : pool.stopped with
    | true => exact Or.inl rfl
    | false =>
        cases waiting : pool.waiting with
        | nil => exact Or.inr rfl
        | cons range ranges =>
            have room : pool.running.length < workers := by
              rw [idle]
              exact worker
            exact absurd (Step.start pool range ranges stopped room waiting) (rest _)
  · rintro ⟨idle, settled⟩ next step
    cases step with
    | start range ranges going room waiting => simp [going, waiting] at settled
    | finish place runs => simp [idle] at runs

/-- The steps left at most: two for a range that waits and one for a range that runs. -/
def stepsLeft (pool : Pool) : Nat :=
  2 * pool.waiting.length + pool.running.length

theorem stepsLeft_step (pool next : Pool) (step : Step run policy workers pool next) :
    stepsLeft next < stepsLeft pool := by
  cases step with
  | start range rest going room waiting =>
      simp only [stepsLeft, waiting, List.length_cons, List.length_append, List.length_nil]
      omega
  | finish place runs =>
      rw [finish_eq run policy place pool runs]
      simp only [stepsLeft, List.length_eraseIdx_of_lt runs]
      omega

/-- Whatever order of steps a pool takes, it comes to rest as long as it takes one while one is
left. -/
theorem comes_to_rest (pools : Nat → Pool)
    (goes : ∀ n, ¬ AtRest run policy workers (pools n) →
      Step run policy workers (pools n) (pools (n + 1))) :
    ∃ n, Reaches run policy workers (pools 0) (pools n) ∧ AtRest run policy workers (pools n) := by
  by_contra never
  have fewer : ∀ n, Reaches run policy workers (pools 0) (pools n) ∧
      stepsLeft (pools n) + n ≤ stepsLeft (pools 0) := by
    intro n
    induction n with
    | zero => exact ⟨.refl, Nat.le_refl _⟩
    | succ n ih =>
        have step := goes n fun rest => never ⟨n, ih.1, rest⟩
        have less := stepsLeft_step run policy workers _ _ step
        exact ⟨ih.1.tail step, by omega⟩
  have none := (fewer (stepsLeft (pools 0) + 1)).2
  omega

end Steps

/-! ## The executable pool takes such steps -/

section Run
variable (run : Range → Report) (policy : FailurePolicy) (workers : Nat)

theorem fill_reaches (room : Nat) (pool : Pool) :
    Reaches run policy workers pool (fill workers room pool) := by
  induction room generalizing pool with
  | zero => exact .refl
  | succ room ih =>
      rw [fill]
      split
      · exact .refl
      · rename_i free
        simp only [Bool.or_eq_true, decide_eq_true_eq, not_or, Bool.not_eq_true,
          Nat.not_le] at free
        split
        · exact .refl
        · rename_i range rest waiting
          exact .head (.start pool range rest free.1 free.2 waiting) (ih _)

/-- Filling goes on until the pool is stopped or full or nothing waits. -/
theorem fill_full (room : Nat) (pool : Pool) (enough : workers ≤ pool.running.length + room) :
    (fill workers room pool).stopped = true ∨
      workers ≤ (fill workers room pool).running.length ∨
        (fill workers room pool).waiting = [] := by
  induction room generalizing pool with
  | zero => exact Or.inr (Or.inl enough)
  | succ room ih =>
      rw [fill]
      split
      · rename_i full
        simp only [Bool.or_eq_true, decide_eq_true_eq] at full
        exact full.imp_right Or.inl
      · split
        · rename_i waiting
          exact Or.inr (Or.inr waiting)
        · apply ih
          simp only [List.length_append, List.length_singleton]
          omega

/-- The number of ranges that have not finished. -/
def unfinished (pool : Pool) : Nat :=
  pool.waiting.length + pool.running.length

theorem unfinished_fill (room : Nat) (pool : Pool) :
    unfinished (fill workers room pool) = unfinished pool := by
  induction room generalizing pool with
  | zero => rfl
  | succ room ih =>
      rw [fill]
      split
      · rfl
      · split
        · rfl
        · rename_i range rest waiting
          rw [ih]
          simp only [unfinished, waiting, List.length_append, List.length_cons, List.length_nil]
          omega

theorem unfinished_finish (place : Nat) (pool : Pool) (runs : place < pool.running.length) :
    unfinished (finish run policy place pool) + 1 = unfinished pool := by
  rw [finish_eq run policy place pool runs]
  simp only [unfinished, List.length_eraseIdx_of_lt runs]
  omega

/-- A run is an order of steps, and with fuel for every range it comes to rest. -/
theorem run_reaches_rest (schedule : Schedule) (worker : 1 ≤ workers) (fuel : Nat) (pool : Pool)
    (enough : unfinished pool < fuel) :
    Reaches run policy workers pool (Pool.run run policy workers schedule fuel pool) ∧
      AtRest run policy workers (Pool.run run policy workers schedule fuel pool) := by
  induction fuel generalizing pool with
  | zero => omega
  | succ fuel ih =>
      have filling := fill_reaches run policy workers workers pool
      have full := fill_full workers workers pool (Nat.le_add_left _ _)
      have same := unfinished_fill workers workers pool
      rw [Pool.run]
      generalize fill workers workers pool = filled at filling full same ⊢
      dsimp only
      split
      · rename_i idle
        have none : filled.running = [] := by simpa using idle
        refine ⟨filling, (atRest_iff run policy workers filled worker).mpr ⟨none, ?_⟩⟩
        rw [none] at full
        exact full.imp_right fun settled => settled.resolve_left (Nat.not_le.mpr worker)
      · rename_i busy
        generalize placed : schedule filled.finished.length % filled.running.length = place
        have runs : place < filled.running.length := by
          rw [← placed]
          exact Nat.mod_lt _ (List.length_pos_iff.mpr (by simpa using busy))
        have fewer := unfinished_finish run policy place filled runs
        obtain ⟨steps, rest⟩ := ih (finish run policy place filled) (by omega)
        exact ⟨filling.trans (.head (.finish filled _ runs) steps), rest⟩

end Run

end Pool

/-! ## The report of a pool at rest -/

section Report
variable (engine : Engine) (policy : FailurePolicy) (records : List Json)

/-- A pool whose reports merge into the outcomes of one run has the report of that run. -/
theorem report_of_outcomes (pool : Pool)
    (outcomes : (Report.merge policy (pool.finished.map Prod.snd)).outcomes =
      (runAll engine policy records).outcomes)
    (collected : policy = .collect →
      (Report.merge policy (pool.finished.map Prod.snd)).halted = false) :
    pool.report policy records.length = runAll engine policy records := by
  apply Report.ext
  · exact outcomes
  · cases policy with
    | collect =>
        have never := runFrom_collect_halted engine 0 records
        exact (collected rfl).trans never.symm
    | halt =>
        simp only [Pool.report, Report.hasFailures, outcomes]
        -- without a failure every record is taken, so the counts alone decide
        cases failure : (runAll engine .halt records).outcomes.any Outcome.failed with
        | true =>
            rw [Bool.true_and, Bool.eq_iff_iff, decide_eq_true_eq]
            exact (runFrom_halted_iff engine .halt records 0).symm
        | false =>
            have never := runFrom_halted_of_no_failure engine .halt 0 records failure
            simpa [runAll] using never.symm
  · rfl

/-- The finished ranges and the policy that each was run under. -/
def finishedParts (pool : Pool) : List (Range × FailurePolicy) :=
  pool.finished.map fun entry => (entry.1, policy)

theorem finished_reports (ranges : List Range) (pool : Pool)
    (sound : pool.Sound (runRange engine policy records) policy ranges) :
    pool.finished.map Prod.snd = (finishedParts policy pool).map (runPart engine records) := by
  rw [finishedParts, List.map_map]
  exact List.map_congr_left sound.reported

/-- The outcomes of the front ranges are those of the whole input, if nothing comes after them or
a failure ends the batch among them. -/
theorem front_outcomes (middle : Nat) (inside : middle ≤ records.length)
    (decided : middle = records.length ∨ policy = .halt ∧
      (everyOutcome engine records ⟨0, middle⟩).any Outcome.failed = true) :
    (runRange engine policy records ⟨0, middle⟩).outcomes =
      (runAll engine policy records).outcomes := by
  rcases decided with rfl | ⟨rfl, failure⟩
  · rw [runRange, Range.slice_whole]
    rfl
  · have whole := Range.slice_append 0 middle records.length records (Nat.zero_le _) inside
    rw [Range.slice_whole] at whole
    have ended : (outcomesFrom engine .halt 0 ((Range.mk 0 middle).slice records)).any
        Outcome.failed = true := by
      rw [outcomesFrom_eq_keep, any_failed_keep]
      exact failure
    have same := outcomesFrom_halt_append_of_failure engine 0 _
      ((Range.mk middle records.length).slice records) ended
    rw [whole] at same
    rw [runRange, runAll, runFrom_outcomes, runFrom_outcomes]
    exact same.symm

theorem report_of_rest (workers : Nat) (worker : 1 ≤ workers) (pool : Pool)
    (steps : Pool.Reaches (runRange engine policy records) policy workers
      (Pool.start (Range.cut records.length workers)) pool)
    (rest : Pool.AtRest (runRange engine policy records) policy workers pool) :
    pool.report policy records.length = runAll engine policy records := by
  have sound := Pool.sound_of_reaches _ _ _ _ _ steps
  obtain ⟨idle, settled⟩ := (Pool.atRest_iff _ _ _ pool worker).mp rest
  obtain ⟨started, split, perm⟩ := sound.started
  rw [idle, List.append_nil] at perm
  have all := Range.tiles_cut records.length workers
  rw [split] at all
  obtain ⟨middle, front, back⟩ := all.front
  have inside := back.first_le_stop
  -- the finished parts are the started ranges in some order
  have ranges : (started.map fun range => (range, policy)).map Prod.fst = started := by
    rw [List.map_map]
    exact List.map_id started
  have tiles : Tiles 0 ((started.map fun range => (range, policy)).map Prod.fst) middle := by
    rw [ranges]
    exact front
  have reordered : (finishedParts policy pool).Perm (started.map fun range => (range, policy)) := by
    have paired := perm.map fun range => (range, policy)
    rw [List.map_map] at paired
    exact paired
  have merged := merge_runParts engine records tiles inside reordered policy
    (by intro collecting; simp [collecting])
  rw [← finished_reports engine policy records _ pool sound] at merged
  have decided : middle = records.length ∨ policy = .halt ∧
      (everyOutcome engine records ⟨0, middle⟩).any Outcome.failed = true := by
    rcases settled with stopped | waiting
    · right
      obtain ⟨halting, entry, member, failure⟩ := sound.failed stopped
      refine ⟨halting, ?_⟩
      rw [← any_failed_gathered_runParts engine records tiles inside reordered,
        any_failed_gathered, ← finished_reports engine policy records _ pool sound]
      exact List.any_eq_true.mpr ⟨entry.2, List.mem_map_of_mem member, failure⟩
    · left
      rw [waiting] at back
      cases back
      rfl
  apply report_of_outcomes
  · rw [merged]
    exact front_outcomes engine policy records middle inside decided
  · rintro rfl
    rw [merged]
    exact runFrom_collect_halted engine 0 _

/-- Every order in which ranges start and finish comes to its end, with the report of one run. -/
theorem every_order_reports (workers : Nat) (worker : 1 ≤ workers) (pools : Nat → Pool)
    (starts : pools 0 = Pool.start (Range.cut records.length workers))
    (goes : ∀ n, ¬ Pool.AtRest (runRange engine policy records) policy workers (pools n) →
      Pool.Step (runRange engine policy records) policy workers (pools n) (pools (n + 1))) :
    ∃ n, (pools n).report policy records.length = runAll engine policy records := by
  obtain ⟨n, steps, rest⟩ := Pool.comes_to_rest _ policy workers pools goes
  rw [starts] at steps
  exact ⟨n, report_of_rest engine policy records workers worker (pools n) steps rest⟩

theorem poolAfter_reaches_rest (workers : Nat) (worker : 1 ≤ workers)
    (schedule : Pool.Schedule) :
    Pool.Reaches (runRange engine policy records) policy workers
        (Pool.start (Range.cut records.length workers))
        (poolAfter engine policy workers schedule records) ∧
      Pool.AtRest (runRange engine policy records) policy workers
        (poolAfter engine policy workers schedule records) :=
  Pool.run_reaches_rest _ policy workers schedule worker _ _
    (by simp [Pool.unfinished, Pool.start])

theorem runPartitioned_eq_runAll (workers : Nat) (worker : 1 ≤ workers)
    (schedule : Pool.Schedule) :
    runPartitioned engine policy workers schedule records = runAll engine policy records := by
  obtain ⟨steps, rest⟩ := poolAfter_reaches_rest engine policy records workers worker schedule
  exact report_of_rest engine policy records workers worker _ steps rest

end Report

/-- Whatever the order in which ranges start and finish, a pool that has come to rest has the
report of one run over the input, and so has a run in parts under any schedule. -/
theorem parallel_eq_sequential (engine : Engine) (policy : FailurePolicy) (workers : Nat)
    (worker : 1 ≤ workers) (records : List Json) :
    (∀ pool, Pool.Reaches (runRange engine policy records) policy workers
          (Pool.start (Range.cut records.length workers)) pool →
        Pool.AtRest (runRange engine policy records) policy workers pool →
        pool.report policy records.length = runAll engine policy records) ∧
      ∀ schedule, runPartitioned engine policy workers schedule records =
        runAll engine policy records := by
  refine ⟨fun pool steps rest =>
    report_of_rest engine policy records workers worker pool steps rest, ?_⟩
  intro schedule
  obtain ⟨steps, rest⟩ := poolAfter_reaches_rest engine policy records workers worker schedule
  exact report_of_rest engine policy records workers worker _ steps rest

/-- Two workers, of which the second finishes first, halt at the second of three records. -/
theorem parallel_ages_eq_sequential :
    Pool.Reaches (runRange ageEngine .halt ageRecords) .halt 2 (Pool.start [⟨0, 2⟩, ⟨2, 3⟩])
        (poolAfter ageEngine .halt 2 (fun _ => 1) ageRecords) ∧
      Pool.AtRest (runRange ageEngine .halt ageRecords) .halt 2
        (poolAfter ageEngine .halt 2 (fun _ => 1) ageRecords) ∧
      (poolAfter ageEngine .halt 2 (fun _ => 1) ageRecords).report .halt 3 =
        runAll ageEngine .halt ageRecords ∧
      runPartitioned ageEngine .halt 2 (fun _ => 1) ageRecords =
        runAll ageEngine .halt ageRecords ∧
      (poolAfter ageEngine .halt 2 (fun _ => 1) ageRecords).finished.map Prod.fst =
        [⟨2, 3⟩, ⟨0, 2⟩] ∧
      (runAll ageEngine .halt ageRecords).outcomes.map Outcome.index = [0, 1] := by
  have equal := parallel_eq_sequential ageEngine .halt 2 (by decide) ageRecords
  obtain ⟨steps, rest⟩ := poolAfter_reaches_rest ageEngine .halt ageRecords 2 (by decide)
    (fun _ => 1)
  exact ⟨steps, rest, equal.1 _ steps rest, equal.2 _, by decide, by decide⟩

end Crosswalk
