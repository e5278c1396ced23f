import Crosswalk.Job.Basic

/-!
# What a job ends with

`Job.Ensures` says what holds of the result of a job that starts with a file tree, and of the tree
that it leaves, whatever was printed and reported before.  A job that only reads leaves the tree as
it was, and its result is a function of the files (`yields_loadCatalog`, `yields_buildEngine`,
`yields_loadRecords`).
-/

set_option autoImplicit false

namespace Crosswalk.Job

open Files (Tree)

variable {α β ε : Type} (tree : Tree)

/-- From any progress with the tree, the job ends with a result and a tree of which `ends` holds. -/
def Ensures (job : Job α) (ends : Except Failure α → Tree → Prop) : Prop :=
  ∀ progress : Progress, progress.tree = tree →
    ends (job.run progress).1 (job.run progress).2.tree

variable {tree}

theorem Ensures.mono {job : Job α} {ends weaker : Except Failure α → Tree → Prop}
    (ensures : Ensures tree job ends) (weaken : ∀ result after, ends result after →
      weaker result after) : Ensures tree job weaker :=
  fun progress start => weaken _ _ (ensures progress start)

theorem ensures_pure (a : α) (ends : Except Failure α → Tree → Prop) (here : ends (.ok a) tree) :
    Ensures tree (pure a) ends := by
  rintro progress rfl
  exact here

theorem ensures_throw (failure : Failure) (ends : Except Failure α → Tree → Prop)
    (here : ends (.error failure) tree) : Ensures tree (throw failure) ends := by
  rintro progress rfl
  exact here

/-- A job is followed by the next one if it gives a value, and else ends with its failure. -/
theorem ensures_bind (job : Job α) (next : α → Job β) (ends : Except Failure β → Tree → Prop)
    (step : Ensures tree job fun result between =>
      match result with
      | .ok a => Ensures between (next a) ends
      | .error failure => ends (.error failure) between) :
    Ensures tree (job >>= next) ends := by
  intro progress start
  have first := step progress start
  have run : (job >>= next).run progress =
      (ExceptT.bindCont next (job.run progress).1).run (job.run progress).2 := rfl
  rw [run]
  cases result : (job.run progress).1 with
  | ok a =>
      rw [result] at first
      exact first _ rfl
  | error failure =>
      rw [result] at first
      exact first

theorem ensures_report (events : List Event) (ends : Except Failure Unit → Tree → Prop)
    (here : ends (.ok ()) tree) : Ensures tree (report events) ends := by
  rintro progress rfl
  exact here

theorem ensures_print (session : Session) (items : List Printed)
    (ends : Except Failure Unit → Tree → Prop) (here : ends (.ok ()) tree) :
    Ensures tree (print session items) ends := by
  rintro progress rfl
  exact here

theorem ensures_tree (ends : Except Failure Tree → Tree → Prop) (here : ends (.ok tree) tree) :
    Ensures tree Job.tree ends := by
  rintro progress rfl
  exact here

theorem ensures_setTree (after : Tree) (ends : Except Failure Unit → Tree → Prop)
    (here : ends (.ok ()) after) : Ensures tree (setTree after) ends := by
  rintro progress rfl
  exact here

theorem ensures_ofExcept (fail : ε → Failure) (value : Except ε α)
    (ends : Except Failure α → Tree → Prop) (here : ends (value.mapError fail) tree) :
    Ensures tree (ofExcept fail value) ends := by
  cases value with
  | ok a => exact ensures_pure a ends here
  | error e => exact ensures_throw (fail e) ends here

theorem ensures_timed (operation : String) (job : Job α) (ends : Except Failure α → Tree → Prop)
    (ensures : Ensures tree job ends) : Ensures tree (timed operation job) ends :=
  fun progress start => ensures progress start

/-! ## Jobs that only read -/

/-- The job leaves the tree as it is and has the given result. -/
def Yields (tree : Tree) (job : Job α) (value : Except Failure α) : Prop :=
  Ensures tree job fun result after => result = value ∧ after = tree

theorem yields_pure (a : α) : Yields tree (pure a) (.ok a) :=
  ensures_pure a _ ⟨rfl, rfl⟩

theorem yields_throw (failure : Failure) : Yields tree (throw failure : Job α) (.error failure) :=
  ensures_throw failure _ ⟨rfl, rfl⟩

/-- After a job that reads, go on with what it gave and with the tree as it was. -/
theorem ensures_bind_yields (job : Job α) (next : α → Job β) (value : Except Failure α)
    (ends : Except Failure β → Tree → Prop) (yields : Yields tree job value)
    (success : ∀ a, value = .ok a → Ensures tree (next a) ends)
    (failed : ∀ failure, value = .error failure → ends (.error failure) tree) :
    Ensures tree (job >>= next) ends := by
  refine ensures_bind job next ends (yields.mono ?_)
  rintro result after ⟨rfl, rfl⟩
  cases result with
  | ok a => exact success a rfl
  | error failure => exact failed failure rfl

theorem yields_bind (job : Job α) (next : α → Job β) (value : Except Failure α)
    (rest : α → Except Failure β) (yields : Yields tree job value)
    (success : ∀ a, value = .ok a → Yields tree (next a) (rest a)) :
    Yields tree (job >>= next) (value >>= rest) := by
  refine ensures_bind_yields job next value _ yields ?_ ?_
  · rintro a rfl
    exact success a rfl
  · rintro failure rfl
    exact ⟨rfl, rfl⟩

theorem yields_report (events : List Event) : Yields tree (report events) (.ok ()) :=
  ensures_report events _ ⟨rfl, rfl⟩

theorem yields_print (session : Session) (items : List Printed) :
    Yields tree (print session items) (.ok ()) :=
  ensures_print session items _ ⟨rfl, rfl⟩

theorem yields_tree : Yields tree Job.tree (.ok tree) :=
  ensures_tree _ ⟨rfl, rfl⟩

theorem yields_ofExcept (fail : ε → Failure) (value : Except ε α) :
    Yields tree (ofExcept fail value) (value.mapError fail) :=
  ensures_ofExcept fail value _ ⟨rfl, rfl⟩

/-- A job that goes on with the tree as it is. -/
theorem yields_with_tree (next : Tree → Job α) (value : Except Failure α)
    (yields : Yields tree (next tree) value) : Yields tree (Job.tree >>= next) value := by
  refine ensures_bind_yields _ _ _ _ yields_tree ?_ ?_
  · rintro _ ⟨⟩
    exact yields
  · rintro _ ⟨⟩

/-- A job that goes on after a report. -/
theorem yields_after_report (events : List Event) (next : Unit → Job α) (value : Except Failure α)
    (yields : Yields tree (next ()) value) : Yields tree (report events >>= next) value :=
  ensures_bind_yields _ _ _ _ (yields_report events) (fun _ _ => yields) fun _ same => by cases same

/-! ## Input -/

/-- Fail if nothing is at a path. -/
def needed (tree : Tree) (path : String) : Except Failure Unit :=
  if tree.contains path then .ok () else .error (.fileNotFound path)

/-- The catalog that is in a file. -/
def catalogAt (tree : Tree) (path : String) : Except Failure Catalog := do
  needed tree path
  let text ← (Catalog.readText tree path).mapError .core
  (Catalog.ofText (CatalogFormat.ofPath path) text).mapError .core

/-- The records that are in a file. -/
def recordsAt (tree : Tree) (path : String) : Except Failure (List Json) := do
  needed tree path
  let text ← (tree.read path).mapError fun e => .io e.message
  (Records.ofText (Records.Format.ofPath path) text).mapError fun fault =>
    .invalidRecords path fault.message

theorem needed_of_read (path text : String) (read : tree.read path = .ok text) :
    needed tree path = .ok () := by
  have there : tree.contains path = true := by
    rw [Tree.contains]
    rw [Tree.read] at read
    cases resolved : tree.resolve path with
    | error e =>
        rw [resolved] at read
        cases read
    | ok location => rfl
  rw [needed, if_pos there]

theorem catalogAt_of_read (path text : String) (catalog : Catalog)
    (read : tree.read path = .ok text)
    (made : Catalog.ofText (CatalogFormat.ofPath path) text = .ok catalog) :
    catalogAt tree path = .ok catalog := by
  rw [catalogAt, needed_of_read path text read, Catalog.readText, read]
  change (Catalog.ofText (CatalogFormat.ofPath path) text).mapError Failure.core = _
  rw [made]
  rfl

theorem recordsAt_of_read (path text : String) (records : List Json)
    (read : tree.read path = .ok text)
    (made : Records.ofText (Records.Format.ofPath path) text = .ok records) :
    recordsAt tree path = .ok records := by
  rw [recordsAt, needed_of_read path text read, read]
  change (Records.ofText (Records.Format.ofPath path) text).mapError _ = _
  rw [made]
  rfl

theorem yields_need (path : String) : Yields tree (need path) (needed tree path) := by
  refine yields_with_tree _ _ ?_
  rw [needed]
  split
  · exact yields_pure ()
  · exact yields_throw _

theorem yields_loadCatalog (path : String) :
    Yields tree (loadCatalog path) (catalogAt tree path) := by
  refine yields_bind _ _ _ _ (yields_need path) fun _ _ => ?_
  refine yields_with_tree _ _ ?_
  refine yields_bind _ _ _ _ (yields_ofExcept _ _) fun text _ => ?_
  refine yields_after_report _ _ _ ?_
  refine yields_after_report _ _ _ ?_
  exact yields_ofExcept _ _

theorem yields_buildEngine (catalog : Catalog) (validation : LinkValidation) :
    Yields tree (buildEngine catalog validation)
      ((Engine.build catalog Registry.builtIn validation).mapError .core) :=
  yields_after_report _ _ _ (yields_ofExcept _ _)

theorem yields_loadRecords (path : String) :
    Yields tree (loadRecords path) (recordsAt tree path) := by
  refine yields_bind _ _ _ _ (yields_need path) fun _ _ => ?_
  refine yields_with_tree _ _ ?_
  refine yields_bind _ _ _ _ (yields_ofExcept _ _) fun text _ => ?_
  refine ensures_bind_yields _ _ _ _ (yields_ofExcept _ _) (fun records made => ?_)
    fun failure failed => ⟨failed.symm, rfl⟩
  have told : Yields tree (report [.recordsRead path records.length] >>= fun _ => pure records)
      (.ok records) := yields_after_report _ _ _ (yields_pure records)
  exact made ▸ told

end Crosswalk.Job
