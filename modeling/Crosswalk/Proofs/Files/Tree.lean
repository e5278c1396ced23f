import Crosswalk.Files.Tree

/-!
# What writing does to a file tree

A tree is known by what stands at each location, a file with what it holds or a directory
(`Tree.contentAt?`).  Putting a leaf changes one location (`Node.contentAt?_put`), and paths that
led somewhere still lead there.  So a saved file can be read back under its path, and nothing else
has changed except that directories may be new (`Tree.savedAs_of_save`).
-/

set_option autoImplicit false

namespace Crosswalk.Files

/-- What a node is, apart from the nodes in it. -/
inductive Content where
  | file (text : String)
  | binary (bytes : List UInt8)
  | directory
  deriving DecidableEq, Repr

namespace Node

def content : Node → Content
  | .file text => .file text
  | .binary bytes => .binary bytes
  | .directory _ => .directory

def contentAt? (node : Node) (location : Location) : Option Content :=
  (node.at? location).map content

@[simp]
theorem contentAt?_nil (node : Node) : node.contentAt? [] = some node.content := by
  cases node <;> rfl

theorem contentAt?_directory (entries : List (String × Node)) (name : String) (rest : Location) :
    (directory entries).contentAt? (name :: rest) =
      (entries.lookup name).bind fun node => node.contentAt? rest := by
  rw [contentAt?, at?]
  cases entries.lookup name <;> rfl

theorem at?_append (node : Node) (front back : Location) :
    node.at? (front ++ back) = (node.at? front).bind fun inner => inner.at? back := by
  induction front generalizing node with
  | nil => cases node <;> rfl
  | cons name front ih =>
      cases node with
      | file | binary => rfl
      | directory entries =>
          rw [List.cons_append, at?, at?]
          cases entries.lookup name with
          | none => rfl
          | some inner => exact ih inner

theorem eq_directory_of_content (node : Node) (there : node.content = .directory) :
    ∃ entries, node = .directory entries := by
  cases node with
  | file | binary => cases there
  | directory entries => exact ⟨entries, rfl⟩

/-- Nothing stands below what is no directory. -/
theorem eq_directory_of_below (node : Node) (name : String) (rest : Location) (content : Content)
    (below : node.contentAt? (name :: rest) = some content) :
    ∃ entries, node = .directory entries := by
  cases node with
  | file | binary => cases below
  | directory entries => exact ⟨entries, rfl⟩

theorem lookup_setEntry (name other : String) (node : Node) (entries : List (String × Node)) :
    (setEntry name node entries).lookup other =
      if other = name then some node else entries.lookup other := by
  induction entries with
  | nil =>
      by_cases same : other = name
      · simp [setEntry, same]
      · simp [setEntry, same, List.lookup_cons, beq_false_of_ne same]
  | cons entry rest ih =>
      obtain ⟨first, old⟩ := entry
      by_cases written : first = name
      · subst first
        by_cases same : other = name
        · simp [setEntry, same]
        · simp [setEntry, same, List.lookup_cons, beq_false_of_ne same]
      · rw [setEntry, if_neg written, List.lookup_cons, List.lookup_cons, ih]
        by_cases here : other = first
        · have apart : ¬ other = name := fun equal => written (here.symm.trans equal)
          simp [here, written]
        · simp [beq_false_of_ne here]

theorem put_cons (new node : Node) (name : String) (rest : Location)
    (entries : List (String × Node)) (longer : rest ≠ [])
    (found : entries.lookup name = some node) :
    put new (name :: rest) (.directory entries) =
      .directory (setEntry name (put new rest node) entries) :=
  put.eq_5 new name entries rest node longer found

/-- Putting a node without entries where no directory is changes what stands there, and nothing
else. -/
theorem contentAt?_put (new : Node) (leaf : ∀ name rest, new.contentAt? (name :: rest) = none)
    (name : String) (directory : Location) (node : Node)
    (parent : node.contentAt? directory = some .directory)
    (free : node.contentAt? (directory ++ [name]) ≠ some .directory) (location : Location) :
    (put new (directory ++ [name]) node).contentAt? location =
      if location = directory ++ [name] then some new.content else node.contentAt? location := by
  induction directory generalizing node location with
  | nil =>
      obtain ⟨entries, rfl⟩ := eq_directory_of_content node (by simpa using parent)
      have set : put new [name] (.directory entries) = .directory (setEntry name new entries) := rfl
      rw [List.nil_append, set]
      rw [List.nil_append, contentAt?_directory] at free
      cases location with
      | nil => rfl
      | cons first rest =>
          rw [contentAt?_directory, contentAt?_directory, lookup_setEntry]
          by_cases here : first = name
          · subst first
            cases rest with
            | nil => simp
            | cons next rest =>
                have nothing : ((entries.lookup name).bind fun node =>
                    node.contentAt? (next :: rest)) = none := by
                  rw [Option.bind_eq_none_iff]
                  intro old found
                  rw [Option.eq_none_iff_forall_ne_some]
                  intro content below
                  obtain ⟨inner, rfl⟩ := eq_directory_of_below old next rest content below
                  rw [found, Option.bind_some, contentAt?_nil] at free
                  exact free rfl
                simp [leaf, nothing]
          · simp [here]
  | cons first directory ih =>
      obtain ⟨entries, rfl⟩ := eq_directory_of_below node first directory _ parent
      rw [contentAt?_directory] at parent
      rw [List.cons_append, contentAt?_directory] at free
      cases found : entries.lookup first with
      | none =>
          rw [found] at parent
          cases parent
      | some inner =>
          rw [found] at parent free
          rw [List.cons_append, put_cons new inner first _ entries (by simp) found]
          cases location with
          | nil => rfl
          | cons next rest =>
              rw [contentAt?_directory, contentAt?_directory, lookup_setEntry]
              by_cases here : next = first
              · subst next
                rw [if_pos rfl, Option.bind_some, ih inner parent free rest, found]
                simp
              · simp [here]

end Node

namespace Tree

def contentAt? (tree : Tree) (location : Location) : Option Content :=
  tree.root.contentAt? location

theorem node?_of_directory (tree : Tree) (location : Location)
    (there : tree.contentAt? location = some .directory) :
    ∃ entries, tree.node? location = some (.directory entries) := by
  obtain ⟨node, found, same⟩ := Option.map_eq_some_iff.mp there
  obtain ⟨entries, rfl⟩ := Node.eq_directory_of_content node same
  exact ⟨entries, found⟩

theorem contentAt?_of_node? (tree : Tree) (location : Location) (node : Node)
    (found : tree.node? location = some node) : tree.contentAt? location = some node.content := by
  rw [contentAt?, Node.contentAt?, ← node?, found]
  rfl

theorem contentAt?_of_none (tree : Tree) (location : Location)
    (missing : tree.node? location = none) : tree.contentAt? location = none := by
  rw [contentAt?, Node.contentAt?, ← node?, missing]
  rfl

theorem contentAt?_entry (tree : Tree) (location : Location) (name : String)
    (entries : List (String × Node)) (found : tree.node? location = some (.directory entries)) :
    tree.contentAt? (location ++ [name]) = (entries.lookup name).map Node.content := by
  rw [contentAt?, Node.contentAt?, Node.at?_append, ← node?, found, Option.bind_some, Node.at?]
  cases entries.lookup name with
  | none => rfl
  | some node => cases node <;> rfl

/-! ## Following paths -/

/-- Where a piece leads from a directory that has it. -/
def turn (location : Location) (piece : String) : Location :=
  if piece = "." then location else if piece = ".." then location.dropLast else location ++ [piece]

theorem step_eq_ok_iff (tree : Tree) (location next : Location) (piece : String) :
    tree.step location piece = .ok next ↔
      tree.contentAt? location = some .directory ∧ next = turn location piece ∧
        (piece = "." ∨ piece = ".." ∨ (tree.contentAt? (location ++ [piece])).isSome) := by
  cases found : tree.node? location with
  | none => simp [step, found, contentAt?_of_none _ _ found]
  | some node =>
      cases node with
      | file | binary => simp [step, found, contentAt?_of_node? _ _ _ found, Node.content]
      | directory entries =>
          have here := contentAt?_of_node? tree location _ found
          rw [contentAt?_entry tree location piece entries found, here, Option.isSome_map]
          simp only [step, found, turn, Node.content, true_and]
          by_cases dot : piece = "."
          · simp only [dot, if_true, true_or, and_true, Except.ok.injEq]
            exact eq_comm
          · by_cases dots : piece = ".."
            · simp only [dots, String.reduceEq, if_false, if_true, true_or, or_true, and_true,
                Except.ok.injEq]
              exact eq_comm
            · cases entries.lookup piece with
              | none => simp [dot, dots]
              | some node =>
                  simp only [dot, dots, if_false, Option.isSome_some, if_true, or_true, and_true,
                    Except.ok.injEq]
                  exact eq_comm

/-- What is in a directory of a tree is in that directory still. -/
structure Keeps (before after : Tree) : Prop where
  workingDirectory : after.workingDirectory = before.workingDirectory
  directory : ∀ location, before.contentAt? location = some .directory →
    after.contentAt? location = some .directory
  entry : ∀ location, (before.contentAt? location).isSome → (after.contentAt? location).isSome

/-- A path that leads somewhere still leads there. -/
theorem Keeps.follow (before after : Tree) (keeps : Keeps before after) (location target : Location)
    (pieces : List String) (leads : before.follow location pieces = .ok target) :
    after.follow location pieces = .ok target := by
  induction pieces generalizing location with
  | nil => exact leads
  | cons piece pieces ih =>
      simp only [Tree.follow, List.foldlM_cons] at leads ih ⊢
      cases taken : before.step location piece with
      | error e =>
          rw [taken] at leads
          cases leads
      | ok next =>
          rw [taken] at leads
          obtain ⟨here, turned, entry⟩ := (step_eq_ok_iff before location next piece).mp taken
          have again : after.step location piece = .ok next :=
            (step_eq_ok_iff after location next piece).mpr
              ⟨keeps.directory _ here, turned, entry.imp_right (Or.imp_right (keeps.entry _))⟩
          rw [again]
          exact ih next leads

theorem Keeps.trans (before between after : Tree) (first : Keeps before between)
    (second : Keeps between after) : Keeps before after := by
  refine ⟨second.workingDirectory.trans first.workingDirectory, ?_, ?_⟩
  · intro location there
    exact second.directory location (first.directory location there)
  · intro location there
    exact second.entry location (first.entry location there)

theorem origin_of_workingDirectory (before after : Tree) (path : String)
    (same : after.workingDirectory = before.workingDirectory) :
    after.origin path = before.origin path := by
  rw [origin, origin, same]

theorem Keeps.resolve (before after : Tree) (keeps : Keeps before after) (path : String)
    (location : Location) (leads : before.resolve path = .ok location) :
    after.resolve path = .ok location := by
  rw [Tree.resolve] at leads ⊢
  rw [origin_of_workingDirectory before after path keeps.workingDirectory]
  split at leads
  · cases leads
  · rename_i named
    rw [if_neg named]
    exact keeps.follow before after _ _ _ leads

theorem follow_append_name (tree : Tree) (start location next : Location) (pieces : List String)
    (name : String) (leads : tree.follow start pieces = .ok location)
    (taken : tree.step location name = .ok next) :
    tree.follow start (pieces ++ [name]) = .ok next := by
  rw [follow] at leads ⊢
  rw [List.foldlM_append, leads]
  simp only [List.foldlM_cons, List.foldlM_nil, bind, Except.bind, taken]
  rfl

/-! ## Putting a leaf -/

/-- Where no directory was there is a leaf; everything else is as it was. -/
structure Puts (before after : Tree) (target : Location) (content : Content) : Prop where
  workingDirectory : after.workingDirectory = before.workingDirectory
  free : before.contentAt? target ≠ some .directory
  contentAt? : ∀ location, after.contentAt? location =
    if location = target then some content else before.contentAt? location

theorem puts_of_leaf (tree : Tree) (new : Node)
    (leaf : ∀ name rest, new.contentAt? (name :: rest) = none) (directory : Location)
    (name : String) (parent : tree.contentAt? directory = some .directory)
    (free : tree.contentAt? (directory ++ [name]) ≠ some .directory) :
    Puts tree { tree with root := Node.put new (directory ++ [name]) tree.root }
      (directory ++ [name]) new.content :=
  ⟨rfl, free, Node.contentAt?_put new leaf name directory tree.root parent free⟩

theorem Puts.keeps (before after : Tree) (target : Location) (content : Content)
    (puts : Puts before after target content) : Keeps before after := by
  refine ⟨puts.workingDirectory, ?_, ?_⟩
  · intro location there
    have other : location ≠ target := by
      rintro rfl
      exact puts.free there
    rw [puts.contentAt?, if_neg other, there]
  · intro location there
    rw [puts.contentAt?]
    split
    · rfl
    · exact there

/-! ## Writing a file -/

theorem resolveParent_eq_ok (tree : Tree) (path name : String) (directory : Location)
    (found : tree.resolveParent path = .ok (directory, name)) :
    ∃ front, pieces path = front ++ [name] ∧
      tree.follow (tree.origin path) front = .ok directory ∧
      tree.contentAt? directory = some .directory := by
  rw [resolveParent] at found
  cases last : (pieces path).getLast? with
  | none =>
      rw [last] at found
      cases found
  | some piece =>
      obtain ⟨front, split⟩ := List.getLast?_eq_some_iff.mp last
      have front_eq : (pieces path).dropLast = front := by simp [split]
      simp only [last, front_eq] at found
      cases followed : tree.follow (tree.origin path) front with
      | error e =>
          rw [followed] at found
          cases found
      | ok location =>
          cases node : tree.node? location with
          | none => simp [followed, node, bind, Except.bind] at found
          | some inner =>
              cases inner with
              | file | binary => simp [followed, node, bind, Except.bind] at found
              | directory entries =>
                  simp only [followed, node, bind, Except.bind] at found
                  cases found
                  exact ⟨front, split, followed, contentAt?_of_node? _ _ _ node⟩

theorem writable_eq_ok (tree : Tree) (path : String) (target : Location)
    (found : tree.writable path = .ok target) :
    ∃ front name directory, target = directory ++ [name] ∧ pieces path = front ++ [name] ∧
      tree.follow (tree.origin path) front = .ok directory ∧
      tree.contentAt? directory = some .directory ∧ name ≠ "." ∧ name ≠ ".." ∧
      endsWithSlash path = false ∧ tree.contentAt? target ≠ some .directory := by
  rw [writable] at found
  cases parent : tree.resolveParent path with
  | error e =>
      rw [parent] at found
      cases found
  | ok result =>
      obtain ⟨directory, name⟩ := result
      obtain ⟨front, split, followed, there⟩ := resolveParent_eq_ok tree path name directory parent
      simp only [parent, bind, Except.bind] at found
      split at found
      · cases found
      · rename_i plain
        simp only [Bool.or_eq_true, decide_eq_true_eq, not_or, Bool.not_eq_true] at plain
        obtain ⟨⟨dot, dots⟩, slash⟩ := plain
        split at found
        · cases found
        · rename_i free
          cases found
          refine ⟨front, name, directory, rfl, split, followed, there, dot, dots, slash, ?_⟩
          intro occupied
          obtain ⟨entries, node⟩ := node?_of_directory tree _ occupied
          exact free entries node

theorem not_isEmpty_of_pieces (path name : String) (front : List String)
    (split : pieces path = front ++ [name]) : ¬ path.isEmpty = true := by
  intro empty
  rw [String.isEmpty_iff.mp empty] at split
  have none : pieces "" = [] := by decide
  simp [none] at split

theorem write_puts (tree saved : Tree) (path text : String)
    (written : tree.write path text = .ok saved) :
    ∃ target, Puts tree saved target (.file text) ∧ saved.resolve path = .ok target := by
  rw [write] at written
  cases location : tree.writable path with
  | error e =>
      rw [location] at written
      cases written
  | ok target =>
      obtain ⟨front, name, directory, rfl, split, followed, there, dot, dots, slash, free⟩ :=
        writable_eq_ok tree path target location
      rw [location] at written
      injection written with same
      have puts := puts_of_leaf tree (.file text) (fun _ _ => rfl) directory name there free
      rw [same] at puts
      have keeps := puts.keeps
      have entry : (saved.contentAt? (directory ++ [name])).isSome := by
        rw [puts.contentAt?, if_pos rfl]
        rfl
      have last : saved.step directory name = .ok (directory ++ [name]) :=
        (step_eq_ok_iff saved directory _ name).mpr
          ⟨keeps.directory directory there, by simp [turn, dot, dots], .inr (.inr entry)⟩
      have inside := keeps.follow _ _ _ _ front followed
      have origin := origin_of_workingDirectory tree saved path keeps.workingDirectory
      refine ⟨_, puts, ?_⟩
      rw [resolve, if_neg (not_isEmpty_of_pieces path name front split), slash, split, origin,
        if_neg Bool.false_ne_true, List.append_nil]
      exact follow_append_name saved _ directory _ front name inside last

/-! ## Making directories -/

/-- Nothing has changed except that directories may be new. -/
structure Grows (before after : Tree) : Prop where
  workingDirectory : after.workingDirectory = before.workingDirectory
  contentAt? : ∀ location, after.contentAt? location = before.contentAt? location ∨
    before.contentAt? location = none ∧ after.contentAt? location = some .directory

theorem Grows.refl (tree : Tree) : Grows tree tree :=
  ⟨rfl, fun _ => .inl rfl⟩

theorem Grows.trans (before between after : Tree) (first : Grows before between)
    (second : Grows between after) : Grows before after := by
  refine ⟨second.workingDirectory.trans first.workingDirectory, fun location => ?_⟩
  rcases first.contentAt? location with same | ⟨missing, made⟩ <;>
    rcases second.contentAt? location with still | ⟨absent, added⟩
  · exact .inl (still.trans same)
  · exact .inr ⟨same ▸ absent, added⟩
  · exact .inr ⟨missing, still.trans made⟩
  · exact .inr ⟨missing, added⟩

theorem Grows.keeps (before after : Tree) (grows : Grows before after) : Keeps before after := by
  refine ⟨grows.workingDirectory, ?_, ?_⟩
  · intro location there
    rcases grows.contentAt? location with same | ⟨missing, _⟩
    · rw [same, there]
    · rw [there] at missing
      cases missing
  · intro location there
    rcases grows.contentAt? location with same | ⟨_, made⟩
    · rw [same]
      exact there
    · rw [made]
      rfl

theorem makeDirectory_grows (tree made : Tree) (path : String)
    (makes : tree.makeDirectory path = .ok made) : Grows tree made := by
  rw [makeDirectory] at makes
  cases parent : tree.resolveParent path with
  | error e =>
      rw [parent] at makes
      cases e <;> cases makes
  | ok result =>
      obtain ⟨directory, name⟩ := result
      obtain ⟨_, _, _, there⟩ := resolveParent_eq_ok tree path name directory parent
      simp only [parent] at makes
      split at makes
      · cases makes
      · rename_i plain
        simp only [Bool.or_eq_true, not_or, Bool.not_eq_true, Option.isSome_eq_false_iff,
          Option.isNone_iff_eq_none] at plain
        have missing := contentAt?_of_none tree (directory ++ [name]) plain.2
        have puts := puts_of_leaf tree (.directory []) (fun _ _ => rfl) directory name there
          (by simp [missing])
        cases makes
        refine ⟨rfl, fun location => ?_⟩
        rw [puts.contentAt?]
        split
        · rename_i here
          rw [here]
          exact .inr ⟨missing, rfl⟩
        · exact .inl rfl

theorem makeDirectoriesFrom_grows (fuel : Nat) (tree made : Tree) (path : String)
    (makes : makeDirectoriesFrom fuel tree path = .ok made) : Grows tree made := by
  induction fuel generalizing made path with
  | zero =>
      cases makes
      exact .refl tree
  | succ fuel ih =>
      -- after an error the directory may be there nevertheless
      have settled : ∀ (first : Tree) (e : FileError), Grows tree first →
          (if first.isDirectory path then .ok first else .error e) = Except.ok made →
            Grows tree made := by
        intro first e grown settles
        split at settles
        · cases settles
          exact grown
        · cases settles
      rw [makeDirectoriesFrom] at makes
      split at makes
      · cases makes
        exact .refl tree
      · split at makes
        · rename_i first here
          cases makes
          exact makeDirectory_grows tree _ path here
        · split at makes
          · cases makes
          · rename_i directory _
            split at makes
            · cases makes
            · rename_i first parents
              have grown := ih first directory parents
              split at makes
              · rename_i last here
                cases makes
                exact grown.trans _ _ _ (makeDirectory_grows first _ path here)
              · rename_i e _
                exact settled first e grown makes
        · rename_i e _ _
          exact settled tree e (.refl tree) makes

/-! ## Saving a file -/

/-- The file at a path has a text, and nothing else has changed except that directories may be
new. -/
def SavedAs (path text : String) (before after : Tree) : Prop :=
  ∃ target, after.resolve path = .ok target ∧ after.contentAt? target = some (.file text) ∧
    after.workingDirectory = before.workingDirectory ∧
    ∀ location, location ≠ target → after.contentAt? location = before.contentAt? location ∨
      before.contentAt? location = none ∧ after.contentAt? location = some .directory

/-- A file is saved where its path leads then, after directories were made for it. -/
theorem save_puts (tree saved : Tree) (path text : String)
    (saves : tree.save path text = .ok saved) :
    ∃ grown target, Grows tree grown ∧ Puts grown saved target (.file text) ∧
      saved.resolve path = .ok target := by
  obtain ⟨grown, grows, written⟩ : ∃ grown, Grows tree grown ∧ grown.write path text = .ok saved := by
    rw [save] at saves
    cases parent : parent? path with
    | none =>
        rw [parent] at saves
        exact ⟨tree, .refl tree, saves⟩
    | some directory =>
        rw [parent] at saves
        cases made : tree.makeDirectories directory with
        | error e =>
            simp only [made] at saves
            cases saves
        | ok grown =>
            simp only [made] at saves
            exact ⟨grown, makeDirectoriesFrom_grows _ tree grown directory made, saves⟩
  obtain ⟨target, puts, resolved⟩ := write_puts grown saved path text written
  exact ⟨grown, target, grows, puts, resolved⟩

theorem savedAs_of_save (tree saved : Tree) (path text : String)
    (saves : tree.save path text = .ok saved) : SavedAs path text tree saved := by
  obtain ⟨grown, target, grows, puts, resolved⟩ := save_puts tree saved path text saves
  refine ⟨target, resolved, ?_, puts.workingDirectory.trans grows.workingDirectory, ?_⟩
  · rw [puts.contentAt?, if_pos rfl]
  · intro location other
    rw [puts.contentAt?, if_neg other]
    exact grows.contentAt? location

theorem read_eq_ok_iff (tree : Tree) (path text : String) :
    tree.read path = .ok text ↔
      ∃ location, tree.resolve path = .ok location ∧
        tree.contentAt? location = some (.file text) := by
  rw [read]
  cases tree.resolve path with
  | error e => simp [bind, Except.bind]
  | ok location =>
      simp only [bind, Except.bind, Except.ok.injEq, exists_eq_left']
      cases found : tree.node? location with
      | none => simp [contentAt?_of_none tree location found]
      | some node => cases node <;> simp [contentAt?_of_node? tree location _ found, Node.content]

/-- A saved file is read back. -/
theorem read_of_savedAs (before after : Tree) (path text : String)
    (saved : SavedAs path text before after) : after.read path = .ok text := by
  obtain ⟨target, resolved, there, _, _⟩ := saved
  exact (read_eq_ok_iff after path text).mpr ⟨target, resolved, there⟩

end Tree

end Crosswalk.Files
