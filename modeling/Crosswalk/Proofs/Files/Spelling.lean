import Crosswalk.Proofs.Files.Tree
import Crosswalk.Proofs.Traversal

/-!
# The locations that paths spell

A tree has no links, so a path leads to one location only, which its pieces tell: a single dot
stays and two dots go back (`Tree.resolve_spelled`).  Paths that are the same spell one location
(`Tree.spelled_of_samePath`), and so do others: a lone name does, and the same name after `./`.  A
file that is saved takes the place of the file at the location that its path spells, and of no
other (`Tree.read_of_save`).
-/

set_option autoImplicit false

namespace Crosswalk.Files.Tree

/-- The location that a path spells, whether or not something is there. -/
def spelled (tree : Tree) (path : String) : Location :=
  (pieces path).foldl turn (tree.origin path)

theorem follow_eq_foldl (tree : Tree) (location target : Location) (pieces : List String)
    (leads : tree.follow location pieces = .ok target) : target = pieces.foldl turn location := by
  induction pieces generalizing location with
  | nil =>
      cases leads
      rfl
  | cons piece pieces ih =>
      rw [follow, List.foldlM_cons] at leads
      obtain ⟨next, taken, leads⟩ := bind_eq_ok _ _ _ leads
      obtain ⟨_, turned, _⟩ := (step_eq_ok_iff tree location next piece).mp taken
      rw [List.foldl_cons, ← turned]
      exact ih next leads

theorem resolve_spelled (tree : Tree) (path : String) (location : Location)
    (leads : tree.resolve path = .ok location) : location = tree.spelled path := by
  rw [resolve] at leads
  split at leads
  · cases leads
  · have folded := follow_eq_foldl tree _ location _ leads
    rw [folded, List.foldl_append, spelled]
    split <;> simp [turn]

theorem spelled_of_workingDirectory (before after : Tree) (path : String)
    (same : after.workingDirectory = before.workingDirectory) :
    after.spelled path = before.spelled path := by
  rw [spelled, spelled, origin_of_workingDirectory before after path same]

/-! ## Spellings of one path -/

theorem foldl_turn_filter (location : Location) (pieces : List String) :
    (pieces.filter (· != ".")).foldl turn location = pieces.foldl turn location := by
  induction pieces generalizing location with
  | nil => rfl
  | cons piece rest ih =>
      by_cases dot : piece = "."
      · simp [dot, turn, ih]
      · simp [dot, ih]

theorem foldl_turn_parts (location : Location) (path : String) :
    (parts path).foldl turn location = (pieces path).foldl turn location := by
  rw [parts]
  split
  · rename_i rest split
    have stays : turn location "." = location := if_pos rfl
    rw [split, List.foldl_cons, stays]
    split
    · exact foldl_turn_filter location rest
    · rw [List.foldl_cons, stays]
      exact foldl_turn_filter location rest
  · exact foldl_turn_filter location (pieces path)

theorem spelled_of_samePath (tree : Tree) (path other : String)
    (same : samePath path other = true) : tree.spelled path = tree.spelled other := by
  simp only [samePath, Bool.and_eq_true, beq_iff_eq] at same
  obtain ⟨absolute, parts⟩ := same
  rw [spelled, spelled, ← foldl_turn_parts, ← foldl_turn_parts, parts, origin, origin, absolute]

/-! ## Saved files and others -/

/-- After a file is saved, a file that was there has the text of the saved one if their paths spell
one location, and else the text that it had. -/
theorem read_of_save (tree saved : Tree) (path text other old : String)
    (saves : tree.save path text = .ok saved) (held : tree.read other = .ok old) :
    saved.read other =
      .ok (if tree.spelled other = tree.spelled path then text else old) := by
  obtain ⟨grown, target, grows, puts, resolved⟩ := save_puts tree saved path text saves
  obtain ⟨location, leads, here⟩ := (read_eq_ok_iff tree other old).mp held
  have keeps : Keeps tree saved := (grows.keeps).trans _ _ _ puts.keeps
  have target_eq : target = tree.spelled path := by
    rw [resolve_spelled saved path target resolved,
      spelled_of_workingDirectory tree saved path keeps.workingDirectory]
  have location_eq : location = tree.spelled other := resolve_spelled tree other location leads
  have kept : grown.contentAt? location = some (.file old) := by
    rcases grows.contentAt? location with same | ⟨missing, _⟩
    · rw [same, here]
    · rw [here] at missing
      cases missing
  refine (read_eq_ok_iff saved other _).mpr
    ⟨location, keeps.resolve tree saved other location leads, ?_⟩
  rw [puts.contentAt?, kept, target_eq, location_eq]
  split <;> rfl

end Crosswalk.Files.Tree
