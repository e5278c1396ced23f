import Crosswalk.Files.Name
import Crosswalk.Proofs.Text.Blank

/-!
# Extensions of names

The extension of a name is what stands after its last dot, where something stands before that dot
(`extensionOf?_eq_some_iff`).  So a path has at most one extension, and whether it has a given one
is seen from the end of its last name (`extension?_eq_some_iff`).
-/

set_option autoImplicit false

namespace Crosswalk.Files

open Text (exists_run takeWhile_run stopsAt_cons)

/-- The name is a stem that is not empty, a dot, and the extension, which has no dot. -/
def Extends (name extension : List Char) : Prop :=
  ∃ stem, stem ≠ [] ∧ '.' ∉ extension ∧ name = stem ++ '.' :: extension

theorem extensionOf?_of_extends (name extension : List Char) (has : Extends name extension) :
    extensionOf? name = some extension := by
  obtain ⟨stem, given, free, rfl⟩ := has
  have backwards :
      (stem ++ '.' :: extension).reverse = extension.reverse ++ '.' :: stem.reverse := by
    simp
  have run := takeWhile_run (· != '.') extension.reverse ('.' :: stem.reverse)
    (fun c member => by
      rw [bne_iff_ne]
      rintro rfl
      exact free (List.mem_reverse.mp member))
    ((stopsAt_cons _ _ _).mpr rfl)
  obtain ⟨c, before, whole⟩ :=
    List.exists_cons_of_ne_nil (mt List.reverse_eq_nil_iff.mp given)
  rw [extensionOf?, backwards, run, List.drop_left, whole, List.reverse_reverse]
  rfl

theorem extends_of_extensionOf? (name extension : List Char)
    (found : extensionOf? name = some extension) : Extends name extension := by
  obtain ⟨run, rest, whole, inside, stops⟩ := exists_run (· != '.') name.reverse
  have front := takeWhile_run _ run rest inside stops
  rw [← whole] at front
  simp only [extensionOf?, front] at found
  rw [whole, List.drop_left] at found
  split at found
  case h_1 c before =>
    cases found
    refine ⟨(c :: before).reverse, by simp, fun dot => ?_, ?_⟩
    · have other := inside '.' (List.mem_reverse.mp dot)
      simp at other
    · rw [← List.reverse_inj, whole]
      simp
  case h_2 => cases found

theorem extensionOf?_eq_some_iff (name extension : List Char) :
    extensionOf? name = some extension ↔ Extends name extension :=
  ⟨extends_of_extensionOf? name extension, extensionOf?_of_extends name extension⟩

/-- The name at the end of the path has the extension. -/
def HasExtension (path extension : String) : Prop :=
  ∃ name, fileName? path = some name ∧ Extends name.toList extension.toList

theorem extension?_eq_some_iff (path extension : String) :
    extension? path = some extension ↔ HasExtension path extension := by
  simp only [extension?, HasExtension, Option.map_eq_some_iff, Option.bind_eq_some_iff,
    extensionOf?_eq_some_iff]
  constructor
  · rintro ⟨_, ⟨name, named, has⟩, rfl⟩
    exact ⟨name, named, by rwa [String.toList_ofList]⟩
  · rintro ⟨name, named, has⟩
    exact ⟨_, ⟨name, named, has⟩, String.ofList_toList⟩

end Crosswalk.Files
