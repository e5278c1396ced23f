import Crosswalk.Mask.Registry
import Crosswalk.Proofs.Mask.Title

/-!
# A mask applied again

A built-in mask changes nothing in a text that it has been applied to (`builtIn_masks_settle`).
Each of them trims a text and puts the result in a case: respelling its letters brings no blank to
an end (`settles_ofChars`), and a text in a case is left as it is by that case.
-/

set_option autoImplicit false

namespace Crosswalk.Mask

open Text

/-- The mask takes the blanks around a text away and respells its letters, in a case that leaves the
result as it is; so does the mask itself. -/
structure Settles (inCase : List Char → List Char) (mask : Mask) (text : String) : Prop where
  respelled : Respelled (Text.trim text.toList) (mask text).toList
  cased : inCase (mask text).toList = (mask text).toList
  again : mask (mask text) = mask text

/-- A trimmed text that has been respelled has no blanks to take away, so that a mask which puts
trimmed text in a case settles if the case does. -/
theorem settles_ofChars (inCase : List Char → List Char)
    (respelled : ∀ cs, Respelled cs (inCase cs)) (cased : ∀ cs, inCase (inCase cs) = inCase cs)
    (text : String) : Settles inCase (ofChars fun cs => inCase (Text.trim cs)) text := by
  have tidied := respelled (Text.trim text.toList)
  have trimmed : Text.trim (inCase (Text.trim text.toList)) = inCase (Text.trim text.toList) :=
    trim_of_trimmed _ (tidied.trimmed _ _ (trimmed_trim text.toList))
  constructor
  · rw [ofChars, String.toList_ofList]
    exact tidied
  · rw [ofChars, String.toList_ofList]
    exact cased (Text.trim text.toList)
  · simp only [ofChars, String.toList_ofList, trimmed, cased]

def titled (cs : List Char) : List Char :=
  titleChars (lowercase cs)

theorem titled_titled (cs : List Char) : titled (titled cs) = titled cs :=
  titleCharsFrom_lowercaseAfter (lowercase cs) (small_of_lowercaseAfter [] cs) false []

theorem respelled_titled (cs : List Char) : Respelled cs (titled cs) :=
  (respelled_lowercaseAfter [] cs).trans cs (lowercase cs) (titled cs)
    (respelled_titleCharsFrom false (lowercase cs))

theorem settles_cleanString (text : String) : Settles lowercase cleanString text :=
  settles_ofChars lowercase (respelled_lowercaseAfter []) lowercase_lowercase text

theorem settles_capitalLetter (text : String) : Settles titled capitalLetter text :=
  settles_ofChars titled respelled_titled titled_titled text

theorem settles_upperCase (text : String) : Settles uppercase upperCase text :=
  settles_ofChars uppercase respelled_uppercase uppercase_uppercase text

theorem settles_trim (text : String) : Settles id trim text :=
  settles_ofChars id respelled_self (fun _ => rfl) text

theorem builtIn_masks : Registry.builtIn.masks =
    [("CAPITAL_LETTER", capitalLetter), ("CLEAN_STRING", cleanString), ("TRIM", trim),
      ("UPPER_CASE", upperCase)] :=
  rfl

/-- Every mask of the built-in registry settles in some case. -/
theorem settles_of_builtIn (name : String) (mask : Mask)
    (found : Registry.builtIn.get? name = some mask) (text : String) :
    ∃ inCase, Settles inCase mask text := by
  obtain ⟨before, after, split, _⟩ := List.lookup_eq_some_iff.mp found
  have listed : (name, mask) ∈ Registry.builtIn.masks := by simp [split]
  rw [builtIn_masks] at listed
  simp only [List.mem_cons, Prod.mk.injEq, List.not_mem_nil, or_false] at listed
  rcases listed with ⟨_, rfl⟩ | ⟨_, rfl⟩ | ⟨_, rfl⟩ | ⟨_, rfl⟩
  · exact ⟨titled, settles_capitalLetter text⟩
  · exact ⟨lowercase, settles_cleanString text⟩
  · exact ⟨id, settles_trim text⟩
  · exact ⟨uppercase, settles_upperCase text⟩

theorem again_of_builtIn (name : String) (mask : Mask)
    (found : Registry.builtIn.get? name = some mask) (text : String) :
    mask (mask text) = mask text := by
  obtain ⟨_, settles⟩ := settles_of_builtIn name mask found text
  exact settles.again

/-- The built-in masks settle, each in its case, and what the built-in registry applies by name
changes nothing when it is applied again. -/
theorem builtIn_masks_settle (text : String) :
    (Settles lowercase cleanString text ∧ Settles titled capitalLetter text ∧
      Settles uppercase upperCase text ∧ Settles id trim text) ∧
      ∀ name, (Registry.builtIn.masked? name text).bind (Registry.builtIn.masked? name) =
        Registry.builtIn.masked? name text := by
  refine ⟨⟨settles_cleanString text, settles_capitalLetter text, settles_upperCase text,
    settles_trim text⟩, ?_⟩
  intro name
  cases found : Registry.builtIn.get? name with
  | none => simp [Registry.masked?, found]
  | some mask => simp [Registry.masked?, found, again_of_builtIn name mask found text]

end Crosswalk.Mask
