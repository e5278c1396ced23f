import Crosswalk.Proofs.Mask.Idempotence

/-!
# Masks and what stands between words

A built-in mask changes words only: the characters of a text that belong to no word stand in its
result in the same order, but for the blanks around the text (`builtIn_masks_keep_separators`).
This is so of every respelling, since what stands in the place of a letter is letters and combining
marks alone (`Respelled.separators`).
-/

set_option autoImplicit false

namespace Crosswalk

namespace Text

/-- Neither a letter nor a combining mark. -/
def isSeparator (c : Char) : Bool :=
  !isLetter c && !isCombiningMark c

def separators (cs : List Char) : List Char :=
  cs.filter isSeparator

theorem isSeparator_eq (c : Char) : isSeparator c = !isWordChar c := by
  rw [isSeparator, isWordChar, Bool.not_or]

theorem separators_append (cs ds : List Char) :
    separators (cs ++ ds) = separators cs ++ separators ds :=
  List.filter_append ..

theorem separators_words (cs : List Char) (words : ∀ c ∈ cs, isWordChar c = true) :
    separators cs = [] := by
  apply List.filter_eq_nil_iff.mpr
  intro c member
  rw [isSeparator_eq, words c member]
  exact Bool.false_ne_true

theorem separators_replaced (c : Char) (piece : List Char) (fits : Replaces c piece) :
    separators piece = separators [c] := by
  by_cases word : isWordChar c = true
  · have inside := ((replaces_word c piece word).mp fits).2
    rw [separators_words piece inside, separators_words [c] (List.forall_mem_singleton.mpr word)]
  · rw [(replaces_other c piece word).mp fits]

theorem Respelled.separators (cs ds : List Char) (respelled : Respelled cs ds) :
    separators ds = separators cs := by
  induction respelled with
  | nil => rfl
  | cons c piece cs ds first others ih =>
      rw [separators_append, separators_replaced c piece first, ih, ← separators_append,
        List.singleton_append]

end Text

namespace Mask

open Text

theorem separators_of_settles (inCase : List Char → List Char) (mask : Mask) (text : String)
    (settles : Settles inCase mask text) :
    separators (mask text).toList = separators (Text.trim text.toList) :=
  settles.respelled.separators _ _

/-- What belongs to no word passes through every built-in mask, those that the built-in registry
knows by name among them, in its order. -/
theorem builtIn_masks_keep_separators (text : String) :
    (separators (cleanString text).toList = separators (Text.trim text.toList) ∧
      separators (capitalLetter text).toList = separators (Text.trim text.toList) ∧
      separators (upperCase text).toList = separators (Text.trim text.toList) ∧
      separators (trim text).toList = separators (Text.trim text.toList)) ∧
      ∀ name mask, Registry.builtIn.get? name = some mask →
        separators (mask text).toList = separators (Text.trim text.toList) := by
  refine ⟨⟨?_, ?_, ?_, ?_⟩, ?_⟩
  · exact separators_of_settles lowercase cleanString text (settles_cleanString text)
  · exact separators_of_settles titled capitalLetter text (settles_capitalLetter text)
  · exact separators_of_settles uppercase upperCase text (settles_upperCase text)
  · exact separators_of_settles id trim text (settles_trim text)
  · intro name mask found
    obtain ⟨inCase, settles⟩ := settles_of_builtIn name mask found text
    exact separators_of_settles inCase mask text settles

/-- An upper case of two letters, one with a combining mark and a final sigma, with digits, blanks
and signs between them. -/
theorem street_keeps_separators :
    Registry.builtIn.get? "UPPER_CASE" = some upperCase ∧
      separators (upperCase " 12. Straße (ΐ), o'ΟΔΟΣ ").toList = "12.  (), '".toList := by
  have found : Registry.builtIn.get? "UPPER_CASE" = some upperCase := rfl
  have kept := (builtIn_masks_keep_separators " 12. Straße (ΐ), o'ΟΔΟΣ ").2 "UPPER_CASE" upperCase
    found
  refine ⟨found, kept.trans ?_⟩
  decide +kernel

end Mask

end Crosswalk
