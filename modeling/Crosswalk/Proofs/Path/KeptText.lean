import Crosswalk.Proofs.Path.Grammar

/-!
# The text that a path keeps

A path keeps the text it was written as, without the blanks at its ends.  Neither the root marker
nor the last character of a step is a blank (`stepText_closes`), so what trimming leaves of an
expression is the root marker and the texts of the steps, whole (`expression_iff_trim`).  Whether a
text is an expression, and of which steps, is therefore a matter of the text without the blanks at
its ends: the kept text stands for the path, and so does every text that has it between blanks
(`kept_text_stands_for_path`).
-/

set_option autoImplicit false

namespace Crosswalk.Path

open Text

/-! ## Where steps end -/

/-- A name in quotation marks may end with a blank; the bracket after it is none. -/
theorem stepText_closes (text : List Char) (step : Step) (form : StepText text step) :
    ∃ front last, text = front ++ [last] ∧ isBlank last = false := by
  cases form with
  | dotted first name definite inside =>
      have split := List.dropLast_append_getLast (List.cons_ne_nil first name)
      have last := inside _ (List.getLast_mem (List.cons_ne_nil first name))
      exact ⟨'.' :: (first :: name).dropLast, _, by rw [List.cons_append, split], last.2.2⟩
  | bracketed before selector after =>
      exact ⟨'[' :: (before ++ (selector ++ after)), ']', by simp, by decide⟩

theorem stepTexts_close (body : List Char) (steps : List Step) (form : StepTexts body steps) :
    StopsAt isBlank body.reverse := by
  induction form with
  | nil => exact stopsAt_nil isBlank
  | cons blanks text rest step steps between first others ih =>
      obtain ⟨front, last, rfl, solid⟩ := stepText_closes text step first
      -- the blanks before the step are out of reach behind its last character
      simp only [List.reverse_append, List.reverse_singleton, List.append_assoc]
      exact stopsAt_append isBlank rest.reverse _ ih ((stopsAt_cons isBlank last _).mpr solid)

theorem trimmed_expression (body : List Char) (steps : List Step) (form : StepTexts body steps) :
    Trimmed ('$' :: body) := by
  have root : isBlank '$' = false := by decide
  refine ⟨(stopsAt_cons isBlank '$' body).mpr root, ?_⟩
  rw [List.reverse_cons]
  exact stopsAt_append isBlank body.reverse ['$'] (stepTexts_close body steps form)
    ((stopsAt_cons isBlank '$' []).mpr root)

/-! ## Expressions without the blanks at their ends -/

theorem expression_iff_trim (cs : List Char) (steps : List Step) :
    Expression cs steps ↔ ∃ body, trim cs = '$' :: body ∧ StepTexts body steps := by
  constructor
  · rintro ⟨before, body, after, rfl, opening, form, closing⟩
    refine ⟨body, ?_, form⟩
    rw [← List.cons_append, ← List.append_assoc]
    exact trim_between before _ after opening (trimmed_expression body steps form) closing
  · rintro ⟨body, left, form⟩
    obtain ⟨before, after, opening, closing, split⟩ := trim_split cs
    rw [left] at split
    exact ⟨before, body, after, by simp [split], opening, form, closing⟩

theorem expression_of_same_trim (cs ds : List Char) (same : trim cs = trim ds)
    (steps : List Step) : Expression cs steps ↔ Expression ds steps := by
  rw [expression_iff_trim, expression_iff_trim, same]

theorem parse_of_same_trim (s t : String) (same : trim s.toList = trim t.toList) (path : Path) :
    parse s = .ok path ↔ parse t = .ok path := by
  rw [parse_eq_ok_iff, parse_eq_ok_iff, same, expression_of_same_trim _ _ same]

/-- The text that a path keeps is what its expression has between the blanks at its ends, and it is
an expression of the same path.  Blanks around a text change neither whether it is an expression
nor the path. -/
theorem kept_text_stands_for_path (s : String) :
    (∀ path, parse s = .ok path →
      path.text.toList = trim s.toList ∧ Trimmed path.text.toList ∧
        (∃ before after : String, Blanks before.toList ∧ Blanks after.toList ∧
          s = before ++ path.text ++ after) ∧
        parse path.text = .ok path) ∧
      ∀ before after : String, Blanks before.toList → Blanks after.toList →
        (∀ path, parse (before ++ s ++ after) = .ok path ↔ parse s = .ok path) ∧
          ((∃ fault, parse (before ++ s ++ after) = .error fault) ↔
            ∃ fault, parse s = .error fault) := by
  constructor
  · intro path success
    have kept : path.text.toList = trim s.toList := by
      rw [((parse_eq_ok_iff s path).mp success).1, String.toList_ofList]
    have trimmed : Trimmed path.text.toList := kept ▸ trimmed_trim s.toList
    refine ⟨kept, trimmed, ?_, ?_⟩
    · obtain ⟨before, after, opening, closing, split⟩ := trim_split s.toList
      refine ⟨String.ofList before, String.ofList after, ?_, ?_, ?_⟩
      · rwa [String.toList_ofList]
      · rwa [String.toList_ofList]
      · rw [← String.toList_inj]
        simp [kept, ← split]
    · refine (parse_of_same_trim path.text s ?_ path).mpr success
      rw [trim_of_trimmed _ trimmed, kept]
  · intro before after opening closing
    have same : trim (before ++ s ++ after).toList = trim s.toList := by
      rw [String.toList_append, String.toList_append]
      exact trim_surrounded before.toList s.toList after.toList opening closing
    have paths := parse_of_same_trim (before ++ s ++ after) s same
    refine ⟨paths, ?_⟩
    simp only [exists_error_iff, ne_eq, paths]

/-- Blanks between steps, inside brackets and at the end of a quoted name. -/
def spacedText : String :=
  "\u3000$ .a ['b\\' '] [ 07 ]\t"

def spacedPath : Path :=
  ⟨"$ .a ['b\\' '] [ 07 ]", [.key "a", .key "b' ", .index 7]⟩

/-- A text with an open quotation mark is refused, also with blanks after it. -/
theorem spacedText_stands_for_path :
    parse spacedText = .ok spacedPath ∧ Blanks "\u00A0".toList ∧ Blanks "\n ".toList ∧
      parse spacedPath.text = .ok spacedPath ∧
        parse ("\u00A0" ++ spacedText ++ "\n ") = .ok spacedPath ∧
          (∃ fault, parse "$['a" = .error fault) ∧
            ∃ fault, parse ("\u00A0" ++ "$['a" ++ "\n ") = .error fault := by
  have success : parse spacedText = .ok spacedPath := by decide
  have refused : ∃ fault, parse "$['a" = .error fault := ⟨.unterminatedString 2, by decide⟩
  have opening : Blanks "\u00A0".toList := List.all_eq_true.mp (by decide)
  have closing : Blanks "\n ".toList := List.all_eq_true.mp (by decide)
  obtain ⟨kept, surrounded⟩ := kept_text_stands_for_path spacedText
  obtain ⟨-, -, -, again⟩ := kept spacedPath success
  refine ⟨success, opening, closing, again, ?_, refused, ?_⟩
  · exact ((surrounded _ _ opening closing).1 spacedPath).mpr success
  · exact ((kept_text_stands_for_path "$['a").2 _ _ opening closing).2.mpr refused

end Crosswalk.Path
