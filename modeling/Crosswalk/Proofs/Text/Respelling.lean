import Crosswalk.Proofs.Text.Blank
import Crosswalk.Proofs.Text.CaseTable

/-!
# Text in another case

A text in another case is the text with each of its letters respelled: a piece of letters and
combining marks stands in the place of each, and every other character stays (`Respelled`).  So no
blank comes to stand at an end of it, and a trimmed text stays trimmed (`Respelled.trimmed`).

A lower case and an upper case stay as they are when they are taken again
(`lowercase_lowercase`, `uppercase_uppercase`).
-/

set_option autoImplicit false

namespace Crosswalk.Text

/-! ## Respelled text -/

/-- The text that may stand in the place of a character. -/
def Replaces (c : Char) (piece : List Char) : Prop :=
  if isWordChar c then piece ≠ [] ∧ ∀ d ∈ piece, isWordChar d = true else piece = [c]

inductive Respelled : List Char → List Char → Prop where
  | nil : Respelled [] []
  | cons (c : Char) (piece cs ds : List Char) (first : Replaces c piece) (others : Respelled cs ds) :
      Respelled (c :: cs) (piece ++ ds)

theorem replaces_word (c : Char) (piece : List Char) (word : isWordChar c = true) :
    Replaces c piece ↔ piece ≠ [] ∧ ∀ d ∈ piece, isWordChar d = true := by
  rw [Replaces, if_pos word]

theorem replaces_other (c : Char) (piece : List Char) (other : ¬ isWordChar c = true) :
    Replaces c piece ↔ piece = [c] := by
  rw [Replaces, if_neg other]

theorem replaces_self (c : Char) : Replaces c [c] := by
  by_cases word : isWordChar c = true
  · rw [replaces_word c _ word]
    simpa using word
  · rw [replaces_other c _ word]

theorem replaces_reverse (c : Char) (piece : List Char) (fits : Replaces c piece) :
    Replaces c piece.reverse := by
  by_cases word : isWordChar c = true
  · rw [replaces_word c _ word] at fits ⊢
    simpa using fits
  · rw [replaces_other c _ word] at fits ⊢
    rw [fits, List.reverse_singleton]

theorem stopsAt_replaced (c : Char) (piece rest : List Char) (fits : Replaces c piece)
    (plain : isBlank c = false) : StopsAt isBlank (piece ++ rest) := by
  by_cases word : isWordChar c = true
  · obtain ⟨given, inside⟩ := (replaces_word c piece word).mp fits
    obtain ⟨first, piece, rfl⟩ := List.exists_cons_of_ne_nil given
    rw [List.cons_append, stopsAt_cons]
    exact isBlank_of_isWordChar first (inside first (List.mem_cons_self ..))
  · rw [(replaces_other c piece word).mp fits, List.singleton_append, stopsAt_cons]
    exact plain

theorem Respelled.append (cs ds cs' ds' : List Char) (front : Respelled cs ds)
    (back : Respelled cs' ds') : Respelled (cs ++ cs') (ds ++ ds') := by
  induction front with
  | nil => exact back
  | cons c piece cs ds first others ih =>
      rw [List.cons_append, List.append_assoc]
      exact .cons c piece (cs ++ cs') (ds ++ ds') first ih

theorem Respelled.reverse (cs ds : List Char) (respelled : Respelled cs ds) :
    Respelled cs.reverse ds.reverse := by
  induction respelled with
  | nil => exact .nil
  | cons c piece cs ds first others ih =>
      rw [List.reverse_cons, List.reverse_append]
      have last := Respelled.cons c piece.reverse [] [] (replaces_reverse c piece first) .nil
      rw [List.append_nil] at last
      exact ih.append _ _ _ _ last

theorem respelled_self (cs : List Char) : Respelled cs cs := by
  induction cs with
  | nil => exact .nil
  | cons c rest ih => exact .cons c [c] rest rest (replaces_self c) ih

theorem Respelled.split (cs cs' es : List Char) (respelled : Respelled (cs ++ cs') es) :
    ∃ front back, es = front ++ back ∧ Respelled cs front ∧ Respelled cs' back := by
  induction cs generalizing es with
  | nil => exact ⟨[], es, rfl, .nil, respelled⟩
  | cons c cs ih =>
      cases respelled with
      | cons _ piece _ ds first others =>
          obtain ⟨front, back, rfl, left, right⟩ := ih ds others
          exact ⟨piece ++ front, back, (List.append_assoc ..).symm,
            .cons c piece cs front first left, right⟩

theorem Respelled.words (cs ds : List Char) (respelled : Respelled cs ds)
    (inside : ∀ c ∈ cs, isWordChar c = true) : ∀ d ∈ ds, isWordChar d = true := by
  induction respelled with
  | nil => exact inside
  | cons c piece cs ds first others ih =>
      obtain ⟨head, tail⟩ := List.forall_mem_cons.mp inside
      exact List.forall_mem_append.mpr ⟨((replaces_word c piece head).mp first).2, ih tail⟩

theorem replaces_trans (c : Char) (piece es : List Char) (first : Replaces c piece)
    (respelled : Respelled piece es) : Replaces c es := by
  by_cases word : isWordChar c = true
  · rw [replaces_word c _ word] at first ⊢
    refine ⟨?_, respelled.words piece es first.2⟩
    cases respelled with
    | nil => exact first.1
    | cons d part rest ds head others =>
        have given := ((replaces_word d part (first.2 d (List.mem_cons_self ..))).mp head).1
        exact List.append_ne_nil_of_left_ne_nil given ds
  · rw [replaces_other c piece word] at first
    subst first
    cases respelled with
    | cons _ part _ ds head others =>
        cases others
        rw [List.append_nil]
        exact head

theorem Respelled.trans (cs ds es : List Char) (once : Respelled cs ds) (twice : Respelled ds es) :
    Respelled cs es := by
  induction once generalizing es with
  | nil => exact twice
  | cons c piece cs ds first others ih =>
      obtain ⟨front, back, rfl, left, right⟩ := twice.split piece ds es
      exact .cons c front cs back (replaces_trans c piece front first left) (ih back right)

theorem Respelled.stopsAt (cs ds : List Char) (respelled : Respelled cs ds)
    (stops : StopsAt isBlank cs) : StopsAt isBlank ds := by
  cases respelled with
  | nil => exact stops
  | cons c piece cs ds first others =>
      exact stopsAt_replaced c piece ds first ((stopsAt_cons isBlank c cs).mp stops)

theorem Respelled.trimmed (cs ds : List Char) (respelled : Respelled cs ds)
    (trimmed : Trimmed cs) : Trimmed ds :=
  ⟨respelled.stopsAt cs ds trimmed.1,
    (respelled.reverse cs ds).stopsAt cs.reverse ds.reverse trimmed.2⟩

theorem replaces_respell (table : CaseTable) (sound : table.Sound) (c : Char) :
    Replaces c (respell table c) := by
  by_cases word : isWordChar c = true
  · rw [replaces_word c _ word]
    exact ⟨respell_ne_nil table sound c, respell_words table sound c word⟩
  · rw [replaces_other c _ word]
    apply respell_of_not_letter table sound c
    cases letter : isLetter c with
    | false => rfl
    | true => exact absurd (isWordChar_of_isLetter c letter) word

/-! ## Upper case -/

theorem replaces_upperChar (c : Char) : Replaces c (upperChar c) := by
  rw [upperChar_eq_respell]
  exact replaces_respell upperTable upperTable_sound c

theorem upperChar_ne_nil (c : Char) : upperChar c ≠ [] := by
  rw [upperChar_eq_respell]
  exact respell_ne_nil upperTable upperTable_sound c

theorem respelled_uppercase (cs : List Char) : Respelled cs (uppercase cs) := by
  induction cs with
  | nil => exact .nil
  | cons c rest ih => exact .cons c (upperChar c) rest (uppercase rest) (replaces_upperChar c) ih

theorem upperChar_fixed (c d : Char) (member : d ∈ upperChar c) : upperChar d = [d] := by
  rw [upperChar_eq_respell] at member ⊢
  exact respell_fixed upperTable upperTable_sound c d member

theorem uppercase_uppercase (cs : List Char) : uppercase (uppercase cs) = uppercase cs := by
  have large : ∀ d ∈ uppercase cs, upperChar d = [d] := by
    intro d member
    obtain ⟨c, _, image⟩ := List.mem_flatMap.mp member
    exact upperChar_fixed c d image
  calc
    (uppercase cs).flatMap upperChar = (uppercase cs).flatMap fun d => [d] :=
      List.flatMap_congr large
    _ = uppercase cs := List.flatMap_singleton' _

/-! ## Lower case -/

/-- A character that is its own lower case. -/
def Small (c : Char) : Prop :=
  lowerChar c = [c]

theorem small_of_lowerChar (c d : Char) (member : d ∈ lowerChar c) : Small d := by
  rw [lowerChar_eq_respell] at member
  rw [Small, lowerChar_eq_respell]
  exact respell_fixed lowerTable lowerTable_sound c d member

theorem isWordChar_of_lowerChar (c d : Char) (word : isWordChar c = true)
    (member : d ∈ lowerChar c) : isWordChar d = true := by
  rw [lowerChar_eq_respell] at member
  exact respell_words lowerTable lowerTable_sound c word d member

theorem replaces_lowerChar (c : Char) : Replaces c (lowerChar c) := by
  rw [lowerChar_eq_respell]
  exact replaces_respell lowerTable lowerTable_sound c

theorem small_sigma : Small 'σ' := by
  unfold Small
  decide +kernel

theorem small_final_sigma : Small 'ς' := by
  unfold Small
  decide +kernel

theorem ne_capital_sigma (c : Char) (small : Small c) : c ≠ 'Σ' := by
  rintro rfl
  have lowered : lowerChar 'Σ' = ['σ'] := by decide +kernel
  rw [Small, lowered] at small
  cases small

theorem lowerCharBetween_of_small (before : List Char) (c : Char) (after : List Char)
    (small : Small c) : lowerCharBetween before c after = [c] := by
  rw [lowerCharBetween, if_neg (ne_capital_sigma c small), small]

theorem replaces_lowerCharBetween (before : List Char) (c : Char) (after : List Char) :
    Replaces c (lowerCharBetween before c after) := by
  unfold lowerCharBetween
  split
  case isTrue sigma =>
    subst sigma
    have words : isWordChar 'Σ' = true ∧ isWordChar 'σ' = true ∧ isWordChar 'ς' = true := by
      decide +kernel
    rw [replaces_word _ _ words.1]
    split <;> simp [words.2]
  case isFalse => exact replaces_lowerChar c

theorem small_of_lowerCharBetween (before : List Char) (c : Char) (after : List Char) (d : Char)
    (member : d ∈ lowerCharBetween before c after) : Small d := by
  unfold lowerCharBetween at member
  split at member
  case isTrue =>
    rw [List.mem_singleton] at member
    subst member
    split
    · exact small_final_sigma
    · exact small_sigma
  case isFalse => exact small_of_lowerChar c d member

theorem respelled_lowercaseAfter (before cs : List Char) :
    Respelled cs (lowercaseAfter before cs) := by
  induction cs generalizing before with
  | nil => exact .nil
  | cons c rest ih =>
      exact .cons c _ rest _ (replaces_lowerCharBetween before c rest) (ih (c :: before))

theorem small_of_lowercaseAfter (before cs : List Char) :
    ∀ d ∈ lowercaseAfter before cs, Small d := by
  induction cs generalizing before with
  | nil => simp [lowercaseAfter]
  | cons c rest ih =>
      intro d member
      rcases List.mem_append.mp member with here | later
      · exact small_of_lowerCharBetween before c rest d here
      · exact ih (c :: before) d later

theorem lowercaseAfter_of_small (before cs rest : List Char) (small : ∀ c ∈ cs, Small c) :
    lowercaseAfter before (cs ++ rest) = cs ++ lowercaseAfter (cs.reverse ++ before) rest := by
  induction cs generalizing before with
  | nil => rfl
  | cons c cs ih =>
      obtain ⟨first, others⟩ := List.forall_mem_cons.mp small
      rw [List.cons_append, lowercaseAfter, lowerCharBetween_of_small before c _ first, ih _ others]
      simp

theorem lowercase_lowercase (cs : List Char) : lowercase (lowercase cs) = lowercase cs := by
  have fixed := lowercaseAfter_of_small [] (lowercase cs) [] (small_of_lowercaseAfter [] cs)
  rw [lowercaseAfter, List.append_nil] at fixed
  exact fixed

end Crosswalk.Text
