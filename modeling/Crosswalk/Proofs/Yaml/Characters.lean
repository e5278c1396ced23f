import Crosswalk.Proofs.Json.Induction
import Crosswalk.Proofs.Yaml.Layout

/-!
# The characters of a written text

Whatever is written can be printed (`written_inlineText`): what cannot is escaped.  So a written
text has only characters that may stand in a text (`isAllowed_of_isPrintable`), and all its breaks
are kept as they are (`normalizeBreaks_written`).
-/

set_option autoImplicit false

namespace Crosswalk.Yaml

/-- Text that can be printed. -/
def Written (cs : List Char) : Prop :=
  ∀ c ∈ cs, isPrintable c = true

@[simp]
theorem written_nil : Written [] :=
  List.forall_mem_nil _

@[simp]
theorem written_cons (c : Char) (cs : List Char) :
    Written (c :: cs) ↔ isPrintable c = true ∧ Written cs :=
  List.forall_mem_cons

@[simp]
theorem written_append (cs ds : List Char) : Written (cs ++ ds) ↔ Written cs ∧ Written ds :=
  List.forall_mem_append

@[simp]
theorem written_spaces (count : Nat) : Written (spaces count) := by
  intro c member
  rw [List.eq_of_mem_replicate member]
  rfl

theorem isAllowed_of_isPrintable (c : Char) (print : isPrintable c = true) :
    isAllowed c = true := by
  simp only [isPrintable, Bool.or_eq_true, Bool.and_eq_true, decide_eq_true_eq] at print
  simp only [isAllowed, Bool.or_eq_true, Bool.and_eq_true, decide_eq_true_eq]
  rcases print with ((rfl | ascii) | ⟨wide, _⟩) | beyond
  · decide
  · omega
  · omega
  · omega

theorem normalizeBreaks_written (cs : List Char) (written : Written cs) :
    normalizeBreaks cs = cs := by
  induction cs with
  | nil => rfl
  | cons c rest ih =>
      obtain ⟨print, others⟩ := (written_cons c rest).mp written
      have turn : c ≠ '\r' := by
        rintro rfl
        exact absurd print (by decide)
      have next : c ≠ '\x85' := by
        rintro rfl
        exact absurd print (by decide)
      rw [normalizeBreaks.eq_def]
      split <;> simp_all

/-! ## Scalars -/

theorem isPrintable_of_isNumeral (c : Char) (numeral : isNumeral c = true) :
    isPrintable c = true := by
  simp only [isNumeral, Char.isDigit, Bool.or_eq_true, Bool.and_eq_true, decide_eq_true_eq,
    beq_iff_eq, ge_iff_le, UInt32.le_iff_toNat_le] at numeral
  rcases numeral with (((⟨low, high⟩ | rfl) | rfl) | rfl) | rfl
  · have least : 48 ≤ c.toNat := low
    have most : c.toNat ≤ 57 := high
    simp only [isPrintable, Bool.or_eq_true, Bool.and_eq_true, decide_eq_true_eq]
    omega
  all_goals decide

theorem written_numberText (n : Number) : Written (numberText n) := by
  have numerals : Numerals (numberText n) := by
    cases n with
    | integer value fits => exact (Number.integer value fits).numerals_text
    | float x => exact x.numerals_toText layout (List.forall_mem_nil _)
  exact fun c member => isPrintable_of_isNumeral c (numerals c member)

theorem written_boolText (b : Bool) : Written (Json.boolText b) := by
  cases b <;> simp [Json.boolText] <;> decide

theorem isPrintable_hexUpper : ∀ digit < 16, isPrintable (hexUpper digit) = true := by
  decide

theorem written_hexPadded (count n : Nat) : Written (hexPadded count n) :=
  forall_hexPadded _ isPrintable_hexUpper count n

theorem written_doubleQuotedChar (c : Char) : Written (doubleQuotedChar c) := by
  have slash : isPrintable '\\' = true := by decide
  rw [doubleQuotedChar]
  split
  case isTrue bare =>
    simp only [Bool.and_eq_true] at bare
    simp [bare.1.1.1]
  case isFalse =>
    split
    case h_1 letter listed =>
      have all : shortEscapes.all (fun row => isPrintable row.2) = true := by decide
      obtain ⟨front, back, table, _⟩ := List.lookup_eq_some_iff.mp listed
      have print := List.all_eq_true.mp all (c, letter) (by rw [table]; simp)
      simp [slash, print]
    case h_2 =>
      have letters : isPrintable 'x' = true ∧ isPrintable 'u' = true ∧ isPrintable 'U' = true := by
        decide
      dsimp only
      split
      · simp [slash, letters, written_hexPadded]
      split <;> simp [slash, letters, written_hexPadded]

theorem written_singleQuotedChars (indent : Nat) (after : Bool) (cs : List Char)
    (print : Written cs) : Written (singleQuotedChars indent after cs) := by
  induction cs generalizing after with
  | nil =>
      rw [singleQuotedChars]
      split <;> simp
  | cons c rest ih =>
      obtain ⟨here, others⟩ := (written_cons c rest).mp print
      have mark : isPrintable '\'' = true := by decide
      rw [singleQuotedChars]
      split
      · simp [here, ih true others]
      · rw [written_append, written_append]
        refine ⟨⟨?_, ?_⟩, ih false others⟩
        · split <;> simp
        · split <;> simp [mark, here]

theorem written_literalChars (indent : Nat) (after : Bool) (cs : List Char) (print : Written cs) :
    Written (literalChars indent after cs) := by
  induction cs generalizing after with
  | nil => exact written_nil
  | cons c rest ih =>
      obtain ⟨here, others⟩ := (written_cons c rest).mp print
      rw [literalChars]
      split
      · simp [here, ih true others]
      · rw [written_append, written_cons]
        refine ⟨?_, here, ih false others⟩
        split <;> simp

theorem written_literalText (indent : Nat) (cs : List Char) (print : Written cs) :
    Written (literalText indent cs) := by
  have marks : isPrintable '|' = true ∧ isPrintable '2' = true ∧ isPrintable '-' = true ∧
      isPrintable '+' = true ∧ isPrintable '\n' = true := by
    decide
  have hint : Written (blockHint cs) := by
    cases cs with
    | nil => exact written_nil
    | cons c rest =>
        rw [blockHint]
        split <;> simp [marks]
  have chomp : Written (chomping cs) := by
    rw [chomping]
    repeat' split
    all_goals simp [marks]
  simp [literalText_eq, hint, chomp, marks, written_literalChars indent true cs print]

theorem written_scalarText (inKey : Bool) (indent : Nat) (s : String) :
    Written (scalarText inKey indent s) := by
  have spec := fits_styleOf inKey s
  have print : (s.toList.any fun c => !isPrintable c) = false → Written s.toList := by
    intro special c member
    simpa using List.any_eq_false.mp special c member
  rw [scalarText]
  cases style : styleOf inKey s with
  | plain =>
      rw [style] at spec
      have allowed := spec.2
      simp only [analyze, Bool.not_eq_true', Bool.or_eq_false_iff] at allowed
      exact print allowed.1.1.1.1.1.1.2
  | singleQuoted =>
      rw [style] at spec
      have text := unfolded_of_analysis s.toList spec.1 spec.2
      have mark : isPrintable '\'' = true := by decide
      simp [mark, written_singleQuotedChars indent false s.toList text.print]
  | doubleQuoted =>
      have mark : isPrintable '"' = true := by decide
      have inside : Written (s.toList.flatMap doubleQuotedChar) := by
        intro c member
        obtain ⟨d, _, inside⟩ := List.mem_flatMap.mp member
        exact written_doubleQuotedChar d c inside
      simp [mark, inside]
  | literal =>
      rw [style] at spec
      have allowed := spec.2
      simp only [analyze, Bool.and_eq_true, Bool.not_eq_true', Bool.or_eq_false_iff] at allowed
      exact written_literalText indent s.toList (print allowed.1.1.1)

/-! ## Values -/

theorem written_newLine (indent : Nat) (before : Option (List Char)) :
    Written (newLine indent before) := by
  have feed : isPrintable '\n' = true := by decide
  rw [newLine.eq_def]
  split
  · exact written_nil
  · split <;> simp [feed]

theorem written_items (indent : Nat) (items : List Json)
    (each : ∀ item ∈ items, ∀ indent, Written (inlineText indent item))
    (before : Option (List Char)) : Written (itemsText indent before items) := by
  induction items generalizing before with
  | nil => exact written_nil
  | cons item items ih =>
      obtain ⟨first, others⟩ := List.forall_mem_cons.mp each
      have signs : isPrintable '-' = true ∧ isPrintable ' ' = true := by decide
      simp [itemsText, written_newLine, signs, first (indent + 2), ih others]

theorem written_members (indent : Nat) (members : List (String × Json))
    (each : ∀ member ∈ members, ∀ indent, Written (inlineText indent (Prod.snd member)) ∧
      Written (valueText indent (Prod.snd member)))
    (before : Option (List Char)) : Written (membersText indent before members) := by
  induction members generalizing before with
  | nil => exact written_nil
  | cons member members ih =>
      obtain ⟨key, value⟩ := member
      obtain ⟨first, others⟩ := List.forall_mem_cons.mp each
      have signs : isPrintable '?' = true ∧ isPrintable ':' = true ∧ isPrintable ' ' = true := by
        decide
      have member : Written (memberText indent key value) := by
        rw [memberText]
        split
        · simp [written_scalarText, signs, (first indent).2]
        · simp [written_scalarText, written_newLine, signs, (first (indent + 2)).1]
      simp [membersText_cons, written_newLine, member, ih others]

theorem written_value (value : Json) (indent : Nat) :
    Written (inlineText indent value) ∧ Written (valueText indent value) := by
  have signs : isPrintable ' ' = true ∧ isPrintable '\n' = true ∧
      Written ['n', 'u', 'l', 'l'] ∧ Written ['[', ']'] ∧ Written ['\x7b', '\x7d'] := by
    simp only [written_cons, written_nil]
    decide
  induction value using Json.induction generalizing indent with
  | null => simp only [inlineText, valueText, written_cons, signs, and_self]
  | bool b => simp [inlineText, valueText, written_boolText, signs]
  | number n => simp [inlineText, valueText, written_numberText, signs]
  | string s => simp [inlineText, valueText, written_scalarText, signs]
  | array items ih =>
      cases items with
      | nil => simp only [inlineText, valueText, written_cons, signs, and_self]
      | cons item items =>
          have inside := written_items indent (item :: items) (fun item' member depth =>
            (ih item' member depth).1) none
          simp [inlineText, valueText, inside, signs]
  | object members ih =>
      cases members with
      | nil => simp only [inlineText, valueText, written_cons, signs, and_self]
      | cons member members =>
          have inside := fun depth => written_members depth (member :: members) ih none
          simp [inlineText, valueText, inside, signs]

end Crosswalk.Yaml
