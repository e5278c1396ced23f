import Crosswalk.Proofs.Json.Number
import Crosswalk.Proofs.Number.Reading
import Crosswalk.Proofs.Yaml.Plain

/-!
# What plain text means

Numbers, truth values and null are written as plain text, and the plain text means the same value
(`meaning_number`).  The text of a float is told from that of an integer by a point or an exponent.
-/

set_option autoImplicit false

namespace Crosswalk

open Text (StopsAt stopsAt_nil stopsAt_cons)
open Coercion (signText Digits digits_toDigits splitSign splitSign_signText SignsExponents)

/-- A point or the mark of an exponent. -/
def marksFloat (c : Char) : Bool :=
  c = '.' || c = 'e'

/-- The text of a float begins with a digit after its sign, and has a mark that no integer has. -/
theorem Binary64.toText_marked (layout : Layout) (x : Binary64) :
    ∃ c rest, x.toText layout = signText x.negative ++ c :: rest ∧ c.isDigit = true ∧
      rest.any marksFloat = true := by
  have digits := digits_toDigits x.shortest.digits
  have given : Nat.toDigits 10 x.shortest.digits ≠ [] := Nat.toDigits_ne_nil
  simp only [toText, signText]
  generalize Nat.toDigits 10 x.shortest.digits = text at digits given ⊢
  generalize text.length + x.shortest.power - 1 = leading
  obtain ⟨c, rest, rfl⟩ := List.exists_cons_of_ne_nil given
  have first := digits c (List.mem_cons_self ..)
  split
  · exact ⟨'0', ['.', '0'], rfl, rfl, rfl⟩
  split
  · split
    · exact ⟨c, rest ++ List.replicate x.shortest.power.toNat '0' ++ ['.', '0'], by simp, first,
        by simp [marksFloat]⟩
    split
    · exact ⟨c, rest.take leading.toNat ++ ['.'] ++ rest.drop leading.toNat, by simp, first,
        by simp [marksFloat]⟩
    · exact ⟨'0', '.' :: (List.replicate (-leading - 1).toNat '0' ++ c :: rest), by simp, rfl,
        by simp [marksFloat]⟩
  · obtain ⟨after, mark⟩ := Coercion.powerText_mark layout leading
    rw [Coercion.powerText] at mark
    rw [mark]
    cases rest with
    | nil => exact ⟨c, 'e' :: after, by simp, first, rfl⟩
    | cons d rest => exact ⟨c, '.' :: (d :: rest ++ 'e' :: after), by simp, first, rfl⟩

namespace Yaml

/-! ## Numerals are plain text -/

theorem isSolid_of_isNumeral (c : Char) (numeral : isNumeral c = true) : isSolid c = true := by
  simp only [isSolid, isEdge, isBreak, Bool.and_eq_true, Bool.not_eq_true', Bool.or_eq_false_iff,
    decide_eq_false_iff_not, bne_iff_ne]
  refine ⟨⟨⟨⟨⟨?_, ?_⟩, ⟨⟨⟨?_, ?_⟩, ?_⟩, ?_⟩, ?_⟩, ?_⟩, ?_⟩, ?_⟩ <;> (rintro rfl; cases numeral)

theorem startsPlain_digit (c : Char) (digit : c.isDigit = true) :
    endsToken (some c) = false ∧ ∀ rest, startsPlain false (c :: rest) = true := by
  have other : reservedStarts.contains c = false := by
    simp only [reservedStarts, List.contains_cons, List.contains_nil, Bool.or_eq_false_iff,
      beq_eq_false_iff_ne]
    refine ⟨?_, ?_, ?_, ?_, ?_, ?_, ?_, ?_, ?_, ?_, ?_, ?_, ?_, ?_, ?_, ?_, trivial⟩ <;>
      (rintro rfl; cases digit)
  have inside : endsToken (some c) = false := by
    simp only [endsToken, isBlank, endsLine, Bool.or_eq_false_iff, decide_eq_false_iff_not]
    refine ⟨⟨?_, ?_⟩, ⟨?_, ?_⟩, ?_⟩ <;> (rintro rfl; cases digit)
  have sign : c ≠ '-' ∧ c ≠ '?' ∧ c ≠ ':' := by
    refine ⟨?_, ?_, ?_⟩ <;> (rintro rfl; cases digit)
  exact ⟨inside, fun rest => by simp only [startsPlain, inside, other, sign, Bool.or_self,
    Bool.false_eq_true, if_false, decide_false]⟩

/-- Numerals after an optional minus sign, of which the first is a digit. -/
theorem plain_of_numerals (negative : Bool) (c : Char) (rest : List Char)
    (numerals : Numerals (c :: rest)) (digit : c.isDigit = true) :
    Plain (signText negative ++ c :: rest) := by
  have solid : (c :: rest).all isSolid = true :=
    List.all_eq_true.mpr fun d member => isSolid_of_isNumeral d (numerals d member)
  obtain ⟨inside, start⟩ := startsPlain_digit c digit
  cases negative with
  | false => exact plain_of_solid _ (List.cons_ne_nil _ _) solid (start rest)
  | true =>
      refine plain_of_solid _ (List.cons_ne_nil _ _) solid ?_
      change (!endsToken (some c)) = true
      rw [inside]
      rfl

/-! ## Words -/

/-- A digit comes first, or after a minus sign. -/
def startsNumeral (cs : List Char) : Bool :=
  ((splitSign cs).2.head?.any Char.isDigit)

theorem contains_words (words : List String) (s : String)
    (none : words.all (fun word => !startsNumeral word.toList) = true)
    (start : startsNumeral s.toList = true) : words.contains s = false := by
  rw [Bool.eq_false_iff]
  intro listed
  have word := List.all_eq_true.mp none s (by simpa using listed)
  rw [start] at word
  cases word

/-! ## Integers -/

theorem digitValue?_digit (c : Char) (digit : c.isDigit = true) :
    digitValue? c = some (c.toNat - '0'.toNat) ∧ c.toNat - '0'.toNat < 10 := by
  have range : '0' ≤ c ∧ c ≤ '9' := by
    simpa [Char.isDigit, Char.le_def, and_comm] using digit
  have least : '0'.toNat ≤ c.toNat ∧ c.toNat ≤ '9'.toNat := range
  refine ⟨if_pos range, ?_⟩
  change c.toNat - 48 < 10
  have most : c.toNat ≤ 57 := least.2
  omega

theorem digitsFrom?_digits (value : Nat) (cs : List Char) (digits : Digits cs) :
    digitsFrom? 10 value cs = some (Nat.ofDigitChars 10 cs value) := by
  induction cs generalizing value with
  | nil => simp [digitsFrom?]
  | cons c rest ih =>
      obtain ⟨first, others⟩ := List.forall_mem_cons.mp digits
      obtain ⟨known, small⟩ := digitValue?_digit c first
      rw [digitsFrom?, Nat.ofDigitChars_cons]
      simp only [known, if_pos small, ih _ others, Nat.mul_comm]

theorem digitsFrom?_marked (value : Nat) (cs : List Char) (marked : cs.any marksFloat = true) :
    digitsFrom? 10 value cs = none := by
  induction cs generalizing value with
  | nil => cases marked
  | cons c rest ih =>
      by_cases mark : marksFloat c = true
      · have known : digitValue? c = none ∨ digitValue? c = some 14 := by
          simp only [marksFloat, Bool.or_eq_true, decide_eq_true_eq] at mark
          rcases mark with rfl | rfl <;> decide
        rcases known with none | some <;> simp [digitsFrom?, *]
      · have more : rest.any marksFloat = true := by simpa [mark] using marked
        rw [digitsFrom?]
        split
        · split
          · exact ih _ more
          · rfl
        · rfl

/-! ## The number that a text means -/

section Body
variable (negative : Bool) (c : Char) (rest : List Char) (digit : c.isDigit = true)
include digit

theorem splitSign_body : splitSign (signText negative ++ c :: rest) = (negative, c :: rest) :=
  splitSign_signText negative [c] rest (List.forall_mem_singleton.mpr digit) (List.cons_ne_nil _ _)

theorem startsNumeral_body : startsNumeral (signText negative ++ c :: rest) = true := by
  simp [startsNumeral, splitSign_body negative c rest digit, digit]

theorem hasLeadingZero_body :
    hasLeadingZero (signText negative ++ c :: rest) =
      (c = '0' && !rest.isEmpty && rest.all Char.isDigit) := by
  rw [hasLeadingZero, splitSign_body negative c rest digit]
  cases rest with
  | nil => simp
  | cons d rest =>
    by_cases zero : c = '0'
    · simp [zero]
    · simp [zero]

theorem integer?_body (numerals : Numerals rest) :
    integer? (signText negative ++ c :: rest) =
      (if c = '0' && !rest.isEmpty && rest.all Char.isDigit then none
        else digitsFrom? 10 0 (c :: rest)).map
        fun magnitude => if negative then -(magnitude : Int) else magnitude := by
  have zero := hasLeadingZero_body false c rest digit
  rw [show signText false ++ c :: rest = c :: rest from rfl] at zero
  simp only [integer?, splitSign_body negative c rest digit]
  congr 1
  split
  case h_4 => rw [zero]; rfl
  -- no numeral is a letter that tells a base
  all_goals
    rename_i same
    cases same
    cases numerals _ (List.mem_cons_self ..)

end Body

theorem integer?_digits (negative : Bool) (n : Nat) :
    integer? (signText negative ++ Nat.toDigits 10 n) =
      some (if negative then -(n : Int) else n) := by
  obtain ⟨c, rest, text, digit⟩ := toDigits_cons n
  have digits := digits_toDigits n
  have value : Nat.ofDigitChars 10 (Nat.toDigits 10 n) 0 = n := Nat.ofDigitChars_ten_toDigits
  -- only zero begins with a zero
  have zero : (c = '0' && !rest.isEmpty && rest.all Char.isDigit) = false := by
    by_cases positive : 0 < n
    · have head := toDigits_head n positive
      rw [text] at head
      have other : c ≠ '0' := by simpa using head
      simp [other]
    · have none : n = 0 := by omega
      subst none
      cases text
      rfl
  have numerals := numerals_toDigits n
  rw [text] at digits value numerals ⊢
  rw [integer?_body negative c rest digit ((numerals_cons c rest).mp numerals).2, zero,
    digitsFrom?_digits 0 _ digits, value]
  rfl

theorem digits_of_marked (rest : List Char) (marked : rest.any marksFloat = true) :
    rest.all Char.isDigit = false := by
  obtain ⟨c, member, mark⟩ := List.any_eq_true.mp marked
  refine List.all_eq_false.mpr ⟨c, member, ?_⟩
  simp only [marksFloat, Bool.or_eq_true, decide_eq_true_eq] at mark
  rcases mark with rfl | rfl <;> decide

theorem integer?_float (negative : Bool) (c : Char) (rest : List Char) (digit : c.isDigit = true)
    (numerals : Numerals rest) (marked : rest.any marksFloat = true) :
    integer? (signText negative ++ c :: rest) = none := by
  rw [integer?_body negative c rest digit numerals, digits_of_marked rest marked, Bool.and_false,
    digitsFrom?_marked 0 (c :: rest) (by simp [marked])]
  rfl

theorem float?_float (negative : Bool) (c : Char) (rest : List Char) (digit : c.isDigit = true)
    (marked : rest.any marksFloat = true) :
    float? (signText negative ++ c :: rest) =
      Coercion.readFloat? (signText negative ++ c :: rest) := by
  have zero : hasLeadingZero (signText negative ++ c :: rest) = false := by
    rw [hasLeadingZero_body negative c rest digit, digits_of_marked rest marked, Bool.and_false]
  rw [float?.eq_def]
  split
  case h_1 same => cases negative <;> cases same; cases digit
  case h_2 same => cases negative <;> cases same; cases digit
  case h_3 => simp [zero]

/-! ## The text of a value means the value -/

theorem meaning_numeral (s : String) (start : startsNumeral s.toList = true) :
    nullWords.contains s = false ∧ endlessWords.contains s = false ∧ flagWords.lookup s = none := by
  refine ⟨contains_words nullWords s (by decide) start, contains_words endlessWords s
    (by decide) start, ?_⟩
  have flags := contains_words (flagWords.map Prod.fst) s (by decide) start
  rw [List.lookup_eq_none_iff]
  intro flag member
  rw [bne_iff_ne]
  rintro rfl
  simp [List.mem_map_of_mem member] at flags

theorem meaning_integer (s : String) (start : startsNumeral s.toList = true) (n : Int)
    (fits : FitsWord n) (read : integer? s.toList = some n) :
    meaning s = some (.ok (.number (.integer n fits))) := by
  obtain ⟨null, endless, flag⟩ := meaning_numeral s start
  have made : Number.ofInt? n = some (.integer n fits) := dif_pos fits
  simp only [meaning, null, valueMeant, endless, flag, read, made, Bool.false_eq_true, if_false]

theorem meaning_float (s : String) (start : startsNumeral s.toList = true) (x : Binary64)
    (other : integer? s.toList = none) (read : float? s.toList = some x) :
    meaning s = some (.ok (.number (.float x))) := by
  obtain ⟨null, endless, flag⟩ := meaning_numeral s start
  simp only [meaning, null, valueMeant, endless, flag, other, read, Bool.false_eq_true, if_false]

/-- A number is written as plain text that means it. -/
theorem plain_number (n : Number) :
    Plain (numberText n) ∧ meaning (String.ofList (numberText n)) = some (.ok (.number n)) := by
  cases n with
  | integer value fits =>
      obtain ⟨c, rest, text, digit⟩ := toDigits_cons value.natAbs
      have numerals := numerals_toDigits value.natAbs
      have written : numberText (.integer value fits) =
          signText (decide (value < 0)) ++ Nat.toDigits 10 value.natAbs := by
        rw [numberText, Number.integer_text]
        by_cases negative : value < 0 <;> simp [negative, signText]
      have size : (if decide (value < 0) then -(value.natAbs : Int) else value.natAbs) = value := by
        by_cases negative : value < 0
        · rw [if_pos (decide_eq_true negative)]
          omega
        · rw [if_neg (by simpa using negative)]
          omega
      have read := integer?_digits (decide (value < 0)) value.natAbs
      rw [size] at read
      rw [written]
      rw [text] at read numerals ⊢
      refine ⟨plain_of_numerals _ c rest numerals digit, meaning_integer _ ?_ value fits ?_⟩
      · rw [String.toList_ofList]
        exact startsNumeral_body _ c rest digit
      · rwa [String.toList_ofList]
  | float x =>
      obtain ⟨c, rest, text, digit, marked⟩ := x.toText_marked layout
      have numerals := x.numerals_toText layout (List.forall_mem_nil _)
      have back := Coercion.readFloat?_toText layout (.inl rfl) x
      rw [numberText]
      rw [text] at numerals back ⊢
      have body := ((numerals_append _ _).mp numerals).2
      refine ⟨plain_of_numerals _ c rest body digit, meaning_float _ ?_ x ?_ ?_⟩
      · rw [String.toList_ofList]
        exact startsNumeral_body _ c rest digit
      · rw [String.toList_ofList]
        exact integer?_float _ c rest digit ((numerals_cons c rest).mp body).2 marked
      · rw [String.toList_ofList, float?_float _ c rest digit marked]
        exact back

theorem plain_bool (b : Bool) :
    Plain (Json.boolText b) ∧ meaning (String.ofList (Json.boolText b)) = some (.ok (.bool b)) := by
  cases b <;> exact ⟨plain_of_solid _ (List.cons_ne_nil _ _) rfl rfl, rfl⟩

theorem plain_null : Plain ['n', 'u', 'l', 'l'] ∧ meaning "null" = none :=
  ⟨plain_of_solid _ (List.cons_ne_nil _ _) rfl rfl, rfl⟩

end Yaml

end Crosswalk
