import Mathlib.Tactic.Tauto
import Crosswalk.Json.Parse
import Crosswalk.Proofs.Json.Numeral

/-!
# Numbers that are read back

A number is read back if its text, read as JSON, gives the number again (`Number.ReadsBack`).  Every
integer is (`readsBack_integer`).  Floats are read in two roundings, so for them it is a property of
the value.  The text of a number that is read back is one number token (`ReadsBack.token`), whatever
comes after it that does not continue a number (`scanValue_number`).
-/

set_option autoImplicit false

namespace Crosswalk

open Json
open Text (StopsAt stopsAt_nil takeWhile_run dropWhile_run)

/-! ## Integers -/

theorem toDigits_head (n : Nat) (positive : 0 < n) : (Nat.toDigits 10 n).head? ≠ some '0' := by
  induction n using Nat.strongRecOn with
  | ind n ih =>
      by_cases single : n < 10
      · rw [Nat.toDigits_of_lt_base single]
        simp [Nat.ne_of_gt positive]
      · have shorter := ih (n / 10) (by omega) (by omega)
        rw [Nat.toDigits_of_base_le (by decide) (by omega),
          List.head?_append_of_ne_nil _ Nat.toDigits_ne_nil]
        exact shorter

theorem toDigits_cons (n : Nat) : ∃ c rest, Nat.toDigits 10 n = c :: rest ∧ c.isDigit = true := by
  have given : Nat.toDigits 10 n ≠ [] := Nat.toDigits_ne_nil
  obtain ⟨c, rest, text⟩ := List.exists_cons_of_ne_nil given
  have member : c ∈ Nat.toDigits 10 n := text ▸ List.mem_cons_self ..
  exact ⟨c, rest, text, Nat.isDigit_of_mem_toDigits (by decide) (by decide) member⟩

namespace NumberToken

/-- Digits are gathered as long as their value fits 64 bits. -/
theorem gather_eq (significand : Nat) (digits : List Char)
    (fits : Nat.ofDigitChars 10 digits significand < wordLimit) :
    gather significand digits = (Nat.ofDigitChars 10 digits significand, []) := by
  induction digits generalizing significand with
  | nil => simp [gather]
  | cons c rest ih =>
      have next : 10 * significand + (c.toNat - '0'.toNat) =
          significand * 10 + (c.toNat - '0'.toNat) := by omega
      rw [Nat.ofDigitChars_cons, next] at fits ⊢
      have grows : significand * 10 + (c.toNat - '0'.toNat) ≤
          Nat.ofDigitChars 10 rest (significand * 10 + (c.toNat - '0'.toNat)) := by
        rw [Nat.ofDigitChars_eq_ofDigitChars_zero]
        have one : 1 ≤ 10 ^ rest.length := Nat.pos_of_ne_zero (by simp)
        exact Nat.le_trans (Nat.le_mul_of_pos_left _ one) (Nat.le_add_right _ _)
      simp only [gather, if_pos (Nat.lt_of_le_of_lt grows fits)]
      exact ih _ fits

theorem gather_toDigits (n : Nat) (fits : n < wordLimit) :
    gather 0 (Nat.toDigits 10 n) = (n, []) := by
  have value : Nat.ofDigitChars 10 (Nat.toDigits 10 n) 0 = n := Nat.ofDigitChars_ten_toDigits
  rw [gather_eq 0 _ (by rw [value]; exact fits), value]

theorem value?_integer (value : Int) (fits : FitsWord value) :
    (NumberToken.mk (decide (value < 0)) (Nat.toDigits 10 value.natAbs) none none).value? =
      some (.integer value fits) := by
  have small : value.natAbs < wordLimit := by
    have bounds := fits
    simp only [FitsWord, signedWordLimit, wordLimit] at bounds ⊢
    omega
  simp only [value?, gather_toDigits value.natAbs small, if_true]
  by_cases negative : value < 0
  · have reachable : ¬ (value.natAbs = 0 ∨ signedWordLimit < value.natAbs) := by
      have bounds := fits
      simp only [FitsWord, signedWordLimit, wordLimit] at bounds ⊢
      omega
    have same : -(value.natAbs : Int) = value := by omega
    simp only [negative, decide_true, if_true, if_neg reachable, same, Number.ofInt?, dif_pos fits]
  · have same : (value.natAbs : Int) = value := by omega
    simp [negative, same, Number.ofInt?, fits]

end NumberToken

namespace Json

theorem readWhole_toDigits (n : Nat) :
    readWhole (Nat.toDigits 10 n) = .ok (Nat.toDigits 10 n, []) := by
  have inside : ∀ c ∈ Nat.toDigits 10 n, c.isDigit = true := fun c member =>
    Nat.isDigit_of_mem_toDigits (by decide) (by decide) member
  have run := takeWhile_run Char.isDigit _ [] inside (stopsAt_nil _)
  have rest := dropWhile_run Char.isDigit _ [] inside (stopsAt_nil _)
  rw [List.append_nil] at run rest
  simp only [readWhole, run, rest]
  split
  · rename_i empty
    exact absurd empty Nat.toDigits_ne_nil
  · rename_i long
    by_cases positive : 0 < n
    · exact absurd (by rw [long]; rfl) (toDigits_head n positive)
    · have zero : n = 0 := by omega
      subst zero
      cases long
  · rfl

/-- The text of an integer is one token, of the digits of its magnitude. -/
theorem readNumber_integer (value : Int) (fits : FitsWord value) :
    readNumber (Number.integer value fits).text =
      .ok (⟨decide (value < 0), Nat.toDigits 10 value.natAbs, none, none⟩, []) := by
  have digits := readWhole_toDigits value.natAbs
  have unsigned : ∀ negative, readUnsigned negative (Nat.toDigits 10 value.natAbs) =
      .ok (⟨negative, Nat.toDigits 10 value.natAbs, none, none⟩, []) := by
    intro negative
    rw [readUnsigned, digits]
    rfl
  rw [Number.integer_text]
  by_cases negative : value < 0
  · rw [if_pos negative, decide_eq_true negative]
    exact unsigned true
  · rw [if_neg negative, decide_eq_false negative, ← unsigned false]
    obtain ⟨c, rest, text, digit⟩ := toDigits_cons value.natAbs
    rw [text]
    exact readNumber_unsigned c rest (by rintro rfl; cases digit)

/-! ## Reading a number back -/

/-- The characters that numbers begin with. -/
def startsNumber (c : Char) : Bool :=
  c == '-' || c.isDigit

theorem startsNumber_cases (c : Char) (start : startsNumber c = true) :
    isSpace c = false ∧ c ≠ '"' ∧ c ≠ '[' ∧ c ≠ '\x7b' ∧ c ≠ 'n' ∧ c ≠ 't' ∧ c ≠ 'f' := by
  refine ⟨?_, ?_, ?_, ?_, ?_, ?_, ?_⟩
  · simp only [isSpace, Bool.or_eq_false_iff, decide_eq_false_iff_not]
    refine ⟨⟨⟨?_, ?_⟩, ?_⟩, ?_⟩ <;> (rintro rfl; cases start)
  all_goals (rintro rfl; cases start)

theorem scanValue_of_startsNumber (fuel : Nat) (c : Char) (rest : List Char)
    (start : startsNumber c = true) :
    scanValue (fuel + 1) (c :: rest) = scanNumber (c :: rest) := by
  obtain ⟨solid, quote, list, object, null, yes, no⟩ := startsNumber_cases c start
  have here : skipSpace (c :: rest) = c :: rest := by simp [skipSpace, solid]
  have number : (c = '-' || c.isDigit) = true := by simpa [startsNumber] using start
  simp only [scanValue, here, if_neg quote, if_neg list, if_neg object, if_neg null, if_neg yes,
    if_neg no, if_pos number]

theorem scanNumber_of_token (cs rest : List Char) (token : NumberToken) (n : Number)
    (read : readNumber cs = .ok (token, rest)) (value : token.value? = some n) :
    scanNumber cs = (.number (.ok n), some rest) := by
  simp only [scanNumber, read, value]

end Json

/-- The text of the number, read as JSON, gives the number. -/
def Number.ReadsBack (n : Number) : Prop :=
  Json.parse (String.ofList n.text) = .ok (.number n)

theorem Number.readsBack_of_token (n : Number) (c : Char) (rest : List Char) (token : NumberToken)
    (text : n.text = c :: rest) (start : startsNumber c = true)
    (read : readNumber n.text = .ok (token, [])) (value : token.value? = some n) :
    n.ReadsBack := by
  have scanned : outline n.text = (.number (.ok n), false) := by
    rw [outline, text, scanValue_of_startsNumber _ c rest start, ← text,
      scanNumber_of_token _ _ token n read value]
    rfl
  rw [ReadsBack, parse, decodeText, String.toList_ofList, scanned]
  rfl

theorem Number.readsBack_integer (value : Int) (fits : FitsWord value) :
    (Number.integer value fits).ReadsBack := by
  have read := readNumber_integer value fits
  have start : ∃ c rest, (Number.integer value fits).text = c :: rest ∧ startsNumber c = true := by
    rw [Number.integer_text]
    split
    · exact ⟨'-', _, rfl, rfl⟩
    · obtain ⟨c, rest, text, digit⟩ := toDigits_cons value.natAbs
      exact ⟨c, rest, text, by simp [startsNumber, digit]⟩
  obtain ⟨c, rest, text, begins⟩ := start
  exact readsBack_of_token _ c rest _ text begins read (NumberToken.value?_integer value fits)

namespace Json

theorem decodeText_eq_ok_iff {α : Type} (decode : Decoder α) (cs : List Char) (a : α) :
    decodeText decode (String.ofList cs) = .ok a ↔
      ∃ o, outline cs = (o, false) ∧ decode ⟨nestingLimit, .withNull, .exact⟩ o = .ok a := by
  rw [decodeText, String.toList_ofList]
  obtain ⟨o, more⟩ := outline cs
  cases decoded : decode ⟨nestingLimit, .withNull, .exact⟩ o with
  | error e => simp [decoded]
  | ok b => cases more <;> simp [decoded]

theorem outline_eq_iff (cs : List Char) (o : Outline) :
    outline cs = (o, false) ↔ scanValue (2 * cs.length + 2) cs = (o, none) ∨
      ∃ rest, scanValue (2 * cs.length + 2) cs = (o, some rest) ∧ skipSpace rest = [] := by
  rw [outline]
  obtain ⟨read, left⟩ := scanValue (2 * cs.length + 2) cs
  cases left with
  | none => simp
  | some rest => simp

theorem skipSpace_numerals (cs : List Char) (numerals : Numerals cs) (gone : skipSpace cs = []) :
    cs = [] := by
  cases cs with
  | nil => rfl
  | cons c rest =>
      have solid : isSpace c = false := by
        have numeral := ((numerals_cons c rest).mp numerals).1
        simp only [isSpace, Bool.or_eq_false_iff, decide_eq_false_iff_not]
        refine ⟨⟨⟨?_, ?_⟩, ?_⟩, ?_⟩ <;> (rintro rfl; cases numeral)
      simp [skipSpace, solid] at gone

/-- Numerals that are read as a number begin with one number token. -/
theorem token_of_scanned (fuel : Nat) (cs : List Char) (numerals : Numerals cs) (n : Number)
    (rules : DecodingRules) (o : Outline) (left : Option (List Char))
    (scanned : scanValue (fuel + 1) cs = (o, left))
    (decoded : Decoder.any rules o = .ok (.number n)) :
    ∃ c more token rest, cs = c :: more ∧ startsNumber c = true ∧
      readNumber cs = .ok (token, rest) ∧ left = some rest ∧ token.value? = some n := by
  cases cs with
  | nil =>
      cases scanned
      cases decoded
  | cons c more =>
      by_cases start : startsNumber c = true
      · rw [scanValue_of_startsNumber fuel c more start, scanNumber] at scanned
        cases read : readNumber (c :: more) with
        | error stop =>
            rw [read] at scanned
            cases scanned
            cases decoded
        | ok result =>
            obtain ⟨token, rest⟩ := result
            cases value : token.value? with
            | none =>
                simp only [read, value] at scanned
                cases scanned
                cases decoded
            | some m =>
                simp only [read, value] at scanned
                cases scanned
                cases decoded
                exact ⟨c, more, token, rest, rfl, start, rfl, rfl, value⟩
      · -- numerals that begin no number begin no value
        have numeral := ((numerals_cons c more).mp numerals).1
        simp only [isNumeral, startsNumber, Bool.or_eq_true, beq_iff_eq] at numeral start
        have mark : c = '+' ∨ c = '.' ∨ c = 'e' := by tauto
        rcases mark with rfl | rfl | rfl <;> (cases scanned; cases decoded)

end Json

/-- A text that is read as a number is one number token. -/
theorem Number.ReadsBack.token (n : Number) (back : n.ReadsBack) :
    ∃ c rest token, n.text = c :: rest ∧ startsNumber c = true ∧
      readNumber n.text = .ok (token, []) ∧ token.value? = some n := by
  have numerals := n.numerals_text
  obtain ⟨o, read, decoded⟩ := (decodeText_eq_ok_iff _ _ _).mp back
  rcases (outline_eq_iff _ _).mp read with stopped | ⟨rest, scanned, blank⟩
  · obtain ⟨_, _, _, _, _, _, _, some, _⟩ := token_of_scanned _ _ numerals n _ o _ stopped decoded
    cases some
  · obtain ⟨c, more, token, after, text, start, number, left, value⟩ :=
      token_of_scanned _ _ numerals n _ o _ scanned decoded
    cases left
    have within := (readNumber_suffix _ _ _ number).sublist
    have nothing := skipSpace_numerals rest (numerals_sublist _ _ within numerals) blank
    subst nothing
    exact ⟨c, more, token, text, start, number, value⟩

namespace Json

/-- A number that is read back is read with whatever ends it after it. -/
theorem scanValue_number (n : Number) (back : n.ReadsBack) (fuel : Nat) (rest : List Char)
    (ends : StopsAt continuesNumber rest) :
    scanValue (fuel + 1) (n.text ++ rest) = (.number (.ok n), some rest) := by
  obtain ⟨c, more, token, text, start, read, value⟩ := back.token
  have whole := readNumber_append rest ends n.text [] token read
  rw [text, List.cons_append, scanValue_of_startsNumber fuel c _ start, ← List.cons_append, ← text]
  exact scanNumber_of_token _ rest token n whole value

end Json

end Crosswalk
