import Crosswalk.Proofs.Coercion
import Crosswalk.Proofs.Json.Numeral
import Crosswalk.Proofs.Number.Reading

/-!
# Scalars as text

An integer with a sign, a truth value or a float that is converted to text is read back from that
text, whatever blanks stand around it (`scalars_survive_text`).  Each kind has a reader of its own
(`readInteger?_text`, `readFlag_text`, `readFloat?_toText`), and none of the texts begins or ends
with a blank.
-/

set_option autoImplicit false

namespace Crosswalk

open Text (Blanks Trimmed isBlank)

/-! ## Texts without blanks -/

theorem isBlank_of_isNumeral (c : Char) (numeral : isNumeral c = true) : isBlank c = false := by
  simp only [isNumeral, Bool.or_eq_true, beq_iff_eq] at numeral
  obtain (((digit | rfl) | rfl) | rfl) | rfl := numeral
  · exact Text.isBlank_of_isDigit c digit
  all_goals rfl

theorem Number.trimmed_text (n : Number) : Trimmed n.text := by
  apply Text.trimmed_of_solid
  intro c member
  exact isBlank_of_isNumeral c (n.numerals_text c member)

theorem Json.trimmed_boolText (flag : Bool) : Trimmed (boolText flag) := by
  have plain : (boolText flag).all (fun c => !isBlank c) = true := by cases flag <;> rfl
  apply Text.trimmed_of_solid
  intro c member
  have solid := List.all_eq_true.mp plain c member
  rwa [Bool.not_eq_true'] at solid

namespace Coercion

/-! ## Reading each kind -/

section Reading

variable (text : String)

theorem readInteger?_text (n : Int) (fits : FitsWord n) (signed : n < signedWordLimit) :
    readInteger? (Number.integer n fits).text = some n := by
  have word : fitsSignedWord n = true := by
    rw [fitsSignedWord, Bool.and_eq_true, decide_eq_true_eq, decide_eq_true_eq]
    exact ⟨fits.1, signed⟩
  have all : (Nat.toDigits 10 n.natAbs).all Char.isDigit = true :=
    List.all_eq_true.mpr (digits_toDigits _)
  have some : (Nat.toDigits 10 n.natAbs).isEmpty = false :=
    List.isEmpty_eq_false_iff.mpr Nat.toDigits_ne_nil
  have split : splitSign (Number.integer n fits).text =
      (decide (n < 0), Nat.toDigits 10 n.natAbs) := by
    rw [Number.integer_text]
    by_cases negative : n < 0
    · rw [if_pos negative, decide_eq_true negative]
      rfl
    · have whole := splitSign_signText false _ [] (digits_toDigits n.natAbs) Nat.toDigits_ne_nil
      rw [List.append_nil] at whole
      rw [if_neg negative, decide_eq_false negative]
      exact whole
  have value : (if n < 0 then -(n.natAbs : Int) else (n.natAbs : Int)) = n := by
    split <;> omega
  simp only [readInteger?, split, all, some, Nat.ofDigitChars_ten_toDigits, decide_eq_true_eq,
    value, word]
  rfl

theorem integer_of_text (n : Int) (fits : FitsWord n) (signed : n < signedWordLimit)
    (spelled : Text.trim text.toList = (Number.integer n fits).text) :
    convert? .integer (.string text) = some (.number (.integer n fits)) := by
  have read : toInteger? (.string text) = some n := by
    rw [toInteger?, spelled]
    exact readInteger?_text n fits signed
  have made : Number.ofInt? n = some (.integer n fits) := dif_pos fits
  rw [convert?, read, Option.bind_some, made]
  rfl

theorem float_of_text (x : Binary64) (spelled : Text.trim text.toList = (Number.float x).text) :
    convert? .float (.string text) = some (.number (.float x)) := by
  have read : toFloat? (.string text) = some x := by
    rw [toFloat?, spelled]
    exact readFloat?_toText Number.layout (.inr rfl) x
  rw [convert?, read]
  rfl

theorem flag_of_text (flag : Bool) (spelled : Text.trim text.toList = Json.boolText flag) :
    convert? .boolean (.string text) = some (.bool flag) := by
  have read : toFlag? (.string text) = some flag := by
    rw [toFlag?, spelled]
    cases flag <;> decide +kernel
  rw [convert?, read]
  rfl

end Reading

/-! ## There and back -/

/-- An integer with a sign, a float or a truth value. -/
inductive IsScalar : Json → Prop where
  | integer (n : Int) (fits : FitsWord n) (signed : n < signedWordLimit) :
      IsScalar (.number (.integer n fits))
  | float (x : Binary64) : IsScalar (.number (.float x))
  | flag (flag : Bool) : IsScalar (.bool flag)

theorem trimmed_scalar (v : Json) (scalar : IsScalar v) : Trimmed v.compactChars := by
  cases scalar with
  | integer n fits => exact Number.trimmed_text (.integer n fits)
  | float x => exact Number.trimmed_text (.float x)
  | flag flag => exact Json.trimmed_boolText flag

theorem toText_scalar (v : Json) (scalar : IsScalar v) : toText v = v.compact := by
  cases scalar <;> rfl

theorem scalar_of_text (v : Json) (kind : Kind) (scalar : IsScalar v) (own : Kind.of v = some kind)
    (text : String) (spelled : Text.trim text.toList = v.compactChars) :
    convert? kind (.string text) = some v := by
  cases scalar with
  | integer n fits signed =>
      cases own
      exact integer_of_text text n fits signed spelled
  | float x =>
      cases own
      exact float_of_text text x spelled
  | flag flag =>
      cases own
      exact flag_of_text text flag spelled

/-- A scalar that is converted to text is given back, of its own kind and as the same number, by the
text between any blanks. -/
theorem scalars_survive_text (field : String) (v : Json) (kind : Kind) (scalar : IsScalar v)
    (own : Kind.of v = some kind) :
    ∃ text : String, convert field .string v = .ok (.string text) ∧
      ∀ again before after : String, Blanks before.toList → Blanks after.toList →
        convert again kind (.string (before ++ text ++ after)) = .ok v := by
  refine ⟨v.compact, ?_, ?_⟩
  · rw [convert_eq_ok_iff, convert?, toText_scalar v scalar]
  · intro again before after left right
    rw [convert_eq_ok_iff]
    apply scalar_of_text v kind scalar own
    rw [String.toList_append, String.toList_append, Json.compact, String.toList_ofList]
    exact Text.trim_between _ _ _ left (trimmed_scalar v scalar) right

/-- The least integer, negative zero and a float that takes seventeen digits, between a tab and an
ideographic space. -/
theorem least_and_longest_survive_text :
    convert "Age" .integer (.string "\t-9223372036854775808\u3000") =
        .ok (.number (.integer (-9223372036854775808) (by decide))) ∧
      convert "Income" .float (.string "\t-0.0\u3000") = .ok (.number (.float (.zero true))) ∧
      convert "Income" .float (.string "\t0.30000000000000004\u3000") =
        .ok (.number (.float ⟨false, 5404319552844596, -54, by decide⟩)) := by
  have back : ∀ (field text : String) (v : Json) (kind : Kind), IsScalar v →
      Kind.of v = some kind → convert field .string v = .ok (.string text) →
        convert field kind (.string ("\t" ++ text ++ "\u3000")) = .ok v := by
    intro field text v kind scalar own printed
    obtain ⟨same, conversion, survives⟩ := scalars_survive_text field v kind scalar own
    rw [printed] at conversion
    cases conversion
    exact survives field "\t" "\u3000" (List.all_eq_true.mp rfl) (List.all_eq_true.mp rfl)
  refine ⟨?_, ?_, ?_⟩
  · exact back "Age" "-9223372036854775808" _ .integer (.integer _ _ (by decide)) rfl rfl
  · exact back "Income" "-0.0" _ .float (.float _) rfl rfl
  · exact back "Income" "0.30000000000000004" _ .float (.float _) rfl rfl

end Coercion

end Crosswalk
