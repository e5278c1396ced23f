import Crosswalk.Json.Reader
import Crosswalk.Json.Writer

/-!
# Escaped text

What a character is written as inside a string is read as that character (`readString_escape`), so
a written string is read back, whatever its characters and whatever follows it
(`readString_stringText`).
-/

set_option autoImplicit false

namespace Crosswalk.Json

/-- A string of which the given characters have been read, without a fault. -/
def StringState.clean (read : List Char) : StringState :=
  ⟨read.reverse, none, none⟩

theorem StringState.clean_push (read : List Char) (c : Char) :
    (clean read).push c = clean (read ++ [c]) := by
  simp [clean, push]

theorem readString_short (read : List Char) (c meant : Char) (rest : List Char)
    (plain : c ≠ 'u') (short : shortEscape? c = some meant) :
    readString (.clean read) ('\\' :: c :: rest) = readString (.clean (read ++ [meant])) rest := by
  have step : readString (.clean read) ('\\' :: c :: rest) =
      readString ((StringState.clean read).settle.push meant) rest := by
    rw [readString.eq_5 _ _ _ fun _ _ _ _ _ unit _ => plain unit, if_neg plain, short]
  rw [step]
  exact congrArg (readString · rest) (StringState.clean_push read meant)

theorem readString_plain (read : List Char) (c : Char) (rest : List Char) (quote : c ≠ '"')
    (backslash : c ≠ '\\') (printable : 0x20 ≤ c.toNat) :
    readString (.clean read) (c :: rest) = readString (.clean (read ++ [c])) rest := by
  have step : readString (.clean read) (c :: rest) =
      readString ((StringState.clean read).settle.push c) rest := by
    have above : ¬ c.toNat < 0x20 := Nat.not_lt.mpr printable
    simp [readString, backslash, above]
  rw [step]
  exact congrArg (readString · rest) (StringState.clean_push read c)

theorem codeUnit?_hexDigits : ∀ n < 0x20,
    codeUnit? '0' '0' (hexDigit (n / 16)) (hexDigit (n % 16)) = some n := by
  decide

theorem readString_unit (read : List Char) (c : Char) (rest : List Char) (control : c.toNat < 0x20) :
    readString (.clean read)
        ('\\' :: 'u' :: '0' :: '0' :: hexDigit (c.toNat / 16) :: hexDigit (c.toNat % 16) :: rest) =
      readString (.clean (read ++ [c])) rest := by
  have low : (0xDC00 ≤ c.toNat && c.toNat ≤ 0xDFFF) = false := by
    simp only [Bool.and_eq_false_iff, decide_eq_false_iff_not]
    omega
  have high : (0xD800 ≤ c.toNat && c.toNat ≤ 0xDBFF) = false := by
    simp only [Bool.and_eq_false_iff, decide_eq_false_iff_not]
    omega
  rw [readString, codeUnit?_hexDigits c.toNat control]
  simp only [StringState.unit, StringState.clean, low, high]
  simp [StringState.push, Char.ofNat_toNat]

/-- What a character is written as inside a string is read as the character. -/
theorem readString_escape (read : List Char) (c : Char) (rest : List Char) :
    readString (.clean read) (escape c ++ rest) = readString (.clean (read ++ [c])) rest := by
  rw [escape]
  split
  · subst c
    exact readString_short read '"' '"' rest (by decide) rfl
  split
  · subst c
    exact readString_short read '\\' '\\' rest (by decide) rfl
  split
  · subst c
    exact readString_short read 'b' '\x08' rest (by decide) rfl
  split
  · subst c
    exact readString_short read 'f' '\x0c' rest (by decide) rfl
  split
  · subst c
    exact readString_short read 'n' '\n' rest (by decide) rfl
  split
  · subst c
    exact readString_short read 'r' '\r' rest (by decide) rfl
  split
  · subst c
    exact readString_short read 't' '\t' rest (by decide) rfl
  split
  · rename_i control
    exact readString_unit read c rest control
  · rename_i quote backslash _ _ _ _ _ printable
    exact readString_plain read c rest quote backslash (Nat.not_lt.mp printable)

theorem readString_escapes (read cs rest : List Char) :
    readString (.clean read) (cs.flatMap escape ++ '"' :: rest) =
      .ok (.ok (String.ofList (read ++ cs)), rest) := by
  induction cs generalizing read with
  | nil => simp [readString, StringState.clean, StringState.settle, StringState.value]
  | cons c cs ih =>
      rw [List.flatMap_cons, List.append_assoc, readString_escape, ih, List.append_assoc]
      rfl

/-- A written string is read back. -/
theorem readString_stringText (s : String) (rest : List Char) :
    readString .empty (s.toList.flatMap escape ++ '"' :: rest) = .ok (.ok s, rest) := by
  have read := readString_escapes [] s.toList rest
  rwa [List.nil_append, String.ofList_toList] at read

end Crosswalk.Json
