import Mathlib.Data.Nat.Notation
import Crosswalk.Json.Reader
import Crosswalk.Proofs.Text.Blank
import Crosswalk.Proofs.Traversal

/-!
# Number tokens

The texts of numbers are made of a few characters (`Number.numerals_text`).  A number token at the
start of a text ends at the first character that does not continue it, whatever comes after
(`readNumber_append`), and leaves the end of the text (`readNumber_suffix`).
-/

set_option autoImplicit false

namespace Crosswalk

open Text (StopsAt stopsAt_nil stopsAt_cons takeWhile_run dropWhile_run takeWhile_inside
  dropWhile_stops)

/-! ## The characters of numbers -/

/-- The characters of the texts of numbers. -/
def isNumeral (c : Char) : Bool :=
  c.isDigit || c == '-' || c == '+' || c == '.' || c == 'e'

def Numerals (cs : List Char) : Prop :=
  ∀ c ∈ cs, isNumeral c = true

@[simp]
theorem numerals_nil : Numerals [] :=
  List.forall_mem_nil _

@[simp]
theorem numerals_cons (c : Char) (cs : List Char) :
    Numerals (c :: cs) ↔ isNumeral c = true ∧ Numerals cs :=
  List.forall_mem_cons

@[simp]
theorem numerals_append (cs ds : List Char) : Numerals (cs ++ ds) ↔ Numerals cs ∧ Numerals ds :=
  List.forall_mem_append

@[simp]
theorem numerals_toDigits (n : Nat) : Numerals (Nat.toDigits 10 n) := by
  intro c member
  have digit := Nat.isDigit_of_mem_toDigits (by decide) (by decide) member
  simp [isNumeral, digit]

@[simp]
theorem numerals_zeros (n : Nat) : Numerals (List.replicate n '0') := by
  intro c member
  rw [List.eq_of_mem_replicate member]
  rfl

theorem numerals_sublist (cs ds : List Char) (within : cs.Sublist ds) (numerals : Numerals ds) :
    Numerals cs :=
  fun c member => numerals c (within.subset member)

@[simp]
theorem isNumeral_marks : isNumeral '-' = true ∧ isNumeral '.' = true ∧ isNumeral 'e' = true ∧
    isNumeral '0' = true := by
  decide

theorem Binary64.numerals_toText (layout : Layout) (plus : Numerals layout.plusSign)
    (x : Binary64) : Numerals (x.toText layout) := by
  have sign : Numerals (if x.negative then ['-'] else []) := by split <;> simp
  have digits := numerals_toDigits x.shortest.digits
  simp only [toText]
  generalize Nat.toDigits 10 x.shortest.digits = text at digits ⊢
  generalize text.length + x.shortest.power - 1 = leading
  split
  · simp [sign]
  · split
    · split
      · simp [sign, digits]
      · split
        · have front := numerals_sublist _ _ (List.take_sublist (leading.toNat + 1) text) digits
          have back := numerals_sublist _ _ (List.drop_sublist (leading.toNat + 1) text) digits
          simp [sign, front, back]
        · simp [sign, digits]
    · have mark : Numerals
          (if 0 ≤ leading then ['e'] ++ layout.plusSign ++ Nat.toDigits 10 leading.toNat
          else ['e', '-'] ++ Nat.toDigits 10 (-leading).toNat) := by
        split <;> simp [plus]
      generalize (if 0 ≤ leading then ['e'] ++ layout.plusSign ++ Nat.toDigits 10 leading.toNat
        else ['e', '-'] ++ Nat.toDigits 10 (-leading).toNat) = exponent at mark ⊢
      cases text with
      | nil => simp [sign, mark]
      | cons first rest => cases rest <;> simpa [sign, mark] using digits

theorem Number.integer_text (value : Int) (fits : FitsWord value) :
    (Number.integer value fits).text =
      if value < 0 then '-' :: Nat.toDigits 10 value.natAbs else Nat.toDigits 10 value.natAbs := by
  cases value <;> simp [Number.text, toString, Int.repr]

theorem Number.numerals_text (n : Number) : Numerals n.text := by
  cases n with
  | integer value fits =>
      have digits := numerals_toDigits value.natAbs
      rw [Number.integer_text]
      split
      · exact (numerals_cons _ _).mpr ⟨rfl, digits⟩
      · exact digits
  | float x =>
      exact Binary64.numerals_toText layout (List.forall_mem_cons.mpr ⟨rfl, List.forall_mem_nil _⟩) x

namespace Json

/-! ## Where a number ends -/

/-- The characters that may follow a digit in a number. -/
def continuesNumber (c : Char) : Bool :=
  c.isDigit || c == '.' || c == 'e' || c == 'E'

theorem stopsAt_digit (rest : List Char) (ends : StopsAt continuesNumber rest) :
    StopsAt Char.isDigit rest := by
  cases rest with
  | nil => exact stopsAt_nil _
  | cons c rest =>
      have outside := (stopsAt_cons _ c rest).mp ends
      simp only [continuesNumber, Bool.or_eq_false_iff] at outside
      exact (stopsAt_cons _ c rest).mpr outside.1.1.1

/-- A run at the start of a text stays the same if the text that is added does not continue it. -/
theorem span_append (p : Char → Bool) (cs rest : List Char) (ends : StopsAt p rest) :
    (cs ++ rest).takeWhile p = cs.takeWhile p ∧
      (cs ++ rest).dropWhile p = cs.dropWhile p ++ rest := by
  have split : cs ++ rest = cs.takeWhile p ++ (cs.dropWhile p ++ rest) := by
    rw [← List.append_assoc, List.takeWhile_append_dropWhile]
  have stops : StopsAt p (cs.dropWhile p ++ rest) := by
    have own := dropWhile_stops p cs
    cases left : cs.dropWhile p with
    | nil => exact ends
    | cons c more =>
        rw [left] at own
        exact (stopsAt_cons p c _).mpr ((stopsAt_cons p c more).mp own)
  rw [split]
  exact ⟨takeWhile_run p _ _ (takeWhile_inside p cs) stops,
    dropWhile_run p _ _ (takeWhile_inside p cs) stops⟩

/-- The digits of an exponent whose sign has been read. -/
def readDigits (minus : Bool) (cs : List Char) :
    Except Stop (Option (Bool × List Char) × List Char) :=
  match cs.takeWhile Char.isDigit with
  | [] => .error (missingDigit cs)
  | digits => .ok (some (minus, digits), cs.dropWhile Char.isDigit)

/-- What follows the mark of an exponent. -/
def readPower (cs : List Char) : Except Stop (Option (Bool × List Char) × List Char) :=
  readDigits (readSign cs).1 (readSign cs).2

theorem readPower_some (cs after : List Char) (exponent : Option (Bool × List Char))
    (read : readPower cs = .ok (exponent, after)) : ∃ power, exponent = some power := by
  rw [readPower, readDigits] at read
  split at read
  · cases read
  · cases read
    exact ⟨_, rfl⟩

/-- A number whose sign has been read. -/
def readUnsigned (negative : Bool) (cs : List Char) : Except Stop (NumberToken × List Char) := do
  let (whole, cs) ← readWhole cs
  let (fraction, cs) ← readFraction cs
  let (exponent, cs) ← readExponent cs
  pure (⟨negative, whole, fraction, exponent⟩, cs)

theorem readUnsigned_eq_ok (negative : Bool) (cs after : List Char) (token : NumberToken)
    (read : readUnsigned negative cs = .ok (token, after)) :
    ∃ whole cs₁ fraction cs₂ exponent, readWhole cs = .ok (whole, cs₁) ∧
      readFraction cs₁ = .ok (fraction, cs₂) ∧ readExponent cs₂ = .ok (exponent, after) ∧
        token = ⟨negative, whole, fraction, exponent⟩ := by
  obtain ⟨⟨whole, cs₁⟩, first, read⟩ := bind_eq_ok _ _ _ read
  obtain ⟨⟨fraction, cs₂⟩, second, read⟩ := bind_eq_ok _ _ _ read
  obtain ⟨⟨exponent, _⟩, third, read⟩ := bind_eq_ok _ _ _ read
  cases read
  exact ⟨whole, cs₁, fraction, cs₂, exponent, first, second, third, rfl⟩

theorem readNumber_unsigned (c : Char) (cs : List Char) (unsigned : c ≠ '-') :
    readNumber (c :: cs) = readUnsigned false (c :: cs) := by
  simp only [readNumber, readUnsigned]
  split
  · rename_i same
    cases same
    exact absurd rfl unsigned
  · rfl

section Append
variable (rest : List Char) (ends : StopsAt continuesNumber rest)
include ends

theorem readWhole_append (cs digits after : List Char)
    (read : readWhole cs = .ok (digits, after)) :
    readWhole (cs ++ rest) = .ok (digits, after ++ rest) := by
  obtain ⟨same, left⟩ := span_append Char.isDigit cs rest (stopsAt_digit rest ends)
  simp only [readWhole, same, left] at read ⊢
  split at read <;> simp_all

theorem readFraction_absent : readFraction rest = .ok (none, rest) := by
  cases rest with
  | nil => rfl
  | cons c rest =>
      have outside := (stopsAt_cons _ c rest).mp ends
      have point : c ≠ '.' := by
        rintro rfl
        cases outside
      simp [readFraction, point]

theorem readExponent_absent : readExponent rest = .ok (none, rest) := by
  cases rest with
  | nil => rfl
  | cons c rest =>
      have outside := (stopsAt_cons _ c rest).mp ends
      have small : c ≠ 'e' := by
        rintro rfl
        cases outside
      have great : c ≠ 'E' := by
        rintro rfl
        cases outside
      simp [readExponent, small, great]

theorem readFraction_append (cs after : List Char) (fraction : Option (List Char))
    (read : readFraction cs = .ok (fraction, after)) :
    readFraction (cs ++ rest) = .ok (fraction, after ++ rest) := by
  cases cs with
  | nil =>
      cases read
      exact readFraction_absent rest ends
  | cons c cs =>
      by_cases point : c = '.'
      · subst point
        obtain ⟨same, left⟩ := span_append Char.isDigit cs rest (stopsAt_digit rest ends)
        simp only [readFraction, List.cons_append, same, left] at read ⊢
        split at read <;> simp_all
      · simp [readFraction, point] at read ⊢
        simp [← read.1, ← read.2]

/-- The sign and the digits of an exponent are read the same if more text comes after them. -/
theorem readPower_append (cs after : List Char) (power : Bool × List Char)
    (read : readPower cs = .ok (some power, after)) :
    readPower (cs ++ rest) = .ok (some power, after ++ rest) := by
  have signed : ∀ (minus : Bool) (cs : List Char), readDigits minus cs = .ok (some power, after) →
      readDigits minus (cs ++ rest) = .ok (some power, after ++ rest) := by
    intro minus cs read
    obtain ⟨same, left⟩ := span_append Char.isDigit cs rest (stopsAt_digit rest ends)
    simp only [readDigits, same, left] at read ⊢
    split at read <;> simp_all
  cases cs with
  | nil => simp [readPower, readSign, readDigits] at read
  | cons c cs =>
      by_cases plus : c = '+'
      · subst plus
        exact signed false cs read
      · by_cases minus : c = '-'
        · subst minus
          exact signed true cs read
        · have bare : ∀ more, readSign (c :: more) = (false, c :: more) := by
            intro more
            simp [readSign, plus, minus]
          rw [readPower, bare] at read
          rw [List.cons_append, readPower, bare]
          exact signed false (c :: cs) read

theorem readExponent_append (cs after : List Char) (exponent : Option (Bool × List Char))
    (read : readExponent cs = .ok (exponent, after)) :
    readExponent (cs ++ rest) = .ok (exponent, after ++ rest) := by
  cases cs with
  | nil =>
      cases read
      exact readExponent_absent rest ends
  | cons c cs =>
      by_cases mark : c = 'e' ∨ c = 'E'
      · have opened : ∀ more, readExponent (c :: more) = readPower more := by
          intro more
          rcases mark with rfl | rfl <;> rfl
        rw [opened] at read
        rw [List.cons_append, opened]
        obtain ⟨power, rfl⟩ := readPower_some cs after exponent read
        exact readPower_append rest ends cs after power read
      · obtain ⟨small, great⟩ := not_or.mp mark
        simp [readExponent, small, great] at read ⊢
        simp [← read.1, ← read.2]

theorem readUnsigned_append (negative : Bool) (cs after : List Char) (token : NumberToken)
    (read : readUnsigned negative cs = .ok (token, after)) :
    readUnsigned negative (cs ++ rest) = .ok (token, after ++ rest) := by
  obtain ⟨whole, cs₁, fraction, cs₂, exponent, first, second, third, rfl⟩ :=
    readUnsigned_eq_ok negative cs after token read
  rw [readUnsigned, readWhole_append rest ends cs whole cs₁ first]
  simp only [bind, Except.bind, readFraction_append rest ends cs₁ cs₂ fraction second,
    readExponent_append rest ends cs₂ after exponent third]
  rfl

/-- What does not continue a number ends it. -/
theorem readNumber_append (cs after : List Char) (token : NumberToken)
    (read : readNumber cs = .ok (token, after)) :
    readNumber (cs ++ rest) = .ok (token, after ++ rest) := by
  cases cs with
  | nil => cases read
  | cons c cs =>
      by_cases minus : c = '-'
      · subst minus
        exact readUnsigned_append rest ends true cs after token read
      · rw [readNumber_unsigned c cs minus] at read
        rw [List.cons_append, readNumber_unsigned c _ minus]
        exact readUnsigned_append rest ends false (c :: cs) after token read

end Append

/-! ## What is left after a number -/

theorem readWhole_suffix (cs digits after : List Char) (read : readWhole cs = .ok (digits, after)) :
    after <:+ cs := by
  simp only [readWhole] at read
  split at read
  · cases read
  · cases read
  · cases read
    exact List.dropWhile_suffix _

theorem readFraction_suffix (cs after : List Char) (fraction : Option (List Char))
    (read : readFraction cs = .ok (fraction, after)) : after <:+ cs := by
  rw [readFraction.eq_def] at read
  split at read
  · rename_i rest
    split at read
    · cases read
    · cases read
      exact (List.dropWhile_suffix _).trans (List.suffix_cons '.' rest)
  · cases read
    exact List.suffix_refl _

theorem readSign_suffix (cs : List Char) : (readSign cs).2 <:+ cs := by
  rw [readSign.eq_def]
  split
  · exact List.suffix_cons '+' _
  · exact List.suffix_cons '-' _
  · exact List.suffix_refl _

theorem readPower_suffix (cs after : List Char) (exponent : Option (Bool × List Char))
    (read : readPower cs = .ok (exponent, after)) : after <:+ cs := by
  rw [readPower, readDigits] at read
  split at read
  · cases read
  · cases read
    exact (List.dropWhile_suffix _).trans (readSign_suffix cs)

theorem readExponent_suffix (cs after : List Char) (exponent : Option (Bool × List Char))
    (read : readExponent cs = .ok (exponent, after)) : after <:+ cs := by
  rw [readExponent.eq_def] at read
  split at read
  · rename_i rest
    exact (readPower_suffix rest after exponent read).trans (List.suffix_cons 'e' rest)
  · rename_i rest
    exact (readPower_suffix rest after exponent read).trans (List.suffix_cons 'E' rest)
  · cases read
    exact List.suffix_refl _

theorem readUnsigned_suffix (negative : Bool) (cs after : List Char) (token : NumberToken)
    (read : readUnsigned negative cs = .ok (token, after)) : after <:+ cs := by
  obtain ⟨_, _, _, _, _, first, second, third, _⟩ := readUnsigned_eq_ok negative cs after token read
  exact (readExponent_suffix _ _ _ third).trans
    ((readFraction_suffix _ _ _ second).trans (readWhole_suffix _ _ _ first))

theorem readNumber_suffix (cs after : List Char) (token : NumberToken)
    (read : readNumber cs = .ok (token, after)) : after <:+ cs := by
  cases cs with
  | nil => cases read
  | cons c cs =>
      by_cases minus : c = '-'
      · subst minus
        exact (readUnsigned_suffix true cs after token read).trans (List.suffix_cons '-' cs)
      · rw [readNumber_unsigned c cs minus] at read
        exact readUnsigned_suffix false (c :: cs) after token read

end Json

end Crosswalk
