import Crosswalk.Coercion
import Crosswalk.Proofs.Number.Shortest
import Crosswalk.Proofs.Text.Blank

/-!
# Reading floats from text

A decimal in the neighbourhood of a float is read as that float (`ofDecimal?_of_near`).  Each layout
of the text of a float spells a decimal of the value of its fewest digits, which lies in the
neighbourhood.  So the text of a float is read as that float, with its sign
(`readFloat?_toText`).
-/

set_option autoImplicit false

namespace Crosswalk

open Text (StopsAt stopsAt_nil stopsAt_cons takeWhile_run dropWhile_run)

namespace Binary64

/-! ## Decimals within reach -/

theorem two_pow_le (k : Nat) (reach : k ≤ 1200) : (2 : ℚ) ^ k ≤ 10 ^ 400 := by
  calc
    (2 : ℚ) ^ k ≤ 2 ^ (3 * 400) := pow_le_pow_right₀ (by norm_num) reach
    _ = (2 ^ 3) ^ 400 := pow_mul 2 3 400
    _ ≤ 10 ^ 400 := pow_le_pow_left₀ (by norm_num) (by norm_num) 400

/-- What lies in the neighbourhood of a float that is not zero is within the reach of decimals. -/
theorem reach_of_near (x : Binary64) (v : ℚ) (nonzero : x.significand ≠ 0) (near : x.Near v) :
    (10 : ℚ) ^ (-400 : Int) ≤ v ∧ v < (10 : ℚ) ^ (400 : Int) := by
  obtain ⟨⟨low, high⟩, _⟩ := units_of_near x v nonzero near
  obtain ⟨short, least, greatest, _⟩ := x.canonical
  have unit := two_zpow_pos x.exponent
  have one : (1 : ℚ) ≤ x.significand := by exact_mod_cast Nat.pos_of_ne_zero nonzero
  have limit : (x.significand : ℚ) + 1 ≤ 2 ^ 53 := by exact_mod_cast short
  rw [le_div_iff₀ unit] at low
  rw [div_le_iff₀ unit] at high
  constructor
  · calc
      (10 : ℚ) ^ (-400 : Int) = (10 ^ 400)⁻¹ := by rw [zpow_neg, zpow_ofNat]
      _ ≤ (2 ^ 1075)⁻¹ := inv_anti₀ (by positivity) (two_pow_le 1075 (by decide))
      _ = (2 : ℚ) ^ (-1075 : Int) := by rw [zpow_neg, zpow_ofNat]
      _ ≤ (2 : ℚ) ^ (x.exponent - 1) := zpow_le_zpow_right₀ (by norm_num) (by omega)
      _ ≤ (x.significand - 1 / 2) * (2 : ℚ) ^ x.exponent := by
        rw [zpow_sub_one₀ (by norm_num), mul_comm]
        exact mul_le_mul_of_nonneg_right (by linarith) unit.le
      _ ≤ v := low
  · calc
      v ≤ (x.significand + 1 / 2) * (2 : ℚ) ^ x.exponent := high
      _ < 2 ^ 53 * (2 : ℚ) ^ x.exponent := mul_lt_mul_of_pos_right (by linarith) unit
      _ = (2 : ℚ) ^ ((53 : Nat) + x.exponent) := (two_zpow_shift 53 x.exponent).symm
      _ ≤ (2 : ℚ) ^ (1024 : Int) := zpow_le_zpow_right₀ (by norm_num) (by push_cast; omega)
      _ ≤ (10 : ℚ) ^ (400 : Int) := two_pow_le 1024 (by decide)

theorem decimal_bounds (digits : Nat) (power : Int) (nonzero : digits ≠ 0) :
    (10 : ℚ) ^ ((Nat.toDigits 10 digits).length + power - 1) ≤ digits * (10 : ℚ) ^ power ∧
      digits * (10 : ℚ) ^ power < (10 : ℚ) ^ ((Nat.toDigits 10 digits).length + power) := by
  have places : Decimal.length digits = (Nat.toDigits 10 digits).length := if_neg nonzero
  have positive := Decimal.length_pos digits (Nat.pos_of_ne_zero nonzero)
  have below := Decimal.lt_tenTo_length digits
  have above := Decimal.tenTo_length_le digits (Decimal.length digits - 1) nonzero (by omega)
  rw [← places]
  generalize Decimal.length digits = n at positive below above
  have scale := ten_zpow_pos power
  have first : (n : Int) + power - 1 = ((n - 1 : Nat) : Int) + power := by omega
  rw [first, zpow_add₀ (by norm_num), zpow_add₀ (by norm_num), zpow_natCast, zpow_natCast,
    mul_le_mul_iff_left₀ scale, mul_lt_mul_iff_left₀ scale]
  constructor
  · exact_mod_cast above
  · exact_mod_cast below

/-- A decimal in the neighbourhood of a float is read as that float. -/
theorem ofDecimal?_of_near (x : Binary64) (digits : Nat) (power : Int)
    (nonzero : x.significand ≠ 0) (near : x.Near (digits * (10 : ℚ) ^ power)) :
    ofDecimal? x.negative digits power = some x := by
  obtain ⟨least, greatest⟩ := reach_of_near x _ nonzero near
  have given : digits ≠ 0 := by
    rintro rfl
    rw [Nat.cast_zero, zero_mul] at least
    exact absurd least (not_le.mpr (ten_zpow_pos _))
  obtain ⟨low, high⟩ := decimal_bounds digits power given
  have under : (Nat.toDigits 10 digits).length + power - 1 < 400 :=
    (zpow_lt_zpow_iff_right₀ (by norm_num)).mp (lt_of_le_of_lt low greatest)
  have above : -400 < (Nat.toDigits 10 digits).length + power :=
    (zpow_lt_zpow_iff_right₀ (by norm_num)).mp (lt_of_le_of_lt least high)
  rw [ofDecimal?, if_neg given]
  simp only [if_neg (by omega : ¬ 400 < ((Nat.toDigits 10 digits).length : Int) + power),
    if_neg (by omega : ¬ ((Nat.toDigits 10 digits).length : Int) + power < -400)]
  apply round?_of_near x _ _ (Nat.mul_pos (Nat.pos_of_ne_zero given) (tenTo_pos _)) (tenTo_pos _)
    nonzero
  rw [Nat.cast_mul, mul_div_assoc, ← tenTo_quotient]
  exact near

theorem eq_zero (x : Binary64) (none : x.significand = 0) : x = zero x.negative := by
  obtain ⟨_, _, _, full⟩ := x.canonical
  have bottom : x.exponent = -1074 := by
    rcases full with full | bottom
    · rw [none] at full
      cases full
    · exact bottom
  cases x
  simp_all [zero]

end Binary64

namespace Coercion

/-! ## Decimals in text -/

def Digits (cs : List Char) : Prop :=
  ∀ c ∈ cs, c.isDigit = true

def signText (negative : Bool) : List Char :=
  if negative then ['-'] else []

theorem digits_toDigits (n : Nat) : Digits (Nat.toDigits 10 n) := by
  intro c member
  exact Nat.isDigit_of_mem_toDigits (by decide) (by decide) member

theorem digits_zeros (n : Nat) : Digits (List.replicate n '0') := by
  intro c member
  rw [List.eq_of_mem_replicate member]
  rfl

theorem digits_append (front back : List Char) (first : Digits front) (last : Digits back) :
    Digits (front ++ back) :=
  List.forall_mem_append.mpr ⟨first, last⟩

theorem digits_sublist (cs ds : List Char) (within : cs.Sublist ds) (digits : Digits ds) :
    Digits cs :=
  fun c member => digits c (within.subset member)

theorem splitSign_digit (c : Char) (rest : List Char) (digit : c.isDigit = true) :
    splitSign (c :: rest) = (false, c :: rest) := by
  rw [splitSign.eq_def]
  split
  case h_1 same =>
    cases same
    cases digit
  case h_2 same =>
    cases same
    cases digit
  case h_3 => rfl

theorem splitSign_signText (negative : Bool) (whole rest : List Char) (digits : Digits whole)
    (given : whole ≠ []) :
    splitSign (signText negative ++ (whole ++ rest)) = (negative, whole ++ rest) := by
  cases negative with
  | true => rfl
  | false =>
      obtain ⟨c, more, rfl⟩ := List.exists_cons_of_ne_nil given
      exact splitSign_digit c (more ++ rest) (digits c (List.mem_cons_self ..))

/-- The whole digits of a decimal, its fraction and what its exponent says. -/
theorem readFloat?_point (negative : Bool) (whole fraction tail : List Char) (power : Int)
    (front : Digits whole) (given : whole ≠ []) (back : Digits fraction)
    (ends : StopsAt Char.isDigit tail) (read : readPower? tail = some power) :
    readFloat? (signText negative ++ (whole ++ '.' :: (fraction ++ tail))) =
      Binary64.ofDecimal? negative (Nat.ofDigitChars 10 (whole ++ fraction) 0)
        (power - fraction.length) := by
  have point : StopsAt Char.isDigit ('.' :: (fraction ++ tail)) := (stopsAt_cons _ _ _).mpr rfl
  have some : whole.isEmpty = false := List.isEmpty_eq_false_iff.mpr given
  simp only [readFloat?, splitSign_signText negative whole _ front given,
    takeWhile_run Char.isDigit whole _ front point, dropWhile_run Char.isDigit whole _ front point,
    takeWhile_run Char.isDigit fraction tail back ends,
    dropWhile_run Char.isDigit fraction tail back ends, some, read]
  rfl

theorem readFloat?_bare (negative : Bool) (whole rest : List Char) (mark : Char) (power : Int)
    (front : Digits whole) (given : whole ≠ []) (outside : mark.isDigit = false)
    (other : mark ≠ '.') (read : readPower? (mark :: rest) = some power) :
    readFloat? (signText negative ++ (whole ++ mark :: rest)) =
      Binary64.ofDecimal? negative (Nat.ofDigitChars 10 whole 0) power := by
  have stops : StopsAt Char.isDigit (mark :: rest) := (stopsAt_cons _ _ _).mpr outside
  have some : whole.isEmpty = false := List.isEmpty_eq_false_iff.mpr given
  simp only [readFloat?, splitSign_signText negative whole _ front given,
    takeWhile_run Char.isDigit whole _ front stops, dropWhile_run Char.isDigit whole _ front stops]
  split
  case h_1 same =>
    cases same
    exact absurd rfl other
  case h_2 =>
    simp [some, read]

/-! ## Exponents in text -/

section Exponents

variable (layout : Binary64.Layout)

/-- The exponent of a float as it stands in its text. -/
def powerText (leading : Int) : List Char :=
  if 0 ≤ leading then
    ['e'] ++ layout.plusSign ++ Nat.toDigits 10 leading.toNat
  else
    ['e', '-'] ++ Nat.toDigits 10 (-leading).toNat

/-- Exponents that are not negative have no sign or a plus sign. -/
def SignsExponents : Prop :=
  layout.plusSign = [] ∨ layout.plusSign = ['+']

theorem powerText_mark (leading : Int) : ∃ rest, powerText layout leading = 'e' :: rest := by
  rw [powerText]
  split
  · exact ⟨_, rfl⟩
  · exact ⟨_, rfl⟩

theorem splitSign_plusSign (signs : SignsExponents layout) (n : Nat) :
    splitSign (layout.plusSign ++ Nat.toDigits 10 n) = (false, Nat.toDigits 10 n) := by
  rcases signs with none | plus
  · have whole := splitSign_signText false _ [] (digits_toDigits n) Nat.toDigits_ne_nil
    rw [List.append_nil] at whole
    rw [none]
    exact whole
  · rw [plus]
    rfl

theorem readPower?_powerText (signs : SignsExponents layout) (leading : Int) :
    readPower? (powerText layout leading) = some leading := by
  have all : ∀ n, (Nat.toDigits 10 n).all Char.isDigit = true := fun n =>
    List.all_eq_true.mpr (digits_toDigits n)
  have some : ∀ n, (Nat.toDigits 10 n).isEmpty = false := fun n =>
    List.isEmpty_eq_false_iff.mpr Nat.toDigits_ne_nil
  rw [powerText]
  split
  case isTrue positive =>
    have size : ((leading.toNat : Nat) : Int) = leading := Int.toNat_of_nonneg positive
    simp [readPower?, splitSign_plusSign layout signs, all, some, Nat.ofDigitChars_ten_toDigits,
      size]
  case isFalse negative =>
    have size : -(((-leading).toNat : Nat) : Int) = leading := by omega
    simp only [List.cons_append, List.nil_append, readPower?, splitSign, all, some,
      Nat.ofDigitChars_ten_toDigits, size]
    simp

end Exponents

/-! ## Layouts -/

section Layouts

variable (x : Binary64) (digits : List Char) (power : Int) (nonzero : x.significand ≠ 0)
  (decimal : Digits digits) (given : digits ≠ [])
  (near : x.Near (Nat.ofDigitChars 10 digits 0 * (10 : ℚ) ^ power))

include nonzero decimal given near

theorem readFloat?_padded (whole : 0 ≤ power) :
    readFloat? (signText x.negative ++ digits ++ List.replicate power.toNat '0' ++ ['.', '0']) =
      some x := by
  have padded : Digits (digits ++ List.replicate power.toNat '0') :=
    digits_append _ _ decimal (digits_zeros _)
  have front : digits ++ List.replicate power.toNat '0' ≠ [] :=
    List.append_ne_nil_of_left_ne_nil given _
  have read := readFloat?_point x.negative _ ['0'] [] 0 padded front (digits_zeros 1)
    (stopsAt_nil _) rfl
  have layout : signText x.negative ++ digits ++ List.replicate power.toNat '0' ++ ['.', '0'] =
      signText x.negative ++
        ((digits ++ List.replicate power.toNat '0') ++ '.' :: (['0'] ++ [])) := by simp
  rw [layout, read]
  apply x.ofDecimal?_of_near _ _ nonzero
  have value : Nat.ofDigitChars 10 (digits ++ List.replicate power.toNat '0' ++ ['0']) 0 =
      10 * (10 ^ power.toNat * Nat.ofDigitChars 10 digits 0) := by
    rw [Nat.ofDigitChars_append, Nat.ofDigitChars_append, Nat.ofDigitChars_replicate_zero,
      Nat.ofDigitChars_cons, Nat.ofDigitChars_nil]
    rfl
  have size : (10 : ℚ) ^ power = 10 ^ power.toNat := by
    rw [← zpow_natCast, Int.toNat_of_nonneg whole]
  have same : (Nat.ofDigitChars 10 digits 0 : ℚ) * (10 : ℚ) ^ power =
      ((10 * (10 ^ power.toNat * Nat.ofDigitChars 10 digits 0) : Nat) : ℚ) *
        (10 : ℚ) ^ ((0 : Int) - (['0'] : List Char).length) := by
    rw [size]
    push_cast
    norm_num
    ring
  rw [value, ← same]
  exact near

theorem readFloat?_split (place : Nat) (inside : 0 < place)
    (within : (place : Int) = digits.length + power) (short : power < 0) :
    readFloat? (signText x.negative ++ digits.take place ++ ['.'] ++ digits.drop place) =
      some x := by
  have front : Digits (digits.take place) := digits_sublist _ _ (List.take_sublist _ _) decimal
  have back : Digits (digits.drop place) := digits_sublist _ _ (List.drop_sublist _ _) decimal
  have first : digits.take place ≠ [] := by
    rw [ne_eq, List.take_eq_nil_iff]
    exact not_or.mpr ⟨Nat.ne_of_gt inside, given⟩
  have read := readFloat?_point x.negative _ _ [] 0 front first back (stopsAt_nil _) rfl
  have layout : signText x.negative ++ digits.take place ++ ['.'] ++ digits.drop place =
      signText x.negative ++ (digits.take place ++ '.' :: (digits.drop place ++ [])) := by simp
  have length : (0 : Int) - (digits.drop place).length = power := by
    rw [List.length_drop]
    omega
  rw [layout, read, List.take_append_drop, length]
  exact x.ofDecimal?_of_near _ _ nonzero near

omit given in
theorem readFloat?_leadingZeros (zeros : Nat) (within : (zeros : Int) + digits.length = -power) :
    readFloat? (signText x.negative ++ ['0', '.'] ++ List.replicate zeros '0' ++ digits) =
      some x := by
  have back : Digits (List.replicate zeros '0' ++ digits) :=
    digits_append _ _ (digits_zeros _) decimal
  have read := readFloat?_point x.negative ['0'] _ [] 0 (digits_zeros 1) (List.cons_ne_nil _ _) back
    (stopsAt_nil _) rfl
  have layout : signText x.negative ++ ['0', '.'] ++ List.replicate zeros '0' ++ digits =
      signText x.negative ++
        (['0'] ++ '.' :: ((List.replicate zeros '0' ++ digits) ++ [])) := by simp
  have value : Nat.ofDigitChars 10 (['0'] ++ (List.replicate zeros '0' ++ digits)) 0 =
      Nat.ofDigitChars 10 digits 0 := by
    rw [Nat.ofDigitChars_append, Nat.ofDigitChars_append, Nat.ofDigitChars_replicate_zero]
    rfl
  have length : (0 : Int) - (List.replicate zeros '0' ++ digits).length = power := by
    rw [List.length_append, List.length_replicate]
    push_cast
    omega
  rw [layout, read, value, length]
  exact x.ofDecimal?_of_near _ _ nonzero near

variable (layout : Binary64.Layout) (signs : SignsExponents layout)
include signs

theorem readFloat?_bareDigits :
    readFloat? (signText x.negative ++ digits ++ powerText layout power) = some x := by
  have exponent := readPower?_powerText layout signs power
  obtain ⟨after, mark⟩ := powerText_mark layout power
  rw [mark] at exponent ⊢
  rw [List.append_assoc, readFloat?_bare x.negative digits after 'e' power decimal given rfl
    (by decide) exponent]
  exact x.ofDecimal?_of_near _ _ nonzero near

theorem readFloat?_scientific (first : Char) (rest : List Char) (split : digits = first :: rest) :
    readFloat?
        (signText x.negative ++ [first, '.'] ++ rest ++ powerText layout (rest.length + power)) =
      some x := by
  subst split
  have exponent := readPower?_powerText layout signs (rest.length + power)
  obtain ⟨after, mark⟩ := powerText_mark layout (rest.length + power)
  rw [mark] at exponent ⊢
  obtain ⟨head, tail⟩ := List.forall_mem_cons.mp decimal
  have stops : StopsAt Char.isDigit ('e' :: after) := (stopsAt_cons _ _ _).mpr rfl
  have read := readFloat?_point x.negative [first] rest _ _ (List.forall_mem_singleton.mpr head)
    (List.cons_ne_nil _ _) tail stops exponent
  have text : signText x.negative ++ [first, '.'] ++ rest ++ 'e' :: after =
      signText x.negative ++ ([first] ++ '.' :: (rest ++ 'e' :: after)) := by simp
  rw [text, read, List.singleton_append, add_sub_cancel_left]
  exact x.ofDecimal?_of_near _ _ nonzero near

end Layouts

theorem readFloat?_zero (negative : Bool) :
    readFloat? (signText negative ++ ['0', '.', '0']) = some (Binary64.zero negative) := by
  cases negative <;> rfl

/-- The text of a float is read as that float. -/
theorem readFloat?_toText (layout : Binary64.Layout) (signs : SignsExponents layout)
    (x : Binary64) : readFloat? (x.toText layout) = some x := by
  by_cases none : x.significand = 0
  · have empty : x.isZero = true := beq_iff_eq.mpr none
    rw [Binary64.toText, if_pos empty, x.eq_zero none]
    exact readFloat?_zero x.negative
  · have some : ¬ x.isZero = true := fun empty => none (beq_iff_eq.mp empty)
    have near := x.near_shortest none
    have decimal := digits_toDigits x.shortest.digits
    have given : Nat.toDigits 10 x.shortest.digits ≠ [] := Nat.toDigits_ne_nil
    rw [Decimal.value, ← Nat.ofDigitChars_ten_toDigits (n := x.shortest.digits)] at near
    simp only [Binary64.toText, if_neg some]
    generalize Nat.toDigits 10 x.shortest.digits = digits at near decimal given ⊢
    generalize x.shortest.power = power at near ⊢
    have count : 0 < digits.length := List.length_pos_of_ne_nil given
    split
    case isTrue positional =>
      split
      case isTrue whole => exact readFloat?_padded x digits power none decimal given near whole
      case isFalse short =>
        split
        case isTrue inside =>
          exact readFloat?_split x digits power none decimal given near _ (by omega) (by omega)
            (by omega)
        case isFalse outside =>
          exact readFloat?_leadingZeros x digits power none decimal near _ (by omega)
    case isFalse scientific =>
      cases digits with
      | nil => exact absurd rfl given
      | cons first rest =>
          have leading :
              (((first :: rest).length : Nat) : Int) + power - 1 = rest.length + power := by
            rw [List.length_cons]
            push_cast
            ring
          rw [leading]
          cases rest with
          | nil =>
              have alone : (([] : List Char).length : Int) + power = power := by simp
              rw [alone]
              exact readFloat?_bareDigits x [first] power none decimal given near layout signs
          | cons second rest =>
              exact readFloat?_scientific x _ power none decimal given near layout signs first
                (second :: rest) rfl

end Coercion

end Crosswalk
