import Mathlib.Algebra.Order.Field.Power
import Mathlib.Data.Rat.Cast.CharZero
import Mathlib.Tactic.Ring
import Mathlib.Tactic.FieldSimp
import Mathlib.Tactic.NormNum
import Mathlib.Tactic.Positivity
import Crosswalk.Json.Number

/-!
# The exact values of numbers

A binary floating-point number has an exact rational value (`Binary64.value`), and numbers are
compared by it.  The integer that a number is read as is that value if it is one
(`toInt?_eq_some_iff`).  An integer that some number has exactly is rounded to that number, since
the canonical form leaves no other choice (`ofInt?_of_toInt?`), and no integer is rounded past a
power of two (`le_abs_value_of_ofInt?`).
-/

set_option autoImplicit false

namespace Crosswalk

theorem twoTo_pos (k : Nat) : 0 < twoTo k :=
  Nat.two_pow_pos k

theorem twoTo_add (j k : Nat) : twoTo (j + k) = twoTo j * twoTo k :=
  Nat.pow_add 2 j k

namespace Binary64

/-! ## Values -/

def value (x : Binary64) : ℚ :=
  (if x.negative then -1 else 1) * (x.significand * (2 : ℚ) ^ x.exponent)

theorem pow_quotient (base : Nat) (positive : 0 < base) (e : Int) :
    (base : ℚ) ^ e =
      ((Nat.pow base e.toNat : Nat) : ℚ) / ((Nat.pow base (-e).toNat : Nat) : ℚ) := by
  have split : e = (e.toNat : Int) - ((-e).toNat : Int) := by omega
  have powers : ∀ k : Nat, ((Nat.pow base k : Nat) : ℚ) = (base : ℚ) ^ (k : Int) := by
    intro k
    rw [zpow_natCast]
    exact Nat.cast_pow base k
  rw [powers, powers, ← zpow_sub₀ (by positivity), ← split]

theorem twoTo_quotient (e : Int) :
    (2 : ℚ) ^ e = (twoTo e.toNat : ℚ) / (twoTo (-e).toNat : ℚ) :=
  pow_quotient 2 (by decide) e

theorem magnitude_eq (x : Binary64) :
    (x.significand : ℚ) * (2 : ℚ) ^ x.exponent = (x.fraction.1 : ℚ) / (x.fraction.2 : ℚ) := by
  rw [twoTo_quotient, fraction]
  push_cast
  ring

theorem fraction_pos (x : Binary64) : 0 < x.fraction.2 :=
  twoTo_pos _

/-- A number read as an integer, with the magnitude of that integer in terms of its fraction. -/
theorem toInt?_cases (x : Binary64) :
    (x.toInt? = none ∧ ¬ x.fraction.2 ∣ x.fraction.1) ∨
      ∃ size : Nat, x.fraction.1 = size * x.fraction.2 ∧
        x.toInt? = some (if x.negative then -(size : Int) else (size : Int)) := by
  by_cases whole : x.fraction.1 % x.fraction.2 = 0
  · right
    refine ⟨x.fraction.1 / x.fraction.2, ?_, ?_⟩
    · exact (Nat.div_mul_cancel (Nat.dvd_of_mod_eq_zero whole)).symm
    · simp [toInt?, isWhole, truncate, whole]
  · left
    refine ⟨by simp [toInt?, isWhole, whole], ?_⟩
    intro divides
    exact whole (Nat.mod_eq_zero_of_dvd divides)

/-- A number is read as the integer that it is. -/
theorem toInt?_eq_some_iff (x : Binary64) (n : Int) : x.toInt? = some n ↔ x.value = n := by
  have den : (x.fraction.2 : ℚ) ≠ 0 := by
    have := fraction_pos x
    positivity
  rw [value, magnitude_eq]
  rcases toInt?_cases x with ⟨none, divides⟩ | ⟨size, whole, some⟩
  · rw [none]
    refine iff_of_false (by simp) ?_
    intro same
    apply divides
    have size : (x.fraction.1 : ℚ) / x.fraction.2 = (n.natAbs : ℚ) := by
      rw [Nat.cast_natAbs, Int.cast_abs, ← same, abs_mul, abs_div, Nat.abs_cast, Nat.abs_cast]
      cases x.negative <;> simp
    rw [div_eq_iff den] at size
    exact ⟨n.natAbs, by rw [mul_comm]; exact_mod_cast size⟩
  · rw [some, whole, Nat.cast_mul, mul_div_cancel_right₀ _ den, Option.some.injEq]
    cases x.negative with
    | false =>
        simp only [Bool.false_eq_true, if_false, one_mul]
        norm_cast
    | true =>
        simp only [if_true, neg_one_mul]
        norm_cast

/-! ## Comparisons -/

theorem value_eq_quotient (x : Binary64) : x.value = (x.numerator : ℚ) / x.fraction.2 := by
  rw [value, magnitude_eq, numerator]
  cases x.negative with
  | false => simp
  | true => simp [neg_div]

section Comparison
variable (x y : Binary64)

theorem lt_iff : x.lt y = true ↔ x.value < y.value := by
  have left : (0 : ℚ) < x.fraction.2 := Nat.cast_pos.mpr x.fraction_pos
  have right : (0 : ℚ) < y.fraction.2 := Nat.cast_pos.mpr y.fraction_pos
  rw [lt, decide_eq_true_eq, value_eq_quotient, value_eq_quotient, div_lt_div_iff₀ left right]
  norm_cast

theorem le_iff : x.le y = true ↔ x.value ≤ y.value := by
  have left : (0 : ℚ) < x.fraction.2 := Nat.cast_pos.mpr x.fraction_pos
  have right : (0 : ℚ) < y.fraction.2 := Nat.cast_pos.mpr y.fraction_pos
  rw [le, decide_eq_true_eq, value_eq_quotient, value_eq_quotient, div_le_div_iff₀ left right]
  norm_cast

theorem equals_iff : x.equals y = true ↔ x.value = y.value := by
  have left : (x.fraction.2 : ℚ) ≠ 0 := Nat.cast_ne_zero.mpr x.fraction_pos.ne'
  have right : (y.fraction.2 : ℚ) ≠ 0 := Nat.cast_ne_zero.mpr y.fraction_pos.ne'
  rw [equals, beq_iff_eq, value_eq_quotient, value_eq_quotient, div_eq_div_iff left right]
  norm_cast

end Comparison

/-- A number without a fraction is the integer that is left of it without one. -/
theorem isWhole_and_iff (x : Binary64) (n : Int) :
    x.isWhole = true ∧ x.truncate = n ↔ x.value = n := by
  rw [← toInt?_eq_some_iff, toInt?]
  cases x.isWhole <;> simp

theorem isZero_iff (x : Binary64) : x.isZero = true ↔ x.value = 0 := by
  have power : (2 : ℚ) ^ x.exponent ≠ 0 := by positivity
  rw [value, isZero, beq_iff_eq]
  cases x.negative <;> simp [power]

/-! ## Integers that are represented -/

theorem floorLog2_one (num : Nat) (nonzero : num ≠ 0) : floorLog2 num 1 = num.log2 := by
  have log2_one : Nat.log2 1 = 0 := by decide
  have enough : 1 * twoTo (num.log2 : Int).toNat ≤ num * twoTo (-(num.log2 : Int)).toNat := by
    have below : twoTo num.log2 ≤ num := Nat.log2_self_le nonzero
    have none : (-(num.log2 : Int)).toNat = 0 := by omega
    rw [none]
    simpa [twoTo] using below
  simp only [floorLog2, log2_one, Nat.cast_zero, sub_zero]
  rw [if_pos enough]

theorem roundQuotient_mul (k den : Nat) (positive : 0 < den) : roundQuotient (k * den) den = k := by
  have whole : k * den / den = k := Nat.mul_div_cancel k positive
  simp [roundQuotient, whole, positive]

theorem ofParts?_eq_some (x : Binary64) :
    ofParts? x.negative x.significand x.exponent = some x :=
  dif_pos x.canonical

/-- An integer with the magnitude of a float. -/
theorem natAbs_of_toInt? (x : Binary64) (n : Int) (whole : x.toInt? = some n) :
    n.natAbs * twoTo (-x.exponent).toNat = x.significand * twoTo x.exponent.toNat := by
  rcases toInt?_cases x with ⟨none, _⟩ | ⟨size, split, some⟩
  · rw [none] at whole
    cases whole
  · rw [some, Option.some.injEq] at whole
    have same : n.natAbs = size := by
      rw [← whole]
      cases x.negative <;> simp
    rw [same]
    exact split.symm

theorem sign_of_toInt? (x : Binary64) (n : Int) (whole : x.toInt? = some n) (nonzero : n ≠ 0) :
    x.negative = decide (n < 0) := by
  rcases toInt?_cases x with ⟨none, _⟩ | ⟨size, _, some⟩
  · rw [none] at whole
    cases whole
  · rw [some, Option.some.injEq] at whole
    cases negative : x.negative <;> simp [negative] at whole ⊢ <;> omega

theorem twoTo_le_twoTo (j k : Nat) (order : j ≤ k) : twoTo j ≤ twoTo k :=
  Nat.pow_le_pow_right Nat.two_pos order

/-- The exponent of a float that is an integer is known from the integer, since the significand
fills its bits. -/
theorem exponent_of_toInt? (x : Binary64) (n : Int) (whole : x.toInt? = some n) (nonzero : n ≠ 0) :
    x.exponent = n.natAbs.log2 - 52 := by
  have magnitude := natAbs_of_toInt? x n whole
  obtain ⟨below, _, _, full⟩ := x.canonical
  generalize down : (-x.exponent).toNat = a at magnitude
  generalize up : x.exponent.toNat = b at magnitude
  have positive : n.natAbs ≠ 0 := by omega
  have upper : n.natAbs * twoTo a < twoTo (53 + b) := by
    rw [magnitude, twoTo_add]
    exact Nat.mul_lt_mul_of_pos_right below (twoTo_pos b)
  have above : twoTo a ≤ n.natAbs * twoTo a := Nat.le_mul_of_pos_left _ (by omega)
  have short : a < 53 + b := by
    by_contra long
    have order := twoTo_le_twoTo (53 + b) a (by omega)
    omega
  have filled : leastFull ≤ x.significand := by
    rcases full with filled | least
    · exact filled
    · omega
  have lower : twoTo (52 + b) ≤ n.natAbs * twoTo a := by
    rw [magnitude, twoTo_add]
    exact Nat.mul_le_mul_right _ filled
  -- both bounds are multiples of `twoTo a`
  obtain ⟨k, split⟩ : ∃ k, 52 + b = k + a := ⟨52 + b - a, by omega⟩
  have next : 53 + b = (k + 1) + a := by omega
  rw [next, twoTo_add] at upper
  rw [split, twoTo_add] at lower
  have log2 : n.natAbs.log2 = k := by
    apply (Nat.log2_eq_iff positive).mpr
    constructor
    · exact Nat.le_of_mul_le_mul_right lower (twoTo_pos a)
    · exact Nat.lt_of_mul_lt_mul_right upper
  rw [log2]
  omega

/-- An integer that a float is exactly is rounded to that float. -/
theorem ofInt?_of_toInt? (x : Binary64) (n : Int) (whole : x.toInt? = some n) (nonzero : n ≠ 0) :
    ofInt? n = some x := by
  have positive : n.natAbs ≠ 0 := by omega
  have exponent := exponent_of_toInt? x n whole nonzero
  have greatest : max (-1074) (floorLog2 n.natAbs 1 - 52) = x.exponent := by
    rw [floorLog2_one _ positive, ← exponent]
    exact max_eq_right x.canonical.2.1
  have rounded : roundQuotient (n.natAbs * twoTo (-x.exponent).toNat)
      (1 * twoTo x.exponent.toNat) = x.significand := by
    rw [natAbs_of_toInt? x n whole, one_mul, roundQuotient_mul _ _ (twoTo_pos _)]
  have short : x.significand ≠ significandLimit := Nat.ne_of_lt x.canonical.1
  rw [ofInt?, round?, if_neg positive, greatest]
  simp only [rounded, if_neg short, ← sign_of_toInt? x n whole nonzero]
  exact ofParts?_eq_some x

/-- Some float has the value of an integer if and only if the integer is rounded without loss. -/
theorem ofInt?_exact (x : Binary64) (n : Int) (whole : x.toInt? = some n) :
    ∃ y, ofInt? n = some y ∧ y.toInt? = some n := by
  by_cases nonzero : n = 0
  · subst n
    exact ⟨zero false, rfl, by simp [toInt?, isWhole, truncate, fraction, zero]⟩
  · exact ⟨x, ofInt?_of_toInt? x n whole nonzero, whole⟩

/-! ## Integers that are rounded -/

theorem le_roundQuotient (num den m : Nat) (positive : 0 < den) (below : m * den ≤ num) :
    m ≤ roundQuotient num den := by
  have whole : m ≤ num / den := (Nat.le_div_iff_mul_le positive).mpr below
  rw [roundQuotient]
  split <;> omega

theorem ofParts?_eq_some_iff (negative : Bool) (significand : Nat) (exponent : Int)
    (x : Binary64) :
    ofParts? negative significand exponent = some x ↔
      x.negative = negative ∧ x.significand = significand ∧ x.exponent = exponent := by
  constructor
  · intro made
    rw [ofParts?] at made
    split at made
    · cases made
      exact ⟨rfl, rfl, rfl⟩
    · cases made
  · rintro ⟨rfl, rfl, rfl⟩
    exact ofParts?_eq_some x

/-- The magnitude that rounding makes of a positive integer: a full significand, at least, by the
power of two that stands for its lowest bit. -/
theorem parts_of_ofInt? (n : Int) (nonzero : n ≠ 0) (x : Binary64) (rounded : ofInt? n = some x) :
    x.negative = decide (n < 0) ∧ leastFull ≤ x.significand ∧
      (n.natAbs.log2 : Int) - 52 ≤ x.exponent := by
  have positive : n.natAbs ≠ 0 := by omega
  have low : max (-1074) (floorLog2 n.natAbs 1 - 52) = (n.natAbs.log2 : Int) - 52 := by
    rw [floorLog2_one _ positive]
    omega
  rw [ofInt?, round?, if_neg positive, low] at rounded
  dsimp only at rounded
  split at rounded
  · obtain ⟨sign, significand, exponent⟩ := (ofParts?_eq_some_iff _ _ _ x).mp rounded
    exact ⟨sign, by omega, by omega⟩
  · obtain ⟨sign, significand, exponent⟩ := (ofParts?_eq_some_iff _ _ _ x).mp rounded
    refine ⟨sign, ?_, by omega⟩
    rw [significand, one_mul]
    apply le_roundQuotient _ _ _ (twoTo_pos _)
    -- the greatest power of two under the integer is a multiple of the lowest bit
    have below : twoTo n.natAbs.log2 ≤ n.natAbs := Nat.log2_self_le positive
    have split : 52 + ((n.natAbs.log2 : Int) - 52).toNat =
        n.natAbs.log2 + (-((n.natAbs.log2 : Int) - 52)).toNat := by omega
    calc
      twoTo 52 * twoTo ((n.natAbs.log2 : Int) - 52).toNat
          = twoTo n.natAbs.log2 * twoTo (-((n.natAbs.log2 : Int) - 52)).toNat := by
        rw [← twoTo_add, split, twoTo_add]
      _ ≤ n.natAbs * twoTo (-((n.natAbs.log2 : Int) - 52)).toNat := Nat.mul_le_mul_right _ below

theorem abs_value (x : Binary64) : |x.value| = x.significand * (2 : ℚ) ^ x.exponent := by
  rw [value]
  cases x.negative with
  | false => simp
  | true => simp

/-- An integer that reaches a power of two is not rounded to less. -/
theorem le_abs_value_of_ofInt? (n : Int) (x : Binary64) (rounded : ofInt? n = some x) (k : Nat)
    (reaches : 2 ^ k ≤ n.natAbs) : (2 : ℚ) ^ k ≤ |x.value| := by
  have positive : n.natAbs ≠ 0 := by
    have := Nat.two_pow_pos k
    omega
  obtain ⟨_, full, exponent⟩ := parts_of_ofInt? n (by omega) x rounded
  have bits : k ≤ n.natAbs.log2 := (Nat.le_log2 positive).mpr reaches
  have filled : (2 : ℚ) ^ (52 : Int) ≤ x.significand := by
    have cast : ((leastFull : Nat) : ℚ) ≤ x.significand := Nat.cast_le.mpr full
    norm_num at cast ⊢
    exact cast
  rw [abs_value]
  calc
    (2 : ℚ) ^ k = (2 : ℚ) ^ (52 : Int) * (2 : ℚ) ^ ((k : Int) - 52) := by
      rw [← zpow_add₀ (by norm_num), ← zpow_natCast]
      congr 1
      ring
    _ ≤ x.significand * (2 : ℚ) ^ x.exponent := by
      apply mul_le_mul filled _ (by positivity) (by positivity)
      exact zpow_le_zpow_right₀ (by norm_num) (by omega)

theorem value_nonneg_of_ofInt? (n : Int) (x : Binary64) (rounded : ofInt? n = some x)
    (positive : 0 < n) : 0 ≤ x.value := by
  obtain ⟨sign, _⟩ := parts_of_ofInt? n (by omega) x rounded
  have plus : x.negative = false := by
    rw [sign, decide_eq_false_iff_not]
    omega
  rw [value, plus]
  simp only [Bool.false_eq_true, if_false, one_mul]
  positivity

end Binary64

/-- The exact value of a number. -/
def Number.value : Number → ℚ
  | .integer n _ => n
  | .float x => x.value

end Crosswalk
