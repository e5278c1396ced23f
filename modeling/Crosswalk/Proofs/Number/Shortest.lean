import Crosswalk.Proofs.Number.Rounding

/-!
# Shortest decimals

The decimal with the fewest digits lies in the neighbourhood of its float (`near_shortest`): every
decimal that is tried is checked to, and one of at most seventeen digits passes, since at that
length decimals lie closer together than the ends of the neighbourhood (`onGrid?_seventeen`).
-/

set_option autoImplicit false

namespace Crosswalk

namespace Decimal

def value (d : Decimal) : ℚ :=
  d.digits * (10 : ℚ) ^ d.power

/-! ## Lengths -/

theorem lt_tenTo_length (n : Nat) : n < 10 ^ length n := by
  rw [length]
  split
  case isTrue zero => simp [zero]
  case isFalse => exact (Nat.length_toDigits_le_iff (by decide) Nat.length_toDigits_pos).mp le_rfl

theorem tenTo_length_le (n k : Nat) (nonzero : n ≠ 0) (short : k < length n) : 10 ^ k ≤ n := by
  rw [length, if_neg nonzero] at short
  cases k with
  | zero => exact Nat.pos_of_ne_zero nonzero
  | succ k =>
      by_contra less
      have bound := (Nat.length_toDigits_le_iff (b := 10) (by decide) (Nat.succ_pos k)).mpr
        (not_le.mp less)
      omega

theorem length_pos (n : Nat) (positive : 0 < n) : 0 < length n := by
  rw [length, if_neg (Nat.ne_of_gt positive)]
  exact Nat.length_toDigits_pos

theorem value_dropZeros (fuel : Nat) (d : Decimal) : (dropZeros fuel d).value = d.value := by
  induction fuel generalizing d with
  | zero => rfl
  | succ fuel ih =>
      rw [dropZeros]
      split
      case isFalse => rfl
      case isTrue ends =>
        obtain ⟨tens, whole⟩ := Nat.dvd_of_mod_eq_zero ends.1
        have tenth : d.digits / 10 = tens := by omega
        rw [ih, value, value, tenth, whole, zpow_add_one₀ (by norm_num)]
        push_cast
        ring

end Decimal

namespace Binary64

theorem ten_zpow_pos (p : Int) : (0 : ℚ) < (10 : ℚ) ^ p :=
  zpow_pos (by norm_num) p

theorem tenTo_quotient (p : Int) :
    (10 : ℚ) ^ p = (tenTo p.toNat : ℚ) / (tenTo (-p).toNat : ℚ) :=
  pow_quotient 10 (by decide) p

theorem tenTo_pos (k : Nat) : 0 < tenTo k :=
  Nat.pow_pos (by decide)

/-! ## One grid -/

section Grid

variable (x : Binary64) (power : Int)

/-- What a unit of a quarter of the last place is multiplied with, to be compared with decimals. -/
def up : Nat :=
  twoTo (x.exponent - 2).toNat * tenTo (-power).toNat

/-- What a decimal is multiplied with. -/
def unit : Nat :=
  twoTo (2 - x.exponent).toNat * tenTo power.toNat

def readsBack (digits : Nat) : Bool :=
  if x.neighbourhood.endsIncluded then
    x.neighbourhood.low * x.up power ≤ digits * x.unit power &&
      digits * x.unit power ≤ x.neighbourhood.high * x.up power
  else
    x.neighbourhood.low * x.up power < digits * x.unit power &&
      digits * x.unit power < x.neighbourhood.high * x.up power

/-- The greatest decimal on the grid that is not above the float. -/
def below : Nat :=
  x.neighbourhood.middle * x.up power / x.unit power

theorem unit_pos : 0 < x.unit power :=
  Nat.mul_pos (twoTo_pos _) (tenTo_pos _)

theorem onGrid?_cases (d : Decimal) (found : x.onGrid? power = some d) :
    d.power = power ∧ x.readsBack power d.digits = true := by
  simp only [onGrid?] at found
  split at found
  case h_1 low _ =>
    cases found
    exact ⟨rfl, low⟩
  case h_2 _ high =>
    cases found
    exact ⟨rfl, high⟩
  case h_3 low high =>
    split at found
    · cases found
      exact ⟨rfl, low⟩
    · cases found
      exact ⟨rfl, high⟩
  case h_4 => cases found

theorem onGrid?_none (missed : x.onGrid? power = none) :
    x.readsBack power (x.below power) = false ∧ x.readsBack power (x.below power + 1) = false := by
  simp only [onGrid?] at missed
  split at missed
  case h_1 => cases missed
  case h_2 => cases missed
  case h_3 => split at missed <;> cases missed
  case h_4 low high => exact ⟨low, high⟩

/-- What lies between the ends lies in the neighbourhood, whether or not they do. -/
theorem near_of_inside (v : ℚ) (low : x.neighbourhood.low * (2 : ℚ) ^ (x.exponent - 2) < v)
    (high : v < x.neighbourhood.high * (2 : ℚ) ^ (x.exponent - 2)) : x.Near v := by
  rw [Near]
  split
  · exact ⟨low.le, high.le⟩
  · exact ⟨low, high⟩

theorem middle_inside (nonzero : x.significand ≠ 0) :
    (x.neighbourhood.low : ℚ) < x.neighbourhood.middle ∧
      (x.neighbourhood.middle : ℚ) < x.neighbourhood.high := by
  have middle : (x.neighbourhood.middle : ℚ) = 4 * x.significand := by
    rw [neighbourhood]
    push_cast
    rfl
  rw [middle, cast_low x nonzero, cast_high]
  constructor
  · split <;> linarith
  · linarith

theorem common_scale :
    ∃ c : ℚ, 0 < c ∧ (x.up power : ℚ) = (2 : ℚ) ^ (x.exponent - 2) * c ∧
      (x.unit power : ℚ) = (10 : ℚ) ^ power * c := by
  have two : (0 : ℚ) < twoTo (2 - x.exponent).toNat := Nat.cast_pos.mpr (twoTo_pos _)
  have ten : (0 : ℚ) < tenTo (-power).toNat := Nat.cast_pos.mpr (tenTo_pos _)
  have flip : -(x.exponent - 2) = 2 - x.exponent := by ring
  refine ⟨twoTo (2 - x.exponent).toNat * tenTo (-power).toNat, by positivity, ?_, ?_⟩
  · rw [twoTo_quotient, flip, up]
    push_cast
    field_simp
  · rw [tenTo_quotient, unit]
    push_cast
    field_simp

theorem below_bounds :
    x.below power * (10 : ℚ) ^ power ≤ x.neighbourhood.middle * (2 : ℚ) ^ (x.exponent - 2) ∧
      x.neighbourhood.middle * (2 : ℚ) ^ (x.exponent - 2) <
        ((x.below power + 1 : Nat) : ℚ) * (10 : ℚ) ^ power := by
  obtain ⟨c, positive, ups, units⟩ := x.common_scale power
  have low : x.below power * x.unit power ≤ x.neighbourhood.middle * x.up power :=
    Nat.div_mul_le_self _ _
  have high : x.neighbourhood.middle * x.up power < (x.below power + 1) * x.unit power :=
    (Nat.div_lt_iff_lt_mul (x.unit_pos power)).mp (Nat.lt_succ_self _)
  rw [← Nat.cast_le (α := ℚ)] at low
  rw [← Nat.cast_lt (α := ℚ)] at high
  push_cast at low high ⊢
  rw [ups, units, ← mul_assoc, ← mul_assoc] at low high
  exact ⟨le_of_mul_le_mul_right low positive, lt_of_mul_lt_mul_right high positive.le⟩

theorem readsBack_iff (digits : Nat) :
    x.readsBack power digits = true ↔ x.Near (digits * (10 : ℚ) ^ power) := by
  obtain ⟨c, positive, ups, units⟩ := x.common_scale power
  have scaled : ∀ n : Nat,
      (n * x.up power ≤ digits * x.unit power ↔
        n * (2 : ℚ) ^ (x.exponent - 2) ≤ digits * (10 : ℚ) ^ power) ∧
      (digits * x.unit power ≤ n * x.up power ↔
        digits * (10 : ℚ) ^ power ≤ n * (2 : ℚ) ^ (x.exponent - 2)) := by
    intro n
    rw [← Nat.cast_le (α := ℚ), ← Nat.cast_le (α := ℚ)]
    push_cast
    rw [ups, units, ← mul_assoc, ← mul_assoc, mul_le_mul_iff_left₀ positive,
      mul_le_mul_iff_left₀ positive]
    exact ⟨Iff.rfl, Iff.rfl⟩
  rw [readsBack, Near]
  split
  · rw [Bool.and_eq_true, decide_eq_true_eq, decide_eq_true_eq, (scaled _).1, (scaled _).2]
  · rw [Bool.and_eq_true, decide_eq_true_eq, decide_eq_true_eq, ← not_le, ← not_le, ← not_le,
      ← not_le, (scaled _).1, (scaled _).2]

/-- A grid that is missed has a step as long as the neighbourhood. -/
theorem step_of_missed (nonzero : x.significand ≠ 0) (missed : x.onGrid? power = none) :
    ((x.neighbourhood.high : ℚ) - x.neighbourhood.low) * (2 : ℚ) ^ (x.exponent - 2) ≤
      (10 : ℚ) ^ power := by
  obtain ⟨under, above⟩ := x.onGrid?_none power missed
  rw [← Bool.not_eq_true, readsBack_iff] at under above
  obtain ⟨low, high⟩ := x.below_bounds power
  have quarter := two_zpow_pos (x.exponent - 2)
  obtain ⟨inner, outer⟩ := x.middle_inside nonzero
  have left : x.below power * (10 : ℚ) ^ power ≤
      x.neighbourhood.low * (2 : ℚ) ^ (x.exponent - 2) := by
    by_contra inside
    exact under (x.near_of_inside _ (not_le.mp inside) (by nlinarith))
  have right : x.neighbourhood.high * (2 : ℚ) ^ (x.exponent - 2) ≤
      ((x.below power + 1 : Nat) : ℚ) * (10 : ℚ) ^ power := by
    by_contra inside
    exact above (x.near_of_inside _ (by nlinarith) (not_le.mp inside))
  push_cast at right
  linarith

end Grid

/-! ## Seventeen digits -/

theorem le_of_decimalScale (num den : Nat) (numerator : 0 < num) (denominator : 0 < den) :
    (10 : ℚ) ^ (decimalScale num den - 1) ≤ (num : ℚ) / den := by
  have positive : (0 : ℚ) < den := Nat.cast_pos.mpr denominator
  rw [le_div_iff₀ positive, decimalScale]
  split
  case isTrue reached =>
    have whole : 0 < num / den := Nat.div_pos reached denominator
    obtain ⟨k, size⟩ : ∃ k, Decimal.length (num / den) = k + 1 :=
      Nat.exists_eq_add_one.mpr (Decimal.length_pos _ whole)
    have least := Decimal.tenTo_length_le (num / den) k (Nat.ne_of_gt whole) (by omega)
    have product : 10 ^ k * den ≤ num :=
      le_trans (Nat.mul_le_mul_right den least) (Nat.div_mul_le_self num den)
    have power : ((Decimal.length (num / den) : Int) - 1) = (k : Int) := by omega
    rw [power, zpow_natCast]
    exact_mod_cast product
  case isFalse missed =>
    have short := Decimal.lt_tenTo_length ((den - 1) / num)
    rw [Nat.div_lt_iff_lt_mul numerator] at short
    have product : den ≤ num * 10 ^ Decimal.length ((den - 1) / num) := by
      rw [Nat.mul_comm num]
      omega
    have power : (1 - (Decimal.length ((den - 1) / num) : Int) - 1) =
        -(Decimal.length ((den - 1) / num) : Int) := by omega
    rw [power, zpow_neg, zpow_natCast, inv_mul_le_iff₀ (by positivity), mul_comm]
    exact_mod_cast product

theorem onGrid?_seventeen (x : Binary64) (nonzero : x.significand ≠ 0) :
    x.onGrid? (decimalScale x.fraction.1 x.fraction.2 - 17) ≠ none := by
  intro missed
  have step := x.step_of_missed _ nonzero missed
  have numerator : 0 < x.fraction.1 := Nat.mul_pos (Nat.pos_of_ne_zero nonzero) (twoTo_pos _)
  have scale := le_of_decimalScale _ _ numerator x.fraction_pos
  have quarter := two_zpow_pos (x.exponent - 2)
  have short : (x.significand : ℚ) < 2 ^ 53 := by exact_mod_cast x.canonical.1
  generalize decimalScale x.fraction.1 x.fraction.2 = k at step scale
  have split : k - 1 = (16 : Nat) + (k - 17) := by push_cast; ring
  have unit : (2 : ℚ) ^ x.exponent = 4 * (2 : ℚ) ^ (x.exponent - 2) := by
    rw [quarter_eq]
    ring
  rw [← magnitude_eq, split, zpow_add₀ (by norm_num), zpow_natCast, unit] at scale
  rw [cast_low x nonzero, cast_high] at step
  have narrow : ((4 * x.significand + 2 : ℚ) - (4 * x.significand -
      if x.significand = leastFull ∧ -1074 < x.exponent then 1 else 2)) * 10 ^ 16 ≤
        4 * x.significand := by
    have product : ((4 * x.significand + 2 : ℚ) - (4 * x.significand -
        if x.significand = leastFull ∧ -1074 < x.exponent then 1 else 2)) * 10 ^ 16 *
          (2 : ℚ) ^ (x.exponent - 2) ≤ 4 * x.significand * (2 : ℚ) ^ (x.exponent - 2) := by
      linarith
    exact le_of_mul_le_mul_right product quarter
  split at narrow
  case isTrue power =>
    have size : (x.significand : ℚ) = 2 ^ 52 := by
      rw [power.1]
      norm_num
    rw [size] at narrow
    norm_num at narrow
  case isFalse => linarith

/-- The fewest digits of a float lie in its neighbourhood. -/
theorem near_shortest (x : Binary64) (nonzero : x.significand ≠ 0) : x.Near x.shortest.value := by
  rw [shortest]
  split
  case h_1 d found =>
    obtain ⟨n, _, chosen⟩ := List.exists_of_findSome?_eq_some found
    obtain ⟨power, reads⟩ := x.onGrid?_cases _ d chosen
    rw [readsBack_iff, ← power] at reads
    rw [Decimal.value_dropZeros]
    exact reads
  case h_2 missed =>
    have last := List.findSome?_eq_none_iff.mp missed 16 (by decide)
    exact absurd last (x.onGrid?_seventeen nonzero)

end Binary64

end Crosswalk
