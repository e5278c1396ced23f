import Mathlib.Tactic.Linarith
import Crosswalk.Number.Shortest
import Crosswalk.Proofs.Number.Value

/-!
# What rounds to a float

A quotient in the neighbourhood of a float (`Near`) is rounded to it (`round?_of_near`).  The float
settles the exponent that rounding chooses, but for one case: just under a power of two the
exponent is one less, and the significand comes out one too great for its bits.
-/

set_option autoImplicit false

namespace Crosswalk.Binary64

/-- The number lies between the midpoints to the neighbours of the magnitude of a float. -/
def Near (x : Binary64) (v : ℚ) : Prop :=
  let quarter := (2 : ℚ) ^ (x.exponent - 2)
  if x.neighbourhood.endsIncluded then
    x.neighbourhood.low * quarter ≤ v ∧ v ≤ x.neighbourhood.high * quarter
  else
    x.neighbourhood.low * quarter < v ∧ v < x.neighbourhood.high * quarter

/-! ## Powers of two -/

theorem two_zpow_pos (e : Int) : (0 : ℚ) < (2 : ℚ) ^ e :=
  zpow_pos (by norm_num) e

theorem two_zpow_succ (e : Int) : (2 : ℚ) ^ (e + 1) = 2 * (2 : ℚ) ^ e := by
  rw [zpow_add_one₀ (by norm_num), mul_comm]

theorem two_zpow_shift (k : Nat) (e : Int) : (2 : ℚ) ^ (k + e) = (2 : ℚ) ^ k * (2 : ℚ) ^ e := by
  rw [zpow_add₀ (by norm_num), zpow_natCast]

theorem scaled_le_iff (num den : Nat) (positive : 0 < den) (e : Int) :
    den * twoTo e.toNat ≤ num * twoTo (-e).toNat ↔ (2 : ℚ) ^ e ≤ (num : ℚ) / den := by
  have denominator : (0 : ℚ) < den := Nat.cast_pos.mpr positive
  have scale : (0 : ℚ) < twoTo (-e).toNat := Nat.cast_pos.mpr (twoTo_pos _)
  rw [twoTo_quotient, div_le_div_iff₀ scale denominator, ← Nat.cast_mul, ← Nat.cast_mul,
    Nat.cast_le, mul_comm den]

theorem scaled_quotient (num den : Nat) (e : Int) :
    ((num * twoTo (-e).toNat : Nat) : ℚ) / ((den * twoTo e.toNat : Nat) : ℚ) =
      (num : ℚ) / den / (2 : ℚ) ^ e := by
  rw [twoTo_quotient]
  push_cast
  rw [div_div_div_eq, mul_comm (num : ℚ)]

/-! ## The exponent of a quotient -/

theorem log2_bounds (n : Nat) (positive : 0 < n) :
    (2 : ℚ) ^ (n.log2 : Int) ≤ n ∧ (n : ℚ) < (2 : ℚ) ^ ((n.log2 : Int) + 1) := by
  have below : 2 ^ n.log2 ≤ n := Nat.log2_self_le (Nat.ne_of_gt positive)
  have above : n < 2 ^ (n.log2 + 1) := Nat.lt_log2_self
  constructor
  · rw [zpow_natCast]
    exact_mod_cast below
  · have same : ((n.log2 : Int) + 1) = ((n.log2 + 1 : Nat) : Int) := by push_cast; rfl
    rw [same, zpow_natCast]
    exact_mod_cast above

theorem floorLog2_spec (num den : Nat) (numerator : 0 < num) (denominator : 0 < den) :
    (2 : ℚ) ^ floorLog2 num den ≤ (num : ℚ) / den ∧
      (num : ℚ) / den < (2 : ℚ) ^ (floorLog2 num den + 1) := by
  obtain ⟨numLow, numHigh⟩ := log2_bounds num numerator
  obtain ⟨denLow, denHigh⟩ := log2_bounds den denominator
  have positive : (0 : ℚ) < den := Nat.cast_pos.mpr denominator
  have two : (2 : ℚ) ≠ 0 := by norm_num
  rw [floorLog2]
  by_cases reached : den * twoTo ((num.log2 : Int) - (den.log2 : Int)).toNat ≤
      num * twoTo (-((num.log2 : Int) - (den.log2 : Int))).toNat
  · simp only [if_pos reached]
    refine ⟨(scaled_le_iff num den denominator _).mp reached, ?_⟩
    rw [div_lt_iff₀ positive]
    calc
      (num : ℚ) < (2 : ℚ) ^ ((num.log2 : Int) + 1) := numHigh
      _ = (2 : ℚ) ^ ((num.log2 : Int) - den.log2 + 1) * (2 : ℚ) ^ (den.log2 : Int) := by
        rw [← zpow_add₀ two]
        congr 1
        ring
      _ ≤ (2 : ℚ) ^ ((num.log2 : Int) - den.log2 + 1) * den :=
        mul_le_mul_of_nonneg_left denLow (two_zpow_pos _).le
  · simp only [if_neg reached]
    rw [scaled_le_iff num den denominator, not_le] at reached
    refine ⟨?_, by rwa [sub_add_cancel]⟩
    rw [le_div_iff₀ positive]
    calc
      (2 : ℚ) ^ ((num.log2 : Int) - den.log2 - 1) * den
          ≤ (2 : ℚ) ^ ((num.log2 : Int) - den.log2 - 1) * (2 : ℚ) ^ ((den.log2 : Int) + 1) :=
        mul_le_mul_of_nonneg_left denHigh.le (two_zpow_pos _).le
      _ = (2 : ℚ) ^ (num.log2 : Int) := by
        rw [← zpow_add₀ two]
        congr 1
        ring
      _ ≤ num := numLow

theorem floorLog2_lt (num den : Nat) (numerator : 0 < num) (denominator : 0 < den) (k : Int)
    (above : (num : ℚ) / den < (2 : ℚ) ^ k) : floorLog2 num den < k := by
  have low := (floorLog2_spec num den numerator denominator).1
  exact (zpow_lt_zpow_iff_right₀ (by norm_num)).mp (lt_of_le_of_lt low above)

theorem floorLog2_eq (num den : Nat) (numerator : 0 < num) (denominator : 0 < den) (k : Int)
    (below : (2 : ℚ) ^ k ≤ (num : ℚ) / den) (above : (num : ℚ) / den < (2 : ℚ) ^ (k + 1)) :
    floorLog2 num den = k := by
  have high := (floorLog2_spec num den numerator denominator).2
  have less := floorLog2_lt num den numerator denominator (k + 1) above
  have more : k < floorLog2 num den + 1 :=
    (zpow_lt_zpow_iff_right₀ (by norm_num)).mp (lt_of_le_of_lt below high)
  omega

/-! ## The significand of a quotient -/

theorem roundQuotient_of_bounds (num den m : Nat) (positive : 0 < den)
    (below : 2 * (m * den) ≤ 2 * num + den) (above : 2 * num ≤ 2 * (m * den) + den)
    (tie : 2 * (m * den) = 2 * num + den ∨ 2 * num = 2 * (m * den) + den → m % 2 = 0) :
    roundQuotient num den = m := by
  by_cases reached : m * den ≤ num
  · have whole : num / den = m := by
      apply Nat.div_eq_of_lt_le reached
      rw [Nat.add_mul, Nat.one_mul]
      omega
    have rest : num % den = num - m * den := by
      rw [Nat.mod_eq_sub_mul_div, whole, Nat.mul_comm]
    simp only [roundQuotient, whole, rest]
    rw [if_pos (by omega)]
  · obtain ⟨less, rfl⟩ : ∃ less, m = less + 1 := by
      cases m with
      | zero => omega
      | succ less => exact ⟨less, rfl⟩
    rw [Nat.add_mul, Nat.one_mul] at below above tie reached
    have whole : num / den = less := by
      apply Nat.div_eq_of_lt_le
      · omega
      · rw [Nat.add_mul, Nat.one_mul]
        omega
    have rest : num % den = num - less * den := by
      rw [Nat.mod_eq_sub_mul_div, whole, Nat.mul_comm]
    simp only [roundQuotient, whole, rest]
    rw [if_neg (by omega)]

theorem roundQuotient_eq (num den m : Nat) (positive : 0 < den)
    (below : (m : ℚ) - 1 / 2 ≤ (num : ℚ) / den) (above : (num : ℚ) / den ≤ m + 1 / 2)
    (tie : (num : ℚ) / den = m - 1 / 2 ∨ (num : ℚ) / den = m + 1 / 2 → m % 2 = 0) :
    roundQuotient num den = m := by
  have denominator : (0 : ℚ) < den := Nat.cast_pos.mpr positive
  rw [le_div_iff₀ denominator] at below
  rw [div_le_iff₀ denominator] at above
  rw [div_eq_iff (ne_of_gt denominator), div_eq_iff (ne_of_gt denominator)] at tie
  apply roundQuotient_of_bounds num den m positive
  · have cast : (2 * (m * den) : ℚ) ≤ 2 * num + den := by linarith
    exact_mod_cast cast
  · have cast : (2 * num : ℚ) ≤ 2 * (m * den) + den := by linarith
    exact_mod_cast cast
  · intro half
    apply tie
    rcases half with low | high
    · left
      have cast : (2 * (m * den) : ℚ) = 2 * num + den := by exact_mod_cast low
      linarith
    · right
      have cast : (2 * num : ℚ) = 2 * (m * den) + den := by exact_mod_cast high
      linarith

/-! ## Rounding -/

theorem quarter_eq (e : Int) : (2 : ℚ) ^ (e - 2) = (2 : ℚ) ^ e / 4 := by
  rw [zpow_sub₀ (by norm_num)]
  norm_num

theorem bounds_of_near (x : Binary64) (v : ℚ) (near : x.Near v) :
    x.neighbourhood.low * (2 : ℚ) ^ (x.exponent - 2) ≤ v ∧
      v ≤ x.neighbourhood.high * (2 : ℚ) ^ (x.exponent - 2) ∧
      (v = x.neighbourhood.low * (2 : ℚ) ^ (x.exponent - 2) ∨
        v = x.neighbourhood.high * (2 : ℚ) ^ (x.exponent - 2) → x.significand % 2 = 0) := by
  rw [Near] at near
  by_cases even : x.significand % 2 = 0
  · have included : x.neighbourhood.endsIncluded = true := decide_eq_true even
    rw [if_pos included] at near
    exact ⟨near.1, near.2, fun _ => even⟩
  · have excluded : ¬ x.neighbourhood.endsIncluded = true := by
      rwa [neighbourhood, decide_eq_true_eq]
    rw [if_neg excluded] at near
    refine ⟨near.1.le, near.2.le, ?_⟩
    intro ends
    rcases ends with low | high
    · exact absurd low (ne_of_gt near.1)
    · exact absurd high (ne_of_lt near.2)

theorem cast_low (x : Binary64) (nonzero : x.significand ≠ 0) :
    (x.neighbourhood.low : ℚ) =
      4 * x.significand - if x.significand = leastFull ∧ -1074 < x.exponent then 1 else 2 := by
  have room : (if x.significand = leastFull ∧ -1074 < x.exponent then 1 else 2) ≤
      4 * x.significand := by
    split <;> omega
  rw [neighbourhood, Nat.cast_sub room]
  push_cast
  rfl

theorem cast_high (x : Binary64) : (x.neighbourhood.high : ℚ) = 4 * x.significand + 2 := by
  rw [neighbourhood]
  push_cast
  rfl

/-- The neighbourhood of a float in units of its last place. -/
theorem units_of_near (x : Binary64) (v : ℚ) (nonzero : x.significand ≠ 0) (near : x.Near v) :
    ((x.significand : ℚ) - 1 / 2 ≤ v / (2 : ℚ) ^ x.exponent ∧
      v / (2 : ℚ) ^ x.exponent ≤ x.significand + 1 / 2) ∧
    (v / (2 : ℚ) ^ x.exponent = x.significand - 1 / 2 ∨
      v / (2 : ℚ) ^ x.exponent = x.significand + 1 / 2 → x.significand % 2 = 0) ∧
    (x.significand = leastFull → -1074 < x.exponent →
      (x.significand : ℚ) - 1 / 4 ≤ v / (2 : ℚ) ^ x.exponent) := by
  have unit := two_zpow_pos x.exponent
  obtain ⟨low, high, tie⟩ := bounds_of_near x v near
  rw [quarter_eq] at low high tie
  rw [cast_low x nonzero] at low tie
  rw [cast_high] at high tie
  generalize (2 : ℚ) ^ x.exponent = u at unit low high tie ⊢
  rw [le_div_iff₀ unit, div_le_iff₀ unit, div_eq_iff unit.ne', div_eq_iff unit.ne',
    le_div_iff₀ unit]
  by_cases power : x.significand = leastFull ∧ -1074 < x.exponent
  · rw [if_pos power] at low tie
    refine ⟨⟨by linarith, by linarith⟩, ?_, fun _ _ => by linarith⟩
    intro ends
    rcases ends with below | above
    · linarith
    · exact tie (.inr (by linarith))
  · rw [if_neg power] at low tie
    refine ⟨⟨by linarith, by linarith⟩, ?_, fun full more => absurd ⟨full, more⟩ power⟩
    intro ends
    rcases ends with below | above
    · exact tie (.inl (by linarith))
    · exact tie (.inr (by linarith))

theorem round?_of_parts (x : Binary64) (num den : Nat) (numerator : 0 < num)
    (exponent : max (-1074) (floorLog2 num den - 52) = x.exponent)
    (significand : roundQuotient (num * twoTo (-x.exponent).toNat) (den * twoTo x.exponent.toNat) =
      x.significand) : round? x.negative num den = some x := by
  have short : x.significand ≠ significandLimit := Nat.ne_of_lt x.canonical.1
  rw [round?, if_neg (Nat.ne_of_gt numerator), exponent]
  simp only [significand, if_neg short]
  exact ofParts?_eq_some x

/-- Under a power of two the significand of the next smaller exponent overflows. -/
theorem round?_of_overflow (x : Binary64) (num den : Nat) (numerator : 0 < num)
    (full : x.significand = leastFull)
    (exponent : max (-1074) (floorLog2 num den - 52) = x.exponent - 1)
    (significand : roundQuotient (num * twoTo (-(x.exponent - 1)).toNat)
      (den * twoTo (x.exponent - 1).toNat) = significandLimit) :
    round? x.negative num den = some x := by
  rw [round?, if_neg (Nat.ne_of_gt numerator), exponent]
  simp only [significand, if_true, sub_add_cancel, ← full]
  exact ofParts?_eq_some x

section Near

variable (x : Binary64) (num den : Nat) (numerator : 0 < num) (denominator : 0 < den)
  (nonzero : x.significand ≠ 0) (near : x.Near ((num : ℚ) / den))

include numerator denominator nonzero near

theorem floorLog2_of_near : floorLog2 num den < 53 + x.exponent := by
  obtain ⟨⟨_, high⟩, _⟩ := units_of_near x _ nonzero near
  have unit := two_zpow_pos x.exponent
  have limit : ((x.significand : ℚ)) + 1 ≤ 2 ^ 53 := by exact_mod_cast x.canonical.1
  have shift := two_zpow_shift 53 x.exponent
  push_cast at shift
  apply floorLog2_lt num den numerator denominator
  rw [div_le_iff₀ unit] at high
  rw [shift]
  nlinarith

/-- The quotient reaches the power of two under the float, or there is none to reach. -/
theorem round?_of_reached
    (reached : x.exponent = -1074 ∨ (2 : ℚ) ^ (52 + x.exponent) ≤ (num : ℚ) / den) :
    round? x.negative num den = some x := by
  obtain ⟨⟨low, high⟩, tie, _⟩ := units_of_near x _ nonzero near
  have less := floorLog2_of_near x num den numerator denominator nonzero near
  have bottom := x.canonical.2.1
  have exponent : max (-1074) (floorLog2 num den - 52) = x.exponent := by
    rcases reached with least | above
    · omega
    · have floor := (floorLog2_spec num den numerator denominator).2
      have more : 52 + x.exponent < floorLog2 num den + 1 :=
        (zpow_lt_zpow_iff_right₀ (by norm_num)).mp (lt_of_le_of_lt above floor)
      omega
  rw [← scaled_quotient num den x.exponent] at low high tie
  exact round?_of_parts x num den numerator exponent
    (roundQuotient_eq _ _ _ (Nat.mul_pos denominator (twoTo_pos _)) low high tie)

/-- The quotient stays under a power of two, which then is the float. -/
theorem round?_of_under (more : x.exponent ≠ -1074)
    (under : (num : ℚ) / den < (2 : ℚ) ^ (52 + x.exponent)) :
    round? x.negative num den = some x := by
  obtain ⟨⟨low, _⟩, _, close⟩ := units_of_near x _ nonzero near
  obtain ⟨_, least, _, filled⟩ := x.canonical
  have unit := two_zpow_pos x.exponent
  have shift := two_zpow_shift 52 x.exponent
  push_cast at shift
  have units : (num : ℚ) / den / (2 : ℚ) ^ x.exponent < 2 ^ 52 := by
    rw [div_lt_iff₀ unit, ← shift]
    exact under
  have full : x.significand = leastFull := by
    have bound : (x.significand : ℚ) < 2 ^ 52 + 1 := by linarith
    have bound : x.significand < leastFull + 1 := by exact_mod_cast bound
    have enough := filled.resolve_right more
    omega
  have size : (x.significand : ℚ) = 2 ^ 52 := by
    rw [full]
    norm_num
  have close := close full (by omega)
  rw [size] at close
  have reaches : (2 : ℚ) ^ (51 + x.exponent) ≤ (num : ℚ) / den := by
    have half := two_zpow_shift 51 x.exponent
    push_cast at half
    rw [le_div_iff₀ unit] at close
    rw [half]
    nlinarith
  have next : (51 : Int) + x.exponent + 1 = 52 + x.exponent := by ring
  have floor := floorLog2_eq num den numerator denominator (51 + x.exponent) reaches
    (by rwa [next])
  have double : (num : ℚ) / den / (2 : ℚ) ^ (x.exponent - 1) =
      2 * ((num : ℚ) / den / (2 : ℚ) ^ x.exponent) := by
    have step := two_zpow_succ (x.exponent - 1)
    rw [sub_add_cancel] at step
    rw [step]
    field_simp
  rw [← scaled_quotient num den (x.exponent - 1)] at double
  apply round?_of_overflow x num den numerator full (by omega)
  apply roundQuotient_eq _ _ _ (Nat.mul_pos denominator (twoTo_pos _))
  · rw [double]
    push_cast
    linarith
  · rw [double]
    push_cast
    linarith
  · intro _
    rfl

/-- A quotient in the neighbourhood of a float is rounded to that float. -/
theorem round?_of_near : round? x.negative num den = some x := by
  by_cases reached : x.exponent = -1074 ∨ (2 : ℚ) ^ (52 + x.exponent) ≤ (num : ℚ) / den
  · exact round?_of_reached x num den numerator denominator nonzero near reached
  · obtain ⟨more, under⟩ := not_or.mp reached
    exact round?_of_under x num den numerator denominator nonzero near more (not_le.mp under)

end Near

end Crosswalk.Binary64
