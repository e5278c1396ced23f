import Crosswalk.Coercion
import Crosswalk.Proofs.Number.Value

/-!
# Numbers are converted without loss

A number is converted to a float if some float has exactly its value (`toFloat?_number`), to an
integer if its value is an integer of 64 bits with a sign (`toInteger?_number`), and to a truth
value if it is zero or one (`toFlag?_number`); what comes out has the value that went in.  An
integer that goes the way over its float may be rounded there, but neither into the range of the
integers with a sign (`wordOfNumber?_integer`) nor to zero or one (`flagOfFloat?_ofInt?`).
-/

set_option autoImplicit false

namespace Crosswalk.Coercion

theorem convert_eq_ok_iff (field : String) (kind : Kind) (value converted : Json) :
    convert field kind value = .ok converted ↔ convert? kind value = some converted := by
  rw [convert]
  cases convert? kind value <;> simp

/-! ## Floats -/

theorem exactFloat?_eq_some_iff (n : Int) (x : Binary64) :
    exactFloat? n = some x ↔ Binary64.ofInt? n = some x ∧ x.value = n := by
  rw [exactFloat?, Option.filter_eq_some_iff, beq_iff_eq, Binary64.toInt?_eq_some_iff]

/-- A number becomes a float of its value if there is one, and else none. -/
theorem toFloat?_number (v : Number) :
    match toFloat? (.number v) with
    | some x => x.value = v.value
    | none => ∀ x : Binary64, x.value ≠ v.value := by
  cases v with
  | float x => rfl
  | integer n fits =>
      cases found : exactFloat? n with
      | some x =>
          simp only [toFloat?, found]
          exact ((exactFloat?_eq_some_iff n x).mp found).2
      | none =>
          simp only [toFloat?, found]
          intro x same
          have whole : x.toInt? = some n := (x.toInt?_eq_some_iff n).mpr same
          obtain ⟨y, rounded, exact⟩ := Binary64.ofInt?_exact x n whole
          have again := (exactFloat?_eq_some_iff n y).mpr
            ⟨rounded, (y.toInt?_eq_some_iff n).mp exact⟩
          rw [found] at again
          cases again

/-! ## Integers -/

theorem fitsSignedWord_iff (n : Int) :
    fitsSignedWord n = true ↔ -(2 : Int) ^ 63 ≤ n ∧ n < 2 ^ 63 := by
  simp only [fitsSignedWord, signedWordLimit, Bool.and_eq_true, decide_eq_true_eq]
  norm_num

theorem float_of_least :
    ∃ x, Binary64.ofInt? (-(signedWordLimit : Int)) = some x ∧ x.value = -(2 : ℚ) ^ 63 := by
  refine ⟨⟨true, leastFull, 11, by decide⟩, by rfl, ?_⟩
  have value := (Binary64.toInt?_eq_some_iff ⟨true, leastFull, 11, by decide⟩
    (-9223372036854775808)).mp (by rfl)
  rw [value]
  norm_num

/-- The greatest integer with a sign is rounded up. -/
theorem float_of_greatest :
    ∃ x, Binary64.ofInt? (signedWordLimit - 1) = some x ∧ x.value = (2 : ℚ) ^ 63 := by
  refine ⟨⟨false, leastFull, 11, by decide⟩, by rfl, ?_⟩
  have value := (Binary64.toInt?_eq_some_iff ⟨false, leastFull, 11, by decide⟩
    9223372036854775808).mp (by rfl)
  rw [value]
  norm_num

theorem cutToSignedWord_eq (n : Int) (fits : fitsSignedWord n = true) : cutToSignedWord n = n := by
  rw [fitsSignedWord, Bool.and_eq_true, decide_eq_true_eq, decide_eq_true_eq] at fits
  rw [cutToSignedWord]
  omega

/-- The comparisons with the rounded limits keep the integers between the limits. -/
theorem wordOfFloat?_eq (x : Binary64) : wordOfFloat? x = x.toInt?.filter fitsSignedWord := by
  obtain ⟨least, lowest, least_value⟩ := float_of_least
  obtain ⟨greatest, highest, greatest_value⟩ := float_of_greatest
  have unfolded : wordOfFloat? x = if !x.isWhole || x.lt least || greatest.le x then none
      else some (cutToSignedWord x.truncate) := by
    simp only [wordOfFloat?, lowest, highest]
    rfl
  rw [unfolded, Binary64.toInt?]
  cases whole : x.isWhole with
  | false => rfl
  | true =>
      have value : x.value = x.truncate := (x.isWhole_and_iff x.truncate).mp ⟨whole, rfl⟩
      have below : x.lt least = true ↔ x.truncate < -(2 : Int) ^ 63 := by
        rw [Binary64.lt_iff, value, least_value]
        norm_cast
      have beyond : greatest.le x = true ↔ (2 : Int) ^ 63 ≤ x.truncate := by
        rw [Binary64.le_iff, value, greatest_value]
        norm_cast
      have outside : (x.lt least || greatest.le x) = true ↔ ¬ fitsSignedWord x.truncate = true := by
        rw [Bool.or_eq_true, below, beyond, fitsSignedWord_iff]
        omega
      rw [Bool.not_true, Bool.false_or, if_pos rfl]
      by_cases inside : fitsSignedWord x.truncate = true
      · rw [if_neg (outside.not_left.mpr inside), cutToSignedWord_eq _ inside]
        exact (Option.filter_some_pos inside).symm
      · rw [if_pos (outside.mpr inside)]
        exact (Option.filter_some_neg (by simpa using inside)).symm

theorem wordOfFloat?_eq_some_iff (x : Binary64) (n : Int) :
    wordOfFloat? x = some n ↔ x.value = n ∧ -(2 : Int) ^ 63 ≤ n ∧ n < 2 ^ 63 := by
  rw [wordOfFloat?_eq, Option.filter_eq_some_iff, Binary64.toInt?_eq_some_iff, fitsSignedWord_iff]

/-- An integer that is too great for a sign is not rounded to a float that is not. -/
theorem wordOfFloat?_ofInt? (n : Int) (great : (2 : Int) ^ 63 ≤ n) :
    (Binary64.ofInt? n).bind wordOfFloat? = none := by
  rw [Option.bind_eq_none_iff]
  intro x rounded
  have reached := Binary64.le_abs_value_of_ofInt? n x rounded 63 (by omega)
  rw [abs_of_nonneg (Binary64.value_nonneg_of_ofInt? n x rounded (by omega))] at reached
  by_contra taken
  obtain ⟨m, word⟩ := Option.ne_none_iff_exists'.mp taken
  obtain ⟨value, _, below⟩ := (wordOfFloat?_eq_some_iff x m).mp word
  rw [value] at reached
  have above : (2 : Int) ^ 63 ≤ m := by exact_mod_cast reached
  omega

theorem wordOfNumber?_integer (n : Int) (fits : FitsWord n) :
    wordOfNumber? (.integer n fits) = if n < signedWordLimit then some n else none := by
  rw [wordOfNumber?, Number.signedWord?]
  by_cases small : n < signedWordLimit
  · simp only [if_pos small]
  · have great : (2 : Int) ^ 63 ≤ n := by
      simp only [signedWordLimit] at small
      omega
    simp only [if_neg small]
    exact wordOfFloat?_ofInt? n great

theorem toInteger?_number (v : Number) (n : Int) :
    toInteger? (.number v) = some n ↔ v.value = n ∧ -(2 : Int) ^ 63 ≤ n ∧ n < 2 ^ 63 := by
  cases v with
  | float x => exact wordOfFloat?_eq_some_iff x n
  | integer m fits =>
      have same : (Number.integer m fits).value = (n : ℚ) ↔ m = n := Int.cast_inj
      rw [same, ← fitsSignedWord_iff, toInteger?, wordOfNumber?_integer]
      split
      · rename_i small
        rw [Option.some.injEq, iff_self_and]
        rintro rfl
        simp only [fitsSignedWord, Bool.and_eq_true, decide_eq_true_eq]
        exact ⟨fits.1, small⟩
      · rename_i great
        refine iff_of_false (by simp) ?_
        rintro ⟨rfl, small⟩
        simp only [fitsSignedWord, Bool.and_eq_true, decide_eq_true_eq] at small
        exact great small.2

theorem fitsWord_of_signed (n : Int) (least : -(2 : Int) ^ 63 ≤ n) (greatest : n < 2 ^ 63) :
    FitsWord n := by
  rw [FitsWord]
  norm_num [signedWordLimit, wordLimit] at least greatest ⊢
  omega

/-! ## Truth values -/

theorem one_value : one.value = 1 := by
  have whole : one.toInt? = some 1 := by decide
  simpa using (Binary64.toInt?_eq_some_iff one 1).mp whole

theorem zero_value (negative : Bool) : (Binary64.zero negative).value = 0 :=
  (Binary64.isZero_iff _).mp rfl

/-- The choice between two cases of which not both hold. -/
theorem flag_eq_some_iff (isOne isZero : Prop) [Decidable isOne] [Decidable isZero]
    (apart : isOne → ¬ isZero) (flag : Bool) :
    (if isOne then some true else if isZero then some false else none) = some flag ↔
      if flag then isOne else isZero := by
  by_cases first : isOne
  · have second := apart first
    cases flag <;> simp [first, second]
  · by_cases second : isZero
    · cases flag <;> simp [first, second]
    · cases flag <;> simp [first, second]

theorem flagOfFloat?_eq_some_iff (x : Binary64) (flag : Bool) :
    flagOfFloat? x = some flag ↔ x.value = if flag then 1 else 0 := by
  have first : x.equals one = true ↔ x.value = 1 := by rw [x.equals_iff, one_value]
  have second : x.equals (Binary64.zero false) = true ↔ x.value = 0 := by
    rw [x.equals_iff, zero_value]
  rw [flagOfFloat?, flag_eq_some_iff, first, second]
  · cases flag <;> simp
  · rw [first, second]
    intro isOne isZero
    rw [isOne] at isZero
    exact one_ne_zero isZero

/-- An integer is rounded to zero or one only if it is that. -/
theorem value_of_ofInt?_eq_flag_iff (n : Int) (x : Binary64)
    (rounded : Binary64.ofInt? n = some x) (flag : Bool) :
    (x.value = if flag then 1 else 0) ↔ n = if flag then 1 else 0 := by
  by_cases great : 2 ≤ n.natAbs
  · have reached := Binary64.le_abs_value_of_ofInt? n x rounded 1 (by omega)
    refine iff_of_false ?_ ?_
    · intro same
      rw [same] at reached
      cases flag <;> norm_num at reached
    · intro same
      cases flag <;> simp [same] at great
  · have value : x.value = n := by
      have small : n = -1 ∨ n = 0 ∨ n = 1 := by omega
      rcases small with rfl | rfl | rfl
      · cases rounded
        exact (Binary64.toInt?_eq_some_iff _ (-1)).mp (by rfl)
      · cases rounded
        simpa using zero_value false
      · cases rounded
        exact (Binary64.toInt?_eq_some_iff _ 1).mp (by rfl)
    rw [value]
    cases flag <;> norm_cast

theorem flagOfFloat?_ofInt? (n : Int) (flag : Bool) :
    (Binary64.ofInt? n).bind flagOfFloat? = some flag ↔ n = if flag then 1 else 0 := by
  rw [Option.bind_eq_some_iff]
  constructor
  · rintro ⟨x, rounded, read⟩
    exact (value_of_ofInt?_eq_flag_iff n x rounded flag).mp
      ((flagOfFloat?_eq_some_iff x flag).mp read)
  · intro same
    have fits : ∃ x, Binary64.ofInt? n = some x := by
      rw [same]
      cases flag with
      | false => exact ⟨_, rfl⟩
      | true => exact ⟨_, rfl⟩
    obtain ⟨x, rounded⟩ := fits
    exact ⟨x, rounded, (flagOfFloat?_eq_some_iff x flag).mpr
      ((value_of_ofInt?_eq_flag_iff n x rounded flag).mpr same)⟩

theorem toFlag?_number (v : Number) (flag : Bool) :
    toFlag? (.number v) = some flag ↔ v.value = if flag then 1 else 0 := by
  cases v with
  | integer n fits =>
      have value : ((Number.integer n fits).value = if flag then 1 else 0) ↔
          n = if flag then 1 else 0 := by
        rw [Number.value]
        cases flag <;> norm_cast
      rw [value]
      exact flagOfFloat?_ofInt? n flag
  | float x => exact flagOfFloat?_eq_some_iff x flag

/-! ## All conversions of numbers -/

section Conversion
variable (field : String) (v : Number) (converted : Json)

theorem convert_float_iff :
    convert field .float (.number v) = .ok converted ↔
      ∃ x, converted = .number (.float x) ∧ toFloat? (.number v) = some x := by
  rw [convert_eq_ok_iff, convert?, Option.map_eq_some_iff]
  apply exists_congr
  intro x
  rw [and_comm, eq_comm]

theorem convert_integer_iff :
    convert field .integer (.number v) = .ok converted ↔
      ∃ (n : Int) (fits : FitsWord n), converted = .number (.integer n fits) ∧ v.value = n ∧
        -(2 : Int) ^ 63 ≤ n ∧ n < 2 ^ 63 := by
  rw [convert_eq_ok_iff, convert?, Option.map_eq_some_iff]
  constructor
  · rintro ⟨number, chosen, rfl⟩
    obtain ⟨n, read, made⟩ := Option.bind_eq_some_iff.mp chosen
    obtain ⟨same, least, greatest⟩ := (toInteger?_number v n).mp read
    have fits := fitsWord_of_signed n least greatest
    rw [Number.ofInt?, dif_pos fits, Option.some.injEq] at made
    exact ⟨n, fits, by rw [made], same, least, greatest⟩
  · rintro ⟨n, fits, rfl, same, least, greatest⟩
    have read := (toInteger?_number v n).mpr ⟨same, least, greatest⟩
    exact ⟨.integer n fits, Option.bind_eq_some_iff.mpr ⟨n, read, dif_pos fits⟩, rfl⟩

theorem convert_boolean_iff :
    convert field .boolean (.number v) = .ok converted ↔
      ∃ flag : Bool, converted = .bool flag ∧ v.value = if flag then 1 else 0 := by
  rw [convert_eq_ok_iff, convert?, Option.map_eq_some_iff]
  apply exists_congr
  intro flag
  rw [toFlag?_number, and_comm, eq_comm]

end Conversion

/-- A number becomes a float of exactly its value, if there is one; it becomes the integer of
exactly its value, if there is one of 64 bits with a sign; and it becomes a truth value if it is zero
or one. -/
theorem numbers_convert_exactly (field : String) (v : Number) :
    ((∃ converted, convert field .float (.number v) = .ok converted) ↔
      ∃ x : Binary64, x.value = v.value) ∧
    (∀ converted, convert field .float (.number v) = .ok converted →
      ∃ x : Binary64, converted = .number (.float x) ∧ x.value = v.value) ∧
    (∀ converted, convert field .integer (.number v) = .ok converted ↔
      ∃ (n : Int) (fits : FitsWord n), converted = .number (.integer n fits) ∧ v.value = n ∧
        -(2 : Int) ^ 63 ≤ n ∧ n < 2 ^ 63) ∧
    ∀ converted, convert field .boolean (.number v) = .ok converted ↔
      ∃ flag : Bool, converted = .bool flag ∧ v.value = if flag then 1 else 0 := by
  have floats := toFloat?_number v
  have exact : ∀ converted, convert field .float (.number v) = .ok converted →
      ∃ x : Binary64, converted = .number (.float x) ∧ x.value = v.value := by
    intro converted conversion
    obtain ⟨x, rfl, found⟩ := (convert_float_iff field v converted).mp conversion
    rw [found] at floats
    exact ⟨x, rfl, floats⟩
  refine ⟨?_, exact, convert_integer_iff field v, convert_boolean_iff field v⟩
  constructor
  · rintro ⟨converted, conversion⟩
    obtain ⟨x, _, same⟩ := exact converted conversion
    exact ⟨x, same⟩
  · rintro ⟨x, same⟩
    cases found : toFloat? (.number v) with
    | none =>
        rw [found] at floats
        exact absurd same (floats x)
    | some y => exact ⟨_, (convert_float_iff field v _).mpr ⟨y, rfl, found⟩⟩

/-- `2 ^ 63` is no integer with a sign but becomes the float that it is; of the integer after
`2 ^ 53` there is no float, and it is refused. -/
theorem great_integers_convert_exactly :
    (∃ x : Binary64,
      convert "Income" .float (.number (.integer 9223372036854775808 (by decide))) =
        .ok (.number (.float x)) ∧ x.value = 9223372036854775808) ∧
    (∀ converted, convert "Income" .float (.number (.integer 9007199254740993 (by decide))) ≠
      .ok converted) ∧
    ¬ ∃ x : Binary64, x.value = 9007199254740993 := by
  have taken : convert "Income" .float
      (.number (.integer 9223372036854775808 (by decide))) =
        .ok (.number (.float ⟨false, leastFull, 11, by decide⟩)) := by rfl
  have refused : ∀ converted, convert "Income" .float
      (.number (.integer 9007199254740993 (by decide))) ≠ .ok converted := by
    intro converted
    have none : convert? .float (.number (.integer 9007199254740993 (by decide))) = none := by
      decide
    rw [ne_eq, convert_eq_ok_iff, none]
    simp
  obtain ⟨_, value, _⟩ := numbers_convert_exactly "Income" (.integer 9223372036854775808 (by decide))
  obtain ⟨exact, _⟩ := numbers_convert_exactly "Income" (.integer 9007199254740993 (by decide))
  refine ⟨?_, refused, ?_⟩
  · obtain ⟨x, same, exactly⟩ := value _ taken
    exact ⟨x, taken.trans (congrArg Except.ok same), by simpa [Number.value] using exactly⟩
  · rintro ⟨x, same⟩
    obtain ⟨converted, conversion⟩ := exact.mpr ⟨x, by simpa [Number.value] using same⟩
    exact refused converted conversion

end Crosswalk.Coercion
