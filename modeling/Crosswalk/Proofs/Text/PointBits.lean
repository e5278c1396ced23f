import Crosswalk.Text.CodePointSet

/-!
# Code points as the bits of a number

The tables of characters are long, and what is claimed of them is that two share no code point, or
that one holds all of another.  With the code points as the bits of a number each such claim is one
operation on numbers, which the kernel carries out (`apart_of_bits`, `mem_of_bits`,
`holds_of_bits`, `nodup_of_distinctFrom`).
-/

set_option autoImplicit false

namespace Crosswalk.Text

/-- The number whose bits are the points of a list. -/
def bits : List Nat → Nat
  | [] => 0
  | point :: rest => bits rest ||| 1 <<< point

theorem testBit_point (place point : Nat) : (1 <<< place).testBit point = decide (place = point) := by
  rw [Nat.one_shiftLeft, Nat.testBit_two_pow]

theorem testBit_bits (points : List Nat) (point : Nat) :
    (bits points).testBit point = true ↔ point ∈ points := by
  induction points with
  | nil => simp [bits]
  | cons first rest ih =>
      rw [bits, Nat.testBit_or, Bool.or_eq_true, ih, testBit_point, decide_eq_true_eq, List.mem_cons,
        eq_comm, or_comm]

theorem testBit_apart (x y : Nat) (apart : x &&& y = 0) (point : Nat)
    (left : x.testBit point = true) : ¬ y.testBit point = true := by
  have both := Nat.testBit_and x y point
  rw [apart, Nat.zero_testBit, left, Bool.true_and] at both
  rw [← both]
  exact Bool.false_ne_true

theorem testBit_within (x y : Nat) (within : x &&& y = x) (point : Nat)
    (left : x.testBit point = true) : y.testBit point = true := by
  have both := Nat.testBit_and x y point
  rw [within, left, Bool.true_and] at both
  exact both.symm

theorem apart_of_bits (xs ys : List Nat) (apart : bits xs &&& bits ys = 0) :
    ∀ point ∈ xs, point ∉ ys := by
  intro point left right
  exact testBit_apart _ _ apart point ((testBit_bits xs point).mpr left)
    ((testBit_bits ys point).mpr right)

theorem mem_of_bits (xs ys : List Nat) (within : bits xs &&& bits ys = bits xs) :
    ∀ point ∈ xs, point ∈ ys := by
  intro point member
  exact (testBit_bits ys point).mp
    (testBit_within _ _ within point ((testBit_bits xs point).mpr member))

/-! ## Sets -/

namespace CodePointSet

/-- Whether a code point lies in one of the ranges. -/
def Holds (set : CodePointSet) (point : Nat) : Prop :=
  ∃ range ∈ set, range.1 ≤ point ∧ point ≤ range.2

theorem contains_iff (set : CodePointSet) (c : Char) :
    set.contains c = true ↔ set.Holds c.toNat := by
  simp [contains, Holds]

theorem holds_append (first second : CodePointSet) (point : Nat) :
    (first ++ second : CodePointSet).Holds point ↔ first.Holds point ∨ second.Holds point := by
  simp only [Holds, List.mem_append, or_and_right, exists_or]

def bits : CodePointSet → Nat
  | [] => 0
  | range :: rest => bits rest ||| (1 <<< (range.2 + 1 - range.1) - 1) <<< range.1

theorem testBit_range (low high point : Nat) :
    ((1 <<< (high + 1 - low) - 1) <<< low).testBit point = true ↔ low ≤ point ∧ point ≤ high := by
  rw [Nat.testBit_shiftLeft, Nat.one_shiftLeft, Nat.testBit_two_pow_sub_one]
  simp only [Bool.and_eq_true, decide_eq_true_eq, ge_iff_le]
  omega

theorem testBit_bits (set : CodePointSet) (point : Nat) :
    set.bits.testBit point = true ↔ set.Holds point := by
  induction set with
  | nil => simp [bits, Holds]
  | cons range rest ih =>
      rw [bits, Nat.testBit_or, Bool.or_eq_true, ih, testBit_range]
      simp [Holds, or_comm]

end CodePointSet

theorem holds_of_bits (points : List Nat) (set : CodePointSet)
    (within : bits points &&& set.bits = bits points) : ∀ point ∈ points, set.Holds point := by
  intro point member
  exact (CodePointSet.testBit_bits set point).mp
    (testBit_within _ _ within point ((testBit_bits points point).mpr member))

/-! ## Lists without repetition -/

/-- Whether no point occurs twice, nor among the points seen before. -/
def distinctFrom : Nat → List Nat → Bool
  | _, [] => true
  | seen, point :: rest => !seen.testBit point && distinctFrom (seen ||| 1 <<< point) rest

theorem nodup_of_distinctFrom (seen : Nat) (points : List Nat)
    (distinct : distinctFrom seen points = true) :
    points.Nodup ∧ ∀ point ∈ points, seen.testBit point = false := by
  induction points generalizing seen with
  | nil => exact ⟨List.nodup_nil, by simp⟩
  | cons point rest ih =>
      simp only [distinctFrom, Bool.and_eq_true, Bool.not_eq_true'] at distinct
      obtain ⟨fresh, later⟩ := distinct
      obtain ⟨nodup, unseen⟩ := ih _ later
      have outside : ∀ other ∈ rest, seen.testBit other = false ∧ point ≠ other := by
        intro other member
        have absent := unseen other member
        rw [Nat.testBit_or, testBit_point, Bool.or_eq_false_iff, decide_eq_false_iff_not] at absent
        exact absent
      refine ⟨List.nodup_cons.mpr ⟨fun member => (outside point member).2 rfl, nodup⟩, ?_⟩
      intro other member
      rcases List.mem_cons.mp member with rfl | inside
      · exact fresh
      · exact (outside other inside).1

end Crosswalk.Text
