import Crosswalk.Batch.Pool

/-!
# Ranges that tile an input

`Tiles first ranges stop` says that the ranges follow one another from `first` to `stop`, without
a gap and without an overlap; ranges may be empty.  The ranges that an input is cut into tile it
(`tiles_cut`).  None of them is empty or too large, all but the last are of one size, and there are
no more than the workers or the greatest size ask for (`cut_tiles_evenly`).
-/

set_option autoImplicit false

namespace Crosswalk

inductive Tiles : Nat → List Range → Nat → Prop where
  | nil (first : Nat) : Tiles first [] first
  | cons (range : Range) {rest : List Range} {stop : Nat} (ordered : range.first ≤ range.stop)
      (tail : Tiles range.stop rest stop) : Tiles range.first (range :: rest) stop

namespace Tiles

theorem first_le_stop {first stop : Nat} {ranges : List Range} (tiles : Tiles first ranges stop) :
    first ≤ stop := by
  induction tiles with
  | nil first => exact Nat.le_refl first
  | cons _ ordered _ ih => exact Nat.le_trans ordered ih

/-- The front ranges of a tiling tile what they cover. -/
theorem front {first stop : Nat} {ranges later : List Range}
    (tiles : Tiles first (ranges ++ later) stop) :
    ∃ middle, Tiles first ranges middle ∧ Tiles middle later stop := by
  induction ranges generalizing first with
  | nil => exact ⟨first, .nil first, tiles⟩
  | cons range ranges ih =>
      cases tiles with
      | cons _ ordered tail =>
          obtain ⟨middle, covered, left⟩ := ih tail
          exact ⟨middle, .cons range ordered covered, left⟩

theorem inside {first stop : Nat} {ranges : List Range} (tiles : Tiles first ranges stop)
    (range : Range) (member : range ∈ ranges) : first ≤ range.first ∧ range.stop ≤ stop := by
  induction tiles with
  | nil => cases member
  | cons head ordered tail ih =>
      rcases List.mem_cons.mp member with rfl | later
      · exact ⟨Nat.le_refl _, tail.first_le_stop⟩
      · obtain ⟨above, below⟩ := ih later
        exact ⟨Nat.le_trans ordered above, below⟩

/-- No range of a tiling reaches into a later one. -/
theorem apart {first stop : Nat} {ranges : List Range} (tiles : Tiles first ranges stop) :
    ranges.Pairwise fun a b => a.stop ≤ b.first := by
  induction tiles with
  | nil => exact List.Pairwise.nil
  | cons head _ tail ih =>
      refine List.pairwise_cons.mpr ⟨?_, ih⟩
      intro later member
      exact (tail.inside later member).1

theorem covers_iff {first stop : Nat} {ranges : List Range} (tiles : Tiles first ranges stop)
    (position : Nat) :
    (∃ range ∈ ranges, range.first ≤ position ∧ position < range.stop) ↔
      first ≤ position ∧ position < stop := by
  induction tiles with
  | nil first =>
      simp only [List.not_mem_nil, false_and, exists_false, false_iff]
      omega
  | cons head ordered tail ih =>
      have reach := tail.first_le_stop
      simp only [List.mem_cons, or_and_right, exists_or, exists_eq_left, ih]
      omega

end Tiles

namespace Range

theorem size_pos (total workers : Nat) : 0 < size total workers := by
  simp only [size]
  omega

section Cut
variable (size total : Nat)

theorem cutFrom_of_more (fuel first : Nat) (more : first < total) :
    cutFrom size total (fuel + 1) first =
      ⟨first, min (first + size) total⟩ :: cutFrom size total fuel (first + size) := by
  rw [cutFrom, if_pos more]

theorem cutFrom_of_end (fuel first : Nat) (atEnd : total ≤ first) :
    cutFrom size total fuel first = [] := by
  cases fuel with
  | zero => rfl
  | succ fuel => rw [cutFrom, if_neg (by omega)]

/-- Cutting reaches the end, since every range takes at least one record and so there is fuel
for all of them. -/
theorem tiles_cutFrom (positive : 0 < size) (fuel first : Nat) (inside : first ≤ total)
    (enough : total - first ≤ fuel) : Tiles first (cutFrom size total fuel first) total := by
  induction fuel generalizing first with
  | zero =>
      have atEnd : first = total := by omega
      subst first
      exact .nil total
  | succ fuel ih =>
      by_cases more : first < total
      · rw [cutFrom_of_more size total fuel first more]
        refine Tiles.cons ⟨first, min (first + size) total⟩ (by simp; omega) ?_
        by_cases last : total ≤ first + size
        · rw [cutFrom_of_end size total fuel (first + size) last]
          simp only [Nat.min_eq_right last]
          exact .nil total
        · have whole : min (first + size) total = first + size := Nat.min_eq_left (by omega)
          simp only [whole]
          exact ih (first + size) (by omega) (by omega)
      · have atEnd : first = total := by omega
        subst first
        rw [cutFrom_of_end size total _ total (Nat.le_refl total)]
        exact .nil total

end Cut

/-- The ranges that an input is cut into tile it. -/
theorem tiles_cut (total workers : Nat) : Tiles 0 (cut total workers) total :=
  tiles_cutFrom (size total workers) total (size_pos total workers) total 0 (Nat.zero_le total)
    (Nat.le_refl total)

/-! ## The sizes and the number of the ranges -/

section Sizes
variable (size total : Nat)

theorem length_of_mem_cutFrom (positive : 0 < size) (fuel first : Nat) (range : Range)
    (member : range ∈ cutFrom size total fuel first) :
    1 ≤ range.stop - range.first ∧ range.stop - range.first ≤ size := by
  induction fuel generalizing first with
  | zero => cases member
  | succ fuel ih =>
      by_cases more : first < total
      · rw [cutFrom_of_more size total fuel first more] at member
        rcases List.mem_cons.mp member with rfl | later
        · dsimp only
          omega
        · exact ih (first + size) later
      · rw [cutFrom_of_end size total _ first (by omega)] at member
        cases member

/-- A range that another one follows ends before the end of the input, and so it is whole. -/
theorem length_of_mem_dropLast (fuel first : Nat) (range : Range)
    (member : range ∈ (cutFrom size total fuel first).dropLast) :
    range.stop - range.first = size := by
  induction fuel generalizing first with
  | zero => cases member
  | succ fuel ih =>
      by_cases more : first < total
      · rw [cutFrom_of_more size total fuel first more] at member
        by_cases last : total ≤ first + size
        · rw [cutFrom_of_end size total fuel _ last] at member
          cases member
        · cases tail : cutFrom size total fuel (first + size) with
          | nil =>
              rw [tail] at member
              cases member
          | cons next rest =>
              rw [tail, List.dropLast_cons_cons, ← tail] at member
              rcases List.mem_cons.mp member with rfl | later
              · dsimp only
                omega
              · exact ih (first + size) later
      · rw [cutFrom_of_end size total _ first (by omega)] at member
        cases member

/-- So many ranges are enough as can hold what is left of the input. -/
theorem length_cutFrom_le (fuel first count : Nat) (room : total ≤ first + count * size) :
    (cutFrom size total fuel first).length ≤ count := by
  induction fuel generalizing first count with
  | zero => exact Nat.zero_le count
  | succ fuel ih =>
      by_cases more : first < total
      · cases count with
        | zero =>
            rw [Nat.zero_mul] at room
            omega
        | succ count =>
            have left : total ≤ first + size + count * size := by
              rw [Nat.succ_mul] at room
              omega
            rw [cutFrom_of_more size total fuel first more, List.length_cons]
            exact Nat.succ_le_succ (ih (first + size) count left)
      · rw [cutFrom_of_end size total _ first (by omega)]
        exact Nat.zero_le count

end Sizes

theorem size_le_greatest (total workers : Nat) : size total workers ≤ greatestSize := by
  simp only [size, greatestSize]
  omega

theorem le_ceil_mul (n d : Nat) (positive : 0 < d) : n ≤ (n + d - 1) / d * d := by
  have under := Nat.lt_div_mul_add (a := n + d - 1) positive
  omega

/-- There is a range for every worker, or as many ranges of the greatest size as it takes. -/
theorem length_cut_le (total workers : Nat) :
    (cut total workers).length ≤
      max (max workers 1) ((total + greatestSize - 1) / greatestSize) := by
  have shares := le_ceil_mul total (max workers 1) (by omega)
  have blocks := le_ceil_mul total greatestSize (by decide)
  rw [cut]
  by_cases fits : (total + max workers 1 - 1) / max workers 1 ≤ greatestSize
  · have share : (total + max workers 1 - 1) / max workers 1 ≤ size total workers := by
      simp only [size]
      omega
    have room : total ≤ 0 + max workers 1 * size total workers := by
      rw [Nat.zero_add, Nat.mul_comm]
      exact Nat.le_trans shares (Nat.mul_le_mul_right _ share)
    exact Nat.le_trans (length_cutFrom_le _ _ _ _ _ room) (Nat.le_max_left ..)
  · have whole : size total workers = greatestSize := by
      simp only [size, greatestSize] at fits ⊢
      omega
    rw [whole]
    exact Nat.le_trans (length_cutFrom_le _ _ _ _ _ (by rwa [Nat.zero_add]))
      (Nat.le_max_right ..)

/-- The ranges that an input is cut into follow one another from its start to its end; every
position of the input is in one of them, and none reaches into a later one.  Each holds a record at
least and the greatest size at most, and all but the last are of one size.  There are at most as
many as workers, or as ranges of the greatest size hold the input; without input there are none. -/
theorem cut_tiles_evenly (total workers : Nat) :
    Tiles 0 (cut total workers) total ∧
    (cut total workers).Pairwise (fun a b => a.stop ≤ b.first) ∧
    (∀ position, (∃ range ∈ cut total workers, range.first ≤ position ∧ position < range.stop) ↔
      position < total) ∧
    (∀ range ∈ cut total workers,
      1 ≤ range.stop - range.first ∧ range.stop - range.first ≤ greatestSize) ∧
    (∀ range ∈ (cut total workers).dropLast,
      range.stop - range.first = size total workers) ∧
    (cut total workers).length ≤
      max (max workers 1) ((total + greatestSize - 1) / greatestSize) ∧
    (cut total workers = [] ↔ total = 0) := by
  have tiles := tiles_cut total workers
  refine ⟨tiles, tiles.apart, ?covers, ?sizes, ?even, length_cut_le total workers, ?none⟩
  case covers =>
    intro position
    rw [tiles.covers_iff position]
    omega
  case sizes =>
    intro range member
    obtain ⟨least, most⟩ := length_of_mem_cutFrom (size total workers) total
      (size_pos total workers) total 0 range member
    exact ⟨least, Nat.le_trans most (size_le_greatest total workers)⟩
  case even => exact length_of_mem_dropLast (size total workers) total total 0
  case none =>
    constructor
    · intro empty
      rcases Nat.eq_zero_or_pos total with none | some
      · exact none
      · obtain ⟨range, member, _⟩ := (tiles.covers_iff 0).mpr ⟨Nat.le_refl 0, some⟩
        rw [empty] at member
        cases member
    · rintro rfl
      rfl

example : cut 5 2 = [⟨0, 3⟩, ⟨3, 5⟩] := by decide

/-! ## Slices -/

section Slice
variable {α : Type}

theorem slice_length (range : Range) (records : List α) (inside : range.stop ≤ records.length) :
    (range.slice records).length = range.stop - range.first := by
  simp only [slice, List.length_take, List.length_drop]
  omega

theorem slice_whole (records : List α) :
    (Range.mk 0 records.length).slice records = records := by
  simp [slice]

/-- Two ranges that touch cover the slice from the first of the one to the end of the other. -/
theorem slice_append (first middle stop : Nat) (records : List α) (before : first ≤ middle)
    (after : middle ≤ stop) :
    (Range.mk first middle).slice records ++ (Range.mk middle stop).slice records =
      (Range.mk first stop).slice records := by
  have split : stop - first = (middle - first) + (stop - middle) := by omega
  have moved : first + (middle - first) = middle := by omega
  simp only [slice]
  rw [split, List.take_add, List.drop_drop, moved]

end Slice

end Range

end Crosswalk
