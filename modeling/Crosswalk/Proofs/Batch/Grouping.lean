import Crosswalk.Proofs.Batch.Merge

/-!
# Merging merged reports

Sorting two lists of outcomes one after the other is the same as sorting each and interleaving them
(`inOrder_append`), since a list in order is known by what it has at each index (`eq_of_atIndex`).
Interleaved lists may be cut after their first failures first (`keep_interleave`).  So it makes no
difference whether reports are merged at once or group by group (`merge_groups`), and where every
index comes up once the order of the reports makes none either (`merge_of_perm`).
-/

set_option autoImplicit false

namespace Crosswalk

open Report (merge totalSubmitted upToFailure)

/-! ## Outcomes in order -/

/-- The first of two outcomes may stand before the second. -/
def notAfter (a b : Outcome) : Bool :=
  a.index ≤ b.index

theorem notAfter_trans (a b c : Outcome) (first : notAfter a b = true)
    (second : notAfter b c = true) : notAfter a c = true := by
  simp only [notAfter, decide_eq_true_eq] at first second ⊢
  omega

theorem notAfter_total (a b : Outcome) : (notAfter a b || notAfter b a) = true := by
  simp only [notAfter, Bool.or_eq_true, decide_eq_true_eq]
  omega

def Ordered (outcomes : List Outcome) : Prop :=
  outcomes.Pairwise fun a b => notAfter a b = true

/-- The outcomes with a given index. -/
def atIndex (index : Nat) (outcomes : List Outcome) : List Outcome :=
  outcomes.filter fun outcome => outcome.index == index

theorem atIndex_cons (index : Nat) (outcome : Outcome) (rest : List Outcome) :
    atIndex index (outcome :: rest) =
      if outcome.index = index then outcome :: atIndex index rest else atIndex index rest := by
  simp [atIndex, List.filter_cons]

theorem atIndex_append (index : Nat) (front back : List Outcome) :
    atIndex index (front ++ back) = atIndex index front ++ atIndex index back :=
  List.filter_append front back

theorem mem_of_atIndex_eq (outcome : Outcome) (left right : List Outcome)
    (same : ∀ index, atIndex index left = atIndex index right) (member : outcome ∈ left) :
    outcome ∈ right := by
  have here : outcome ∈ atIndex outcome.index left := List.mem_filter.mpr ⟨member, by simp⟩
  rw [same] at here
  exact (List.mem_filter.mp here).1

/-- A list in order is known by what it has at each index. -/
theorem eq_of_atIndex : ∀ left right : List Outcome, Ordered left → Ordered right →
    (∀ index, atIndex index left = atIndex index right) → left = right := by
  intro left
  induction left with
  | nil =>
      intro right _ _ same
      cases right with
      | nil => rfl
      | cons outcome rest =>
          have member := mem_of_atIndex_eq outcome _ [] (fun index => (same index).symm)
            List.mem_cons_self
          cases member
  | cons a left ih =>
      intro right orderedLeft orderedRight same
      cases right with
      | nil =>
          have member := mem_of_atIndex_eq a _ [] same List.mem_cons_self
          cases member
      | cons b right =>
          -- each head is in the other list, so that neither comes after the other
          have below : notAfter a b = true := by
            have member := mem_of_atIndex_eq b (b :: right) (a :: left)
              (fun index => (same index).symm) List.mem_cons_self
            rcases List.mem_cons.mp member with rfl | later
            · simp [notAfter]
            · exact List.rel_of_pairwise_cons orderedLeft later
          have above : notAfter b a = true := by
            have member := mem_of_atIndex_eq a (a :: left) (b :: right) same List.mem_cons_self
            rcases List.mem_cons.mp member with rfl | later
            · simp [notAfter]
            · exact List.rel_of_pairwise_cons orderedRight later
          have level : b.index = a.index := by
            simp only [notAfter, decide_eq_true_eq] at below above
            omega
          have heads := same a.index
          rw [atIndex_cons, atIndex_cons, if_pos rfl, if_pos level] at heads
          injection heads with head _
          subst head
          have tails : ∀ index, atIndex index left = atIndex index right := by
            intro index
            have both := same index
            rw [atIndex_cons, atIndex_cons] at both
            by_cases here : a.index = index
            · simpa only [if_pos here, List.cons.injEq, true_and] using both
            · simpa only [if_neg here] using both
          rw [ih right orderedLeft.tail orderedRight.tail tails]

/-- The outcomes in the order of the input; those of one index stay as they come. -/
def inOrder (outcomes : List Outcome) : List Outcome :=
  outcomes.mergeSort notAfter

theorem gathered_eq_inOrder (parts : List Report) :
    gathered parts = inOrder (parts.flatMap Report.outcomes) :=
  rfl

theorem ordered_inOrder (outcomes : List Outcome) : Ordered (inOrder outcomes) :=
  List.pairwise_mergeSort notAfter_trans notAfter_total outcomes

theorem inOrder_of_ordered (outcomes : List Outcome) (ordered : Ordered outcomes) :
    inOrder outcomes = outcomes :=
  List.mergeSort_of_pairwise ordered

theorem ordered_atIndex (index : Nat) (outcomes : List Outcome) :
    Ordered (atIndex index outcomes) := by
  apply List.pairwise_of_forall_mem_list
  intro a left b right
  have first := (List.mem_filter.mp left).2
  have second := (List.mem_filter.mp right).2
  simp only [beq_iff_eq] at first second
  simp [notAfter, first, second]

theorem atIndex_inOrder (index : Nat) (outcomes : List Outcome) :
    atIndex index (inOrder outcomes) = atIndex index outcomes := by
  have inside : (atIndex index outcomes).Sublist (inOrder outcomes) :=
    List.sublist_mergeSort notAfter_trans notAfter_total (ordered_atIndex index outcomes)
      List.filter_sublist
  have still : (atIndex index outcomes).Sublist (atIndex index (inOrder outcomes)) := by
    have filtered := inside.filter fun outcome => outcome.index == index
    simpa only [atIndex, List.filter_filter, Bool.and_self] using filtered
  have lengths : (atIndex index (inOrder outcomes)).length = (atIndex index outcomes).length :=
    ((List.mergeSort_perm outcomes notAfter).filter _).length_eq
  exact (still.eq_of_length lengths.symm).symm

/-! ## Interleaved outcomes -/

/-- Two lists in order as one; of outcomes with one index the left ones come first. -/
def interleave (left right : List Outcome) : List Outcome :=
  List.merge left right notAfter

theorem ordered_interleave (left right : List Outcome) (orderedLeft : Ordered left)
    (orderedRight : Ordered right) : Ordered (interleave left right) :=
  List.pairwise_merge notAfter_trans notAfter_total left right orderedLeft orderedRight

theorem atIndex_interleave (index : Nat) (left right : List Outcome) (ordered : Ordered left) :
    atIndex index (interleave left right) = atIndex index left ++ atIndex index right := by
  unfold interleave
  induction left, right using List.merge.induct notAfter with
  | case1 right => simp [atIndex]
  | case2 left _ => simp [atIndex]
  | case3 a left b right before ih =>
      rw [List.cons_merge_cons, if_pos before, atIndex_cons, atIndex_cons _ a,
        ih ordered.tail]
      split <;> rfl
  | case4 a left b right before ih =>
      rw [List.cons_merge_cons, if_neg before, atIndex_cons, atIndex_cons _ b, ih ordered]
      by_cases here : b.index = index
      · -- what is left comes after the right head, and has nothing at its index
        have none : atIndex index (a :: left) = [] := by
          apply List.filter_eq_nil_iff.mpr
          intro outcome member
          have later : notAfter a outcome = true := by
            rcases List.mem_cons.mp member with rfl | inside
            · simp [notAfter]
            · exact List.rel_of_pairwise_cons ordered inside
          simp only [notAfter, decide_eq_true_eq, beq_iff_eq] at before later ⊢
          omega
        simp [here, none]
      · simp [here]

/-- Sorting one list after another is sorting each and interleaving them. -/
theorem inOrder_append (front back : List Outcome) :
    inOrder (front ++ back) = interleave (inOrder front) (inOrder back) := by
  apply eq_of_atIndex
  · exact ordered_inOrder _
  · exact ordered_interleave _ _ (ordered_inOrder front) (ordered_inOrder back)
  · intro index
    rw [atIndex_interleave _ _ _ (ordered_inOrder front), atIndex_inOrder, atIndex_inOrder,
      atIndex_inOrder, atIndex_append]

theorem upToFailure_cons (outcome : Outcome) (rest : List Outcome) :
    upToFailure (outcome :: rest) =
      outcome :: if outcome.failed then [] else upToFailure rest := by
  rw [upToFailure]
  split <;> rfl

/-- What is interleaved up to its first failure is known from either list up to its own. -/
theorem upToFailure_interleave (left right : List Outcome) :
    upToFailure (interleave (upToFailure left) (upToFailure right)) =
      upToFailure (interleave left right) := by
  unfold interleave
  induction left, right using List.merge.induct notAfter with
  | case1 right => simpa [upToFailure] using upToFailure_idempotent right
  | case2 left _ => simpa [upToFailure] using upToFailure_idempotent left
  | case3 a left b right before ih =>
      rw [upToFailure_cons b] at ih ⊢
      rw [upToFailure_cons a, List.cons_merge_cons, if_pos before, List.cons_merge_cons,
        if_pos before, upToFailure_cons, upToFailure_cons]
      by_cases failed : a.failed = true
      · simp [failed]
      · simp [failed, ih]
  | case4 a left b right before ih =>
      rw [upToFailure_cons a] at ih ⊢
      rw [upToFailure_cons b, List.cons_merge_cons, if_neg before, List.cons_merge_cons,
        if_neg before, upToFailure_cons, upToFailure_cons]
      by_cases failed : b.failed = true
      · simp [failed]
      · simp [failed, ih]

theorem keep_interleave (policy : FailurePolicy) (left right : List Outcome) :
    keep policy (interleave (keep policy left) (keep policy right)) =
      keep policy (interleave left right) := by
  cases policy with
  | halt => exact upToFailure_interleave left right
  | collect => rfl

theorem keep_keep (policy : FailurePolicy) (outcomes : List Outcome) :
    keep policy (keep policy outcomes) = keep policy outcomes := by
  cases policy with
  | halt => exact upToFailure_idempotent outcomes
  | collect => rfl

/-! ## Groups of reports -/

theorem gathered_append (front back : List Report) :
    gathered (front ++ back) = interleave (gathered front) (gathered back) := by
  rw [gathered_eq_inOrder, List.flatMap_append, inOrder_append]
  rfl

/-- A merged report has its outcomes in order already. -/
theorem gathered_merge (policy : FailurePolicy) (parts : List Report) :
    gathered [merge policy parts] = keep policy (gathered parts) := by
  have ordered : Ordered (keep policy (gathered parts)) :=
    (ordered_inOrder _).sublist (keep_sublist policy _)
  rw [gathered_eq_inOrder, List.flatMap_cons, List.flatMap_nil, List.append_nil, merge_outcomes,
    inOrder_of_ordered _ ordered]

section Groups
variable (policy : FailurePolicy)

theorem keep_gathered_groups (groups : List (List Report)) :
    keep policy (gathered (groups.map (merge policy))) = keep policy (gathered groups.flatten) := by
  induction groups with
  | nil => rfl
  | cons group groups ih =>
      have front : gathered ((group :: groups).map (merge policy)) =
          interleave (keep policy (gathered group)) (gathered (groups.map (merge policy))) := by
        rw [← gathered_merge, ← gathered_append]
        rfl
      calc keep policy (gathered ((group :: groups).map (merge policy)))
          = keep policy (interleave (keep policy (keep policy (gathered group)))
              (keep policy (gathered (groups.map (merge policy))))) := by
            rw [front, keep_interleave]
        _ = keep policy (interleave (keep policy (gathered group))
              (keep policy (gathered groups.flatten))) := by
            rw [keep_keep, ih]
        _ = keep policy (gathered (group :: groups).flatten) := by
            rw [keep_interleave, List.flatten_cons, gathered_append]

theorem totalSubmitted_append (front back : List Report) :
    totalSubmitted (front ++ back) = totalSubmitted front + totalSubmitted back := by
  induction front with
  | nil => simp [totalSubmitted]
  | cons part front ih =>
      simp only [List.cons_append, totalSubmitted, ih]
      omega

theorem totalSubmitted_groups (groups : List (List Report)) :
    totalSubmitted (groups.map (merge policy)) = totalSubmitted groups.flatten := by
  induction groups with
  | nil => rfl
  | cons group groups ih =>
      rw [List.map_cons, List.flatten_cons, totalSubmitted_append, totalSubmitted, merge_submitted,
        ih]

theorem any_failed_groups (groups : List (List Report)) :
    (gathered (groups.map (merge policy))).any Outcome.failed =
      (gathered groups.flatten).any Outcome.failed := by
  rw [← any_failed_keep policy, keep_gathered_groups, any_failed_keep]

/-- Without a failure that counts, a group is halted as any of its reports is. -/
theorem any_halted_groups (groups : List (List Report))
    (clean : policy = .halt → (gathered groups.flatten).any Outcome.failed = false) :
    (groups.map (merge policy)).any Report.halted = groups.flatten.any Report.halted := by
  rw [List.any_map, List.any_flatten, Bool.eq_iff_iff, List.any_eq_true, List.any_eq_true]
  apply exists_congr
  intro group
  apply and_congr_right
  intro member
  have quiet : policy = .halt → (gathered group).any Outcome.failed = false := by
    intro halting
    have whole := clean halting
    rw [any_failed_gathered, List.any_flatten, List.any_eq_false] at whole
    rw [any_failed_gathered]
    simpa using whole group member
  rw [Function.comp_apply, merge_halted_of_no_failure policy group quiet]

theorem merge_groups (groups : List (List Report)) :
    merge policy (groups.map (merge policy)) = merge policy groups.flatten := by
  apply Report.ext
  · rw [merge_outcomes, merge_outcomes, keep_gathered_groups]
  · by_cases stopped : policy = .halt ∧ (gathered groups.flatten).any Outcome.failed = true
    · obtain ⟨rfl, failure⟩ := stopped
      have inside := (any_failed_groups .halt groups).trans failure
      rw [merge_halted_of_failure _ inside, merge_halted_of_failure _ failure,
        keep_gathered_groups, totalSubmitted_groups]
    · have clean : policy = .halt → (gathered groups.flatten).any Outcome.failed = false := by
        intro halting
        simpa [halting] using stopped
      have inside : policy = .halt →
          (gathered (groups.map (merge policy))).any Outcome.failed = false := by
        intro halting
        rw [any_failed_groups]
        exact clean halting
      rw [merge_halted_of_no_failure policy _ inside, merge_halted_of_no_failure policy _ clean,
        any_halted_groups policy groups clean]
  · rw [merge_submitted, merge_submitted, totalSubmitted_groups]

end Groups

/-! ## The order of reports -/

/-- The outcomes of reports in which no index comes up twice are gathered in one way. -/
theorem gathered_perm (parts others : List Report) (reordered : parts.Perm others)
    (distinct : ((parts.flatMap Report.outcomes).map Outcome.index).Nodup) :
    gathered parts = gathered others := by
  have together : (parts.flatMap Report.outcomes).Perm (gathered others) :=
    (reordered.flatMap_right _).trans (List.mergeSort_perm _ _).symm
  apply gathered_of_perm parts (gathered others) together
  have apart : (gathered others).Pairwise fun a b => a.index ≠ b.index :=
    List.pairwise_map.mp ((together.map Outcome.index).nodup_iff.mp distinct)
  have ordered : Ordered (gathered others) := ordered_inOrder _
  apply (ordered.and apart).imp
  rintro a b ⟨before, other⟩
  simp only [notAfter, decide_eq_true_eq] at before
  omega

theorem merge_of_perm (policy : FailurePolicy) (parts others : List Report)
    (reordered : parts.Perm others)
    (distinct : ((parts.flatMap Report.outcomes).map Outcome.index).Nodup) :
    merge policy parts = merge policy others := by
  rw [merge_eq, merge_eq, gathered_perm parts others reordered distinct,
    totalSubmitted_perm parts others reordered, reordered.any_eq]

/-- Merging the merged reports of groups is merging all reports at once, whatever they hold, and
where no index comes up twice the reports may come in any order. -/
theorem merge_regardless_of_grouping (policy : FailurePolicy) :
    (∀ groups : List (List Report),
      merge policy (groups.map (merge policy)) = merge policy groups.flatten) ∧
    ∀ parts others : List Report, parts.Perm others →
      ((parts.flatMap Report.outcomes).map Outcome.index).Nodup →
        merge policy parts = merge policy others :=
  ⟨merge_groups policy, merge_of_perm policy⟩

/-- A part that was cut after its failure. -/
def earlyAges : Report :=
  ⟨[⟨0, .ok []⟩, ⟨1, .error (.missingField "Age" "$.Age")⟩], true, 3⟩

/-- A part whose failure is not its last outcome, and whose outcomes are not in order. -/
def lateAges : Report :=
  ⟨[⟨4, .ok []⟩, ⟨3, .error (.missingField "Age" "$.Age")⟩], false, 2⟩

theorem merge_ages_regardless_of_grouping :
    merge .halt [merge .halt [lateAges], merge .halt [], merge .halt [earlyAges, earlyAges]] =
      merge .halt [lateAges, earlyAges, earlyAges] ∧
    [lateAges, earlyAges].Perm [earlyAges, lateAges] ∧
    (([lateAges, earlyAges].flatMap Report.outcomes).map Outcome.index).Nodup ∧
    merge .halt [lateAges, earlyAges] = merge .halt [earlyAges, lateAges] := by
  obtain ⟨grouped, reordered⟩ := merge_regardless_of_grouping .halt
  have swapped : [lateAges, earlyAges].Perm [earlyAges, lateAges] := List.Perm.swap _ _ _
  have distinct : (([lateAges, earlyAges].flatMap Report.outcomes).map Outcome.index).Nodup := by
    decide
  exact ⟨grouped [[lateAges], [], [earlyAges, earlyAges]], swapped, distinct,
    reordered _ _ swapped distinct⟩

end Crosswalk
