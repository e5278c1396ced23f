import Crosswalk.Mask.BuiltIn
import Crosswalk.Proofs.Text.Respelling

/-!
# Title case

The title case of a small letter begins with a capital whose lower case is a letter with that
capital as its title case again (`Returns`, `titleChar_returns`).  The letter need not be the one
from before: the long s becomes a capital S, and that a plain s.

For most capitals this is so because they lie on a run of the upper case that a run of the lower
case leads back (`twoWay`); the few others are listed one by one (`strays`).
-/

set_option autoImplicit false

namespace Crosswalk.Mask

open Text

/-! ## The title case of one character -/

/-- The letters whose title case is not taken from their upper case. -/
def ownTitles : CodePointSet :=
  (digraphs.map fun pair => (pair.1.toNat, pair.1.toNat)) ++ untitled

theorem titleChar_of_digraph (c titled : Char) (found : digraphs.lookup c = some titled) :
    titleChar c = [titled] := by
  rw [titleChar, found]

theorem titleChar_of_untitled (c : Char) (single : digraphs.lookup c = none)
    (untitled : untitled.contains c = true) : titleChar c = [c] := by
  rw [titleChar, single]
  exact if_pos untitled

theorem titleChar_of_plain (c : Char) (plain : ¬ ownTitles.Holds c.toNat) (first : Char)
    (rest : List Char) (upper : upperChar c = first :: rest) :
    titleChar c = first :: rest.flatMap lowerChar := by
  have single : digraphs.lookup c = none := by
    rw [List.lookup_eq_none_iff]
    intro pair member
    rw [bne_iff_ne]
    rintro rfl
    exact plain ⟨_, List.mem_append_left _ (List.mem_map_of_mem member), Nat.le_refl _, Nat.le_refl _⟩
  have titled : ¬ untitled.contains c = true := by
    intro inside
    exact plain ((CodePointSet.holds_append _ _ _).mpr
      (Or.inr ((CodePointSet.contains_iff untitled c).mp inside)))
  rw [titleChar, single]
  simp only [if_neg titled, upper]

theorem titleChar_cases (c : Char) :
    (∃ titled, (c, titled) ∈ digraphs ∧ titleChar c = [titled]) ∨ titleChar c = [c] ∨
      ¬ ownTitles.Holds c.toNat := by
  cases found : digraphs.lookup c with
  | some titled =>
      obtain ⟨before, after, split, _⟩ := List.lookup_eq_some_iff.mp found
      exact Or.inl ⟨titled, by simp [split], titleChar_of_digraph c titled found⟩
  | none =>
      by_cases inside : untitled.contains c = true
      · exact Or.inr (Or.inl (titleChar_of_untitled c found inside))
      · refine Or.inr (Or.inr fun own => ?_)
        rcases (CodePointSet.holds_append _ _ _).mp own with ⟨range, member, low, high⟩ | other
        · obtain ⟨pair, listed, rfl⟩ := List.mem_map.mp member
          have same : c = pair.1 := by
            rw [← Char.ofNat_toNat c, ← Char.ofNat_toNat pair.1]
            exact congrArg Char.ofNat (Nat.le_antisymm high low)
          have differs := List.lookup_eq_none_iff.mp found pair listed
          simp [same] at differs
        · exact inside ((CodePointSet.contains_iff untitled c).mpr other)

/-! ## Capitals and their letters -/

/-- The lower case of the character is a letter whose title case is the character. -/
def Returns (capital : Char) : Prop :=
  ∃ c, lowerChar capital = [c] ∧ isLetter c = true ∧ titleChar c = [capital]

/-- The first characters of title cases taken from the upper case. -/
def capitals : List Nat :=
  upperTable.filterMap fun entry =>
    if ownTitles.bits.testBit entry.1 then none else entry.2.head?

def reversed (run : CaseRun) : CaseRun :=
  ⟨run.target, run.count, run.stride, run.first⟩

def sameRun (run other : CaseRun) : Bool :=
  run.first == other.first && run.count == other.count && run.stride == other.stride
    && run.target == other.target

/-- The runs of the upper case that the lower case runs back. -/
def twoWay : List CaseRun :=
  upperRuns.filter fun run =>
    !ownTitles.bits.testBit run.first && lowerRuns.any (sameRun (reversed run))

def twoWayTable : CaseTable :=
  twoWay.flatMap CaseRun.entries

/-- First characters of title cases that lie on no such run, with their lower case. -/
def strays : List (Char × Char) :=
  [('Ǎ', 'ǎ'), ('Ǐ', 'ǐ'), ('Ǒ', 'ǒ'), ('Ǔ', 'ǔ'), ('Ǖ', 'ǖ'), ('Ǘ', 'ǘ'), ('Ǚ', 'ǚ'), ('Ǜ', 'ǜ'),
    ('Ǵ', 'ǵ'), ('ʼ', 'ʼ'), ('ǅ', 'ǆ'), ('ǈ', 'ǉ'), ('ǋ', 'ǌ'), ('ǲ', 'ǳ')]

-- One computation for both, since most of the work is to filter the runs.
theorem capitals_and_twoWay :
    bits capitals &&& bits (twoWayTable.outputs ++ strays.map fun pair => pair.1.toNat)
        = bits capitals ∧
      bits twoWayTable.keys &&& ownTitles.bits = 0 := by
  decide +kernel

theorem returns_of_stray (pair : Char × Char) (member : pair ∈ strays) : Returns pair.1 := by
  have back : ∀ pair ∈ strays, lowerChar pair.1 = [pair.2] ∧ isLetter pair.2 = true ∧
      titleChar pair.2 = [pair.1] := by
    decide +kernel
  exact ⟨pair.2, back pair member⟩

theorem eq_of_sameRun (run other : CaseRun) (same : sameRun run other = true) : run = other := by
  simp only [sameRun, Bool.and_eq_true, beq_iff_eq] at same
  obtain ⟨⟨⟨first, count⟩, stride⟩, target⟩ := same
  cases run
  cases other
  simp_all

theorem mem_twoWay (run : CaseRun) (member : run ∈ twoWay) :
    run ∈ upperRuns ∧ reversed run ∈ lowerRuns := by
  obtain ⟨upper, back⟩ := List.mem_filter.mp member
  obtain ⟨other, lower, same⟩ := List.any_eq_true.mp (Bool.and_eq_true_iff.mp back).2
  rw [eq_of_sameRun (reversed run) other same]
  exact ⟨upper, lower⟩

theorem mem_twoWayTable (point : Nat) (images : List Nat) (member : (point, images) ∈ twoWayTable) :
    ∃ image, images = [image] ∧ (point, [image]) ∈ upperTable ∧ (image, [point]) ∈ lowerTable := by
  obtain ⟨run, listed, entry⟩ := List.mem_flatMap.mp member
  obtain ⟨upper, lower⟩ := mem_twoWay run listed
  obtain ⟨i, less, same⟩ := List.mem_map.mp entry
  cases same
  refine ⟨_, rfl, ?_, ?_⟩
  · exact List.mem_append_right _ (List.mem_flatMap.mpr ⟨run, upper, entry⟩)
  · exact List.mem_append_right _ (List.mem_flatMap.mpr
      ⟨reversed run, lower, List.mem_map.mpr ⟨i, less, rfl⟩⟩)

theorem returns_of_twoWay (point : Nat) (images : List Nat)
    (member : (point, images) ∈ twoWayTable) (capital : Nat) (image : capital ∈ images) :
    Returns (Char.ofNat capital) := by
  obtain ⟨image, rfl, upper, lower⟩ := mem_twoWayTable point images member
  cases List.mem_singleton.mp image
  have key : point ∈ upperTable.keys := List.mem_map.mpr ⟨_, upper, rfl⟩
  have output : capital ∈ upperTable.outputs :=
    List.mem_flatMap.mpr ⟨_, upper, List.mem_singleton.mpr rfl⟩
  have letter := upperTable_sound.listed point key
  have small : (Char.ofNat point).toNat = point :=
    toNat_of_word point ((CodePointSet.holds_append _ _ _).mpr (Or.inl letter))
  have large : (Char.ofNat capital).toNat = capital :=
    toNat_of_word capital (upperTable_sound.words capital output)
  have plain : ¬ ownTitles.Holds (Char.ofNat point).toNat := by
    have listed : point ∈ twoWayTable.keys := List.mem_map.mpr ⟨_, member, rfl⟩
    rw [small, ← CodePointSet.testBit_bits]
    exact testBit_apart _ _ capitals_and_twoWay.2 point ((testBit_bits _ point).mpr listed)
  refine ⟨Char.ofNat point, ?_, ?_, ?_⟩
  · rw [lowerChar_eq_respell]
    exact respell_of_mem lowerTable lowerTable_sound _ [point] (large.symm ▸ lower)
  · exact (CodePointSet.contains_iff letters _).mpr (small.symm ▸ letter)
  · apply titleChar_of_plain _ plain _ []
    rw [upperChar_eq_respell]
    exact respell_of_mem upperTable upperTable_sound _ [capital] (small.symm ▸ upper)

theorem returns_of_capital (capital : Nat) (member : capital ∈ capitals) :
    Returns (Char.ofNat capital) := by
  have found := mem_of_bits _ _ capitals_and_twoWay.1 capital member
  rcases List.mem_append.mp found with output | stray
  · obtain ⟨⟨point, images⟩, entry, image⟩ := List.mem_flatMap.mp output
    exact returns_of_twoWay point images entry capital image
  · obtain ⟨pair, listed, rfl⟩ := List.mem_map.mp stray
    rw [Char.ofNat_toNat]
    exact returns_of_stray pair listed

theorem returns_of_upper (c : Char) (plain : ¬ ownTitles.Holds c.toNat) (first : Nat)
    (rest : List Nat) (member : (c.toNat, first :: rest) ∈ upperTable) :
    Returns (Char.ofNat first) := by
  apply returns_of_capital
  refine List.mem_filterMap.mpr ⟨_, member, ?_⟩
  rw [if_neg]
  · rfl
  · rwa [CodePointSet.testBit_bits]

/-- Wherever the lower case of such a capital is taken, the title case leads back to it; the final
sigma has the same title as the other one. -/
theorem lowerCharBetween_of_returns (capital : Char) (returns : Returns capital)
    (before after : List Char) :
    ∃ c, lowerCharBetween before capital after = [c] ∧ isLetter c = true ∧
      titleChar c = [capital] := by
  unfold lowerCharBetween
  split
  case isTrue sigma =>
    subst sigma
    have both : (isLetter 'ς' = true ∧ titleChar 'ς' = ['Σ']) ∧
        isLetter 'σ' = true ∧ titleChar 'σ' = ['Σ'] := by
      decide +kernel
    refine ⟨_, rfl, ?_⟩
    split
    · exact both.1
    · exact both.2
  case isFalse => exact returns

/-- The title case of a small letter: a capital that returns, and small letters and marks. -/
theorem titleChar_returns (c : Char) (letter : isLetter c = true) (small : Small c) :
    ∃ first rest, titleChar c = first :: rest ∧ Returns first ∧
      ∀ d ∈ rest, Small d ∧ isWordChar d = true := by
  have itself : titleChar c = [c] → ∃ first rest, titleChar c = first :: rest ∧ Returns first ∧
      ∀ d ∈ rest, Small d ∧ isWordChar d = true :=
    fun same => ⟨c, [], same, ⟨c, small, letter, same⟩, by simp⟩
  rcases titleChar_cases c with ⟨titled, listed, single⟩ | same | plain
  · have known : ∀ pair ∈ digraphs, pair.2 ∈ strays.map Prod.fst := by decide
    obtain ⟨pair, stray, first⟩ := List.mem_map.mp (known _ listed)
    refine ⟨titled, [], single, ?_, by simp⟩
    rw [← show pair.1 = titled from first]
    exact returns_of_stray pair stray
  · exact itself same
  · rcases respell_cases upperTable upperTable_sound c with ⟨_, same⟩ | ⟨images, entry, mapped⟩
    · rw [← upperChar_eq_respell] at same
      exact itself (titleChar_of_plain c plain c [] same)
    · obtain ⟨first, rest, rfl⟩ := List.exists_cons_of_ne_nil (upperTable_sound.filled _ entry)
      have words : ∀ d ∈ respell upperTable c, isWordChar d = true :=
        respell_words upperTable upperTable_sound c (isWordChar_of_isLetter c letter)
      rw [mapped, List.map_cons] at words
      rw [← upperChar_eq_respell] at mapped
      refine ⟨_, _, titleChar_of_plain c plain _ _ mapped,
        returns_of_upper c plain first rest entry, ?_⟩
      intro d member
      obtain ⟨x, inside, image⟩ := List.mem_flatMap.mp member
      exact ⟨small_of_lowerChar x d image,
        isWordChar_of_lowerChar x d (words x (List.mem_cons_of_mem _ inside)) image⟩

example : titleChar 'ſ' = ['S'] ∧ lowerChar 'S' = ['s'] ∧ titleChar 's' = ['S'] := by
  decide +kernel

theorem replaces_titleChar (c : Char) : Replaces c (titleChar c) := by
  rcases titleChar_cases c with ⟨titled, listed, single⟩ | same | plain
  · have words : ∀ pair ∈ digraphs, isWordChar pair.1 = true ∧ isWordChar pair.2 = true := by
      decide +kernel
    obtain ⟨word, image⟩ := words _ listed
    rw [single, replaces_word c _ word]
    simpa using image
  · rw [same]
    exact replaces_self c
  · obtain ⟨first, rest, upper⟩ := List.exists_cons_of_ne_nil (upperChar_ne_nil c)
    have fits := replaces_upperChar c
    rw [titleChar_of_plain c plain first rest upper]
    rw [upper] at fits
    by_cases word : isWordChar c = true
    · rw [replaces_word c _ word] at fits ⊢
      obtain ⟨head, tail⟩ := List.forall_mem_cons.mp fits.2
      refine ⟨List.cons_ne_nil _ _, List.forall_mem_cons.mpr ⟨head, ?_⟩⟩
      intro d member
      obtain ⟨x, inside, image⟩ := List.mem_flatMap.mp member
      exact isWordChar_of_lowerChar x d (tail x inside) image
    · cases (replaces_other c _ word).mp fits
      exact replaces_self c

/-! ## The title case of a text -/

theorem titleCharsFrom_inWord (c : Char) (rest : List Char) (letter : isLetter c = true) :
    titleCharsFrom true (c :: rest) = lowerChar c ++ titleCharsFrom true rest := by
  simp [titleCharsFrom, letter]

theorem titleCharsFrom_start (c : Char) (rest : List Char) (letter : isLetter c = true) :
    titleCharsFrom false (c :: rest) = titleChar c ++ titleCharsFrom true rest := by
  simp [titleCharsFrom, letter]

theorem titleCharsFrom_other (inWord : Bool) (c : Char) (rest : List Char)
    (other : isLetter c = false) :
    titleCharsFrom inWord (c :: rest) =
      c :: titleCharsFrom (inWord && isCombiningMark c) rest := by
  simp [titleCharsFrom, other]

theorem respelled_titleCharsFrom (inWord : Bool) (cs : List Char) :
    Respelled cs (titleCharsFrom inWord cs) := by
  induction cs generalizing inWord with
  | nil => exact .nil
  | cons c rest ih =>
      cases letter : isLetter c with
      | true =>
          cases inWord with
          | true =>
              rw [titleCharsFrom_inWord c rest letter]
              exact .cons c (lowerChar c) rest _ (replaces_lowerChar c) (ih true)
          | false =>
              rw [titleCharsFrom_start c rest letter]
              exact .cons c (titleChar c) rest _ (replaces_titleChar c) (ih true)
      | false =>
          rw [titleCharsFrom_other inWord c rest letter]
          exact .cons c [c] rest _ (replaces_self c) (ih _)

/-- Inside a word small letters and marks stay. -/
theorem titleCharsFrom_of_small (cs rest : List Char)
    (inside : ∀ c ∈ cs, Small c ∧ isWordChar c = true) :
    titleCharsFrom true (cs ++ rest) = cs ++ titleCharsFrom true rest := by
  induction cs with
  | nil => rfl
  | cons c cs ih =>
      obtain ⟨⟨small, word⟩, others⟩ := List.forall_mem_cons.mp inside
      rw [List.cons_append, List.cons_append, ← ih others]
      cases letter : isLetter c with
      | true =>
          rw [titleCharsFrom_inWord c _ letter, small]
          rfl
      | false =>
          rw [isWordChar, letter, Bool.false_or] at word
          rw [titleCharsFrom_other true c _ letter, word]
          rfl

/-- A titled text of small letters is its own title case again, from lower case on. -/
theorem titleCharsFrom_lowercaseAfter (cs : List Char) (small : ∀ c ∈ cs, Small c) (inWord : Bool)
    (before : List Char) :
    titleCharsFrom inWord (lowercaseAfter before (titleCharsFrom inWord cs)) =
      titleCharsFrom inWord cs := by
  induction cs generalizing inWord before with
  | nil => rfl
  | cons c rest ih =>
      obtain ⟨first, others⟩ := List.forall_mem_cons.mp small
      have again := ih others
      cases letter : isLetter c with
      | true =>
          cases inWord with
          | true =>
              rw [titleCharsFrom_inWord c rest letter, first, List.singleton_append, lowercaseAfter,
                lowerCharBetween_of_small before c _ first, List.singleton_append,
                titleCharsFrom_inWord c _ letter, first, again]
              rfl
          | false =>
              obtain ⟨capital, tail, titled, returns, inside⟩ := titleChar_returns c letter first
              obtain ⟨d, lowered, plain, back⟩ := lowerCharBetween_of_returns capital returns before
                (tail ++ titleCharsFrom true rest)
              have kept := lowercaseAfter_of_small (capital :: before) tail
                (titleCharsFrom true rest) fun x member => (inside x member).1
              rw [titleCharsFrom_start c rest letter, titled, List.cons_append, lowercaseAfter,
                lowered, List.singleton_append, titleCharsFrom_start d _ plain, back, kept,
                titleCharsFrom_of_small tail _ inside, again]
              rfl
      | false =>
          rw [titleCharsFrom_other inWord c rest letter, lowercaseAfter,
            lowerCharBetween_of_small before c _ first, List.singleton_append,
            titleCharsFrom_other inWord c _ letter, again]

end Crosswalk.Mask
