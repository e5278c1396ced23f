import Crosswalk.Text.Alphabetic
import Crosswalk.Text.Blank
import Crosswalk.Text.Case
import Crosswalk.Proofs.Text.PointBits
import Mathlib.Data.List.Nodup

/-!
# What the case tables hold

The runs and the expansions of a case mapping are one table of code points with their images
(`lowerChar_eq_respell`, `upperChar_eq_respell`).  Both tables are `Sound`: no point is listed
twice, the points listed are letters, their images are letters and combining marks that are not
listed themselves.  So a mapped character is mapped to itself (`respell_fixed`), and characters
that are no letters stay as they are.
-/

set_option autoImplicit false

namespace Crosswalk.Text

/-- Code points and the code points that each is mapped to. -/
abbrev CaseTable :=
  List (Nat × List Nat)

namespace CaseTable

def keys (table : CaseTable) : List Nat :=
  table.map Prod.fst

def outputs (table : CaseTable) : List Nat :=
  table.flatMap Prod.snd

end CaseTable

/-- The image of a character under a table; a character that is not listed is its own. -/
def respell (table : CaseTable) (c : Char) : List Char :=
  match table.lookup c.toNat with
  | some points => points.map Char.ofNat
  | none => [c]

theorem lookup_eq_of_mem_iff {α β : Type} [BEq α] [LawfulBEq α] (entries : List (α × β)) (key : α)
    (value? : Option β) (graph : ∀ value, (key, value) ∈ entries ↔ value? = some value) :
    entries.lookup key = value? := by
  cases found : entries.lookup key with
  | none =>
      cases value? with
      | none => rfl
      | some value =>
          have differs := List.lookup_eq_none_iff.mp found (key, value) ((graph value).mpr rfl)
          simp at differs
  | some value =>
      obtain ⟨before, after, split, _⟩ := List.lookup_eq_some_iff.mp found
      exact ((graph value).mp (by simp [split])).symm

/-! ## Runs as tables -/

namespace CaseRun

def entries (run : CaseRun) : CaseTable :=
  (List.range run.count).map fun i =>
    (run.first + i * run.stride, [run.target + i * run.stride])

theorem image?_eq_some_iff (run : CaseRun) (spaced : 0 < run.stride) (point image : Nat) :
    run.image? point = some image ↔
      ∃ i, i < run.count ∧ point = run.first + i * run.stride ∧
        image = run.target + i * run.stride := by
  simp only [image?, Option.ite_none_right_eq_some, Option.some.injEq]
  constructor
  · rintro ⟨⟨above, below, even⟩, rfl⟩
    obtain ⟨i, distance⟩ := Nat.dvd_of_mod_eq_zero even
    rw [Nat.mul_comm] at distance
    refine ⟨i, Nat.lt_of_mul_lt_mul_right (a := run.stride) ?_, ?_, ?_⟩ <;> omega
  · rintro ⟨i, less, rfl, rfl⟩
    have reach : i * run.stride < run.count * run.stride := Nat.mul_lt_mul_of_pos_right less spaced
    refine ⟨⟨by omega, by omega, ?_⟩, by omega⟩
    rw [Nat.add_sub_cancel_left, Nat.mul_mod_left]

theorem mem_entries (run : CaseRun) (spaced : 0 < run.stride) (point : Nat) (images : List Nat) :
    (point, images) ∈ run.entries ↔ ∃ image, run.image? point = some image ∧ images = [image] := by
  simp only [entries, List.mem_map, List.mem_range, Prod.mk.injEq,
    image?_eq_some_iff run spaced]
  constructor
  · rintro ⟨i, less, rfl, rfl⟩
    exact ⟨_, ⟨i, less, rfl, rfl⟩, rfl⟩
  · rintro ⟨image, ⟨i, less, rfl, rfl⟩, rfl⟩
    exact ⟨i, less, rfl, rfl⟩

theorem lookup_entries (run : CaseRun) (spaced : 0 < run.stride) (point : Nat) :
    run.entries.lookup point = (run.image? point).map fun image => [image] := by
  apply lookup_eq_of_mem_iff
  intro images
  rw [mem_entries run spaced, Option.map_eq_some_iff]
  exact exists_congr fun image => and_congr_right fun _ => eq_comm

end CaseRun

theorem lookup_runs (runs : List CaseRun) (spaced : ∀ run ∈ runs, 0 < run.stride) (point : Nat) :
    (runs.flatMap CaseRun.entries).lookup point =
      (runs.findSome? fun run => run.image? point).map fun image => [image] := by
  induction runs with
  | nil => rfl
  | cons run rest ih =>
      rw [List.flatMap_cons, List.lookup_append, ih fun other member =>
        spaced other (List.mem_cons_of_mem _ member),
        CaseRun.lookup_entries run (spaced run (List.mem_cons_self ..)), List.findSome?_cons]
      cases run.image? point <;> rfl

def caseTable (expansions : List (Nat × List Nat)) (runs : List CaseRun) : CaseTable :=
  expansions ++ runs.flatMap CaseRun.entries

theorem caseImage_eq_respell (expansions : List (Nat × List Nat)) (runs : List CaseRun)
    (spaced : ∀ run ∈ runs, 0 < run.stride) (c : Char) :
    caseImage expansions runs c = respell (caseTable expansions runs) c := by
  rw [caseImage, respell, caseTable, List.lookup_append, lookup_runs runs spaced, runImage]
  cases expansions.lookup c.toNat with
  | some points => rfl
  | none =>
      cases found : runs.findSome? fun run => run.image? c.toNat with
      | none => simp
      | some image => simp

def lowerTable : CaseTable :=
  caseTable lowerExpansions lowerRuns

def upperTable : CaseTable :=
  caseTable upperExpansions upperRuns

theorem lowerChar_eq_respell (c : Char) : lowerChar c = respell lowerTable c :=
  caseImage_eq_respell lowerExpansions lowerRuns (by decide +kernel) c

theorem upperChar_eq_respell (c : Char) : upperChar c = respell upperTable c :=
  caseImage_eq_respell upperExpansions upperRuns (by decide +kernel) c

/-! ## Words -/

def wordPoints : CodePointSet :=
  letters ++ combiningMarks

/-- Letters and combining marks make up the words of a text. -/
def isWordChar (c : Char) : Bool :=
  isLetter c || isCombiningMark c

theorem isWordChar_iff (c : Char) : isWordChar c = true ↔ wordPoints.Holds c.toNat := by
  rw [isWordChar, Bool.or_eq_true, isLetter, isCombiningMark, CodePointSet.contains_iff,
    CodePointSet.contains_iff, wordPoints, CodePointSet.holds_append]

theorem isWordChar_of_isLetter (c : Char) (letter : isLetter c = true) : isWordChar c = true := by
  rw [isWordChar, letter, Bool.true_or]

theorem isBlank_of_isWordChar (c : Char) (word : isWordChar c = true) : isBlank c = false := by
  have apart : wordPoints.bits &&& blanks.bits = 0 := by decide +kernel
  rw [← Bool.not_eq_true, isBlank, CodePointSet.contains_iff, ← CodePointSet.testBit_bits]
  exact testBit_apart _ _ apart c.toNat
    ((CodePointSet.testBit_bits wordPoints c.toNat).mpr ((isWordChar_iff c).mp word))

theorem toNat_of_word (point : Nat) (word : wordPoints.Holds point) :
    (Char.ofNat point).toNat = point := by
  have scalars : ∀ range ∈ wordPoints,
      range.2 < 0xD800 ∨ 0xDFFF < range.1 ∧ range.2 < 0x110000 := by
    decide +kernel
  obtain ⟨range, member, low, high⟩ := word
  have valid : point.isValidChar := by
    have bounds := scalars range member
    unfold Nat.isValidChar
    omega
  rw [Char.ofNat, dif_pos valid]
  rfl

/-! ## Sound tables -/

structure CaseTable.Sound (table : CaseTable) : Prop where
  distinct : table.keys.Nodup
  apart : ∀ point ∈ table.keys, point ∉ table.outputs
  listed : ∀ point ∈ table.keys, letters.Holds point
  words : ∀ point ∈ table.outputs, wordPoints.Holds point
  filled : ∀ entry ∈ table, entry.2 ≠ []

theorem lowerTable_sound : lowerTable.Sound where
  distinct := (nodup_of_distinctFrom 0 lowerTable.keys (by decide +kernel)).1
  apart := apart_of_bits lowerTable.keys lowerTable.outputs (by decide +kernel)
  listed := holds_of_bits lowerTable.keys letters (by decide +kernel)
  words := holds_of_bits lowerTable.outputs wordPoints (by decide +kernel)
  filled := by decide +kernel

theorem upperTable_sound : upperTable.Sound where
  distinct := (nodup_of_distinctFrom 0 upperTable.keys (by decide +kernel)).1
  apart := apart_of_bits upperTable.keys upperTable.outputs (by decide +kernel)
  listed := holds_of_bits upperTable.keys letters (by decide +kernel)
  words := holds_of_bits upperTable.outputs wordPoints (by decide +kernel)
  filled := by decide +kernel

section Respell

variable (table : CaseTable) (sound : table.Sound) (c : Char)

include sound in
theorem respell_of_mem (images : List Nat) (member : (c.toNat, images) ∈ table) :
    respell table c = images.map Char.ofNat := by
  have found : table.lookup c.toNat = some images := by
    apply lookup_eq_of_mem_iff
    intro value
    constructor
    · intro other
      have same := List.inj_on_of_nodup_map sound.distinct member other rfl
      exact congrArg some (congrArg Prod.snd same)
    · intro same
      cases same
      exact member
  rw [respell, found]

theorem respell_of_not_key (absent : c.toNat ∉ table.keys) : respell table c = [c] := by
  have missing : table.lookup c.toNat = none := by
    rw [List.lookup_eq_none_iff]
    rintro ⟨point, images⟩ member
    rw [bne_iff_ne]
    rintro same
    exact absent (List.mem_map.mpr ⟨(point, images), member, same.symm⟩)
  rw [respell, missing]

include sound in
theorem respell_cases :
    c.toNat ∉ table.keys ∧ respell table c = [c] ∨
      ∃ images, (c.toNat, images) ∈ table ∧ respell table c = images.map Char.ofNat := by
  by_cases listed : c.toNat ∈ table.keys
  · obtain ⟨⟨point, images⟩, member, same⟩ := List.mem_map.mp listed
    cases same
    exact Or.inr ⟨images, member, respell_of_mem table sound c images member⟩
  · exact Or.inl ⟨listed, respell_of_not_key table c listed⟩

include sound in
theorem respell_ne_nil : respell table c ≠ [] := by
  rcases respell_cases table sound c with ⟨_, same⟩ | ⟨images, member, mapped⟩
  · rw [same]
    exact List.cons_ne_nil c []
  · rw [mapped]
    exact fun empty => sound.filled _ member (List.map_eq_nil_iff.mp empty)

include sound in
theorem output_of_respell (listed : c.toNat ∈ table.keys) (d : Char) (member : d ∈ respell table c) :
    d.toNat ∈ table.outputs := by
  rcases respell_cases table sound c with ⟨absent, _⟩ | ⟨images, entry, mapped⟩
  · exact absurd listed absent
  · rw [mapped] at member
    obtain ⟨point, image, rfl⟩ := List.mem_map.mp member
    have output : point ∈ table.outputs := List.mem_flatMap.mpr ⟨_, entry, image⟩
    rw [toNat_of_word point (sound.words point output)]
    exact output

include sound in
/-- What a table writes it leaves as it is. -/
theorem respell_fixed (d : Char) (member : d ∈ respell table c) : respell table d = [d] := by
  by_cases listed : c.toNat ∈ table.keys
  · have output := output_of_respell table sound c listed d member
    exact respell_of_not_key table d fun key => sound.apart _ key output
  · have same := respell_of_not_key table c listed
    rw [same, List.mem_singleton] at member
    rw [member, same]

include sound in
theorem respell_of_not_letter (other : isLetter c = false) : respell table c = [c] := by
  apply respell_of_not_key
  intro listed
  have letter := (letters.contains_iff c).mpr (sound.listed c.toNat listed)
  rw [isLetter, letter] at other
  cases other

include sound in
theorem respell_words (word : isWordChar c = true) (d : Char) (member : d ∈ respell table c) :
    isWordChar d = true := by
  by_cases listed : c.toNat ∈ table.keys
  · exact (isWordChar_iff d).mpr
      (sound.words d.toNat (output_of_respell table sound c listed d member))
  · rw [respell_of_not_key table c listed, List.mem_singleton] at member
    rw [member, word]

end Respell

end Crosswalk.Text
