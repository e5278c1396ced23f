import Crosswalk.Proofs.Yaml.Block
import Crosswalk.Proofs.Yaml.Plain
import Crosswalk.Proofs.Yaml.Quoted
import Crosswalk.Proofs.Yaml.Scalar
import Crosswalk.Yaml.Parse

/-!
# Leaves

A text in any style is read as itself, as a value up to the next token on a later line
(`readAsValue_scalarText`), and as a key up to its colon (`readAsKey_scalarText`).
-/

set_option autoImplicit false

namespace Crosswalk.Yaml

open Text (StopsAt stopsAt_nil stopsAt_cons)

/-- What begins a leaf begins nothing else. -/
def OpensLeaf (text : List Char) : Prop :=
  ∃ c rest, text = c :: rest ∧ passedOver c = false ∧ c ≠ '&' ∧
    (c = '-' ∨ c = '?' → endsToken rest.head? = false)

/-- The text is a leaf where a value may stand, whatever token comes next on a later line. -/
def ReadAsValue (floor : Nat) (text : List Char) (o : Outline) : Prop :=
  ∀ (count column line : Nat) (fresh : Bool) (anchors : List (String × Outline)) (rest : List Char),
    0 < column → floor ≤ column + 1 → count < floor → AtToken rest →
      let place : Place := ⟨closed text ++ (spaces count ++ rest), column, line, fresh, anchors⟩
      ∃ last, leaf floor place = some (o, last) ∧ pastColon? false place last = none ∧
        ComesTo anchors line count rest last

/-- The text is a leaf where a key may stand, up to its colon. -/
def ReadAsKey (text : List Char) (o : Outline) : Prop :=
  ∀ (floor column line : Nat) (fresh : Bool) (anchors : List (String × Outline)) (rest : List Char),
    0 < column → floor ≤ column + 1 → endsToken rest.head? = true →
      leaf floor ⟨text ++ ':' :: rest, column, line, fresh, anchors⟩ =
        some (o, ⟨':' :: rest, column + text.length, line, false, anchors⟩)

/-! ## No colon after a value -/

theorem pastColon?_later (first last : Place) (later : first.line < last.line) :
    pastColon? false first last = none := by
  have other : ¬ first.line = last.skipBlanks.line := Nat.ne_of_lt later
  simp [pastColon?, other]

theorem pastColon?_feed (first : Place) (rest : List Char) (column line : Nat) (fresh : Bool)
    (anchors : List (String × Outline)) :
    pastColon? false first ⟨'\n' :: rest, column, line, fresh, anchors⟩ = none := by
  simp [pastColon?, Place.skipBlanks, Place.atSign, Place.head?, isBlank]

/-! ## Each style -/

section Styles
variable (floor : Nat)

theorem opensLeaf_plain (cs : List Char) (plain : Plain cs) : OpensLeaf cs := by
  obtain ⟨words, start, mark, _⟩ := plain
  have text := words.atText cs []
  obtain ⟨c, rest, rfl⟩ := List.exists_cons_of_ne_nil (words.given cs)
  have solid : endsToken (some c) = false := endsToken_of_atText c _ text
  have other : c ≠ '\ufeff' := by simpa using mark
  simp only [startsPlain, solid, Bool.false_or] at start
  split at start
  case isTrue => cases start
  case isFalse free =>
    have signs : c ≠ '#' ∧ c ≠ '&' := by
      constructor <;> (rintro rfl; exact free (by decide))
    refine ⟨c, rest, rfl, ?_, signs.2, ?_⟩
    · simp only [endsToken, Bool.or_eq_false_iff] at solid
      simp [passedOver, solid, signs.1, other]
    · rintro (rfl | rfl) <;> simpa using start

theorem readAsValue_plain (cs : List Char) (plain : Plain cs) :
    ReadAsValue floor cs (plainOutline cs) := by
  intro count column line fresh anchors rest positive deep shallow token
  have layout : closed cs ++ (spaces count ++ rest) = cs ++ '\n' :: (spaces count ++ rest) := by
    rw [closed, plain.ends]
    simp
  have read := leaf_plain_newLine floor column line fresh anchors cs rest plain positive deep count
    (atText_of_atToken rest token) shallow
  rw [← layout] at read
  exact ⟨_, read, pastColon?_later _ _ (Nat.lt_succ_self line), line + 1, Nat.lt_succ_self line,
    skip_atToken false _ token⟩

theorem readAsKey_plain (cs : List Char) (plain : Plain cs) : ReadAsKey cs (plainOutline cs) :=
  fun floor column line fresh anchors rest positive deep ends =>
    leaf_plain_colon floor column line fresh anchors cs rest plain positive deep ends

/-- A text between quotation marks. -/
def quotedChars (double : Bool) (written : List Char) : List Char :=
  quoteMark double :: (written ++ [quoteMark double])

theorem readAsValue_quotes (double : Bool) (written meant : List Char)
    (quotes : Quotes double written meant) :
    ReadAsValue floor (quotedChars double written) (quotedOutline meant) := by
  intro count column line fresh anchors rest positive _ _ token
  have inside : isBreak (quoteMark double) = false := by cases double <;> rfl
  have layout : closed (quotedChars double written) ++ (spaces count ++ rest) =
      quoteMark double :: (written ++ quoteMark double :: '\n' :: (spaces count ++ rest)) := by
    rw [quotedChars, ← List.cons_append, closed_concat _ _ inside]
    simp
  obtain ⟨last, read, column', line', rfl, later, _⟩ := leaf_quotes anchors
    ('\n' :: (spaces count ++ rest)) double (by simp) floor written meant quotes column line fresh
    positive
  rw [← layout] at read
  exact ⟨_, read, pastColon?_feed _ _ column' line' false anchors, line' + 1, by omega,
    skip_newLine false count column' line' false anchors rest token⟩

theorem readAsKey_quotes (double : Bool) (written meant : List Char)
    (quotes : Quotes double written meant) (whole : ∀ c ∈ written, endsLine c = false) :
    ReadAsKey (quotedChars double written) (quotedOutline meant) := by
  intro floor column line fresh anchors rest positive _ _
  obtain ⟨last, read, column', line', rfl, _, counted⟩ := leaf_quotes anchors (':' :: rest) double
    (by simp) floor written meant quotes column line fresh positive
  obtain ⟨rfl, rfl⟩ := counted whole
  have size : column + 1 + written.length + 1 = column + (quotedChars double written).length := by
    simp [quotedChars]
    omega
  rw [size] at read
  simpa [quotedChars] using read

theorem readAsValue_block (cs : List Char) (given : cs ≠ []) (print : Readable (closed cs))
    (tab : '\t' ∉ cs) : ReadAsValue floor (literalText (floor + 1) cs) (quotedOutline cs) := by
  intro count column line fresh anchors rest positive _ shallow token
  obtain ⟨later, read, after⟩ := blockText_literalText floor count column line fresh anchors rest cs
    given print tab token shallow
  refine ⟨⟨rest, count, later, true, anchors⟩, ?_, pastColon?_later _ _ after, later, after,
    skip_atToken false _ token⟩
  rw [closed_literalText (floor + 1) cs given] at read ⊢
  exact congrArg (Option.map fun read => (quotedOutline read.1, read.2)) read

theorem flowItems_empty (fuel column line : Nat) (fresh : Bool) (anchors : List (String × Outline))
    (rest : List Char) :
    flowItems floor (fuel + 1) ⟨']' :: rest, column, line, fresh, anchors⟩ =
      some ([], ⟨rest, column + 1, line, false, anchors⟩) := by
  have token : AtToken (']' :: rest) := (stopsAt_cons _ _ _).mpr rfl
  rw [flowItems, skip_atToken true _ token]
  rfl

theorem flowMembers_empty (fuel column line : Nat) (fresh : Bool)
    (anchors : List (String × Outline)) (rest : List Char) :
    flowMembers floor (fuel + 1) ⟨'\x7d' :: rest, column, line, fresh, anchors⟩ =
      some ([], ⟨rest, column + 1, line, false, anchors⟩) := by
  have token : AtToken ('\x7d' :: rest) := (stopsAt_cons _ _ _).mpr rfl
  rw [flowMembers, skip_atToken true _ token]
  rfl

theorem flowValue_empty (fuel column line : Nat) (fresh : Bool) (anchors : List (String × Outline))
    (rest : List Char) (positive : 0 < column) :
    flowValue floor (fuel + 2) ⟨'[' :: ']' :: rest, column, line, fresh, anchors⟩ =
        some (.array [] .bracket, ⟨rest, column + 1 + 1, line, false, anchors⟩) ∧
      flowValue floor (fuel + 2) ⟨'\x7b' :: '\x7d' :: rest, column, line, fresh, anchors⟩ =
        some (.object [] .bracket, ⟨rest, column + 1 + 1, line, false, anchors⟩) := by
  have list := ended_cons column line fresh anchors (']' :: rest) '[' positive
  have map := ended_cons column line fresh anchors ('\x7d' :: rest) '\x7b' positive
  have items := flowItems_empty floor fuel (column + 1) line false anchors rest
  have members := flowMembers_empty floor fuel (column + 1) line false anchors rest
  constructor
  · rw [flowValue.eq_def]
    simp only [list, Bool.false_eq_true, if_false, Place.head?, List.head?_cons]
    exact congrArg (Option.map fun read => (Outline.array read.1 .bracket, read.2)) items
  · rw [flowValue.eq_def]
    simp only [map, Bool.false_eq_true, if_false, Place.head?, List.head?_cons]
    exact congrArg (Option.map fun read => (Outline.object read.1 .bracket, read.2)) members

theorem readAsValue_of_line (c d : Char) (o : Outline) (inside : isBreak d = false)
    (read : ∀ column line fresh anchors rest, 0 < column →
      leaf floor ⟨c :: d :: rest, column, line, fresh, anchors⟩ =
        some (o, ⟨rest, column + 1 + 1, line, false, anchors⟩)) : ReadAsValue floor [c, d] o := by
  intro count column line fresh anchors rest positive _ _ token
  have layout : closed [c, d] = [c, d, '\n'] := closed_concat [c] d inside
  rw [layout]
  exact ⟨_, read column line fresh anchors _ positive, pastColon?_feed _ _ _ _ _ _, line + 1,
    Nat.lt_succ_self line, skip_newLine false count _ line false anchors rest token⟩

theorem readAsValue_brackets :
    ReadAsValue floor ['[', ']'] (.array [] .bracket) ∧
      ReadAsValue floor ['\x7b', '\x7d'] (.object [] .bracket) := by
  constructor
  · exact readAsValue_of_line floor '[' ']' _ rfl fun column line fresh anchors rest positive =>
      (flowValue_empty floor _ column line fresh anchors rest positive).1
  · exact readAsValue_of_line floor '\x7b' '\x7d' _ rfl
      fun column line fresh anchors rest positive =>
        (flowValue_empty floor _ column line fresh anchors rest positive).2

end Styles

/-! ## The style of a text -/

theorem meaning_of_meansItself (s : String) (itself : meansItself s = true) :
    s.toList ≠ [] ∧ meaning s = some (.ok (.string s)) := by
  have own : ∀ t, valueMeant s = .ok (.string t) → t = s := by
    intro t means
    simp only [valueMeant] at means
    repeat' split at means
    all_goals simp_all
  rw [meansItself] at itself
  split at itself
  case h_1 t means =>
    refine ⟨?_, ?_⟩
    · intro empty
      rw [String.toList_eq_nil_iff] at empty
      subst empty
      cases means
    · rw [meaning] at means ⊢
      split at means
      · cases means
      · rename_i some
        have same := Option.some.inj means
        rw [own t same] at same
        rw [if_neg some, same]
  case h_2 => cases itself

/-- How a text is written. -/
inductive Spelled (inKey : Bool) (indent : Nat) (s : String) : List Char → Prop where
  | plain (plain : Plain s.toList) (itself : meaning s = some (.ok (.string s))) :
      Spelled inKey indent s s.toList
  | single (text : Unfolded s.toList) :
      Spelled inKey indent s (quotedChars false (singleQuotedChars indent false s.toList))
  | double : Spelled inKey indent s (quotedChars true (s.toList.flatMap doubleQuotedChar))
  | block (given : s.toList ≠ []) (feed : '\n' ∈ s.toList) (tab : '\t' ∉ s.toList)
      (readable : Readable (closed s.toList)) : Spelled inKey indent s (literalText indent s.toList)

/-- What a style asks of a text. -/
def Fits (s : String) : Style → Prop
  | .plain => meansItself s = true ∧ (analyze s.toList).plainAllowed = true
  | .singleQuoted => '\n' ∉ s.toList ∧ (analyze s.toList).singleAllowed = true
  | .doubleQuoted => True
  | .literal => '\n' ∈ s.toList ∧ (analyze s.toList).blockAllowed = true

theorem fits_styleOf (inKey : Bool) (s : String) : Fits s (styleOf inKey s) := by
  have quoted : '\n' ∉ s.toList → Fits s
      (if (analyze s.toList).singleAllowed then .singleQuoted else .doubleQuoted) := by
    intro line
    split
    case isTrue allowed => exact ⟨line, allowed⟩
    case isFalse => trivial
  rw [styleOf]
  split
  case isTrue => trivial
  split
  case isTrue feed =>
    split
    case isTrue allowed => exact ⟨List.contains_iff_mem.mp feed, allowed⟩
    case isFalse => trivial
  case isFalse feed =>
    have line : '\n' ∉ s.toList := fun member => feed (List.contains_iff_mem.mpr member)
    split
    case isTrue => exact quoted line
    case isFalse own =>
      split
      case isTrue allowed =>
        simp only [Bool.or_eq_true, Bool.not_eq_true', not_or, Bool.not_eq_false] at own
        exact ⟨own.1, allowed⟩
      case isFalse => exact quoted line

theorem unfolded_of_analysis (cs : List Char) (feed : '\n' ∉ cs)
    (allowed : (analyze cs).singleAllowed = true) : Unfolded cs := by
  simp only [analyze, Bool.not_eq_true', Bool.or_eq_false_iff] at allowed
  obtain ⟨⟨special, spaceBreak⟩, breakSpace⟩ := allowed
  refine ⟨fun c member => ?_, feed, spaceBreak, breakSpace⟩
  simpa using List.any_eq_false.mp special c member

theorem spelled_scalarText (inKey : Bool) (indent : Nat) (s : String) :
    Spelled inKey indent s (scalarText inKey indent s) := by
  have spec := fits_styleOf inKey s
  rw [scalarText]
  cases style : styleOf inKey s with
  | plain =>
      rw [style] at spec
      obtain ⟨given, itself⟩ := meaning_of_meansItself s spec.1
      exact .plain (plain_of_analysis s.toList given spec.2) itself
  | singleQuoted =>
      rw [style] at spec
      exact .single (unfolded_of_analysis s.toList spec.1 spec.2)
  | doubleQuoted => exact .double
  | literal =>
      rw [style] at spec
      obtain ⟨feed, allowed⟩ := spec
      simp only [analyze, Bool.and_eq_true, Bool.not_eq_true', Bool.or_eq_false_iff] at allowed
      obtain ⟨⟨⟨special, _⟩, _⟩, given⟩ := allowed
      have print : ∀ c ∈ s.toList, isPrintable c = true := fun c member => by
        simpa using List.any_eq_false.mp special c member
      refine .block (by simpa using given) feed (fun tab => ?_) ?_
      · exact absurd (print '\t' tab) (by decide)
      · intro c member
        rcases mem_closed s.toList c member with inside | rfl
        · exact endsLine_of_printable c (print c inside)
        · rfl

/-! ## Texts as values -/

theorem opensLeaf_mark (c : Char) (rest : List Char) (solid : passedOver c = false)
    (other : c ≠ '&' ∧ c ≠ '-' ∧ c ≠ '?') : OpensLeaf (c :: rest) :=
  ⟨c, rest, rfl, solid, other.1, fun sign => sign.elim (absurd · other.2.1) (absurd · other.2.2)⟩

theorem opensLeaf_quotes (double : Bool) (written : List Char) :
    OpensLeaf (quotedChars double written) := by
  cases double <;> exact opensLeaf_mark _ _ rfl (by decide)

theorem opensLeaf_spelled (inKey : Bool) (indent : Nat) (s : String) (text : List Char)
    (spelled : Spelled inKey indent s text) : OpensLeaf text := by
  cases spelled with
  | plain plain => exact opensLeaf_plain s.toList plain
  | single => exact opensLeaf_quotes false _
  | double => exact opensLeaf_quotes true _
  | block =>
      rw [literalText_eq]
      exact opensLeaf_mark '|' _ rfl (by decide)

/-- The outline stands for a text, as a key and as a value. -/
def StandsFor (o : Outline) (s : String) : Prop :=
  keyText o = .ok s ∧ ∀ rules, Decoder.any rules o = .ok (.string s)

theorem standsFor_quoted (s : String) : StandsFor (quotedOutline s.toList) s := by
  rw [quotedOutline, String.ofList_toList]
  exact ⟨rfl, fun _ => rfl⟩

theorem standsFor_plain (s : String) (itself : meaning s = some (.ok (.string s))) :
    StandsFor (plainOutline s.toList) s := by
  have outline : plainOutline s.toList = .plain s (some (.ok (.string s))) := by
    simp only [plainOutline, String.ofList_toList, itself]
  rw [outline]
  exact ⟨rfl, fun _ => rfl⟩

theorem readAsValue_scalarText (floor : Nat) (s : String) :
    ∃ o, ReadAsValue floor (scalarText false (floor + 1) s) o ∧ StandsFor o s := by
  have spelled := spelled_scalarText false (floor + 1) s
  generalize scalarText false (floor + 1) s = text at spelled ⊢
  cases spelled with
  | plain plain itself => exact ⟨_, readAsValue_plain floor _ plain, standsFor_plain s itself⟩
  | single text =>
      exact ⟨_, readAsValue_quotes floor false _ _ (quotes_single floor _ text), standsFor_quoted s⟩
  | double => exact ⟨_, readAsValue_quotes floor true _ _ (quotes_double _), standsFor_quoted s⟩
  | block given _ tab readable =>
      exact ⟨_, readAsValue_block floor _ given readable tab, standsFor_quoted s⟩

/-! ## Texts as keys -/

theorem isBreak_of_endsLine (c : Char) (inside : isBreak c = false) : endsLine c = false := by
  simp only [isBreak, Bool.or_eq_false_iff] at inside
  simp [endsLine, inside]

theorem utf8ByteSize_cons (c : Char) (rest : List Char) :
    (String.ofList (c :: rest)).utf8ByteSize = c.utf8Size + (String.ofList rest).utf8ByteSize := by
  rw [String.ofList_cons, String.utf8ByteSize_append, String.utf8ByteSize_singleton]

/-- What is written of each character stays on the line and is not much longer than its bytes. -/
theorem flatMap_short (written : Char → List Char) (cs : List Char)
    (each : ∀ c ∈ cs, (∀ d ∈ written c, endsLine d = false) ∧ (written c).length ≤ 4 * c.utf8Size) :
    (∀ d ∈ cs.flatMap written, endsLine d = false) ∧
      (cs.flatMap written).length ≤ 4 * (String.ofList cs).utf8ByteSize := by
  induction cs with
  | nil => exact ⟨List.forall_mem_nil _, Nat.zero_le _⟩
  | cons c rest ih =>
      obtain ⟨⟨line, short⟩, others⟩ := List.forall_mem_cons.mp each
      obtain ⟨lines, shorter⟩ := ih others
      rw [List.flatMap_cons, List.length_append, utf8ByteSize_cons]
      exact ⟨List.forall_mem_append.mpr ⟨line, lines⟩, by omega⟩

theorem singleQuotedChars_line (indent : Nat) (cs : List Char)
    (line : ∀ c ∈ cs, isBreak c = false) :
    singleQuotedChars indent false cs =
      cs.flatMap fun c => if c = '\'' then ['\'', '\''] else [c] := by
  induction cs with
  | nil => rfl
  | cons c rest ih =>
      obtain ⟨here, others⟩ := List.forall_mem_cons.mp line
      simp [singleQuotedChars, here, ih others]

theorem endsLine_hexUpper : ∀ digit < 16, endsLine (hexUpper digit) = false := by
  decide

theorem utf8Size_wide (c : Char) :
    (0x7F < c.toNat → 2 ≤ c.utf8Size) ∧ (0xFFFF < c.toNat → c.utf8Size = 4) := by
  have number : c.val.toNat = c.toNat := rfl
  rw [Char.utf8Size.eq_def]
  simp only [UInt32.le_iff_toNat_le, UInt32.toNat_ofNatLT, number]
  split
  · omega
  split
  · omega
  split <;> omega

theorem doubleQuotedChar_short (c : Char) :
    (∀ d ∈ doubleQuotedChar c, endsLine d = false) ∧
      (doubleQuotedChar c).length ≤ 4 * c.utf8Size := by
  have size := c.utf8Size_pos
  have hex : ∀ letter count, endsLine letter = false →
      ∀ d ∈ ['\\', letter] ++ hexPadded count c.toNat, endsLine d = false := by
    intro letter count inside
    refine List.forall_mem_append.mpr ⟨?_, forall_hexPadded _ endsLine_hexUpper count c.toNat⟩
    exact List.forall_mem_cons.mpr ⟨rfl, List.forall_mem_singleton.mpr inside⟩
  rw [doubleQuotedChar]
  split
  case isTrue bare =>
    simp only [Bool.and_eq_true, Bool.not_eq_true'] at bare
    exact ⟨List.forall_mem_singleton.mpr (isBreak_of_endsLine c bare.1.1.2), by simp; omega⟩
  case isFalse =>
    split
    case h_1 letter listed =>
      obtain ⟨inside, _⟩ := escaped?_short letter c [] listed
      exact ⟨List.forall_mem_cons.mpr ⟨rfl, List.forall_mem_singleton.mpr inside⟩, by simp; omega⟩
    case h_2 =>
      dsimp only
      split
      case isTrue => exact ⟨hex 'x' 2 rfl, by simp [hexPadded_length]; omega⟩
      case isFalse past =>
        split
        case isTrue =>
          have two := (utf8Size_wide c).1 (by omega)
          exact ⟨hex 'u' 4 rfl, by simp [hexPadded_length]; omega⟩
        case isFalse beyond =>
          have four := (utf8Size_wide c).2 (by omega)
          exact ⟨hex 'U' 8 rfl, by simp [hexPadded_length]; omega⟩

theorem readAsKey_scalarText (indent : Nat) (key : String) (simple : isSimpleKey key = true) :
    (scalarText true (indent + 1) key).length ≤ keyLimit ∧
      ∃ o, ReadAsKey (scalarText true (indent + 1) key) o ∧ StandsFor o key := by
  simp only [isSimpleKey, Bool.and_eq_true, decide_eq_true_eq, Bool.not_eq_true'] at simple
  obtain ⟨small, unbroken⟩ := simple
  have line : ∀ c ∈ key.toList, isBreak c = false := fun c member => by
    simpa using List.any_eq_false.mp unbroken c member
  have inside : ∀ c ∈ key.toList, endsLine c = false := fun c member =>
    isBreak_of_endsLine c (line c member)
  have bytes : (String.ofList key.toList).utf8ByteSize ≤ 128 := by rwa [String.ofList_toList]
  have spelled := spelled_scalarText true (indent + 1) key
  generalize scalarText true (indent + 1) key = text at spelled ⊢
  cases spelled with
  | plain plain itself =>
      refine ⟨?_, _, readAsKey_plain _ plain, standsFor_plain key itself⟩
      have short := flatMap_short (fun c => [c]) key.toList fun c member =>
        ⟨List.forall_mem_singleton.mpr (inside c member), by simp; have := c.utf8Size_pos; omega⟩
      rw [List.flatMap_singleton' key.toList] at short
      rw [keyLimit]
      omega
  | single text =>
      have short := flatMap_short (fun c => if c = '\'' then ['\'', '\''] else [c]) key.toList
        fun c member => by
          have size := c.utf8Size_pos
          split
          · exact ⟨List.forall_mem_cons.mpr ⟨rfl, List.forall_mem_singleton.mpr rfl⟩,
              by simp; omega⟩
          · exact ⟨List.forall_mem_singleton.mpr (inside c member), by simp; omega⟩
      rw [← singleQuotedChars_line (indent + 1) _ line] at short
      refine ⟨?_, _, readAsKey_quotes false _ _ (quotes_single indent _ text) short.1,
        standsFor_quoted key⟩
      simp [quotedChars, keyLimit]
      omega
  | double =>
      have short := flatMap_short doubleQuotedChar key.toList fun c _ => doubleQuotedChar_short c
      refine ⟨?_, _, readAsKey_quotes true _ _ (quotes_double _) short.1, standsFor_quoted key⟩
      simp only [quotedChars, keyLimit, List.length_cons, List.length_append, List.length_nil]
      omega
  | block _ feed =>
      have broken := line '\n' feed
      cases broken

/-! ## Values without entries -/

/-- Neither a list nor a map with something in it. -/
def isLeaf : Json → Bool
  | .array (_ :: _) | .object (_ :: _) => false
  | _ => true

/-- The outline stands for a value wherever it may be nested as deep. -/
def Means (o : Outline) (value : Json) : Prop :=
  ∀ rules : DecodingRules, value.height ≤ rules.room → Decoder.any rules o = .ok value

theorem OpensLeaf.given (text : List Char) (opens : OpensLeaf text) : text ≠ [] := by
  obtain ⟨c, rest, rfl, _⟩ := opens
  exact List.cons_ne_nil c rest

theorem opensLeaf_scalarText (inKey : Bool) (indent : Nat) (s : String) :
    OpensLeaf (scalarText inKey indent s) :=
  opensLeaf_spelled inKey indent s _ (spelled_scalarText inKey indent s)

theorem opensLeaf_leaf (indent : Nat) (value : Json) (single : isLeaf value = true) :
    OpensLeaf (inlineText indent value) := by
  cases value with
  | null => exact opensLeaf_plain _ plain_null.1
  | bool b => exact opensLeaf_plain _ (plain_bool b).1
  | number n => exact opensLeaf_plain _ (plain_number n).1
  | string s => exact opensLeaf_scalarText false indent s
  | array items =>
      cases items with
      | nil => exact opensLeaf_mark '[' _ rfl (by decide)
      | cons => cases single
  | object members =>
      cases members with
      | nil => exact opensLeaf_mark '\x7b' _ rfl (by decide)
      | cons => cases single

/-- Plain text that means a value stands for it. -/
theorem means_plain (cs : List Char) (value : Json)
    (means : meaning (String.ofList cs) = some (.ok value)) : Means (plainOutline cs) value := by
  intro rules _
  simp only [plainOutline, means]
  rfl

theorem readAsValue_leaf (floor : Nat) (value : Json) (single : isLeaf value = true) :
    ∃ o, ReadAsValue floor (inlineText (floor + 1) value) o ∧ Means o value := by
  have room : ∀ n, 1 ≤ n → ¬ n = 0 := fun n => Nat.ne_of_gt
  cases value with
  | null => exact ⟨_, readAsValue_plain floor _ plain_null.1, fun _ _ => rfl⟩
  | bool b =>
      exact ⟨_, readAsValue_plain floor _ (plain_bool b).1, means_plain _ _ (plain_bool b).2⟩
  | number n =>
      exact ⟨_, readAsValue_plain floor _ (plain_number n).1, means_plain _ _ (plain_number n).2⟩
  | string s =>
      obtain ⟨o, read, _, means⟩ := readAsValue_scalarText floor s
      exact ⟨o, read, fun rules _ => means rules⟩
  | array items =>
      cases items with
      | nil =>
          refine ⟨_, (readAsValue_brackets floor).1, fun rules low => ?_⟩
          rw [Decoder.any, if_neg (room _ low)]
          rfl
      | cons => cases single
  | object members =>
      cases members with
      | nil =>
          refine ⟨_, (readAsValue_brackets floor).2, fun rules low => ?_⟩
          rw [Decoder.any, if_neg (room _ low)]
          rfl
      | cons => cases single

end Crosswalk.Yaml
