import Crosswalk.Proofs.Json.Escape
import Crosswalk.Proofs.Json.Layout

/-!
# Reading a layout

Whatever the style it is laid out in, the text of a value is scanned into the outline of that value
(`scanValue_layout`), provided that its floats are read back.  The reader makes the value of it again
if no object has a name twice and the containers are not nested too deep (`parse_layout`).
-/

set_option autoImplicit false

namespace Crosswalk

open Text (StopsAt stopsAt_nil stopsAt_cons dropWhile_run)

namespace Json

mutual

/-- The outline of a value that is read from a text. -/
def textOutline : Json → Outline
  | .null => .null
  | .bool b => .bool b
  | .number n => .number (.ok n)
  | .string s => .string (.ok s)
  | .array items => .array (textItems items) .bracket
  | .object members => .object (textMembers members) .bracket

def textItems : List Json → List Outline
  | [] => []
  | item :: rest => item.textOutline :: textItems rest

def textMembers : List (String × Json) → List (Except Fault String × Outline)
  | [] => []
  | (key, value) :: rest => (.ok key, value.textOutline) :: textMembers rest

end

/-- Every float in the value is read back. -/
def FloatsReadBack (value : Json) : Prop :=
  value.Every fun
    | .number (.float x) => (Number.float x).ReadsBack
    | _ => True

theorem readsBack_of_floats (n : Number) (floats : FloatsReadBack (.number n)) : n.ReadsBack := by
  cases n with
  | integer value fits => exact Number.readsBack_integer value fits
  | float x => exact floats.here

/-! ## Blanks -/

theorem skipSpace_solid (c : Char) (rest : List Char) (solid : isSpace c = false) :
    skipSpace (c :: rest) = c :: rest := by
  simp [skipSpace, solid]

theorem skipSpace_spaces (spaces : List Char) (blank : Spaces spaces) (c : Char)
    (rest : List Char) (solid : isSpace c = false) :
    skipSpace (spaces ++ c :: rest) = c :: rest :=
  dropWhile_run isSpace spaces _ blank ((stopsAt_cons isSpace c rest).mpr solid)

theorem scanValue_spaces (fuel : Nat) (spaces : List Char) (blank : Spaces spaces) (c : Char)
    (rest : List Char) (solid : isSpace c = false) :
    scanValue fuel (spaces ++ c :: rest) = scanValue fuel (c :: rest) := by
  cases fuel with
  | zero => rfl
  | succ fuel =>
      rw [scanValue, scanValue, skipSpace_spaces spaces blank c rest solid,
        skipSpace_solid c rest solid]

theorem isSpace_of_not_blank (c : Char) (solid : Text.isBlank c = false) : isSpace c = false := by
  cases space : isSpace c with
  | false => rfl
  | true =>
      simp only [isSpace, Bool.or_eq_true, decide_eq_true_eq, or_assoc] at space
      rcases space with rfl | rfl | rfl | rfl <;> cases solid

/-- Blanks before a mark that ends numbers end numbers as well. -/
theorem stopsAt_spaces (spaces : List Char) (blank : Spaces spaces) (c : Char) (rest : List Char)
    (ends : continuesNumber c = false) : StopsAt continuesNumber (spaces ++ c :: rest) := by
  cases spaces with
  | nil => exact (stopsAt_cons continuesNumber c rest).mpr ends
  | cons space spaces =>
      have outside : continuesNumber space = false := by
        have white := blank space (List.mem_cons_self ..)
        simp only [isSpace, Bool.or_eq_true, decide_eq_true_eq, or_assoc] at white
        rcases white with rfl | rfl | rfl | rfl <;> rfl
      exact (stopsAt_cons continuesNumber space _).mpr outside

/-! ## Entries -/

theorem scanItems_close (fuel : Nat) (first : Bool) (spaces : List Char) (blank : Spaces spaces)
    (rest : List Char) :
    scanItems (fuel + 1) first (spaces ++ ']' :: rest) = ([], .bracket, some rest) := by
  simp only [scanItems, skipSpace_spaces spaces blank ']' rest rfl, if_true]

section Items
variable (fuel : Nat) (spaces : List Char) (blank : Spaces spaces) (c : Char) (cs left : List Char)
  (solid : isSpace c = false) (bracket : c ≠ ']') (item : Outline) (items : List Outline)
  (closing : Closing) (after : Option (List Char))
  (read : scanValue fuel (c :: cs) = (item, some left))
  (others : scanItems fuel false left = (items, closing, after))
include blank solid bracket read others

theorem scanItems_first :
    scanItems (fuel + 1) true (spaces ++ c :: cs) = (item :: items, closing, after) := by
  simp only [scanItems, skipSpace_spaces spaces blank c cs solid, if_neg bracket, if_true, read,
    others]

theorem scanItems_next :
    scanItems (fuel + 1) false (',' :: (spaces ++ c :: cs)) = (item :: items, closing, after) := by
  have comma : skipSpace (',' :: (spaces ++ c :: cs)) = ',' :: (spaces ++ c :: cs) :=
    skipSpace_solid ',' _ rfl
  have open' : ¬ (',' = ']') := by decide
  simp only [scanItems, comma, if_neg open', Bool.false_eq_true, if_false, if_true,
    skipSpace_spaces spaces blank c cs solid, if_neg bracket, read, others]

end Items

theorem scanMembers_close (fuel : Nat) (first : Bool) (spaces : List Char)
    (blank : Spaces spaces) (rest : List Char) :
    scanMembers (fuel + 1) first (spaces ++ '\x7d' :: rest) = ([], .bracket, some rest) := by
  simp only [scanMembers, skipSpace_spaces spaces blank '\x7d' rest rfl, if_true]

section Members
variable (fuel : Nat) (spaces : List Char) (blank : Spaces spaces) (key : String)
  (cs left : List Char) (value : Outline) (members : List (Except Fault String × Outline))
  (closing : Closing) (after : Option (List Char))
  (read : scanValue fuel cs = (value, some left))
  (others : scanMembers fuel false left = (members, closing, after))
include blank read others

theorem scanMembers_first :
    scanMembers (fuel + 1) true (spaces ++ (stringText key ++ ':' :: cs)) =
      ((.ok key, value) :: members, closing, after) := by
  have quoted : stringText key ++ ':' :: cs =
      '"' :: (key.toList.flatMap escape ++ '"' :: ':' :: cs) := by
    simp [stringText]
  have quote : ¬ ('"' = '\x7d') := by decide
  rw [quoted]
  simp only [scanMembers, skipSpace_spaces spaces blank '"' _ rfl, if_neg quote, if_true,
    readString_stringText, skipSpace_solid ':' cs rfl, read, others]

theorem scanMembers_next :
    scanMembers (fuel + 1) false (',' :: (spaces ++ (stringText key ++ ':' :: cs))) =
      ((.ok key, value) :: members, closing, after) := by
  have quoted : stringText key ++ ':' :: cs =
      '"' :: (key.toList.flatMap escape ++ '"' :: ':' :: cs) := by
    simp [stringText]
  have comma : ¬ (',' = '\x7d') := by decide
  rw [quoted]
  simp only [scanMembers, skipSpace_solid ',' _ rfl, if_neg comma, Bool.false_eq_true, if_false,
    if_true, skipSpace_spaces spaces blank '"' _ rfl, readString_stringText,
    skipSpace_solid ':' cs rfl, read, others]

end Members

theorem scanValue_list (fuel : Nat) (cs : List Char) (items : List Outline) (closing : Closing)
    (after : Option (List Char)) (read : scanItems fuel true cs = (items, closing, after)) :
    scanValue (fuel + 1) ('[' :: cs) = (.array items closing, after) := by
  have quote : ¬ ('[' = '"') := by decide
  simp only [scanValue, skipSpace_solid '[' cs rfl, if_neg quote, if_true, read]

theorem scanValue_object (fuel : Nat) (cs : List Char)
    (members : List (Except Fault String × Outline)) (closing : Closing)
    (after : Option (List Char)) (read : scanMembers fuel true cs = (members, closing, after)) :
    scanValue (fuel + 1) ('\x7b' :: cs) = (.object members closing, after) := by
  have quote : ¬ ('\x7b' = '"') := by decide
  have list : ¬ ('\x7b' = '[') := by decide
  simp only [scanValue, skipSpace_solid '\x7b' cs rfl, if_neg quote, if_neg list, if_true, read]

theorem scanValue_string (fuel : Nat) (s : String) (rest : List Char) :
    scanValue (fuel + 1) (stringText s ++ rest) = (.string (.ok s), some rest) := by
  have quoted : stringText s ++ rest = '"' :: (s.toList.flatMap escape ++ '"' :: rest) := by
    simp [stringText]
  rw [quoted]
  simp only [scanValue, skipSpace_solid '"' _ rfl, if_true, scanString, readString_stringText]

theorem scanValue_bool (fuel : Nat) (b : Bool) (rest : List Char) :
    scanValue (fuel + 1) (boolText b ++ rest) = (.bool b, some rest) := by
  cases b <;> rfl

/-! ## Values -/

section Layout
variable (style : Style)

theorem layout_head (depth : Nat) (value : Json) (floats : FloatsReadBack value) :
    ∃ c rest, layout style depth value = c :: rest ∧ Text.isBlank c = false ∧ c ≠ ']' := by
  cases value with
  | null => exact ⟨'n', _, rfl, rfl, by decide⟩
  | bool b => cases b <;> exact ⟨_, _, rfl, rfl, by decide⟩
  | number n =>
      obtain ⟨c, rest, _, text, start, _⟩ := (readsBack_of_floats n floats).token
      refine ⟨c, rest, text, ?_, ?_⟩
      · simp only [startsNumber, Bool.or_eq_true, beq_iff_eq] at start
        rcases start with rfl | digit
        · rfl
        · exact Text.isBlank_of_isDigit c digit
      · rintro rfl
        cases start
  | string s => exact ⟨'"', _, rfl, rfl, by decide⟩
  | array items => cases items <;> exact ⟨'[', _, rfl, rfl, by decide⟩
  | object members => cases members <;> exact ⟨'\x7b', _, rfl, rfl, by decide⟩

/-- The text of the value begins like a value, and is scanned into its outline at any depth. -/
def Scanned (value : Json) : Prop :=
  ∀ depth, (∃ c rest, layout style depth value = c :: rest ∧ Text.isBlank c = false ∧ c ≠ ']') ∧
    ∀ fuel rest, 2 * (layout style depth value).length ≤ fuel → StopsAt continuesNumber rest →
      scanValue fuel (layout style depth value ++ rest) = (value.textOutline, some rest)

theorem stopsAt_layoutItems (depth outer : Nat) (items : List Json) (rest : List Char) :
    StopsAt continuesNumber
      (layoutItems style depth items ++ (style.newline outer ++ ']' :: rest)) := by
  cases items with
  | nil => exact stopsAt_spaces _ (style.newline_blank outer) ']' rest rfl
  | cons item items => exact (stopsAt_cons continuesNumber ',' _).mpr rfl

theorem scanItems_layout (depth outer : Nat) (items : List Json)
    (scanned : ∀ item ∈ items, Scanned style item) (fuel : Nat) (rest : List Char)
    (room : 2 * (layoutItems style depth items ++ (style.newline outer ++ [']'])).length ≤ fuel) :
    scanItems fuel false (layoutItems style depth items ++ (style.newline outer ++ ']' :: rest)) =
      (textItems items, .bracket, some rest) := by
  induction items generalizing fuel with
  | nil =>
      simp only [layoutItems, List.nil_append, List.length_append, List.length_singleton] at room
      obtain ⟨fuel, rfl⟩ := Nat.exists_eq_add_of_le' (show 1 ≤ fuel by omega)
      exact scanItems_close fuel false _ (style.newline_blank outer) rest
  | cons item items ih =>
      obtain ⟨head, tail⟩ := List.forall_mem_cons.mp scanned
      obtain ⟨⟨c, cs, text, solid, bracket⟩, read⟩ := head depth
      simp only [layoutItems, List.cons_append, List.append_assoc, List.length_cons,
        List.length_append] at room ih ⊢
      obtain ⟨fuel, rfl⟩ := Nat.exists_eq_add_of_le' (show 1 ≤ fuel by omega)
      -- the comma pays for the step, so twice the rest of the text is still enough
      have first := read fuel _ (by omega) (stopsAt_layoutItems style depth outer items rest)
      have others := ih tail fuel (by omega)
      rw [text, List.cons_append] at first ⊢
      exact scanItems_next fuel _ (style.newline_blank depth) c _ _ (isSpace_of_not_blank c solid)
        bracket _ _ _ _ first others

theorem scanValue_layout_array (items : List Json)
    (scanned : ∀ item ∈ items, Scanned style item) (depth fuel : Nat) (rest : List Char)
    (room : 2 * (layout style depth (.array items)).length ≤ fuel) :
    scanValue fuel (layout style depth (.array items) ++ rest) =
      (.array (textItems items) .bracket, some rest) := by
  cases items with
  | nil =>
      simp only [layout, List.length_cons, List.length_nil] at room
      obtain ⟨fuel, rfl⟩ := Nat.exists_eq_add_of_le' (show 2 ≤ fuel by omega)
      exact scanValue_list (fuel + 1) _ _ _ _
        (scanItems_close fuel true [] (List.forall_mem_nil _) rest)
  | cons item items =>
      obtain ⟨head, tail⟩ := List.forall_mem_cons.mp scanned
      obtain ⟨⟨c, cs, text, solid, bracket⟩, read⟩ := head (depth + 1)
      simp only [layout, List.cons_append, List.append_assoc, List.length_cons, List.length_append,
        List.length_nil, List.nil_append] at room ⊢
      obtain ⟨fuel, rfl⟩ := Nat.exists_eq_add_of_le' (show 2 ≤ fuel by omega)
      have first := read fuel _ (by omega) (stopsAt_layoutItems style (depth + 1) depth items rest)
      have others := scanItems_layout style (depth + 1) depth items tail fuel rest
        (by simp only [List.length_append, List.length_singleton]; omega)
      rw [text, List.cons_append] at first ⊢
      exact scanValue_list (fuel + 1) _ _ _ _
        (scanItems_first fuel _ (style.newline_blank (depth + 1)) c _ _ (isSpace_of_not_blank c solid)
          bracket _ _ _ _ first others)

theorem stopsAt_layoutMembers (depth outer : Nat) (members : List (String × Json))
    (rest : List Char) :
    StopsAt continuesNumber
      (layoutMembers style depth members ++ (style.newline outer ++ '\x7d' :: rest)) := by
  cases members with
  | nil => exact stopsAt_spaces _ (style.newline_blank outer) '\x7d' rest rfl
  | cons member members => exact (stopsAt_cons continuesNumber ',' _).mpr rfl

/-- The value of a member is scanned past the gap that comes before it. -/
theorem Scanned.past_gap (value : Json) (scanned : Scanned style value) (depth fuel : Nat)
    (rest : List Char) (room : 2 * (layout style depth value).length ≤ fuel)
    (ends : StopsAt continuesNumber rest) :
    scanValue fuel (style.gap ++ (layout style depth value ++ rest)) =
      (value.textOutline, some rest) := by
  obtain ⟨⟨c, cs, text, solid, _⟩, read⟩ := scanned depth
  have whole := read fuel rest room ends
  rw [text, List.cons_append] at whole ⊢
  rw [scanValue_spaces fuel _ style.gap_blank c _ (isSpace_of_not_blank c solid), whole]

theorem scanMembers_layout (depth outer : Nat) (members : List (String × Json))
    (scanned : ∀ member ∈ members, Scanned style (Prod.snd member)) (fuel : Nat)
    (rest : List Char)
    (room : 2 * (layoutMembers style depth members ++ (style.newline outer ++ ['\x7d'])).length ≤
      fuel) :
    scanMembers fuel false
        (layoutMembers style depth members ++ (style.newline outer ++ '\x7d' :: rest)) =
      (textMembers members, .bracket, some rest) := by
  induction members generalizing fuel with
  | nil =>
      simp only [layoutMembers, List.nil_append, List.length_append, List.length_singleton] at room
      obtain ⟨fuel, rfl⟩ := Nat.exists_eq_add_of_le' (show 1 ≤ fuel by omega)
      exact scanMembers_close fuel false _ (style.newline_blank outer) rest
  | cons member members ih =>
      obtain ⟨key, value⟩ := member
      obtain ⟨head, tail⟩ := List.forall_mem_cons.mp scanned
      simp only [layoutMembers, List.cons_append, List.append_assoc, List.length_cons,
        List.length_append] at room ih ⊢
      obtain ⟨fuel, rfl⟩ := Nat.exists_eq_add_of_le' (show 1 ≤ fuel by omega)
      have first := head.past_gap style value depth fuel _ (by omega)
        (stopsAt_layoutMembers style depth outer members rest)
      have others := ih tail fuel (by omega)
      exact scanMembers_next fuel _ (style.newline_blank depth) key _ _ _ _ _ _ first others

theorem scanValue_layout_object (members : List (String × Json))
    (scanned : ∀ member ∈ members, Scanned style (Prod.snd member)) (depth fuel : Nat)
    (rest : List Char) (room : 2 * (layout style depth (.object members)).length ≤ fuel) :
    scanValue fuel (layout style depth (.object members) ++ rest) =
      (.object (textMembers members) .bracket, some rest) := by
  cases members with
  | nil =>
      simp only [layout, List.length_cons, List.length_nil] at room
      obtain ⟨fuel, rfl⟩ := Nat.exists_eq_add_of_le' (show 2 ≤ fuel by omega)
      exact scanValue_object (fuel + 1) _ _ _ _
        (scanMembers_close fuel true [] (List.forall_mem_nil _) rest)
  | cons member members =>
      obtain ⟨key, value⟩ := member
      obtain ⟨head, tail⟩ := List.forall_mem_cons.mp scanned
      simp only [layout, List.cons_append, List.append_assoc, List.length_cons, List.length_append,
        List.length_nil, List.nil_append] at room ⊢
      obtain ⟨fuel, rfl⟩ := Nat.exists_eq_add_of_le' (show 2 ≤ fuel by omega)
      have first := head.past_gap style value (depth + 1) fuel _ (by omega)
        (stopsAt_layoutMembers style (depth + 1) depth members rest)
      have others := scanMembers_layout style (depth + 1) depth members tail fuel rest
        (by simp only [List.length_append, List.length_singleton]; omega)
      exact scanValue_object (fuel + 1) _ _ _ _
        (scanMembers_first fuel _ (style.newline_blank (depth + 1)) key _ _ _ _ _ _ first others)

theorem scanned_of_read (value : Json) (floats : FloatsReadBack value)
    (read : ∀ depth fuel rest, StopsAt continuesNumber rest →
      scanValue (fuel + 1) (layout style depth value ++ rest) =
        (value.textOutline, some rest)) : Scanned style value := by
  intro depth
  have head := layout_head style depth value floats
  refine ⟨head, fun fuel rest room ends => ?_⟩
  obtain ⟨c, cs, text, _⟩ := head
  rw [text, List.length_cons] at room
  obtain ⟨fuel, rfl⟩ := Nat.exists_eq_add_of_le' (show 1 ≤ fuel by omega)
  exact read depth fuel rest ends

theorem scanned (value : Json) (floats : FloatsReadBack value) : Scanned style value := by
  induction value using Json.induction with
  | null => exact scanned_of_read style _ floats fun _ _ _ _ => rfl
  | bool b => exact scanned_of_read style _ floats fun _ fuel rest _ => scanValue_bool fuel b rest
  | number n =>
      exact scanned_of_read style _ floats fun _ fuel rest ends =>
        scanValue_number n (readsBack_of_floats n floats) fuel rest ends
  | string s =>
      exact scanned_of_read style _ floats fun _ fuel rest _ => scanValue_string fuel s rest
  | array items ih =>
      have inside := ((every_array_iff _ items).mp floats).2
      have scanned := fun item member => ih item member (inside item member)
      exact fun depth => ⟨layout_head style depth _ floats, fun fuel rest room _ =>
        scanValue_layout_array style items scanned depth fuel rest room⟩
  | object members ih =>
      have inside := ((every_object_iff _ members).mp floats).2
      have scanned := fun member within => ih member within (inside member within)
      exact fun depth => ⟨layout_head style depth _ floats, fun fuel rest room _ =>
        scanValue_layout_object style members scanned depth fuel rest room⟩

/-- What decoding a laid out value gives is what decoding its outline gives. -/
theorem decodeText_layout {α : Type} (decode : Decoder α) (depth : Nat) (value : Json)
    (floats : FloatsReadBack value) :
    decodeText decode (String.ofList (layout style depth value)) =
      decode ⟨nestingLimit, .withNull, .exact⟩ value.textOutline := by
  have scan := (scanned style value floats depth).2 (2 * (layout style depth value).length + 2) []
    (Nat.le_add_right _ _) (stopsAt_nil _)
  rw [List.append_nil] at scan
  have read : outline (layout style depth value) = (value.textOutline, false) :=
    (outline_eq_iff _ _).mpr (.inr ⟨[], scan, rfl⟩)
  rw [decodeText, String.toList_ofList, read]
  cases decoded : decode ⟨nestingLimit, .withNull, .exact⟩ value.textOutline <;> simp [decoded]

end Layout

/-! ## The value of an outline -/

theorem anyItems_textItems (rules : DecodingRules) (items : List Json)
    (read : ∀ item ∈ items, Decoder.any rules item.textOutline = .ok item) :
    Decoder.anyItems rules (textItems items) = .ok items := by
  induction items with
  | nil => rfl
  | cons item items ih =>
      obtain ⟨head, tail⟩ := List.forall_mem_cons.mp read
      rw [textItems, Decoder.anyItems, head, ih tail]
      rfl

theorem anyMembers_textMembers (rules : DecodingRules) (members : List (String × Json))
    (read : ∀ member ∈ members,
      Decoder.any rules (Prod.snd member).textOutline = .ok member.2) :
    Decoder.anyMembers rules (textMembers members) = .ok members := by
  induction members with
  | nil => rfl
  | cons member members ih =>
      obtain ⟨key, value⟩ := member
      obtain ⟨head, tail⟩ := List.forall_mem_cons.mp read
      rw [textMembers, Decoder.anyMembers, head, ih tail]
      rfl

theorem any_textOutline (rules : DecodingRules) (value : Json) (distinct : value.Distinct)
    (room : value.height ≤ rules.room) : Decoder.any rules value.textOutline = .ok value := by
  induction value using Json.induction generalizing rules with
  | null => rfl
  | bool b => rfl
  | number n => rfl
  | string s => rfl
  | array items ih =>
      have inside := ((every_array_iff _ items).mp distinct).2
      have positive : ¬ rules.room = 0 := by
        rw [height] at room
        omega
      have within := (itemsHeight_le_iff items rules.within.room).mp (Nat.le_sub_one_of_lt room)
      have read := anyItems_textItems rules.within items fun item member =>
        ih item member rules.within (inside item member) (within item member)
      rw [textOutline, Decoder.any, if_neg positive, read]
      rfl
  | object members ih =>
      -- members with the same name would be one member of what is read
      obtain ⟨names, inside⟩ := (every_object_iff _ members).mp distinct
      have positive : ¬ rules.room = 0 := by
        rw [height] at room
        omega
      have within := (membersHeight_le_iff members rules.within.room).mp (Nat.le_sub_one_of_lt room)
      have read := anyMembers_textMembers rules.within members fun member here =>
        ih member here rules.within (inside member here) (within member here)
      rw [textOutline, Decoder.any, if_neg positive, read]
      exact congrArg (fun fields => Except.ok (object fields))
        (Fields.ofEntries_of_nodup members names)

/-- A laid out value is read back. -/
theorem parse_layout (style : Style) (depth : Nat) (value : Json) (floats : FloatsReadBack value)
    (distinct : value.Distinct) (room : value.height ≤ nestingLimit) :
    parse (String.ofList (layout style depth value)) = .ok value := by
  rw [parse, decodeText_layout style Decoder.any depth value floats]
  exact any_textOutline ⟨nestingLimit, .withNull, .exact⟩ value distinct room

theorem parse_compact (value : Json) (floats : FloatsReadBack value) (distinct : value.Distinct)
    (room : value.height ≤ nestingLimit) : parse value.compact = .ok value := by
  rw [compact, compactChars_eq value 0]
  exact parse_layout .compact 0 value floats distinct room

theorem parse_pretty (value : Json) (floats : FloatsReadBack value) (distinct : value.Distinct)
    (room : value.height ≤ nestingLimit) : parse value.pretty = .ok value := by
  rw [pretty, prettyChars_eq value 0]
  exact parse_layout .pretty 0 value floats distinct room

end Json

end Crosswalk
