import Crosswalk.Proofs.Json.Induction
import Crosswalk.Proofs.Yaml.Layout

/-!
# Reading what is written

Every value is read back wherever it may stand in a document (`read_value`).  After a dash or a
question mark it is read where its line has got to (`ReadInline`), and after the colon of a key on
the same line or the next (`ReadContent`).  In both places it ends before the next token, which
stands no deeper than the list or the map around it.
-/

set_option autoImplicit false

namespace Crosswalk.Yaml

open Text (StopsAt stopsAt_nil stopsAt_cons)

/-! ## Leaves and signs -/

theorem OpensLeaf.append (text tail : List Char) (opens : OpensLeaf text) :
    OpensLeaf (text ++ tail) := by
  obtain ⟨c, rest, rfl, solid, name, sign⟩ := opens
  refine ⟨c, rest ++ tail, rfl, solid, name, fun is => ?_⟩
  have inside := sign is
  cases rest with
  | nil => cases inside
  | cons d rest => exact inside

theorem OpensLeaf.closed (text tail : List Char) (opens : OpensLeaf text) :
    OpensLeaf (closed text ++ tail) := by
  rw [Yaml.closed]
  split
  · exact opens.append text tail
  · rw [List.append_assoc]
    exact opens.append text _

theorem OpensLeaf.atToken (text : List Char) (opens : OpensLeaf text) : AtToken text := by
  obtain ⟨c, rest, rfl, solid, _⟩ := opens
  exact (stopsAt_cons _ c rest).mpr solid

theorem OpensLeaf.atSign (place : Place) (opens : OpensLeaf place.rest) :
    place.atSign '-' = false ∧ place.atSign '?' = false ∧ place.head? ≠ some '&' := by
  obtain ⟨rest, column, line, fresh, anchors⟩ := place
  obtain ⟨c, more, rfl, _, name, sign⟩ := opens
  refine ⟨?_, ?_, by simpa [Place.head?] using name⟩
  · by_cases dash : c = '-'
    · simp [Place.atSign, sign (.inl dash)]
    · simp [Place.atSign, Place.head?, dash]
  · by_cases mark : c = '?'
    · simp [Place.atSign, sign (.inr mark)]
    · simp [Place.atSign, Place.head?, mark]

section Value
variable (floor fuel : Nat) (listed : Bool) (place : Place)

theorem namedLeaf_eq (other : place.head? ≠ some '&') : namedLeaf floor place = leaf floor place :=
  if_neg other

/-- A leaf that is no key is the value. -/
theorem blockValue_leaf (o : Outline) (last : Place) (opens : OpensLeaf place.rest)
    (read : leaf floor place = some (o, last)) (alone : pastColon? false place last = none) :
    blockValue (fuel + 1) floor listed false place = some (o, last) := by
  obtain ⟨dash, mark, name⟩ := opens.atSign place
  rw [blockValue]
  simp only [dash, mark, name, namedLeaf_eq floor place name, read, alone, Bool.false_eq_true,
    if_false, decide_false, Bool.false_and, Option.isSome_none, Bool.and_false, Option.pure_def,
    Option.bind_eq_bind, Option.bind_some]

/-- A leaf that is a key begins a map. -/
theorem blockValue_key (o : Outline) (last after : Place) (opens : OpensLeaf place.rest)
    (fresh : place.fresh = true) (read : leaf floor place = some (o, last))
    (key : pastColon? false place last = some after) :
    blockValue (fuel + 1) floor listed false place =
      (blockMembers fuel place.column place).bind fun (members, last) =>
        some (.object members .bracket, last) := by
  obtain ⟨dash, mark, name⟩ := opens.atSign place
  rw [blockValue]
  simp only [dash, mark, name, namedLeaf_eq floor place name, read, key, fresh, Bool.false_eq_true,
    if_false, decide_false, Bool.false_and, Option.isSome_some, Bool.and_true, Option.pure_def,
    Option.bind_eq_bind, Option.bind_some, if_true]

end Value

section Signs
variable (floor fuel column line : Nat) (listed : Bool) (anchors : List (String × Outline))
  (rest : List Char)

theorem blockValue_dash :
    blockValue (fuel + 1) floor listed false ⟨'-' :: ' ' :: rest, column, line, true, anchors⟩ =
      (blockItems fuel column ⟨'-' :: ' ' :: rest, column, line, true, anchors⟩).bind
        fun (items, last) => some (.array items .bracket, last) := by
  rw [blockValue]
  rfl

theorem blockValue_mark :
    blockValue (fuel + 1) floor listed false ⟨'?' :: ' ' :: rest, column, line, true, anchors⟩ =
      (blockMembers fuel column ⟨'?' :: ' ' :: rest, column, line, true, anchors⟩).bind
        fun (members, last) => some (.object members .bracket, last) := by
  rw [blockValue]
  rfl

end Signs

/-! ## Where a value starts -/

section Content
variable (floor fuel column line : Nat) (listed fresh : Bool) (anchors : List (String × Outline))
  (rest : List Char) (token : AtToken rest) (given : rest ≠ [])
include token given

theorem ended_given (positive : 0 < column) :
    Place.ended ⟨rest, column, line, fresh, anchors⟩ = false := by
  obtain ⟨c, more, rfl⟩ := List.exists_cons_of_ne_nil given
  exact ended_cons column line fresh anchors more c positive

/-- On the line of a sign the value starts after a space. -/
theorem blockContent_space :
    blockContent (fuel + 1) floor listed false ⟨' ' :: rest, column, line, fresh, anchors⟩ =
      blockValue fuel floor listed false ⟨rest, column + 1, line, fresh, anchors⟩ := by
  have next := skip_space false column line fresh anchors rest token
  have inside := ended_given (column + 1) line fresh anchors rest token given (by omega)
  rw [blockContent, next]
  simp only [inside, Bool.false_eq_true, if_false, decide_true, Bool.true_or, if_true]

/-- On a later line it starts where it is indented. -/
theorem blockContent_newLine (count : Nat) (deep : floor ≤ count) (positive : 0 < count) :
    blockContent (fuel + 1) floor listed false
        ⟨'\n' :: (spaces count ++ rest), column, line, fresh, anchors⟩ =
      blockValue fuel floor listed false ⟨rest, count, line + 1, true, anchors⟩ := by
  have next := skip_newLine false count column line fresh anchors rest token
  have inside := ended_given count (line + 1) true anchors rest token given positive
  rw [blockContent, next]
  simp only [inside, Bool.false_eq_true, if_false, deep, decide_true, Bool.true_or, Bool.or_true,
    if_true]

end Content

theorem ended_dash (column line : Nat) (fresh : Bool) (anchors : List (String × Outline))
    (rest : List Char) :
    Place.ended ⟨'-' :: ' ' :: rest, column, line, fresh, anchors⟩ = false := by
  simp [Place.ended, Place.atMarker]

/-- A list may stand as deep as its key. -/
theorem blockContent_list (fuel column line count : Nat) (fresh : Bool)
    (anchors : List (String × Outline)) (rest : List Char) :
    blockContent (fuel + 1) (count + 1) true false
        ⟨'\n' :: (spaces count ++ '-' :: ' ' :: rest), column, line, fresh, anchors⟩ =
      (blockItems fuel count ⟨'-' :: ' ' :: rest, count, line + 1, true, anchors⟩).bind
        fun (items, last) => some (.array items .bracket, last) := by
  have token : AtToken ('-' :: ' ' :: rest) := (stopsAt_cons _ _ _).mpr rfl
  have next := skip_newLine false count column line fresh anchors _ token
  have inside := ended_dash count (line + 1) true anchors rest
  have shallow : ¬ count + 1 ≤ count := Nat.not_succ_le_self count
  have dash : Place.atSign ⟨'-' :: ' ' :: rest, count, line + 1, true, anchors⟩ '-' = true := rfl
  have list : Place.head? ⟨'-' :: ' ' :: rest, count, line + 1, true, anchors⟩ = some '-' := rfl
  rw [blockContent, next]
  simp [inside, shallow, dash, list]

/-! ## The outlines of lists and maps -/

theorem means_array (os : List Outline) (items : List Json)
    (means : ∀ rules : DecodingRules, itemsHeight items ≤ rules.room →
      Decoder.anyItems rules os = .ok items) : Means (.array os .bracket) (.array items) := by
  intro rules low
  have positive : ¬ rules.room = 0 := by
    rw [Json.height] at low
    omega
  have inside := means rules.within (Nat.le_sub_one_of_lt low)
  rw [Decoder.any, if_neg positive, inside]
  rfl

theorem means_object (os : List (Except Fault String × Outline)) (members : List (String × Json))
    (names : (Fields.names members).Nodup)
    (means : ∀ rules : DecodingRules, membersHeight members ≤ rules.room →
      Decoder.anyMembers rules os = .ok members) :
    Means (.object os .bracket) (.object members) := by
  intro rules low
  have positive : ¬ rules.room = 0 := by
    rw [Json.height] at low
    omega
  have inside := means rules.within (Nat.le_sub_one_of_lt low)
  rw [Decoder.any, if_neg positive, inside]
  exact congrArg (fun fields => Except.ok (Json.object fields))
    (Fields.ofEntries_of_nodup members names)

/-! ## Reading lists and maps -/

/-- After a sign, where its line has got to, a value is read up to the next token, which stands no
deeper than the sign. -/
def ReadInline (value : Json) : Prop :=
  ∀ (floor fuel count line : Nat) (listed : Bool) (anchors : List (String × Outline))
    (rest : List Char), count < floor → AtToken rest →
      let text := closed (inlineText (floor + 1) value) ++ (spaces count ++ rest)
      4 * text.length + 1 ≤ fuel →
        ∃ o last, blockValue fuel floor listed false ⟨text, floor + 1, line, true, anchors⟩ =
            some (o, last) ∧ Means o value ∧ ComesTo anchors line count rest last

/-- No item begins here. -/
def NoItem (rest : List Char) : Prop :=
  (rest.head? = some '-' && endsToken rest.tail.head?) = false

/-- After the colon of a key a value is read up to the next token, which stands no deeper than the
key. -/
def ReadContent (value : Json) : Prop :=
  ∀ (indent fuel count column line : Nat) (fresh : Bool) (anchors : List (String × Outline))
    (rest : List Char), 0 < indent → indent < column → count ≤ indent →
      (count = indent → NoItem rest) → AtToken rest →
        let text := closed (valueText indent value) ++ (spaces count ++ rest)
        4 * text.length + 2 ≤ fuel →
          ∃ o last, blockContent fuel (indent + 1) true false ⟨text, column, line, fresh, anchors⟩ =
              some (o, last) ∧ Means o value ∧ ComesTo anchors line count rest last

theorem readInline_leaf (value : Json) (single : isLeaf value = true) : ReadInline value := by
  intro floor fuel count line listed anchors rest shallow token text room
  obtain ⟨fuel, rfl⟩ := Nat.exists_eq_add_of_le' (show 1 ≤ fuel by omega)
  obtain ⟨o, read, means⟩ := readAsValue_leaf floor value single
  obtain ⟨last, here, alone, comes⟩ := read count (floor + 1) line true anchors rest (by omega)
    (by omega) shallow token
  have opens := (opensLeaf_leaf (floor + 1) value single).closed _ (spaces count ++ rest)
  exact ⟨o, last, blockValue_leaf floor fuel listed _ o last opens here alone, means, comes⟩

theorem readContent_leaf (value : Json) (single : isLeaf value = true) : ReadContent value := by
  intro indent fuel count column line fresh anchors rest positive deep shallow _ token text room
  obtain ⟨fuel, rfl⟩ := Nat.exists_eq_add_of_le' (show 2 ≤ fuel by omega)
  obtain ⟨o, read, means⟩ := readAsValue_leaf (indent + 1) value single
  obtain ⟨last, here, alone, comes⟩ := read count (column + 1) line fresh anchors rest (by omega)
    (by omega) (by omega) token
  have opens := (opensLeaf_leaf (indent + 2) value single).closed _ (spaces count ++ rest)
  have layout : text =
      ' ' :: (closed (inlineText (indent + 1 + 1) value) ++ (spaces count ++ rest)) := by
    simp only [text, valueText_leaf indent value single]
    rw [closed_cons _ _ (inlineText_given _ value), List.cons_append]
  refine ⟨o, last, ?_, means, comes⟩
  rw [layout, blockContent_space (indent + 1) (fuel + 1) column line true fresh anchors _
    opens.atToken opens.given]
  exact blockValue_leaf (indent + 1) fuel true _ o last opens here alone

theorem opensLeaf_simple (indent : Nat) (key : String) (value : Json)
    (rest : List (String × Json)) (tail : List Char) (simple : isSimpleKey key = true) :
    OpensLeaf (closed (membersText indent none ((key, value) :: rest)) ++ tail) := by
  rw [closed_members, closed_simple indent key value simple, List.append_assoc, List.append_assoc]
  exact (opensLeaf_scalarText true _ key).append _ _

/-- A map begins with a token that begins no item. -/
theorem atToken_members (indent : Nat) (member : String × Json) (rest : List (String × Json))
    (tail : List Char) :
    let text := closed (membersText indent none (member :: rest)) ++ tail
    AtToken text ∧ text ≠ [] ∧ NoItem text := by
  obtain ⟨key, value⟩ := member
  intro text
  cases simple : isSimpleKey key with
  | true =>
      have opens : OpensLeaf text := opensLeaf_simple indent key value rest tail simple
      exact ⟨opens.atToken, opens.given, (opens.atSign ⟨text, 0, 0, true, []⟩).1⟩
  | false =>
      simp only [text]
      rw [closed_members, closed_complex indent key value simple]
      exact ⟨(stopsAt_cons _ _ _).mpr rfl, List.cons_ne_nil _ _, rfl⟩

/-- Every value begins with a token. -/
theorem atToken_inline (indent : Nat) (value : Json) (tail : List Char) :
    let text := closed (inlineText indent value) ++ tail
    AtToken text ∧ text ≠ [] := by
  cases leaf : isLeaf value with
  | true =>
      have opens := (opensLeaf_leaf indent value leaf).closed _ tail
      exact ⟨opens.atToken, opens.given⟩
  | false =>
      cases value with
      | array items =>
          cases items with
          | nil => cases leaf
          | cons item rest =>
              rw [inlineText, closed_items]
              exact ⟨(stopsAt_cons _ _ _).mpr rfl, List.cons_ne_nil _ _⟩
      | object members =>
          cases members with
          | nil => cases leaf
          | cons member rest =>
              obtain ⟨token, given, _⟩ := atToken_members indent member rest tail
              rw [inlineText]
              exact ⟨token, given⟩
      | _ => cases leaf

/-- So a value is read after the space behind a sign. -/
theorem ReadInline.spaced (value : Json) (inline : ReadInline value)
    (floor fuel count line : Nat) (listed : Bool) (anchors : List (String × Outline))
    (rest : List Char) (shallow : count < floor) (token : AtToken rest)
    (room : 4 * (closed (inlineText (floor + 1) value) ++ (spaces count ++ rest)).length + 2 ≤
      fuel) :
    ∃ o last, blockContent fuel floor listed false
        ⟨' ' :: (closed (inlineText (floor + 1) value) ++ (spaces count ++ rest)), floor, line, true,
          anchors⟩ = some (o, last) ∧
      Means o value ∧ ComesTo anchors line count rest last := by
  obtain ⟨fuel, rfl⟩ := Nat.exists_eq_add_of_le' (show 1 ≤ fuel by omega)
  obtain ⟨start, given⟩ := atToken_inline (floor + 1) value (spaces count ++ rest)
  rw [blockContent_space floor fuel floor line listed true anchors _ start given]
  exact inline floor fuel count line listed anchors rest shallow token (by omega)

/-! ### Items -/

section Step
variable (fuel column line count later : Nat) (fresh : Bool) (anchors : List (String × Outline))
  (text rest : List Char) (o : Outline) (last : Place)
  (read : blockContent fuel (column + 1) false false
    ⟨' ' :: text, column + 1, line, true, anchors⟩ = some (o, last))
  (comes : last.skip false = ⟨rest, count, later, true, anchors⟩)
include read comes

theorem blockItems_last (shallow : count ≤ column) (other : count = column → NoItem rest) :
    blockItems (fuel + 1) column ⟨'-' :: ' ' :: text, column, line, fresh, anchors⟩ =
      some ([o], ⟨rest, count, later, true, anchors⟩) := by
  have start : Place.pastSign ⟨'-' :: ' ' :: text, column, line, fresh, anchors⟩ =
      ⟨' ' :: text, column + 1, line, true, anchors⟩ := rfl
  rw [blockItems, start, read]
  simp only [Option.bind_eq_bind, Option.bind_some, comes]
  split
  case isTrue => rfl
  case isFalse open' =>
    simp only [Bool.or_eq_true, decide_eq_true_eq, not_or, Nat.not_lt] at open'
    have same : count = column := Nat.le_antisymm shallow open'.2
    have none : Place.atSign ⟨rest, count, later, true, anchors⟩ '-' = false := other same
    simp only [same, bne_self_eq_false, Bool.not_true, Bool.or_self, Bool.false_eq_true, if_false]
    rw [same] at none
    simp [none]

theorem blockItems_next (next : List Char) (more : rest = '-' :: ' ' :: next)
    (same : count = column) :
    blockItems (fuel + 1) column ⟨'-' :: ' ' :: text, column, line, fresh, anchors⟩ =
      (blockItems fuel column ⟨rest, column, later, true, anchors⟩).bind
        fun (items, last) => some (o :: items, last) := by
  subst more same
  have start : Place.pastSign ⟨'-' :: ' ' :: text, count, line, fresh, anchors⟩ =
      ⟨' ' :: text, count + 1, line, true, anchors⟩ := rfl
  have inside := ended_dash count later true anchors next
  have dash : Place.atSign ⟨'-' :: ' ' :: next, count, later, true, anchors⟩ '-' = true := rfl
  rw [blockItems, start, read]
  simp only [Option.bind_eq_bind, Option.bind_some, comes, inside, dash, Nat.lt_irrefl,
    decide_false, Bool.or_self, Bool.false_eq_true, if_false, Bool.not_true, bne_self_eq_false,
    if_true]
  rfl

end Step

theorem anyItems_cons (rules : DecodingRules) (o : Outline) (os : List Outline) (item : Json)
    (items : List Json) (first : Decoder.any rules o = .ok item)
    (others : Decoder.anyItems rules os = .ok items) :
    Decoder.anyItems rules (o :: os) = .ok (item :: items) := by
  rw [Decoder.anyItems, first, others]
  rfl

theorem blockItems_items (item : Json) (items : List Json) (first : ReadInline item)
    (each : ∀ item ∈ items, ReadInline item) (column fuel count line : Nat) (fresh : Bool)
    (anchors : List (String × Outline)) (rest : List Char) (shallow : count ≤ column)
    (other : count = column → NoItem rest) (token : AtToken rest)
    (room : 4 * (closed (itemsText column none (item :: items)) ++ (spaces count ++ rest)).length ≤
      fuel) :
    ∃ os last, blockItems fuel column
        ⟨closed (itemsText column none (item :: items)) ++ (spaces count ++ rest), column, line,
          fresh, anchors⟩ = some (os, last) ∧
      (∀ rules : DecodingRules, itemsHeight (item :: items) ≤ rules.room →
        Decoder.anyItems rules os = .ok (item :: items)) ∧
      ComesTo anchors line count rest last := by
  induction items generalizing item fuel line fresh with
  | nil =>
      rw [closed_items] at room ⊢
      simp only [itemLines, List.append_nil, List.cons_append, List.length_cons] at room ⊢
      obtain ⟨fuel, rfl⟩ := Nat.exists_eq_add_of_le' (show 1 ≤ fuel by omega)
      obtain ⟨o, last, read, means, later, after, comes⟩ := first.spaced item (column + 1) fuel count
        line false anchors rest (by omega) token (by omega)
      refine ⟨[o], _, blockItems_last fuel column line count later fresh anchors _ rest o last read
        comes shallow other, fun rules low => ?_, later, after, skip_atToken false _ token⟩
      have below := Nat.le_trans (Nat.le_max_left ..) low
      exact anyItems_cons rules o [] item [] (means rules below) rfl
  | cons next items ih =>
      obtain ⟨second, others⟩ := List.forall_mem_cons.mp each
      rw [closed_items] at room ⊢
      simp only [itemLines, List.cons_append, List.length_cons, List.append_assoc] at room ⊢
      obtain ⟨fuel, rfl⟩ := Nat.exists_eq_add_of_le' (show 1 ≤ fuel by omega)
      have head := closed_items column next items
      have token' : AtToken (closed (itemsText column none (next :: items)) ++
          (spaces count ++ rest)) := by
        rw [head]
        exact (stopsAt_cons _ _ _).mpr rfl
      obtain ⟨o, last, read, means, later, after, comes⟩ := first.spaced item (column + 1) fuel column
        line false anchors _ (by omega) token' (by omega)
      obtain ⟨os, last', read', means', later', after', comes'⟩ :=
        ih next second others fuel later true (by simp at room ⊢; omega)
      refine ⟨o :: os, last', ?_, fun rules low => ?_, later', Nat.lt_trans after after', comes'⟩
      · rw [blockItems_next fuel column line column later fresh anchors _ _ o last read comes _
          (by rw [head]; rfl) rfl, read']
        rfl
      · rw [itemsHeight, Nat.max_le] at low
        exact anyItems_cons rules o os item _ (means rules low.1) (means' rules low.2)

/-! ### Members -/

theorem pastColon?_key (text rest : List Char) (column size line : Nat) (fresh : Bool)
    (anchors : List (String × Outline)) (short : size ≤ keyLimit)
    (ends : endsToken rest.head? = true) :
    pastColon? false ⟨text, column, line, fresh, anchors⟩
        ⟨':' :: rest, column + size, line, false, anchors⟩ =
      some ⟨rest, column + size + 1, line, false, anchors⟩ := by
  have stays : Place.skipBlanks ⟨':' :: rest, column + size, line, false, anchors⟩ =
      ⟨':' :: rest, column + size, line, false, anchors⟩ := rfl
  have colon : Place.atSign ⟨':' :: rest, column + size, line, false, anchors⟩ ':' = true := by
    simp [Place.atSign, Place.head?, ends]
  have near : column + size ≤ column + keyLimit := by omega
  rw [pastColon?, stays]
  simp only [colon, near, Bool.false_eq_true, if_false, decide_true, Bool.and_self, if_true]
  rfl

/-- What follows a member: another one, or the end of the map. -/
def afterMember (fuel column : Nat) (member : Except Fault String × Outline) (last : Place) :
    Option (List (Except Fault String × Outline) × Place) :=
  let next := last.skip false
  if next.ended || next.column < column then some ([member], next)
  else if !next.fresh || next.column != column then none
  else (blockMembers fuel column next).bind fun (members, last) => some (member :: members, last)

section Member
variable (fuel column line : Nat) (fresh : Bool) (anchors : List (String × Outline))
  (o content : Outline) (last : Place)

theorem blockMembers_simple (text : List Char) (first after : Place) (opens : OpensLeaf text)
    (key : leaf (column + 1) ⟨text, column, line, fresh, anchors⟩ = some (o, first))
    (colon : pastColon? false ⟨text, column, line, fresh, anchors⟩ first = some after)
    (read : blockContent fuel (column + 1) true false after = some (content, last)) :
    blockMembers (fuel + 1) column ⟨text, column, line, fresh, anchors⟩ =
      afterMember fuel column (keyText o, content) last := by
  obtain ⟨_, mark, name⟩ := opens.atSign ⟨text, column, line, fresh, anchors⟩
  rw [blockMembers]
  simp only [mark, namedLeaf_eq _ _ name, key, colon, read, Bool.false_eq_true, if_false,
    Option.bind_eq_bind, Option.bind_some]
  rfl

theorem blockMembers_complex (text value : List Char) (first : Place) (later : Nat)
    (key : blockContent fuel (column + 1) true false
      ⟨' ' :: text, column + 1, line, true, anchors⟩ = some (o, first))
    (comes : first.skip false = ⟨':' :: ' ' :: value, column, later, true, anchors⟩)
    (read : blockContent fuel (column + 1) true false
      ⟨' ' :: value, column + 1, later, true, anchors⟩ = some (content, last)) :
    blockMembers (fuel + 1) column ⟨'?' :: ' ' :: text, column, line, fresh, anchors⟩ =
      afterMember fuel column (keyText o, content) last := by
  have start : Place.pastSign ⟨'?' :: ' ' :: text, column, line, fresh, anchors⟩ =
      ⟨' ' :: text, column + 1, line, true, anchors⟩ := rfl
  have next : Place.pastSign ⟨':' :: ' ' :: value, column, later, true, anchors⟩ =
      ⟨' ' :: value, column + 1, later, true, anchors⟩ := rfl
  have mark : Place.atSign ⟨'?' :: ' ' :: text, column, line, fresh, anchors⟩ '?' = true := rfl
  have colon : Place.atSign ⟨':' :: ' ' :: value, column, later, true, anchors⟩ ':' = true := rfl
  rw [blockMembers]
  simp only [mark, start, key, comes, colon, next, read, if_true, decide_true, Bool.and_self,
    Option.bind_eq_bind, Option.bind_some]
  rfl

end Member

theorem valueText_head (indent : Nat) (value : Json) :
    ∃ rest, valueText indent value = ' ' :: rest ∨ valueText indent value = '\n' :: rest := by
  cases leaf : isLeaf value with
  | true => exact ⟨_, .inl (valueText_leaf indent value leaf)⟩
  | false =>
      cases value with
      | array items =>
          cases items with
          | nil => cases leaf
          | cons item rest => exact ⟨_, .inr rfl⟩
      | object members =>
          cases members with
          | nil => cases leaf
          | cons member rest => exact ⟨_, .inr rfl⟩
      | _ => cases leaf

theorem endsToken_valueText (indent : Nat) (value : Json) (tail : List Char) :
    endsToken (closed (valueText indent value) ++ tail).head? = true := by
  obtain ⟨rest, text | text⟩ := valueText_head indent value <;>
    (rw [text, closed]; split <;> rfl)

/-- A key and its value are read, in whichever way the key is written. -/
theorem blockMembers_member (key : String) (value : Json) (inline : ReadInline value)
    (content : ReadContent value) (column fuel count line : Nat) (fresh : Bool)
    (anchors : List (String × Outline)) (rest : List Char) (positive : 0 < column)
    (shallow : count ≤ column) (other : count = column → NoItem rest) (token : AtToken rest)
    (room : 4 * (closed (memberText column key value) ++ (spaces count ++ rest)).length ≤ fuel) :
    ∃ o last, blockMembers fuel column
        ⟨closed (memberText column key value) ++ (spaces count ++ rest), column, line, fresh,
          anchors⟩ = afterMember (fuel - 1) column (.ok key, o) last ∧
      Means o value ∧ ComesTo anchors line count rest last := by
  have given := List.length_pos_iff.mpr (closed_given _ (memberText_given column key value))
  obtain ⟨fuel, rfl⟩ := Nat.exists_eq_add_of_le' (show 2 ≤ fuel by
    rw [List.length_append] at room
    omega)
  cases simple : isSimpleKey key with
  | true =>
      obtain ⟨short, k, first, known, _⟩ := readAsKey_scalarText (column + 1) key simple
      have opens := opensLeaf_scalarText true (column + 1 + 1) key
      rw [closed_simple column key value simple, List.append_assoc, List.cons_append] at room ⊢
      simp only [List.length_append, List.length_cons] at room
      have ends := endsToken_valueText column value (spaces count ++ rest)
      have read := first (column + 1) column line fresh anchors _ positive (Nat.le_refl _) ends
      have colon := pastColon?_key (scalarText true (column + 1 + 1) key ++ ':' ::
        (closed (valueText column value) ++ (spaces count ++ rest))) _ column _ line fresh anchors
        short ends
      obtain ⟨o, last, inside, means, comes⟩ := content column (fuel + 1) count
        (column + (scalarText true (column + 1 + 1) key).length + 1) line false anchors rest
        positive (by omega) shallow other token (by simp only [List.length_append]; omega)
      refine ⟨o, last, ?_, means, comes⟩
      rw [blockMembers_simple (fuel + 1) column line fresh anchors k o last _ _ _
        (opens.append _ _) read colon inside, known]
      rfl
  | false =>
      obtain ⟨k, first, known, _⟩ := readAsValue_scalarText (column + 1) key
      have opens := opensLeaf_scalarText false (column + 1 + 1) key
      rw [closed_complex column key value simple] at room ⊢
      simp only [List.cons_append, List.append_assoc, List.length_append, List.length_cons]
        at room ⊢
      have colon : AtToken (':' :: ' ' ::
          (closed (inlineText (column + 1 + 1) value) ++ (spaces count ++ rest))) :=
        (stopsAt_cons _ _ _).mpr rfl
      obtain ⟨fuel, rfl⟩ := Nat.exists_eq_add_of_le' (show 1 ≤ fuel by omega)
      obtain ⟨last, read, alone, later, after, comes⟩ := first column (column + 1 + 1) line true
        anchors _ (by omega) (by omega) (by omega) colon
      have tail := opens.closed _ (spaces column ++ ':' :: ' ' ::
        (closed (inlineText (column + 1 + 1) value) ++ (spaces count ++ rest)))
      have marked := blockValue_leaf (column + 1) fuel true _ k last tail read alone
      rw [← blockContent_space (column + 1) (fuel + 1) (column + 1) line true true anchors _
        tail.atToken tail.given] at marked
      obtain ⟨o, end', inside, means, last', after', comes'⟩ := inline.spaced value (column + 1)
        (fuel + 1 + 1) count later true anchors rest (by omega) token
        (by simp only [List.length_append]; omega)
      refine ⟨o, end', ?_, means, last', Nat.lt_trans after after', comes'⟩
      rw [blockMembers_complex (fuel + 1 + 1) column line fresh anchors k o end' _ _ last later
        marked comes inside, known]
      rfl

section After
variable (fuel column count later : Nat) (anchors : List (String × Outline))
  (member : Except Fault String × Outline) (rest : List Char) (last : Place)
  (comes : last.skip false = ⟨rest, count, later, true, anchors⟩)
include comes

theorem afterMember_last (shallow : count < column) :
    afterMember fuel column member last = some ([member], ⟨rest, count, later, true, anchors⟩) := by
  rw [afterMember]
  simp [comes, shallow]

theorem afterMember_next (same : count = column) (positive : 0 < column) (token : AtToken rest)
    (given : rest ≠ []) :
    afterMember fuel column member last =
      (blockMembers fuel column ⟨rest, column, later, true, anchors⟩).bind
        fun (members, last) => some (member :: members, last) := by
  subst same
  have inside := ended_given count later true anchors rest token given positive
  rw [afterMember]
  simp [comes, inside]

end After

theorem anyMembers_cons (rules : DecodingRules) (key : String) (o : Outline)
    (os : List (Except Fault String × Outline)) (value : Json) (members : List (String × Json))
    (first : Decoder.any rules o = .ok value) (others : Decoder.anyMembers rules os = .ok members) :
    Decoder.anyMembers rules ((.ok key, o) :: os) = .ok ((key, value) :: members) := by
  rw [Decoder.anyMembers, first, others]
  rfl

theorem blockMembers_members (member : String × Json) (members : List (String × Json))
    (first : ReadInline member.2 ∧ ReadContent member.2)
    (each : ∀ member ∈ members, ReadInline (Prod.snd member) ∧ ReadContent (Prod.snd member))
    (column fuel count line : Nat) (fresh : Bool) (anchors : List (String × Outline))
    (rest : List Char) (shallow : count < column) (token : AtToken rest)
    (room : 4 * (closed (membersText column none (member :: members)) ++
      (spaces count ++ rest)).length ≤ fuel) :
    ∃ os last, blockMembers fuel column
        ⟨closed (membersText column none (member :: members)) ++ (spaces count ++ rest), column,
          line, fresh, anchors⟩ = some (os, last) ∧
      (∀ rules : DecodingRules, membersHeight (member :: members) ≤ rules.room →
        Decoder.anyMembers rules os = .ok (member :: members)) ∧
      ComesTo anchors line count rest last := by
  induction members generalizing member fuel line fresh with
  | nil =>
      obtain ⟨key, value⟩ := member
      rw [closed_members, memberLines, List.append_nil] at room ⊢
      obtain ⟨o, last, read, means, later, after, comes⟩ :=
        blockMembers_member key value first.1 first.2 column fuel count line fresh anchors rest
          (by omega) (by omega) (by omega) token room
      refine ⟨[(.ok key, o)], _, ?_, fun rules low => ?_, later, after, skip_atToken false _ token⟩
      · rw [read, afterMember_last _ column count later anchors _ rest last comes shallow]
      · have below := Nat.le_trans (Nat.le_max_left ..) low
        exact anyMembers_cons rules key o [] value [] (means rules below) rfl
  | cons next members ih =>
      obtain ⟨key, value⟩ := member
      obtain ⟨second, others⟩ := List.forall_mem_cons.mp each
      obtain ⟨token', given, other⟩ := atToken_members column next members (spaces count ++ rest)
      rw [closed_members, memberLines, List.append_assoc, List.append_assoc] at room ⊢
      obtain ⟨o, last, read, means, later, after, comes⟩ :=
        blockMembers_member key value first.1 first.2 column fuel column line fresh anchors _
          (by omega) (Nat.le_refl _) (fun _ => other) token' room
      have size := List.length_pos_iff.mpr (closed_given _ (memberText_given column key value))
      obtain ⟨os, last', read', means', later', after', comes'⟩ :=
        ih next second others (fuel - 1) later true (by
          rw [List.length_append, List.length_append] at room
          omega)
      refine ⟨(.ok key, o) :: os, last', ?_, fun rules low => ?_, later', Nat.lt_trans after after',
        comes'⟩
      · rw [read, afterMember_next _ column column later anchors _ _ last comes rfl (by omega)
          token' given, read']
        rfl
      · rw [membersHeight, Nat.max_le] at low
        exact anyMembers_cons rules key o os value _ (means rules low.1) (means' rules low.2)

/-! ### Values -/

/-- Where a key stands, a map begins in its column. -/
theorem blockValue_members (floor fuel column line : Nat) (listed : Bool)
    (anchors : List (String × Outline)) (member : String × Json) (members : List (String × Json))
    (tail : List Char) (positive : 0 < column) (deep : floor ≤ column + 1) :
    let place : Place :=
      ⟨closed (membersText column none (member :: members)) ++ tail, column, line, true, anchors⟩
    blockValue (fuel + 1) floor listed false place =
      (blockMembers fuel column place).bind fun (members, last) =>
        some (.object members .bracket, last) := by
  obtain ⟨key, value⟩ := member
  rw [closed_members]
  cases simple : isSimpleKey key with
  | true =>
      obtain ⟨short, k, first, _⟩ := readAsKey_scalarText (column + 1) key simple
      have opens := (opensLeaf_scalarText true (column + 1 + 1) key).append _
        (':' :: (closed (valueText column value) ++ (memberLines column members ++ tail)))
      have ends := endsToken_valueText column value (memberLines column members ++ tail)
      have read := first floor column line true anchors _ positive deep ends
      have colon := pastColon?_key (scalarText true (column + 1 + 1) key ++ ':' ::
        (closed (valueText column value) ++ (memberLines column members ++ tail))) _ column _ line
        true anchors short ends
      rw [closed_simple column key value simple]
      simp only [List.append_assoc, List.cons_append]
      exact blockValue_key floor fuel listed _ k _ _ opens rfl read colon
  | false =>
      rw [closed_complex column key value simple]
      exact blockValue_mark floor fuel column line listed anchors _

theorem readInline_array (item : Json) (items : List Json)
    (each : ∀ item' ∈ item :: items, ReadInline item') : ReadInline (.array (item :: items)) := by
  intro floor fuel count line listed anchors rest shallow token text room
  obtain ⟨fuel, rfl⟩ := Nat.exists_eq_add_of_le' (show 1 ≤ fuel by omega)
  obtain ⟨first, others⟩ := List.forall_mem_cons.mp each
  obtain ⟨os, last, read, means, comes⟩ := blockItems_items item items first others (floor + 1) fuel
    count line true anchors rest (by omega) (by omega) token (Nat.le_of_succ_le_succ room)
  refine ⟨.array os .bracket, last, ?_, means_array os _ means, comes⟩
  simp only [text, inlineText]
  rw [closed_items, List.cons_append, List.cons_append] at read ⊢
  rw [blockValue_dash, read]
  rfl

theorem readContent_array (item : Json) (items : List Json)
    (each : ∀ item' ∈ item :: items, ReadInline item') : ReadContent (.array (item :: items)) := by
  intro indent fuel count column line fresh anchors rest positive deep shallow other token text room
  obtain ⟨first, others⟩ := List.forall_mem_cons.mp each
  have layout : text = '\n' :: (spaces indent ++
      (closed (itemsText indent none (item :: items)) ++ (spaces count ++ rest))) := by
    simp only [text, valueText]
    rw [closed_indented indent _ (itemsText_given indent item items), List.cons_append,
      List.append_assoc]
  rw [layout] at room ⊢
  rw [List.length_cons, List.length_append] at room
  obtain ⟨fuel, rfl⟩ := Nat.exists_eq_add_of_le' (show 1 ≤ fuel by omega)
  obtain ⟨os, last, read, means, later, after, comes⟩ := blockItems_items item items first others
    indent fuel count (line + 1) true anchors rest shallow other token (by omega)
  refine ⟨.array os .bracket, last, ?_, means_array os _ means, later, by omega, comes⟩
  rw [closed_items, List.cons_append, List.cons_append] at read ⊢
  rw [blockContent_list, read]
  rfl

theorem readInline_object (member : String × Json) (members : List (String × Json))
    (names : (Fields.names (member :: members)).Nodup)
    (each : ∀ member' ∈ member :: members, ReadInline (Prod.snd member') ∧
      ReadContent (Prod.snd member')) : ReadInline (.object (member :: members)) := by
  intro floor fuel count line listed anchors rest shallow token text room
  obtain ⟨fuel, rfl⟩ := Nat.exists_eq_add_of_le' (show 1 ≤ fuel by omega)
  obtain ⟨first, others⟩ := List.forall_mem_cons.mp each
  obtain ⟨os, last, read, means, comes⟩ := blockMembers_members member members first others
    (floor + 1) fuel count line true anchors rest (by omega) token (Nat.le_of_succ_le_succ room)
  refine ⟨.object os .bracket, last, ?_, means_object os _ names means, comes⟩
  have begins := blockValue_members floor fuel (floor + 1) line listed anchors member members
    (spaces count ++ rest) (by omega) (by omega)
  simp only [text, inlineText]
  rw [begins, read]
  rfl

/-- A map that is the value of a key stands on lines of its own. -/
theorem readContent_object (member : String × Json) (members : List (String × Json))
    (inline : ReadInline (.object (member :: members))) :
    ReadContent (.object (member :: members)) := by
  intro indent fuel count column line fresh anchors rest positive deep shallow _ token text room
  obtain ⟨key, value⟩ := member
  have layout : text = '\n' :: (spaces (indent + 1 + 1) ++
      (closed (inlineText (indent + 1 + 1) (.object ((key, value) :: members))) ++
        (spaces count ++ rest))) := by
    simp only [text, valueText, inlineText]
    rw [closed_indented (indent + 2) _ (membersText_given (indent + 2) key value members),
      List.cons_append, List.append_assoc]
  rw [layout] at room ⊢
  rw [List.length_cons, List.length_append] at room
  obtain ⟨fuel, rfl⟩ := Nat.exists_eq_add_of_le' (show 1 ≤ fuel by omega)
  obtain ⟨o, last, read, means, later, after, comes⟩ := inline (indent + 1) fuel count (line + 1)
    true anchors rest (by omega) token (by omega)
  obtain ⟨start, given⟩ := atToken_inline (indent + 1 + 1) (.object ((key, value) :: members))
    (spaces count ++ rest)
  refine ⟨o, last, ?_, means, later, by omega, comes⟩
  rw [blockContent_newLine (indent + 1) fuel column line true fresh anchors _ start given
    (indent + 1 + 1) (by omega) (by omega)]
  exact read

theorem read_value (value : Json) (distinct : value.Distinct) :
    ReadInline value ∧ ReadContent value := by
  induction value using Json.induction with
  | array items ih =>
      cases items with
      | nil => exact ⟨readInline_leaf _ rfl, readContent_leaf _ rfl⟩
      | cons item items =>
          obtain ⟨-, inside⟩ := (Json.every_array_iff _ _).mp distinct
          have each : ∀ item' ∈ item :: items, ReadInline item' := fun item' member =>
            (ih item' member (inside item' member)).1
          exact ⟨readInline_array item items each, readContent_array item items each⟩
  | object members ih =>
      cases members with
      | nil => exact ⟨readInline_leaf _ rfl, readContent_leaf _ rfl⟩
      | cons member members =>
          obtain ⟨names, inside⟩ := (Json.every_object_iff _ _).mp distinct
          have inline := readInline_object member members names fun member' listed =>
            ih member' listed (inside member' listed)
          exact ⟨inline, readContent_object member members inline⟩
  | null => exact ⟨readInline_leaf _ rfl, readContent_leaf _ rfl⟩
  | bool b => exact ⟨readInline_leaf _ rfl, readContent_leaf _ rfl⟩
  | number n => exact ⟨readInline_leaf _ rfl, readContent_leaf _ rfl⟩
  | string s => exact ⟨readInline_leaf _ rfl, readContent_leaf _ rfl⟩

end Crosswalk.Yaml
