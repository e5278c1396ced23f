import Crosswalk.Proofs.Yaml.Leaf

/-!
# The layout of lists and maps

A list is written as its items, each from its dash to the end of its last line, and a map as its
members (`closed_items`, `closed_members`).  Every item after the first is indented as deep as the
first, and so is every key.
-/

set_option autoImplicit false

namespace Crosswalk.Yaml

open Text (StopsAt stopsAt_nil stopsAt_cons)

/-! ## Texts are not empty -/

theorem inlineText_given (indent : Nat) (value : Json) : inlineText indent value ≠ [] := by
  cases leaf : isLeaf value with
  | true => exact (opensLeaf_leaf indent value leaf).given
  | false =>
      cases value with
      | array items =>
          cases items with
          | nil => cases leaf
          | cons item rest => simp [inlineText, itemsText]
      | object members =>
          cases members with
          | nil => cases leaf
          | cons member rest =>
              obtain ⟨key, value⟩ := member
              simp only [inlineText, membersText]
              split <;> simp
      | _ => cases leaf

/-! ## Lists -/

/-- What has been written before an entry matters only in how it ends. -/
theorem itemsText_before (indent : Nat) (first second : List Char) (items : List Json)
    (same : endsInBreak first = endsInBreak second) :
    itemsText indent (some first) items = itemsText indent (some second) items := by
  cases items with
  | nil => rfl
  | cons item rest => simp only [itemsText, newLine, same]

theorem itemsText_some (indent : Nat) (before : List Char) (item : Json) (rest : List Json) :
    itemsText indent (some before) (item :: rest) =
      newLine indent (some before) ++ itemsText indent none (item :: rest) := by
  have given : '-' :: ' ' :: inlineText (indent + 2) item ≠ [] := List.cons_ne_nil _ _
  have tail := itemsText_before indent _ _ rest
    (endsInBreak_append (newLine indent (some before)) _ given)
  rw [itemsText, itemsText, tail]
  exact List.append_assoc ..

theorem itemsText_given (indent : Nat) (item : Json) (rest : List Json) :
    itemsText indent none (item :: rest) ≠ [] := by
  simp [itemsText]

/-- The lines of further items. -/
def itemLines (indent : Nat) : List Json → List Char
  | [] => []
  | item :: rest => spaces indent ++ closed (itemsText indent none (item :: rest))

theorem closed_items (indent : Nat) (item : Json) (rest : List Json) :
    closed (itemsText indent none (item :: rest)) =
      '-' :: ' ' :: (closed (inlineText (indent + 1 + 1) item) ++ itemLines indent rest) := by
  change _ = '-' :: ' ' :: (closed (inlineText (indent + 2) item) ++ itemLines indent rest)
  have given := inlineText_given (indent + 2) item
  have front : closed ('-' :: ' ' :: inlineText (indent + 2) item) =
      '-' :: ' ' :: closed (inlineText (indent + 2) item) := closed_append ['-', ' '] _ given
  rw [itemsText]
  simp only [newLine, List.nil_append]
  cases rest with
  | nil => simp [itemsText, itemLines, front]
  | cons next rest =>
      rw [itemsText_some, ← List.append_assoc, append_newLine,
        closed_append _ _ (itemsText_given indent next rest), front, itemLines]
      simp

/-! ## Maps -/

/-- A key and its value, without what comes before them. -/
def memberText (indent : Nat) (key : String) (value : Json) : List Char :=
  if isSimpleKey key then
    scalarText true (indent + 2) key ++ ':' :: valueText indent value
  else
    let keyText := '?' :: ' ' :: scalarText false (indent + 2) key
    keyText ++ newLine indent (some keyText) ++ ':' :: ' ' :: inlineText (indent + 2) value

theorem membersText_cons (indent : Nat) (before : Option (List Char)) (key : String) (value : Json)
    (rest : List (String × Json)) :
    membersText indent before ((key, value) :: rest) =
      (newLine indent before ++ memberText indent key value) ++
        membersText indent (some (newLine indent before ++ memberText indent key value)) rest := by
  rw [membersText]
  rfl

theorem memberText_given (indent : Nat) (key : String) (value : Json) :
    memberText indent key value ≠ [] := by
  rw [memberText]
  split <;> simp

theorem membersText_before (indent : Nat) (first second : List Char)
    (members : List (String × Json)) (same : endsInBreak first = endsInBreak second) :
    membersText indent (some first) members = membersText indent (some second) members := by
  cases members with
  | nil => rfl
  | cons member rest =>
      obtain ⟨key, value⟩ := member
      simp only [membersText_cons, newLine, same]

theorem membersText_some (indent : Nat) (before : List Char) (key : String) (value : Json)
    (rest : List (String × Json)) :
    membersText indent (some before) ((key, value) :: rest) =
      newLine indent (some before) ++ membersText indent none ((key, value) :: rest) := by
  have given := memberText_given indent key value
  have tail := membersText_before indent _ _ rest
    (endsInBreak_append (newLine indent (some before)) _ given)
  rw [membersText_cons, membersText_cons, tail]
  exact List.append_assoc ..

theorem membersText_given (indent : Nat) (key : String) (value : Json)
    (rest : List (String × Json)) : membersText indent none ((key, value) :: rest) ≠ [] := by
  rw [membersText_cons]
  exact List.append_ne_nil_of_left_ne_nil (memberText_given indent key value) _

/-- The lines of further members. -/
def memberLines (indent : Nat) : List (String × Json) → List Char
  | [] => []
  | member :: rest => spaces indent ++ closed (membersText indent none (member :: rest))

theorem closed_members (indent : Nat) (key : String) (value : Json) (rest : List (String × Json)) :
    closed (membersText indent none ((key, value) :: rest)) =
      closed (memberText indent key value) ++ memberLines indent rest := by
  rw [membersText_cons]
  simp only [newLine, List.nil_append]
  cases rest with
  | nil => simp [membersText, memberLines]
  | cons member rest =>
      obtain ⟨next, value'⟩ := member
      rw [membersText_some, ← List.append_assoc, append_newLine,
        closed_append _ _ (membersText_given indent next value' rest), memberLines,
        List.append_assoc]

theorem valueText_leaf (indent : Nat) (value : Json) (single : isLeaf value = true) :
    valueText indent value = ' ' :: inlineText (indent + 1 + 1) value := by
  cases value with
  | array items => cases items <;> first | rfl | cases single
  | object members => cases members <;> first | rfl | cases single
  | _ => rfl

theorem valueText_given (indent : Nat) (value : Json) : valueText indent value ≠ [] := by
  cases value with
  | array items => cases items <;> simp [valueText]
  | object members => cases members <;> simp [valueText]
  | _ => simp [valueText]

theorem closed_simple (indent : Nat) (key : String) (value : Json)
    (simple : isSimpleKey key = true) :
    closed (memberText indent key value) =
      scalarText true (indent + 1 + 1) key ++ ':' :: closed (valueText indent value) := by
  rw [memberText, if_pos simple, closed_append _ _ (List.cons_ne_nil _ _),
    closed_cons _ _ (valueText_given indent value)]

theorem closed_complex (indent : Nat) (key : String) (value : Json)
    (complex : isSimpleKey key = false) :
    closed (memberText indent key value) =
      '?' :: ' ' :: (closed (scalarText false (indent + 1 + 1) key) ++
        (spaces indent ++ ':' :: ' ' :: closed (inlineText (indent + 1 + 1) value))) := by
  change _ = '?' :: ' ' :: (closed (scalarText false (indent + 2) key) ++
    (spaces indent ++ ':' :: ' ' :: closed (inlineText (indent + 2) value)))
  have given := (opensLeaf_scalarText false (indent + 2) key).given
  have value' : closed (':' :: ' ' :: inlineText (indent + 2) value) =
      ':' :: ' ' :: closed (inlineText (indent + 2) value) :=
    closed_append [':', ' '] _ (inlineText_given (indent + 2) value)
  have key' : closed ('?' :: ' ' :: scalarText false (indent + 2) key) =
      '?' :: ' ' :: closed (scalarText false (indent + 2) key) := closed_append ['?', ' '] _ given
  rw [memberText, complex]
  simp only [Bool.false_eq_true, if_false]
  rw [append_newLine, closed_append _ _ (List.cons_ne_nil _ _), value', key']
  simp

end Crosswalk.Yaml
