import Crosswalk.Json.Writer
import Crosswalk.Proofs.Json.Induction
import Crosswalk.Proofs.Json.Number

/-!
# Layouts of JSON text

The compact and the pretty form of a value differ only in blanks: both lay its tokens out in a
`Style` (`compactChars_eq`, `prettyChars_eq`).  So what holds of the layout in any style holds of
either form.
-/

set_option autoImplicit false

namespace Crosswalk.Json

def Spaces (cs : List Char) : Prop :=
  ∀ c ∈ cs, isSpace c = true

/-- Where blanks stand between tokens: before each entry and after the last one, at a depth, and
between a key and its value. -/
structure Style where
  newline : Nat → List Char
  gap : List Char
  newline_blank : ∀ depth, Spaces (newline depth)
  gap_blank : Spaces gap

namespace Style

def compact : Style where
  newline _ := []
  gap := []
  newline_blank _ := List.forall_mem_nil _
  gap_blank := List.forall_mem_nil _

@[simp]
theorem compact_newline (depth : Nat) : compact.newline depth = [] :=
  rfl

@[simp]
theorem compact_gap : compact.gap = [] :=
  rfl

theorem lineBreak_blank (depth : Nat) : Spaces (lineBreak depth) := by
  intro c member
  rcases List.mem_cons.mp member with rfl | blank
  · rfl
  · rw [List.eq_of_mem_replicate blank]
    rfl

def pretty : Style where
  newline := lineBreak
  gap := [' ']
  newline_blank := lineBreak_blank
  gap_blank := List.forall_mem_cons.mpr ⟨rfl, List.forall_mem_nil _⟩

@[simp]
theorem pretty_newline (depth : Nat) : pretty.newline depth = lineBreak depth :=
  rfl

@[simp]
theorem pretty_gap : pretty.gap = [' '] :=
  rfl

end Style

variable (style : Style)

mutual

/-- The text of a value at a depth. -/
def layout (depth : Nat) : Json → List Char
  | .null => ['n', 'u', 'l', 'l']
  | .bool b => boolText b
  | .number n => n.text
  | .string s => stringText s
  | .array [] => ['[', ']']
  | .array (item :: rest) =>
    '[' :: (style.newline (depth + 1) ++ (layout (depth + 1) item ++
      (layoutItems (depth + 1) rest ++ (style.newline depth ++ [']']))))
  | .object [] => ['\x7b', '\x7d']
  | .object ((key, value) :: rest) =>
    '\x7b' :: (style.newline (depth + 1) ++ (stringText key ++ ':' :: (style.gap ++
      (layout (depth + 1) value ++
        (layoutMembers (depth + 1) rest ++ (style.newline depth ++ ['\x7d']))))))

/-- The text of the items after the first. -/
def layoutItems (depth : Nat) : List Json → List Char
  | [] => []
  | item :: rest =>
    ',' :: (style.newline depth ++ (layout depth item ++ layoutItems depth rest))

/-- The text of the members after the first. -/
def layoutMembers (depth : Nat) : List (String × Json) → List Char
  | [] => []
  | (key, value) :: rest =>
    ',' :: (style.newline depth ++ (stringText key ++ ':' :: (style.gap ++
      (layout depth value ++ layoutMembers depth rest))))

end

/-! ## The two forms -/

theorem compactItems_eq (depth : Nat) (item : Json) (rest : List Json)
    (same : ∀ v ∈ item :: rest, v.compactChars = layout .compact depth v) :
    compactItems (item :: rest) = layout .compact depth item ++ layoutItems .compact depth rest := by
  induction rest generalizing item with
  | nil =>
      obtain ⟨head, _⟩ := List.forall_mem_cons.mp same
      simp [compactItems, layoutItems, head]
  | cons next rest ih =>
      obtain ⟨head, tail⟩ := List.forall_mem_cons.mp same
      simp [compactItems, layoutItems, head, ih next tail]

theorem compactMembers_eq (depth : Nat) (member : String × Json) (rest : List (String × Json))
    (same : ∀ m ∈ member :: rest, (Prod.snd m).compactChars = layout .compact depth m.2) :
    compactMembers (member :: rest) =
      stringText member.1 ++ ':' ::
        (layout .compact depth member.2 ++ layoutMembers .compact depth rest) := by
  induction rest generalizing member with
  | nil =>
      obtain ⟨head, _⟩ := List.forall_mem_cons.mp same
      simp [compactMembers, layoutMembers, head]
  | cons next rest ih =>
      obtain ⟨head, tail⟩ := List.forall_mem_cons.mp same
      simp [compactMembers, layoutMembers, head, ih next tail]

theorem compactChars_eq (value : Json) (depth : Nat) :
    value.compactChars = layout .compact depth value := by
  induction value using Json.induction generalizing depth with
  | null => rfl
  | bool b => rfl
  | number n => rfl
  | string s => rfl
  | array items ih =>
      cases items with
      | nil => rfl
      | cons item rest =>
          have items := compactItems_eq (depth + 1) item rest fun v member => ih v member (depth + 1)
          simp [compactChars, layout, items]
  | object members ih =>
      cases members with
      | nil => rfl
      | cons member rest =>
          have members := compactMembers_eq (depth + 1) member rest fun m inside =>
            ih m inside (depth + 1)
          simp [compactChars, layout, members]

theorem prettyItems_eq (depth : Nat) (item : Json) (rest : List Json)
    (same : ∀ v ∈ item :: rest, v.prettyChars depth = layout .pretty depth v) :
    prettyItems depth (item :: rest) =
      lineBreak depth ++ (layout .pretty depth item ++ layoutItems .pretty depth rest) := by
  induction rest generalizing item with
  | nil =>
      obtain ⟨head, _⟩ := List.forall_mem_cons.mp same
      simp [prettyItems, layoutItems, head]
  | cons next rest ih =>
      obtain ⟨head, tail⟩ := List.forall_mem_cons.mp same
      simp [prettyItems, layoutItems, head, ih next tail]

theorem prettyMembers_eq (depth : Nat) (member : String × Json) (rest : List (String × Json))
    (same : ∀ m ∈ member :: rest, (Prod.snd m).prettyChars depth = layout .pretty depth m.2) :
    prettyMembers depth (member :: rest) =
      lineBreak depth ++ (stringText member.1 ++ ':' :: ' ' ::
        (layout .pretty depth member.2 ++ layoutMembers .pretty depth rest)) := by
  induction rest generalizing member with
  | nil =>
      obtain ⟨head, _⟩ := List.forall_mem_cons.mp same
      simp [prettyMembers, layoutMembers, head]
  | cons next rest ih =>
      obtain ⟨head, tail⟩ := List.forall_mem_cons.mp same
      simp [prettyMembers, layoutMembers, head, ih next tail]

theorem prettyChars_eq (value : Json) (depth : Nat) :
    value.prettyChars depth = layout .pretty depth value := by
  induction value using Json.induction generalizing depth with
  | null => rfl
  | bool b => rfl
  | number n => rfl
  | string s => rfl
  | array items ih =>
      cases items with
      | nil => rfl
      | cons item rest =>
          have items := prettyItems_eq (depth + 1) item rest fun v member => ih v member (depth + 1)
          simp [prettyChars, layout, items]
  | object members ih =>
      cases members with
      | nil => rfl
      | cons member rest =>
          have members := prettyMembers_eq (depth + 1) member rest fun m inside =>
            ih m inside (depth + 1)
          simp [prettyChars, layout, members]

end Crosswalk.Json
