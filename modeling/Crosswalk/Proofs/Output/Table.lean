import Crosswalk.Output.Console
import Mathlib.Data.List.Forall2

/-!
# Tables line up

Texts of given lengths with a mark between any two give a line of a length and with marks at
offsets that depend on the lengths alone (`linedUp_joined`).  The cells of a table are filled up
to the widths of its columns, which are measured in bytes and so have room for the characters of
each cell (`fits_widths`).  So all lines of a table, the rule under its header included, have their
marks at the same places (`tables_line_up`).
-/

set_option autoImplicit false

namespace Crosswalk

namespace TextTable

/-! ## Texts with marks between them -/

/-- The offsets of the marks between columns of some widths: each mark stands between two
characters of filling. -/
def marks : List Nat → List Nat
  | [] | [_] => []
  | width :: next :: rest => (width + 1) :: (marks (next :: rest)).map (· + (width + 3))

/-- The length of a line with columns of some widths. -/
def span : List Nat → Nat
  | [] => 0
  | [width] => width
  | width :: next :: rest => width + 3 + span (next :: rest)

/-- Where the columns begin: at the start of a line, and two places after each mark. -/
def starts (marks : List Nat) : List Nat :=
  0 :: marks.map (· + 2)

/-- Where the columns end: at each mark, and at the end of a line. -/
def stops (marks : List Nat) (length : Nat) : List Nat :=
  marks ++ [length]

/-- The line has marks at given offsets, with filling after each.  The text of every column stands
where the column starts, and is followed by nothing but filling up to where the column ends. -/
structure LinedUp (filling mark : Char) (marks : List Nat) (length : Nat)
    (texts : List (List Char)) (drawn : List Char) : Prop where
  length_eq : drawn.length = length
  marked : ∀ offset ∈ marks, drawn[offset]? = some mark ∧ drawn[offset + 1]? = some filling
  filled : ∀ (column : Nat) (text : List Char) (start stop : Nat), texts[column]? = some text →
    (starts marks)[column]? = some start → (stops marks length)[column]? = some stop →
      ∃ rest, text ++ List.replicate rest filling <+: drawn.drop start ∧
        start + text.length + rest = stop

theorem length_marks (widths : List Nat) : (marks widths).length = widths.length - 1 := by
  induction widths with
  | nil => rfl
  | cons width rest ih =>
      cases rest with
      | nil => rfl
      | cons next rest =>
          rw [marks, List.length_cons, List.length_map, ih]
          simp only [List.length_cons]
          omega

theorem marks_ascend (widths : List Nat) : (marks widths).Pairwise (· < ·) := by
  induction widths with
  | nil => exact List.Pairwise.nil
  | cons width rest ih =>
      cases rest with
      | nil => exact List.Pairwise.nil
      | cons next rest =>
          rw [marks]
          refine List.pairwise_cons.mpr ⟨?_, List.pairwise_map.mpr (ih.imp ?_)⟩
          · intro later member
            obtain ⟨offset, _, rfl⟩ := List.mem_map.mp member
            omega
          · intro a b less
            omega

theorem starts_behind (width : Nat) (offsets : List Nat) :
    starts ((width + 1) :: offsets.map (· + (width + 3))) =
      0 :: (starts offsets).map (· + (width + 3)) := by
  have exchange : (· + 2) ∘ (· + (width + 3)) = (· + (width + 3)) ∘ (· + 2) := by
    funext offset
    exact Nat.add_right_comm offset (width + 3) 2
  rw [starts, starts, List.map_cons, List.map_cons, List.map_map, List.map_map, Nat.zero_add,
    exchange]

theorem stops_behind (width : Nat) (offsets : List Nat) (length : Nat) :
    stops ((width + 1) :: offsets.map (· + (width + 3))) (width + 3 + length) =
      (width + 1) :: (stops offsets length).map (· + (width + 3)) := by
  rw [stops, stops, List.map_append, List.map_singleton, List.cons_append,
    Nat.add_comm length (width + 3)]

section Joined
variable (filling mark : Char)

theorem linedUp_single (text : List Char) :
    LinedUp filling mark [] text.length [text] text where
  length_eq := rfl
  marked := List.forall_mem_nil _
  filled := by
    intro column found start stop here first last
    cases column with
    | zero =>
        cases here
        cases first
        cases last
        exact ⟨0, by simp, by omega⟩
    | succ column => cases here

theorem getElem?_behind (text drawn : List Char) (offset : Nat) :
    (text ++ [filling, mark, filling] ++ drawn)[offset + (text.length + 3)]? = drawn[offset]? := by
  rw [List.getElem?_append_right (by simp), List.length_append]
  simp

theorem drop_behind (text drawn : List Char) (offset : Nat) :
    (text ++ [filling, mark, filling] ++ drawn).drop (offset + (text.length + 3)) =
      drawn.drop offset := by
  have past : offset + (text.length + 3) = (text ++ [filling, mark, filling]).length + offset := by
    simp only [List.length_append, List.length_cons, List.length_nil]
    omega
  rw [past]
  exact List.drop_length_add_append offset

/-- A text in front of a line moves the marks of the line by its length and adds one. -/
theorem LinedUp.cons (text : List Char) {offsets : List Nat} {length : Nat}
    {texts : List (List Char)} {drawn : List Char}
    (tail : LinedUp filling mark offsets length texts drawn) :
    LinedUp filling mark ((text.length + 1) :: offsets.map (· + (text.length + 3)))
      (text.length + 3 + length) (text :: texts) (text ++ [filling, mark, filling] ++ drawn) where
  length_eq := by
    have same := tail.length_eq
    simp only [List.length_append, List.length_cons, List.length_nil]
    omega
  marked := by
    intro offset member
    obtain rfl | later := List.mem_cons.mp member
    · rw [List.append_assoc]
      constructor
      · rw [List.getElem?_append_right (by omega)]
        simp
      · have third : text.length + 1 + 1 - text.length = 2 := by omega
        rw [List.getElem?_append_right (by omega), third]
        simp
    · obtain ⟨inner, found, rfl⟩ := List.mem_map.mp later
      obtain ⟨here, next⟩ := tail.marked inner found
      constructor
      · rw [getElem?_behind filling mark text drawn inner, here]
      · rw [Nat.add_right_comm, getElem?_behind filling mark text drawn (inner + 1), next]
  filled := by
    intro column found start stop here first last
    cases column with
    | zero =>
        cases here
        cases first
        cases last
        refine ⟨1, ⟨mark :: filling :: drawn, ?_⟩, by omega⟩
        simp [List.append_assoc]
    | succ column =>
        rw [starts_behind, List.getElem?_cons_succ, List.getElem?_map] at first
        rw [stops_behind, List.getElem?_cons_succ, List.getElem?_map] at last
        obtain ⟨start, begins, rfl⟩ := Option.map_eq_some_iff.mp first
        obtain ⟨stop, ends, rfl⟩ := Option.map_eq_some_iff.mp last
        obtain ⟨rest, whole, reaches⟩ := tail.filled column found start stop here begins ends
        rw [drop_behind]
        exact ⟨rest, whole, by omega⟩

/-- Texts joined by marks line up with others of the same lengths. -/
theorem linedUp_joined (texts : List (List Char)) (nonempty : texts ≠ []) :
    LinedUp filling mark (marks (texts.map List.length)) (span (texts.map List.length)) texts
      ([filling, mark, filling].intercalate texts) := by
  induction texts with
  | nil => exact absurd rfl nonempty
  | cons text rest ih =>
      cases rest with
      | nil =>
          have alone : [filling, mark, filling].intercalate [text] = text := by simp
          rw [alone]
          exact linedUp_single filling mark text
      | cons next rest =>
          rw [List.intercalate_cons_cons]
          exact (ih (List.cons_ne_nil next rest)).cons filling mark text

end Joined

/-- What is filled up in a column need not count as its text. -/
theorem LinedUp.of_filled {filling mark : Char} {offsets : List Nat} {length : Nat}
    {whole texts : List (List Char)} {drawn : List Char}
    (same : ∀ (column : Nat) (text : List Char), texts[column]? = some text →
      ∃ more, whole[column]? = some (text ++ List.replicate more filling))
    (lined : LinedUp filling mark offsets length whole drawn) :
    LinedUp filling mark offsets length texts drawn where
  length_eq := lined.length_eq
  marked := lined.marked
  filled := by
    intro column text start stop here first last
    obtain ⟨more, there⟩ := same column text here
    obtain ⟨rest, found, reaches⟩ := lined.filled column _ start stop there first last
    refine ⟨more + rest, ?_, ?_⟩
    · rwa [← List.replicate_append_replicate, ← List.append_assoc]
    · rw [List.length_append, List.length_replicate] at reaches
      omega

/-! ## Cells and their widths -/

/-- Every cell has room in its column. -/
abbrev Fit (widths : List Nat) (row : List String) : Prop :=
  List.Forall₂ (fun width cell => cell.length ≤ width) widths row

theorem length_le_utf8ByteSize (s : String) : s.length ≤ s.utf8ByteSize := by
  induction s using String.push_induction with
  | empty => exact Nat.le_refl 0
  | push s c ih =>
      have wide := c.utf8Size_pos
      rw [String.length_push, String.utf8ByteSize_push]
      omega

theorem le_foldl_max {values : List Nat} {value least : Nat}
    (below : value ≤ least ∨ value ∈ values) : value ≤ values.foldl max least := by
  induction values generalizing least with
  | nil => simpa using below
  | cons head rest ih =>
      apply ih
      rcases below with below | member
      · exact .inl (Nat.le_trans below (Nat.le_max_left least head))
      · obtain rfl | later := List.mem_cons.mp member
        · exact .inl (Nat.le_max_right least value)
        · exact .inr later

section Layout
variable {headers : List String} {rows : List (List String)}

theorem size_le_columnWidth {row : List String} (member : row ∈ headers :: rows) {column : Nat}
    {cell : String} (here : row[column]? = some cell) :
    cell.utf8ByteSize ≤ columnWidth column headers rows := by
  refine le_foldl_max (.inr (List.mem_map.mpr ⟨row, member, ?_⟩))
  rw [here]
  rfl

@[simp] theorem length_widths : (widths headers rows).length = headers.length := by
  rw [widths, List.length_map, List.length_range]

/-- A column is as wide as the size of any of its cells in bytes, which is no less than the number
of its characters. -/
theorem fits_widths {row : List String} (member : row ∈ headers :: rows)
    (square : row.length = headers.length) : Fit (widths headers rows) row := by
  refine List.forall₂_iff_get.mpr ⟨by rw [length_widths, square], ?_⟩
  intro column inWidths inRow
  have here : row[column]? = some (row.get ⟨column, inRow⟩) := List.getElem?_eq_getElem inRow
  have size := size_le_columnWidth member here
  have short := length_le_utf8ByteSize (row.get ⟨column, inRow⟩)
  have width : (widths headers rows).get ⟨column, inWidths⟩ = columnWidth column headers rows := by
    simp [widths]
  rw [width]
  exact Nat.le_trans short size

end Layout

theorem length_padded {width : Nat} {cell : String} (fits : cell.length ≤ width) :
    (padded width cell).length = width := by
  rw [padded, String.length_append, String.length_ofList, List.length_replicate]
  omega

theorem lengths_cells {widths : List Nat} {row : List String} (fits : Fit widths row) :
    (cells widths row).map String.length = widths := by
  induction fits with
  | nil => rfl
  | cons fits _ ih => rw [cells, List.map_cons, ih, length_padded fits]

/-- Each cell of a row stands padded where it stood. -/
theorem getElem?_cells {widths : List Nat} {row : List String} (fits : Fit widths row)
    (column : Nat) {cell : String} (here : row[column]? = some cell) :
    ∃ width, (cells widths row)[column]? = some (padded width cell) := by
  induction fits generalizing column with
  | nil => cases here
  | @cons width first widths row _ _ ih =>
      cases column with
      | zero =>
          cases here
          exact ⟨width, rfl⟩
      | succ column => exact ih column here

theorem rowText_linedUp {widths : List Nat} {row : List String} (nonempty : row ≠ [])
    (fits : Fit widths row) :
    LinedUp ' ' '│' (marks widths) (span widths) (row.map String.toList)
      (rowText widths row).toList := by
  have lengths : ((cells widths row).map String.toList).map List.length = widths := by
    rw [List.map_map]
    exact (List.map_congr_left fun cell _ => String.length_toList).trans (lengths_cells fits)
  have joined := linedUp_joined ' ' '│' ((cells widths row).map String.toList) (by
    cases fits with
    | nil => exact absurd rfl nonempty
    | cons _ _ => exact List.cons_ne_nil _ _)
  rw [lengths] at joined
  rw [rowText, String.toList_intercalate]
  refine joined.of_filled ?_
  intro column text here
  rw [List.getElem?_map] at here
  obtain ⟨cell, found, rfl⟩ := Option.map_eq_some_iff.mp here
  obtain ⟨width, there⟩ := getElem?_cells fits column found
  refine ⟨width - cell.length, ?_⟩
  rw [List.getElem?_map, there, Option.map_some, padded, String.toList_append,
    String.toList_ofList]

theorem ruleText_linedUp {widths : List Nat} (nonempty : widths ≠ []) :
    LinedUp '─' '┼' (marks widths) (span widths) (widths.map (List.replicate · '─'))
      (ruleText widths).toList := by
  have lengths : (widths.map (List.replicate · '─')).map List.length = widths := by
    simp [Function.comp_def]
  have joined := linedUp_joined '─' '┼' (widths.map (List.replicate · '─')) (by
    simpa using nonempty)
  rw [lengths] at joined
  rw [ruleText, String.toList_intercalate, List.map_map]
  simpa [Function.comp_def] using joined

/-- The lines of a table: its header, a rule, and its rows. -/
def lines (headers : List String) (rows : List (List String)) : List String :=
  rowText (widths headers rows) headers :: ruleText (widths headers rows) ::
    rows.map (rowText (widths headers rows))

/-- A table printed for people comes out as lines of one length, with their marks at the same
offsets.  The text of every cell stands whole in its column, with nothing but blanks after it. -/
theorem tables_line_up (console : Console) (human : console.format = .human)
    (plain : console.color = false) (loud : console.quiet = false) (headers : List String)
    (rows : List (List String)) (nonempty : headers ≠ [])
    (square : ∀ row ∈ rows, row.length = headers.length) :
    let offsets := marks (widths headers rows)
    let length := span (widths headers rows)
    console.text (.table headers rows) =
        String.join ((lines headers rows).map Console.onLine) ∧
      offsets.length + 1 = headers.length ∧ offsets.Pairwise (· < ·) ∧
      LinedUp '─' '┼' offsets length ((widths headers rows).map (List.replicate · '─'))
        (ruleText (widths headers rows)).toList ∧
      ∀ row ∈ headers :: rows,
        LinedUp ' ' '│' offsets length (row.map String.toList)
          (rowText (widths headers rows) row).toList := by
  have count := List.length_pos_iff.mpr nonempty
  refine ⟨?_, ?_, marks_ascend _, ruleText_linedUp ?_, ?_⟩
  · simp [Console.text, Console.chatty, Console.tableText, lines, human, plain, loud,
      Function.comp_def, String.append_assoc]
  · rw [length_marks, length_widths]
    omega
  · apply List.ne_nil_of_length_pos
    rwa [length_widths]
  · intro row member
    have cellCount : row.length = headers.length := by
      obtain rfl | later := List.mem_cons.mp member
      · rfl
      · exact square row later
    refine rowText_linedUp ?_ (fits_widths member cellCount)
    apply List.ne_nil_of_length_pos
    rwa [cellCount]

theorem accented_table_lines_up :
    let headers := ["Mask", "é│"]
    let rows := [["naïve", "│"], ["", "ü"]]
    Console.text ⟨.human, false, false⟩ (.table headers rows) =
        "Mask   │ é│   \n───────┼──────\nnaïve  │ │    \n       │ ü    \n" ∧
      ∀ row ∈ headers :: rows,
        LinedUp ' ' '│' [7] 14 (row.map String.toList) (rowText [6, 5] row).toList := by
  obtain ⟨printed, _, _, _, linedUp⟩ := tables_line_up ⟨.human, false, false⟩ rfl rfl rfl
    ["Mask", "é│"] [["naïve", "│"], ["", "ü"]] (by decide) (by decide)
  exact ⟨printed, linedUp⟩

end TextTable

end Crosswalk
