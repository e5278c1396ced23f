import Crosswalk.Proofs.Text.Blank
import Crosswalk.Yaml.Text
import Crosswalk.Yaml.Writer

/-!
# Between tokens

A written text with its last line ended, `closed`, is followed by the indentation of what comes
next.  From the end of a text the reader passes to the next token, which stands as deep as it was
indented (`skip_newLine`), and the same indentation is the gap at which a text on several lines
goes on or ends (`read_spaces`, `read_newLine`).
-/

set_option autoImplicit false

namespace Crosswalk.Yaml

open Text (StopsAt stopsAt_nil stopsAt_cons)

/-! ## The end of a text -/

/-- A text with the end of its last line. -/
def closed (text : List Char) : List Char :=
  if endsInBreak text then text else text ++ ['\n']

theorem append_newLine (text : List Char) (indent : Nat) :
    text ++ newLine indent (some text) = closed text ++ spaces indent := by
  rw [newLine, closed]
  split <;> simp

theorem getLast?_append (front back : List Char) (given : back ≠ []) :
    (front ++ back).getLast? = back.getLast? := by
  obtain ⟨c, last⟩ := Option.ne_none_iff_exists'.mp (mt List.getLast?_eq_none_iff.mp given)
  rw [List.getLast?_append, last, Option.some_or]

theorem endsInBreak_append (front back : List Char) (given : back ≠ []) :
    endsInBreak (front ++ back) = endsInBreak back := by
  rw [endsInBreak, endsInBreak, getLast?_append front back given]

theorem closed_append (front back : List Char) (given : back ≠ []) :
    closed (front ++ back) = front ++ closed back := by
  rw [closed, closed, endsInBreak_append front back given]
  split
  · rfl
  · exact List.append_assoc ..

theorem closed_cons (c : Char) (back : List Char) (given : back ≠ []) :
    closed (c :: back) = c :: closed back :=
  closed_append [c] back given

/-- The lines of a text that begins on a line of its own. -/
theorem closed_indented (depth : Nat) (text : List Char) (given : text ≠ []) :
    closed ('\n' :: spaces depth ++ text) = '\n' :: (spaces depth ++ closed text) := by
  rw [List.cons_append, closed_cons _ _ (List.append_ne_nil_of_right_ne_nil _ given),
    closed_append _ _ given]

theorem closed_given (text : List Char) (given : text ≠ []) : closed text ≠ [] := by
  rw [closed]
  split
  · exact given
  · exact List.append_ne_nil_of_left_ne_nil given _

theorem endsInBreak_closed (text : List Char) : endsInBreak (closed text) = true := by
  rw [closed]
  split
  case isTrue ends => exact ends
  case isFalse => exact endsInBreak_append text ['\n'] (List.cons_ne_nil _ _)

theorem mem_closed (text : List Char) (c : Char) (member : c ∈ closed text) :
    c ∈ text ∨ c = '\n' := by
  rw [closed] at member
  split at member
  · exact .inl member
  · simpa using member

/-- A text that ends in a character of its line. -/
theorem closed_concat (front : List Char) (c : Char) (inside : isBreak c = false) :
    closed (front ++ [c]) = front ++ [c] ++ ['\n'] :=
  if_neg (by simp [endsInBreak, inside])

theorem exists_spaces (cs : List Char) :
    ∃ count rest, cs = spaces count ++ rest ∧ rest.head? ≠ some ' ' := by
  obtain ⟨run, rest, rfl, inside, stops⟩ := Text.exists_run (· == ' ') cs
  have same : run = spaces run.length :=
    List.eq_replicate_iff.mpr ⟨rfl, fun c member => by simpa using inside c member⟩
  refine ⟨run.length, rest, by rw [← same], ?_⟩
  cases rest with
  | nil => simp
  | cons c rest => simpa using (stopsAt_cons _ c rest).mp stops

/-! ## Passing to the next token -/

/-- The characters that may be passed over before a token. -/
def passedOver (c : Char) : Bool :=
  isBlank c || endsLine c || c = '#' || c = '\ufeff'

/-- Nothing, or a token at once. -/
abbrev AtToken (rest : List Char) : Prop :=
  StopsAt passedOver rest

section Skip
variable (flow : Bool) (place : Place) (rest : List Char)

theorem skipFrom_atToken (token : AtToken rest) :
    Place.skipFrom flow false place rest = { place with rest } := by
  cases rest with
  | nil => rfl
  | cons c rest =>
      have outside := (stopsAt_cons passedOver c rest).mp token
      simp only [passedOver, isBlank, Bool.or_eq_false_iff, decide_eq_false_iff_not] at outside
      obtain ⟨⟨⟨⟨space, tab⟩, line⟩, comment⟩, mark⟩ := outside
      simp [Place.skipFrom, space, tab, line, comment, mark]

theorem skipFrom_spaces (count : Nat) :
    Place.skipFrom flow false place (spaces count ++ rest) =
      Place.skipFrom flow false { place with column := place.column + count } rest := by
  induction count generalizing place with
  | zero => rfl
  | succ count ih =>
      have first : spaces (count + 1) ++ rest = ' ' :: (spaces count ++ rest) := rfl
      have inside : endsLine ' ' = false := rfl
      have next := ih { place with column := place.column + 1 }
      rw [first, Place.skipFrom]
      simp only [inside, Bool.false_eq_true, if_false, Char.reduceEq, decide_false, Bool.false_and,
        decide_true, Bool.true_or, Bool.or_true, if_true, next]
      rw [Nat.add_right_comm, Nat.add_assoc]

theorem skip_atToken (token : AtToken place.rest) : place.skip flow = place :=
  skipFrom_atToken flow place place.rest token

end Skip

section Places
variable (flow : Bool) (count column line : Nat) (fresh : Bool)
  (anchors : List (String × Outline)) (rest : List Char) (token : AtToken rest)
include token

theorem skip_spaces :
    Place.skip flow ⟨spaces count ++ rest, column, line, fresh, anchors⟩ =
      ⟨rest, column + count, line, fresh, anchors⟩ := by
  rw [Place.skip, skipFrom_spaces, skipFrom_atToken flow _ rest token]

theorem skip_space :
    Place.skip flow ⟨' ' :: rest, column, line, fresh, anchors⟩ =
      ⟨rest, column + 1, line, fresh, anchors⟩ :=
  skip_spaces flow 1 column line fresh anchors rest token

theorem skip_newLine :
    Place.skip flow ⟨'\n' :: (spaces count ++ rest), column, line, fresh, anchors⟩ =
      ⟨rest, count, line + 1, true, anchors⟩ := by
  have feeds : endsLine '\n' = true := rfl
  rw [Place.skip, Place.skipFrom, if_pos feeds, skipFrom_spaces,
    skipFrom_atToken flow _ rest token]
  simp [Place.nextLine]

end Places

/-- From a place the reader comes to the rest of a text, in a column of a later line. -/
def ComesTo (anchors : List (String × Outline)) (line column : Nat) (rest : List Char)
    (last : Place) : Prop :=
  ∃ later, line < later ∧ last.skip false = ⟨rest, column, later, true, anchors⟩

/-! ## Gaps inside a text -/

/-- Where a text goes on after a gap. -/
abbrev AtText (rest : List Char) : Prop :=
  StopsAt (fun c => isBlank c || endsLine c) rest

theorem atText_of_atToken (rest : List Char) (token : AtToken rest) : AtText rest := by
  cases rest with
  | nil => exact stopsAt_nil _
  | cons c rest =>
      have outside := (stopsAt_cons passedOver c rest).mp token
      simp only [passedOver, Bool.or_eq_false_iff] at outside
      exact (stopsAt_cons _ c rest).mpr (by simp [outside.1.1.1, outside.1.1.2])

theorem endsToken_of_atText (c : Char) (rest : List Char) (text : AtText (c :: rest)) :
    endsToken (some c) = false :=
  (stopsAt_cons _ c rest).mp text

section Gaps
variable (floor : Nat) (gap : Gap) (rest : List Char)

theorem scan_atText (text : AtText rest) :
    Gap.scan floor gap rest = { gap with place := { gap.place with rest } } := by
  cases rest with
  | nil => rfl
  | cons c rest =>
      have outside := (stopsAt_cons _ c rest).mp text
      simp only [Bool.or_eq_false_iff] at outside
      simp [Gap.scan, outside]

theorem scan_spaces (count : Nat) :
    Gap.scan floor gap (spaces count ++ rest) =
      Gap.scan floor
        { gap with
          blanks := if gap.breaks.isEmpty then gap.blanks ++ spaces count else gap.blanks
          place := { gap.place with column := gap.place.column + count } } rest := by
  induction count generalizing gap with
  | zero => simp [spaces]
  | succ count ih =>
      have first : spaces (count + 1) ++ rest = ' ' :: (spaces count ++ rest) := rfl
      have inside : endsLine ' ' = false := rfl
      have blank : isBlank ' ' = true := rfl
      have more : ' ' :: spaces count = spaces (count + 1) := rfl
      rw [first, Gap.scan]
      simp only [inside, blank, Bool.false_eq_true, if_false, if_true, Char.reduceEq, decide_false,
        Bool.false_and, Bool.or_false]
      rw [ih]
      cases empty : gap.breaks.isEmpty <;>
        simp [more, Nat.add_assoc, Nat.add_comm 1 count]

theorem scan_breaks (breaks : List Char) (all : ∀ c ∈ breaks, endsLine c = true)
    (given : breaks ≠ []) :
    Gap.scan floor gap (breaks ++ rest) =
      Gap.scan floor
        { gap with
          breaks := gap.breaks ++ breaks
          place := ⟨rest, 0, gap.place.line + breaks.length, true, gap.place.anchors⟩ } rest := by
  induction breaks generalizing gap with
  | nil => exact absurd rfl given
  | cons c more ih =>
      obtain ⟨ends, others⟩ := List.forall_mem_cons.mp all
      rw [List.cons_append, Gap.scan, if_pos ends]
      cases more with
      | nil => rfl
      | cons d more =>
          rw [ih _ others (List.cons_ne_nil d more)]
          simp [Place.nextLine, Nat.add_assoc, Nat.add_comm 1]

end Gaps

section Read
variable (floor count column line : Nat) (fresh : Bool) (anchors : List (String × Outline))
  (rest : List Char) (text : AtText rest)
include text

theorem read_spaces :
    Gap.read floor ⟨spaces count ++ rest, column, line, fresh, anchors⟩ =
      ⟨spaces count, [], ⟨rest, column + count, line, fresh, anchors⟩, false⟩ := by
  rw [Gap.read, scan_spaces, scan_atText floor _ rest text]
  rfl

/-- Breaks and the indentation of the line after them. -/
theorem read_breaks (breaks : List Char) (all : ∀ c ∈ breaks, endsLine c = true)
    (given : breaks ≠ []) :
    Gap.read floor ⟨breaks ++ (spaces count ++ rest), column, line, fresh, anchors⟩ =
      ⟨[], breaks, ⟨rest, count, line + breaks.length, true, anchors⟩, false⟩ := by
  have some : breaks.isEmpty = false := List.isEmpty_eq_false_iff.mpr given
  rw [Gap.read, scan_breaks floor _ _ breaks all given, scan_spaces, scan_atText floor _ rest text]
  simp [some]

theorem read_newLine :
    Gap.read floor ⟨'\n' :: (spaces count ++ rest), column, line, fresh, anchors⟩ =
      ⟨[], ['\n'], ⟨rest, count, line + 1, true, anchors⟩, false⟩ :=
  read_breaks floor count column line fresh anchors rest text ['\n']
    (List.forall_mem_singleton.mpr rfl) (List.cons_ne_nil _ _)

end Read

end Crosswalk.Yaml
