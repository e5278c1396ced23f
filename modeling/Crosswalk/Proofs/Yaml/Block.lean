import Crosswalk.Proofs.Yaml.Place

/-!
# Blocks of text

A text with its last line ended is empty lines, and then lines with the empty lines after each
(`exists_lines`).  The reader gathers them one by one (`blockLines_lines`), and the marks of the
block tell how many line feeds at the end belong to the text.  So a block is read as the text that
it was written for (`blockText_literalText`).
-/

set_option autoImplicit false

namespace Crosswalk.Yaml

open Text (StopsAt stopsAt_nil stopsAt_cons)

def Breaks (cs : List Char) : Prop :=
  ∀ c ∈ cs, isBreak c = true

/-- Breaks of a line are what the reader takes for breaks. -/
def Readable (cs : List Char) : Prop :=
  ∀ c ∈ cs, endsLine c = isBreak c

/-- Lines, each with its break and the empty lines after it. -/
inductive Lines : List Char → Prop where
  | nil : Lines []
  | line (line : List Char) (c : Char) (breaks rest : List Char) (given : line ≠ [])
      (inside : ∀ d ∈ line, isBreak d = false) (ends : isBreak c = true) (all : Breaks breaks)
      (others : Lines rest) : Lines (line ++ c :: (breaks ++ rest))

theorem exists_lines (cs : List Char) (ended : cs = [] ∨ endsInBreak cs = true) :
    ∃ lead body, cs = lead ++ body ∧ Breaks lead ∧ Lines body := by
  induction size : cs.length using Nat.strongRecOn generalizing cs with
  | ind size ih =>
      subst size
      obtain ⟨lead, body, rfl, all, stops⟩ := Text.exists_run isBreak cs
      refine ⟨lead, body, rfl, all, ?_⟩
      cases body with
      | nil => exact .nil
      | cons d body =>
          have ends : endsInBreak (d :: body) = true := by
            rw [← endsInBreak_append lead _ (List.cons_ne_nil d body)]
            exact ended.resolve_left (by simp)
          obtain ⟨line, after, whole, inside, stops'⟩ :=
            Text.exists_run (fun c => !isBreak c) (d :: body)
          rw [whole] at ends ih ⊢
          cases after with
          | nil =>
              -- the last character of the text is a break
              rw [List.append_nil, endsInBreak] at ends
              cases found : line.getLast? with
              | none => simp [found] at ends
              | some last =>
                  have outside := inside last (List.mem_of_getLast? found)
                  simp_all
          | cons c after =>
              have feed : isBreak c = true := by simpa using (stopsAt_cons _ c after).mp stops'
              have given : line ≠ [] := by
                rintro rfl
                have outside := (stopsAt_cons isBreak d body).mp stops
                simp_all
              have rest : after = [] ∨ endsInBreak after = true := by
                by_cases empty : after = []
                · exact .inl empty
                · rw [← endsInBreak_append (line ++ [c]) after empty]
                  exact .inr (by simpa using ends)
              obtain ⟨breaks, others, rfl, all', lines⟩ :=
                ih after.length (by simp; omega) after rest rfl
              exact .line line c breaks others given (by simpa using inside) feed all' lines

/-! ## Empty lines -/

section EmptyLines
variable (indent : Option Nat) (line : Nat) (anchors : List (String × Outline)) (rest : List Char)

/-- Empty lines end before what stands in this column. -/
def StopsLines (column : Nat) : Prop :=
  ∀ c ∈ rest.head?, endsLine c = false ∧ (isBlank c = false ∨ indent = some column)

theorem emptyLines_spaces (seen : List Char) (column count : Nat) (left : List Char)
    (within : ∀ n ∈ indent, column + count ≤ n) (stops : StopsLines indent rest (column + count)) :
    emptyLines indent ⟨seen, column, ⟨left, column, line, true, anchors⟩⟩ (spaces count ++ rest) =
      some ⟨seen, column + count, ⟨rest, column + count, line, true, anchors⟩⟩ := by
  induction count generalizing column left with
  | zero =>
      cases rest with
      | nil => rfl
      | cons c rest =>
          obtain ⟨inside, blank⟩ := stops c (by simp)
          have other : (c = ' ' && indent.all fun n => column < n) = false ∧
              (c = '\t' && indent.all fun n => column < n) = false := by
            rcases blank with solid | rfl
            · simp only [isBlank, Bool.or_eq_false_iff] at solid
              simp [solid]
            · simp
          simp only [spaces, List.replicate_zero, List.nil_append, emptyLines, inside, other,
            Bool.false_eq_true, if_false, Nat.add_zero]
  | succ count ih =>
      have first : spaces (count + 1) ++ rest = ' ' :: (spaces count ++ rest) := rfl
      have inside : endsLine ' ' = false := rfl
      have room : (indent.all fun n => decide (column < n)) = true := by
        cases indent with
        | none => rfl
        | some n =>
            have bound := within n rfl
            simp
            omega
      have next := ih (column + 1) left (fun n known => by have := within n known; omega)
        (by rwa [Nat.add_right_comm, Nat.add_assoc])
      have wider : max column (column + 1) = column + 1 := by omega
      rw [first, emptyLines]
      simp only [inside, room, Bool.false_eq_true, if_false, decide_true, Bool.and_self, if_true,
        wider, next]
      rw [Nat.add_right_comm, Nat.add_assoc]

theorem emptyLines_breaks (seen breaks : List Char) (all : ∀ c ∈ breaks, endsLine c = true) :
    emptyLines indent ⟨seen, 0, ⟨breaks ++ rest, 0, line, true, anchors⟩⟩ (breaks ++ rest) =
      emptyLines indent ⟨seen ++ breaks, 0, ⟨rest, 0, line + breaks.length, true, anchors⟩⟩
        rest := by
  induction breaks generalizing seen line with
  | nil => simp
  | cons c breaks ih =>
      obtain ⟨ends, others⟩ := List.forall_mem_cons.mp all
      have next := ih (line + 1) (seen ++ [c]) others
      rw [List.cons_append, emptyLines, if_pos ends]
      simp only [Place.nextLine, next]
      simp [Nat.add_assoc, Nat.add_comm 1]

/-- Empty lines, and the indentation of the line after them. -/
theorem emptyLines_all (breaks : List Char) (count : Nat) (all : ∀ c ∈ breaks, endsLine c = true)
    (within : ∀ n ∈ indent, count ≤ n) (stops : StopsLines indent rest count) :
    emptyLines indent ⟨[], 0, ⟨breaks ++ (spaces count ++ rest), 0, line, true, anchors⟩⟩
        (breaks ++ (spaces count ++ rest)) =
      some ⟨breaks, count, ⟨rest, count, line + breaks.length, true, anchors⟩⟩ := by
  have inside := emptyLines_spaces indent (line + breaks.length) anchors rest breaks 0 count
    (spaces count ++ rest) (by simpa using within) (by simpa using stops)
  rw [emptyLines_breaks indent line anchors (spaces count ++ rest) [] breaks all, List.nil_append,
    inside, Nat.zero_add]

end EmptyLines

/-! ## Lines of a block -/

section Written
variable (indent : Nat)

theorem literalChars_breaks (after : Bool) (breaks rest : List Char) (all : Breaks breaks)
    (start : breaks = [] → after = true) :
    literalChars indent after (breaks ++ rest) = breaks ++ literalChars indent true rest := by
  induction breaks generalizing after with
  | nil => rw [start rfl]; rfl
  | cons c more ih =>
      obtain ⟨feed, others⟩ := List.forall_mem_cons.mp all
      rw [List.cons_append, literalChars, if_pos feed, ih true others (fun _ => rfl),
        List.cons_append]

theorem literalChars_inside (line rest : List Char) (inside : ∀ d ∈ line, isBreak d = false) :
    literalChars indent false (line ++ rest) = line ++ literalChars indent false rest := by
  induction line with
  | nil => rfl
  | cons d line ih =>
      obtain ⟨here, others⟩ := List.forall_mem_cons.mp inside
      simp [literalChars, here, ih others]

/-- A line is indented, and the empty lines after it are not. -/
theorem literalChars_line (line : List Char) (c : Char) (breaks rest : List Char)
    (given : line ≠ []) (inside : ∀ d ∈ line, isBreak d = false) (ends : isBreak c = true)
    (all : Breaks breaks) :
    literalChars indent true (line ++ c :: (breaks ++ rest)) =
      spaces indent ++ (line ++ c :: (breaks ++ literalChars indent true rest)) := by
  obtain ⟨d, more, rfl⟩ := List.exists_cons_of_ne_nil given
  obtain ⟨here, others⟩ := List.forall_mem_cons.mp inside
  have broken := literalChars_breaks indent false (c :: breaks) rest
    (List.forall_mem_cons.mpr ⟨ends, all⟩) (fun empty => nomatch empty)
  rw [List.cons_append, literalChars, here]
  simp only [Bool.false_eq_true, if_false, if_true]
  rw [literalChars_inside indent more _ others]
  exact congrArg (fun left => spaces indent ++ d :: (more ++ left)) broken

end Written

/-- What has been gathered of some lines: the text up to the last line with characters in it, the
break of this line, and those of the empty lines after it. -/
structure Gathered (cs text : List Char) (waiting : Option Char) (breaks : List Char) : Prop where
  whole : cs = text ++ waiting.toList ++ breaks
  all : Breaks breaks
  ending : (text = [] ∧ waiting = none) ∨
    ∃ front d c, text = front ++ [d] ∧ isBreak d = false ∧ waiting = some c ∧ isBreak c = true

theorem Gathered.feeds (cs text breaks : List Char) (waiting : Option Char)
    (gathered : Gathered cs text waiting breaks) (readable : Readable cs) :
    ∀ c ∈ breaks, endsLine c = true := by
  intro c member
  rw [readable c (by rw [gathered.whole]; exact List.mem_append_right _ member)]
  exact gathered.all c member

/-- A line with characters in it is gathered with the break after it. -/
theorem Gathered.line (cs text breaks line next : List Char) (waiting : Option Char) (c : Char)
    (gathered : Gathered cs text waiting breaks) (given : line ≠ [])
    (inside : ∀ d ∈ line, isBreak d = false) (ends : isBreak c = true) (all : Breaks next) :
    Gathered (cs ++ (line ++ c :: next)) (text ++ waiting.toList ++ breaks ++ line) (some c)
      next := by
  refine ⟨by rw [gathered.whole]; simp, all, .inr ?_⟩
  rcases List.eq_nil_or_concat line with rfl | ⟨front, d, rfl⟩
  · exact absurd rfl given
  · rw [List.concat_eq_append] at inside ⊢
    exact ⟨_, d, c, (List.append_assoc ..).symm, inside d (by simp), rfl, ends⟩

theorem stopsLines_token (indent : Option Nat) (rest : List Char) (column : Nat)
    (token : AtToken rest) : StopsLines indent rest column := by
  cases rest with
  | nil => exact fun c first => nomatch first
  | cons d rest =>
      intro c first
      cases first
      have outside := (stopsAt_cons passedOver d rest).mp token
      simp only [passedOver, Bool.or_eq_false_iff] at outside
      exact ⟨outside.1.1.2, .inl outside.1.1.1⟩

section Block
variable (indent count : Nat) (anchors : List (String × Outline)) (rest : List Char)

theorem blockLines_step (fuel line : Nat) (text breaks inside after : List Char)
    (waiting : Option Char) (ragged fresh : Bool) (c : Char)
    (within : ∀ d ∈ inside, endsLine d = false) (ends : endsLine c = true) :
    blockLines false indent (fuel + 1)
        ⟨text, waiting, ragged, breaks, ⟨inside ++ c :: after, indent, line, fresh, anchors⟩⟩ =
      (emptyLines (some indent) ⟨[], 0, ⟨after, 0, line + 1, true, anchors⟩⟩ after).bind
        fun empty => blockLines false indent fuel
          ⟨text ++ waiting.toList ++ breaks ++ inside, some c, inside.head?.any isBlank,
            empty.breaks, empty.place⟩ := by
  have run : (inside ++ c :: after).takeWhile (fun c => !endsLine c) = inside :=
    Text.takeWhile_run _ inside _ (fun d member => by simp [within d member])
      ((stopsAt_cons _ c after).mpr (by simp [ends]))
  have some : (inside ++ c :: after).isEmpty = false := by simp
  rw [blockLines]
  simp only [run, some, List.drop_left]
  simp [Place.nextLine]

/-- The lines of a block are gathered one after the other. -/
theorem blockLines_lines (token : AtToken rest) (shallow : count < indent) (body : List Char)
    (lines : Lines body) (before : List Char) (readable : Readable (before ++ body))
    (fuel line : Nat) (text breaks : List Char) (waiting : Option Char) (ragged : Bool)
    (gathered : Gathered before text waiting breaks) (room : body.length < fuel) :
    ∃ text' waiting' ragged' breaks' later,
      ((emptyLines (some indent) ⟨[], 0, ⟨breaks ++ (literalChars indent true body ++
          (spaces count ++ rest)), 0, line, true, anchors⟩⟩
          (breaks ++ (literalChars indent true body ++ (spaces count ++ rest)))).bind fun empty =>
        blockLines false indent fuel ⟨text, waiting, ragged, empty.breaks, empty.place⟩) =
        some ⟨text', waiting', ragged', breaks', ⟨rest, count, later, true, anchors⟩⟩ ∧
      line ≤ later ∧ Gathered (before ++ body) text' waiting' breaks' := by
  induction lines generalizing before fuel line text breaks waiting ragged with
  | nil =>
      obtain ⟨fuel, rfl⟩ := Nat.exists_eq_add_of_le' (show 1 ≤ fuel by omega)
      rw [List.append_nil] at readable ⊢
      have empty := emptyLines_all (some indent) line anchors rest breaks count
        (gathered.feeds before text breaks waiting readable) (fun n known => by cases known; omega)
        (stopsLines_token _ rest count token)
      have other : (count != indent) = true := by simp; omega
      refine ⟨text, waiting, ragged, breaks, line + breaks.length, ?_, Nat.le_add_right _ _,
        gathered⟩
      rw [literalChars, List.nil_append, empty, Option.bind_some, blockLines]
      simp [other]
  | line inside c next others given within ends all lines ih =>
      obtain ⟨fuel, rfl⟩ := Nat.exists_eq_add_of_le' (show 1 ≤ fuel by omega)
      obtain ⟨front, back⟩ := List.forall_mem_append.mp readable
      have solid : ∀ d ∈ inside, endsLine d = false := fun d member =>
        (back d (by simp [member])).trans (within d member)
      have feed : endsLine c = true := (back c (by simp)).trans ends
      have stops : StopsLines (some indent) (inside ++ c ::
          (next ++ (literalChars indent true others ++ (spaces count ++ rest)))) indent := by
        obtain ⟨d, more, rfl⟩ := List.exists_cons_of_ne_nil given
        intro e first
        cases first
        exact ⟨solid d (List.mem_cons_self ..), .inr rfl⟩
      have empty := emptyLines_all (some indent) line anchors _ breaks indent
        (gathered.feeds before text breaks waiting front)
        (fun n known => by cases known; exact Nat.le_refl _) stops
      have grown := gathered.line before text breaks inside next waiting c given within ends all
      obtain ⟨text', waiting', ragged', breaks', later, read, after, result⟩ :=
        ih (before ++ (inside ++ c :: next)) (by simpa using readable) fuel
          (line + breaks.length + 1) _ next (some c) (inside.head?.any isBlank) grown
          (by simp at room; omega)
      refine ⟨text', waiting', ragged', breaks', later, ?_, by omega, by simpa using result⟩
      rw [literalChars_line indent inside c next others given within ends all]
      simp only [List.append_assoc, List.cons_append] at empty ⊢
      rw [empty, Option.bind_some,
        blockLines_step indent anchors fuel _ text breaks inside _ waiting ragged true c solid feed]
      exact read

end Block

/-! ## The marks of a block -/

/-- The last of what has been gathered is a break: that of the last line, or one after it. -/
theorem Gathered.concat (front text breaks : List Char) (waiting : Option Char) (last : Char)
    (gathered : Gathered (front ++ [last]) text waiting breaks) :
    isBreak last = true ∧
      ((breaks = [] ∧ text = front ∧ waiting = some last) ∨
        ∃ others, breaks = others ++ [last] ∧ Gathered front text waiting others) := by
  obtain ⟨whole, all, ending⟩ := gathered
  rcases List.eq_nil_or_concat breaks with rfl | ⟨others, d, rfl⟩
  · rcases ending with ⟨rfl, rfl⟩ | ⟨_, _, c, _, _, rfl, ends⟩
    · simp at whole
    · rw [List.append_nil, Option.toList_some] at whole
      obtain ⟨rfl, same⟩ := List.append_inj' whole rfl
      cases same
      exact ⟨ends, .inl ⟨rfl, rfl, rfl⟩⟩
  · rw [List.concat_eq_append, ← List.append_assoc] at whole
    rw [List.concat_eq_append] at all ⊢
    obtain ⟨rfl, same⟩ := List.append_inj' whole rfl
    cases same
    obtain ⟨init, ends⟩ := List.forall_mem_append.mp all
    exact ⟨ends last (List.mem_singleton_self _), .inr ⟨others, rfl, rfl, init, ending⟩⟩

/-- How the chomping is written. -/
def chompingText : Chomping → List Char
  | .strip => ['-']
  | .clip => []
  | .keep => ['+']

/-- What a block makes of its end. -/
def chomped (mode : Chomping) (text : List Char) (waiting : Option Char) (breaks : List Char) :
    List Char :=
  match mode with
  | .strip => text
  | .clip => text ++ waiting.toList
  | .keep => text ++ waiting.toList ++ breaks

/-- The writer chooses the chomping that gives the text back. -/
theorem chomped_of_gathered (cs text breaks : List Char) (waiting : Option Char) (given : cs ≠ [])
    (gathered : Gathered (closed cs) text waiting breaks) :
    ∃ mode, chomping cs = chompingText mode ∧ chomped mode text waiting breaks = cs := by
  rcases List.eq_nil_or_concat cs with rfl | ⟨front, last, rfl⟩
  · exact absurd rfl given
  rw [List.concat_eq_append] at gathered ⊢
  have reversed : (front ++ [last]).reverse = last :: front.reverse := by simp
  by_cases feed : isBreak last = true
  · have ended : closed (front ++ [last]) = front ++ [last] := if_pos (by simp [endsInBreak, feed])
    rw [ended] at gathered
    rcases List.eq_nil_or_concat front with rfl | ⟨front, before, rfl⟩
    · exact ⟨.keep, by simp [chomping, chompingText, feed], gathered.whole.symm⟩
    rw [List.concat_eq_append] at gathered reversed ⊢
    by_cases empty : isBreak before = true
    · exact ⟨.keep, by simp [chomping, chompingText, feed, empty], gathered.whole.symm⟩
    · refine ⟨.clip, by simp [chomping, chompingText, feed, empty], ?_⟩
      obtain ⟨_, ⟨_, rfl, rfl⟩ | ⟨others, _, shorter⟩⟩ := gathered.concat _ text breaks waiting last
      · rfl
      · exact absurd (shorter.concat _ text others waiting before).1 empty
  · refine ⟨.strip, by simp [chomping, chompingText, feed], ?_⟩
    rw [closed_concat front last (by simpa using feed)] at gathered
    obtain ⟨_, ⟨_, same, _⟩ | ⟨others, _, shorter⟩⟩ := gathered.concat _ text breaks waiting '\n'
    · exact same
    · exact absurd (shorter.concat _ text others waiting last).1 feed

/-- The mark that tells a block from its indentation. -/
def blockHint : List Char → List Char
  | c :: _ => if c = ' ' || isBreak c then ['2'] else []
  | [] => []

theorem literalText_eq (indent : Nat) (cs : List Char) :
    literalText indent cs =
      '|' :: (blockHint cs ++ (chomping cs ++ '\n' :: literalChars indent true cs)) := by
  cases cs <;> simp [literalText, blockHint]

theorem blockMarks_eq (cs rest : List Char) (mode : Chomping) :
    blockMarks (blockHint cs ++ (chompingText mode ++ '\n' :: rest)) =
      some (mode, if blockHint cs = [] then none else some 2, '\n' :: rest) := by
  have hints : blockHint cs = [] ∨ blockHint cs = ['2'] := by
    rw [blockHint.eq_def]
    split
    · split <;> simp
    · exact .inl rfl
  rcases hints with hint | hint <;> rw [hint] <;> cases mode <;> rfl

/-! ## Reading blocks -/

section Literal
variable (indent : Nat)

theorem literalChars_given (after : Bool) (cs : List Char) (given : cs ≠ []) :
    literalChars indent after cs ≠ [] := by
  obtain ⟨c, rest, rfl⟩ := List.exists_cons_of_ne_nil given
  rw [literalChars]
  split <;> simp

theorem endsInBreak_literalChars (after : Bool) (cs : List Char) (given : cs ≠ []) :
    endsInBreak (literalChars indent after cs) = endsInBreak cs := by
  induction cs generalizing after with
  | nil => exact absurd rfl given
  | cons c rest ih =>
      have step : ∀ front after, endsInBreak (front ++ c :: literalChars indent after rest) =
          endsInBreak (c :: rest) := by
        intro front after
        rw [endsInBreak_append front _ (List.cons_ne_nil c _)]
        by_cases more : rest = []
        · rw [more]
          rfl
        · have written := literalChars_given indent after rest more
          exact (endsInBreak_append [c] _ written).trans
            ((ih after more).trans (endsInBreak_append [c] rest more).symm)
      rw [literalChars]
      split
      · exact step [] true
      · exact step _ false

theorem literalChars_feed (after : Bool) (cs : List Char) :
    literalChars indent after (cs ++ ['\n']) = literalChars indent after cs ++ ['\n'] := by
  induction cs generalizing after with
  | nil => rfl
  | cons c rest ih =>
      rw [List.cons_append, literalChars, literalChars]
      split <;> simp [ih]

theorem closed_literalChars (cs : List Char) (given : cs ≠ []) :
    closed (literalChars indent true cs) = literalChars indent true (closed cs) := by
  rw [closed, closed, endsInBreak_literalChars indent true cs given]
  split
  · rfl
  · exact (literalChars_feed indent true cs).symm

end Literal

theorem literalChars_length (indent : Nat) (after : Bool) (cs : List Char) :
    cs.length ≤ (literalChars indent after cs).length := by
  induction cs generalizing after with
  | nil => exact Nat.zero_le _
  | cons c rest ih =>
      have more := ih true
      have less := ih false
      rw [literalChars]
      split <;> simp <;> omega

theorem closed_literalText (indent : Nat) (cs : List Char) (given : cs ≠ []) :
    closed (literalText indent cs) =
      '|' :: (blockHint cs ++ (chomping cs ++ '\n' :: literalChars indent true (closed cs))) := by
  have layout : literalText indent cs =
      ('|' :: (blockHint cs ++ (chomping cs ++ ['\n']))) ++ literalChars indent true cs := by
    simp [literalText_eq]
  rw [layout, closed_append _ _ (literalChars_given indent true cs given),
    closed_literalChars indent cs given]
  simp

/-- Without a mark the first line tells the indentation, and with one the mark does. -/
theorem emptyLines_known (floor line : Nat) (anchors : List (String × Outline))
    (rest more : List Char) (c : Char) (positive : 0 < floor) (tab : c ≠ '\t')
    (feed : endsLine c = isBreak c) (empty : EmptyLines)
    (read : emptyLines (some (floor + 1))
      ⟨[], 0, ⟨literalChars (floor + 1) true (c :: more) ++ rest, 0, line, true, anchors⟩⟩
      (literalChars (floor + 1) true (c :: more) ++ rest) = some empty) :
    let known := (if c = ' ' || isBreak c then some 2 else none).map fun n => floor - 1 + n
    emptyLines known
        ⟨[], 0, ⟨literalChars (floor + 1) true (c :: more) ++ rest, 0, line, true, anchors⟩⟩
        (literalChars (floor + 1) true (c :: more) ++ rest) = some empty ∧
      known.getD (max 1 (max floor empty.widest)) = floor + 1 := by
  by_cases hint : (c = ' ' || isBreak c) = true
  · have indent : floor - 1 + 2 = floor + 1 := by omega
    simp only [hint, if_true, Option.map_some, indent, Option.getD_some, read, true_and]
  · simp only [hint, Bool.false_eq_true, if_false, Option.map_none, Option.getD_none]
    rw [Bool.not_eq_true, Bool.or_eq_false_iff, decide_eq_false_iff_not] at hint
    obtain ⟨space, inside⟩ := hint
    have stops : ∀ indent left, StopsLines indent (c :: left) (floor + 1) := by
      intro indent left d first
      cases first
      exact ⟨feed.trans inside, .inl (by simp [isBlank, space, tab])⟩
    rw [literalChars, inside] at read ⊢
    simp only [Bool.false_eq_true, if_false, if_true, List.append_assoc, List.cons_append] at read ⊢
    have first := emptyLines_all (some (floor + 1)) line anchors _ [] (floor + 1)
      (List.forall_mem_nil _) (fun n known => by cases known; exact Nat.le_refl _)
      (stops _ (literalChars (floor + 1) false more ++ rest))
    have bare := emptyLines_all none line anchors _ [] (floor + 1) (List.forall_mem_nil _)
      (fun n known => by cases known) (stops _ (literalChars (floor + 1) false more ++ rest))
    rw [List.nil_append] at first bare
    rw [first] at read
    cases read
    refine ⟨bare, ?_⟩
    change max 1 (max floor (floor + 1)) = floor + 1
    omega

/-- A block is its marks, empty lines, and the lines after them. -/
theorem blockText_of_lines (floor column line : Nat) (fresh : Bool)
    (anchors : List (String × Outline)) (marked written : List Char) (mode : Chomping)
    (mark : Option Nat) (empty : EmptyLines) (read : BlockLines)
    (marks : blockMarks marked = some (mode, mark, '\n' :: written))
    (lead : emptyLines (mark.map fun n => floor - 1 + n)
      ⟨[], 0, ⟨written, 0, line + 1, true, anchors⟩⟩ written = some empty)
    (lines : blockLines false
        ((mark.map fun n => floor - 1 + n).getD (max 1 (max floor empty.widest)))
        (written.length + 1) ⟨[], none, false, empty.breaks, empty.place⟩ = some read) :
    blockText false floor ⟨'|' :: marked, column, line, fresh, anchors⟩ =
      some (chomped mode read.text read.waiting read.breaks,
        { read.place with fresh := true }) := by
  have feed : ('\n' :: written).dropWhile isBlank = '\n' :: written := rfl
  have other : ¬ ('\n' :: written).head? = some '#' := by simp
  have ends : endsLine '\n' = true := rfl
  rw [blockText]
  simp only [List.tail_cons, marks, Option.bind_eq_bind, Option.bind_some, feed, if_neg other, ends,
    if_true, Place.nextLine, lead, lines]
  cases mode <;> simp [chomped]

theorem blockText_literalText (floor count column line : Nat) (fresh : Bool)
    (anchors : List (String × Outline)) (rest cs : List Char) (given : cs ≠ [])
    (print : Readable (closed cs)) (tab : '\t' ∉ cs) (token : AtToken rest)
    (shallow : count < floor) :
    ∃ later, blockText false floor ⟨closed (literalText (floor + 1) cs) ++ (spaces count ++ rest),
        column, line, fresh, anchors⟩ = some (cs, ⟨rest, count, later, true, anchors⟩) ∧
      line < later := by
  obtain ⟨lead, body, whole, breaks, lines⟩ :=
    exists_lines (closed cs) (.inr (endsInBreak_closed cs))
  have start : Gathered lead [] none lead := ⟨rfl, breaks, .inl ⟨rfl, rfl⟩⟩
  have size := literalChars_length (floor + 1) true (closed cs)
  have front := literalChars_breaks (floor + 1) true lead body breaks (fun _ => rfl)
  have readable := print
  rw [whole] at readable
  obtain ⟨text, waiting, ragged, left, later, read, after, gathered⟩ :=
    blockLines_lines (floor + 1) count anchors rest token (by omega) body lines lead readable
      ((literalChars (floor + 1) true (closed cs) ++ (spaces count ++ rest)).length + 1)
      (line + 1) [] lead none false start (by rw [whole] at size ⊢; simp at size ⊢; omega)
  rw [← whole] at gathered
  rw [← List.append_assoc, ← front, ← whole] at read
  obtain ⟨mode, chosen, same⟩ := chomped_of_gathered cs text left waiting given gathered
  obtain ⟨empty, lead', lines'⟩ := Option.bind_eq_some_iff.mp read
  have marks := blockMarks_eq cs
    (literalChars (floor + 1) true (closed cs) ++ (spaces count ++ rest)) mode
  refine ⟨later, ?_, by omega⟩
  obtain ⟨c, more, rfl⟩ := List.exists_cons_of_ne_nil given
  obtain ⟨more', head⟩ : ∃ more', closed (c :: more) = c :: more' := by
    rw [closed]
    split
    · exact ⟨_, rfl⟩
    · exact ⟨_, List.cons_append⟩
  obtain ⟨bare, indent⟩ := emptyLines_known floor (line + 1) anchors (spaces count ++ rest) more' c
    (by omega) (by rintro rfl; simp at tab) (print c (by simp [head])) empty
    (by rwa [head] at lead')
  have hint : (if blockHint (c :: more) = [] then none else some 2) =
      if c = ' ' || isBreak c then some 2 else none := by
    rw [blockHint]
    split <;> simp
  rw [hint] at marks
  rw [closed_literalText (floor + 1) _ given, chosen]
  simp only [List.cons_append, List.append_assoc]
  rw [blockText_of_lines floor column line fresh anchors _ _ mode _ empty _ marks (by rwa [head])
    (by rwa [indent]), same]

end Crosswalk.Yaml
