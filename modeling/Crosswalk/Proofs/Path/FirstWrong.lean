import Crosswalk.Proofs.Path.Grammar

/-!
# Where an expression goes wrong

A parser that meets a character it has no use for, or the end of the text, has read what begins
some expression, and what it has read begins none together with that character (`WrongAt`).  So the
position of the fault is the first at which the text is wrong (`unexpected_at_first_wrong`).

The texts that may follow the root marker are the language `Tail`.  What stands in front of a text
and is read for itself does not change what is wrong with the text (`PointsAt.after`), so the parser
of a step has to be looked at only where it stops itself (`parseDot_unexpected`,
`parseBracket_unexpected`), and the steps before go by induction (`parseSteps_unexpected`).
-/

set_option autoImplicit false

namespace Crosswalk.Path

open Text

/-! ## Texts that cannot be continued -/

/-- The text read so far begins some text of a language, and with the next character it begins
none. -/
structure WrongAt (language : List Char → Prop) (before unread : List Char) : Prop where
  completes : ∃ rest, language (before ++ rest)
  refuses : ∀ c ∈ unread.head?, ∀ rest, ¬ language (before ++ c :: rest)

/-- A fault with a position and a character found is in front of an unread text that begins with
that character, and there the whole text is wrong. -/
def PointsAt (language : List Char → Prop) (total : Nat) (cs : List Char) (position : Nat)
    (found : Option Char) : Prop :=
  ∃ before unread, cs = before ++ unread ∧ position = total - byteLength unread ∧
    found = unread.head? ∧ WrongAt language before unread

/-- A front that is read for itself, whatever follows the next character, leaves the fault where
it is. -/
theorem PointsAt.after {language whole : List Char → Prop} {total : Nat} {rest : List Char}
    {position : Nat} {found : Option Char} (front : List Char)
    (points : PointsAt language total rest position found)
    (forward : ∀ cs, language cs → whole (front ++ cs))
    (backward : ∀ before c more more', rest = before ++ c :: more →
      whole (front ++ (before ++ c :: more')) → language (before ++ c :: more')) :
    PointsAt whole total (front ++ rest) position found := by
  obtain ⟨before, unread, rfl, at_unread, next, wrong⟩ := points
  refine ⟨front ++ before, unread, (List.append_assoc ..).symm, at_unread, next, ?_, ?_⟩
  · obtain ⟨rest, completed⟩ := wrong.completes
    exact ⟨rest, by rw [List.append_assoc]; exact forward _ completed⟩
  · intro c first rest valid
    obtain ⟨more, rfl⟩ := List.head?_eq_some_iff.mp first
    rw [List.append_assoc] at valid
    exact wrong.refuses c first rest (backward before c more rest rfl valid)

/-! ## What may follow the root marker -/

/-- Steps, and blanks after them. -/
def Tail (cs : List Char) : Prop :=
  ∃ body steps after, StepTexts body steps ∧ Blanks after ∧ cs = body ++ after

theorem tail_nil : Tail [] :=
  ⟨[], [], [], .nil, blanks_nil, rfl⟩

theorem tail_iff (total fuel : Nat) (cs : List Char) (enough : cs.length < fuel) :
    Tail cs ↔ ∃ steps, parseSteps total fuel cs = .ok steps := by
  simp only [parseSteps_iff total fuel cs _ enough]
  constructor
  · rintro ⟨body, steps, after, tail⟩
    exact ⟨steps, body, after, tail⟩
  · rintro ⟨steps, body, after, tail⟩
    exact ⟨body, steps, after, tail⟩

theorem tail_blanks (blanks cs : List Char) (gap : Blanks blanks) :
    Tail (blanks ++ cs) ↔ Tail cs := by
  have same : trimStart (blanks ++ cs) = trimStart cs := List.dropWhile_append_of_pos gap
  have enough : cs.length < (blanks ++ cs).length + 1 := by
    rw [List.length_append]
    omega
  rw [tail_iff 0 _ _ (Nat.lt_succ_self _), tail_iff 0 _ cs enough]
  simp only [parseSteps, same]

theorem tail_after_step (text cs : List Char) (step : Step) (form : StepText text step)
    (tail : Tail cs) : Tail (text ++ cs) := by
  obtain ⟨body, steps, after, others, gap, rfl⟩ := tail
  have front := StepTexts.cons [] text body step steps blanks_nil form others
  exact ⟨_, _, after, front, gap, by simp⟩

/-- Steps that begin with a mark begin with the step that is read after the mark. -/
theorem tail_of_step (total : Nat) {mark : Char}
    {reader : List Char → Except PathFault (Step × List Char)}
    (opens : StepReader total mark reader) (cs : List Char) (tail : Tail (mark :: cs)) :
    ∃ step unread, reader cs = .ok (step, unread) ∧ Tail unread := by
  obtain ⟨steps, success⟩ := (tail_iff total _ _ (Nat.lt_succ_self _)).mp tail
  rw [parseSteps_step total opens _ _ cs (trimStart_solid mark cs (opens.solid total))] at success
  obtain ⟨⟨step, unread⟩, head, success⟩ := bind_eq_ok _ _ _ success
  obtain ⟨others, rest, _⟩ := bind_eq_ok _ _ _ success
  obtain ⟨text, _, rfl, _⟩ := (opens.reads_iff total cs step unread).mp head
  have enough : unread.length < (mark :: (text ++ unread)).length := by
    simp only [List.length_cons, List.length_append]
    omega
  exact ⟨step, unread, head, (tail_iff total _ unread enough).mpr ⟨others, rest⟩⟩

theorem not_tail_of_other (c : Char) (rest : List Char) (solid : isBlank c = false)
    (noDot : c ≠ '.') (noBracket : c ≠ '[') : ¬ Tail (c :: rest) := by
  intro tail
  obtain ⟨steps, success⟩ := (tail_iff 0 _ _ (Nat.lt_succ_self _)).mp tail
  rw [parseSteps_other 0 _ _ c rest (trimStart_solid c rest solid) noDot noBracket] at success
  cases success

theorem stopsAt_other_rest (p : Char → Bool) (before : List Char) (c : Char)
    (rest rest' : List Char) (stops : StopsAt p (before ++ c :: rest)) :
    StopsAt p (before ++ c :: rest') := by
  cases before with
  | nil => exact (stopsAt_cons p c rest').mpr ((stopsAt_cons p c rest).mp stops)
  | cons first before =>
      exact (stopsAt_cons p first _).mpr ((stopsAt_cons p first _).mp stops)

/-! ## Faults of a step -/

theorem parseDot_unexpected (total : Nat) (cs : List Char) (wanted : Wanted) (position : Nat)
    (found : Option Char)
    (failed : parseDot total cs = .error (.unexpected wanted position found)) :
    PointsAt (fun rest => Tail ('.' :: rest)) total cs position found := by
  unfold parseDot at failed
  split at failed
  case h_1 => cases failed
  case h_2 => cases failed
  case h_3 =>
    split at failed
    case h_2 => cases failed
    case h_1 stops =>
      cases failed
      refine ⟨[], cs, rfl, rfl, rfl, ?_, ?_⟩
      · have name : StepText ['.', 'a'] (.key "a") :=
          .dotted 'a' [] (by decide) (List.forall_mem_singleton.mpr (by decide))
        exact ⟨['a'], tail_after_step _ [] _ name tail_nil⟩
      · intro c first rest tail
        obtain ⟨more, rfl⟩ := List.head?_eq_some_iff.mp first
        obtain ⟨step, unread, head, _⟩ := tail_of_step 0 .dot _ tail
        obtain ⟨text, form, split, _⟩ := (parseDot_iff 0 _ step unread).mp head
        cases form with
        | dotted first name definite inside =>
            cases split
            have continues := (isNameChar_iff c).mpr (inside c (List.mem_cons_self ..))
            rw [(stopsAt_cons isNameChar c more).mp stops] at continues
            cases continues

/-- A quotation mark is missed where the text ends, and that is another fault. -/
theorem parseQuoted_ne_unexpected (total start : Nat) (quote : Char) (mark : quote ≠ '\\')
    (cs : List Char) (wanted : Wanted) (position : Nat) (found : Option Char) :
    parseQuoted total start quote cs ≠ .error (.unexpected wanted position found) := by
  intro failed
  induction cs using parseQuoted.induct quote with
  | case1 => cases failed
  | case2 => cases failed
  | case3 c rest ih =>
      rcases bind_eq_error _ _ _ failed with inner | ⟨_, _, made⟩
      · exact ih inner
      · cases made
  | case4 rest =>
      rw [parseQuoted_plain total start quote quote rest mark, if_pos rfl] at failed
      cases failed
  | case5 c rest notLast notFirst inside ih =>
      have bare := bare_of_plain c rest notLast notFirst
      rw [parseQuoted_plain total start quote c rest bare, if_neg inside] at failed
      rcases bind_eq_error _ _ _ failed with inner | ⟨_, _, made⟩
      · exact ih inner
      · cases made

theorem parseSelector_unexpected (total : Nat) (cs : List Char) (wanted : Wanted) (position : Nat)
    (found : Option Char)
    (failed : parseSelector total cs = .error (.unexpected wanted position found)) :
    position = total - byteLength cs ∧ found = cs.head? ∧
      ∀ c ∈ cs.head?, ¬(c = '\'' ∨ c = '"') ∧ c.isDigit = false := by
  cases cs with
  | nil =>
      cases failed
      exact ⟨rfl, rfl, by simp⟩
  | cons c rest =>
      by_cases mark : c = '\'' ∨ c = '"'
      · rw [parseSelector_quoted total c rest mark] at failed
        rcases bind_eq_error _ _ _ failed with inner | ⟨_, _, made⟩
        · exact absurd inner
            (parseQuoted_ne_unexpected total _ c (not_backslash c mark) rest _ _ _)
        · cases made
      · cases digit : c.isDigit with
        | true =>
            rw [parseSelector_index total c rest digit] at failed
            rcases bind_eq_error _ _ _ failed with inner | ⟨_, _, made⟩
            · simp only [parseIndex] at inner
              split at inner <;> cases inner
            · cases made
        | false =>
            simp only [parseSelector, Bool.or_eq_true, decide_eq_true_eq, if_neg mark, digit,
              Bool.false_eq_true, if_false] at failed
            repeat' split at failed
            all_goals cases failed
            refine ⟨rfl, rfl, ?_⟩
            intro first here
            cases here
            exact ⟨mark, digit⟩

/-- What comes after a selector and blanks, and does not continue the selector, closes the bracket. -/
theorem closing_of_parseBracket (before selector after rest : List Char) (c : Char) (step : Step)
    (opening : Blanks before) (selects : SelectorText selector step) (closing : Blanks after)
    (solid : isBlank c = false)
    (stops : ∀ position, step = .index position → StopsAt Char.isDigit (after ++ c :: rest))
    (result : Step × List Char)
    (success : parseBracket 0 (before ++ (selector ++ (after ++ c :: rest))) = .ok result) :
    c = ']' := by
  have inner := (parseSelector_iff 0 (selector ++ (after ++ c :: rest)) step (after ++ c :: rest)).mpr
    ⟨selector, selects, rfl, stops⟩
  have next : trimStart (after ++ c :: rest) = c :: rest :=
    trimStart_run after _ closing ((stopsAt_cons isBlank c rest).mpr solid)
  rw [parseBracket, trimStart_run before _ opening (selector_stops selector step selects _), inner,
    ok_bind] at success
  dsimp only at success
  rw [next] at success
  split at success
  case h_1 start =>
    cases start
    rfl
  all_goals cases success

/-- After a bracket the fault is at the selector, or else where the closing bracket is missed. -/
theorem parseBracket_unexpected (total : Nat) (cs : List Char) (wanted : Wanted) (position : Nat)
    (found : Option Char)
    (failed : parseBracket total cs = .error (.unexpected wanted position found)) :
    PointsAt (fun rest => Tail ('[' :: rest)) total cs position found := by
  obtain ⟨before, opening, start⟩ := trimStart_split cs
  have solid := dropWhile_stops isBlank cs
  rcases bind_eq_error _ _ _ failed with unselected | ⟨⟨step, left⟩, selected, unclosed⟩
  · obtain ⟨at_unread, next, other⟩ := parseSelector_unexpected total _ _ _ _ unselected
    refine ⟨before, trimStart cs, start, at_unread, next, ?_, ?_⟩
    · have zero : SelectorText ['0'] (.index 0) :=
        .index ['0'] (by decide) (List.forall_mem_singleton.mpr (by decide)) (by decide)
      have first : StepText ('[' :: (before ++ (['0'] ++ ([] ++ [']'])))) (.index 0) :=
        .bracketed before ['0'] [] (.index 0) opening zero blanks_nil
      exact ⟨['0', ']'], by simpa using tail_after_step _ [] _ first tail_nil⟩
    · intro c first rest tail
      obtain ⟨plain, letter⟩ := other c first
      obtain ⟨more, front⟩ := List.head?_eq_some_iff.mp first
      have stops : StopsAt isBlank (c :: rest) := by
        have stopped : StopsAt isBlank (c :: more) := front ▸ solid
        exact stopsAt_other_rest isBlank [] c more rest stopped
      obtain ⟨step, unread, head, _⟩ := tail_of_step 0 .bracket _ tail
      obtain ⟨⟨chosen, left⟩, inner, _⟩ := bind_eq_ok _ _ _ head
      rw [trimStart_run before _ opening stops] at inner
      obtain ⟨fault, failure⟩ := parseSelector_other 0 c rest plain letter
      rw [failure] at inner
      cases inner
  · obtain ⟨selector, selects, split, stops⟩ := (parseSelector_iff total _ step left).mp selected
    obtain ⟨after, closing, finish⟩ := trimStart_split left
    dsimp only at unclosed
    split at unclosed
    case h_4 noClosing _ _ =>
      cases unclosed
      refine ⟨before ++ (selector ++ after), trimStart left, ?_, rfl, rfl, ?_, ?_⟩
      · rw [List.append_assoc, List.append_assoc, ← finish, ← split]
        exact start
      · have closed := StepText.bracketed before selector after step opening selects closing
        exact ⟨[']'], by simpa using tail_after_step _ [] _ closed tail_nil⟩
      · intro c first rest tail
        obtain ⟨more, front⟩ := List.head?_eq_some_iff.mp first
        have solid : isBlank c = false :=
          (stopsAt_cons isBlank c more).mp (front ▸ dropWhile_stops isBlank left)
        have ends : ∀ position, step = .index position →
            StopsAt Char.isDigit (after ++ c :: rest) := by
          intro position is
          have stopped := stops position is
          rw [finish, front] at stopped
          exact stopsAt_other_rest _ after c more rest stopped
        rw [List.append_assoc, List.append_assoc] at tail
        obtain ⟨chosen, unread, head, _⟩ := tail_of_step 0 .bracket _ tail
        obtain rfl := closing_of_parseBracket before selector after rest c step opening selects
          closing solid ends _ head
        exact noClosing more front
    all_goals cases unclosed

/-! ## Faults of an expression -/

theorem PointsAt.after_blanks {total : Nat} {cs : List Char} {position : Nat}
    {found : Option Char} (points : PointsAt Tail total (trimStart cs) position found) :
    PointsAt Tail total cs position found := by
  obtain ⟨blanks, gap, split⟩ := trimStart_split cs
  rw [split]
  refine points.after blanks ?_ ?_
  · exact fun rest tail => (tail_blanks blanks rest gap).mpr tail
  · exact fun before c _ rest _ tail => (tail_blanks blanks (before ++ c :: rest) gap).mp tail

theorem StepReader.unexpected (total : Nat) {mark : Char}
    {reader : List Char → Except PathFault (Step × List Char)}
    (opens : StepReader total mark reader) (cs : List Char) (wanted : Wanted) (position : Nat)
    (found : Option Char) (failed : reader cs = .error (.unexpected wanted position found)) :
    PointsAt (fun rest => Tail (mark :: rest)) total cs position found := by
  cases opens with
  | dot => exact parseDot_unexpected total cs wanted position found failed
  | bracket => exact parseBracket_unexpected total cs wanted position found failed

theorem parseSteps_unexpected (total fuel : Nat) (cs : List Char) (wanted : Wanted)
    (position : Nat) (found : Option Char)
    (failed : parseSteps total fuel cs = .error (.unexpected wanted position found)) :
    PointsAt Tail total cs position found := by
  -- A step that is read stays the same whatever follows the character after it, so the fault is in
  -- the text that the step leaves.
  induction fuel generalizing cs with
  | zero => cases failed
  | succ fuel ih =>
      apply PointsAt.after_blanks
      rcases start_cases total cs with ends | ⟨mark, reader, rest, opens, start⟩ |
        ⟨c, rest, start, noDot, noBracket⟩
      · rw [parseSteps_end total fuel cs ends] at failed
        cases failed
      · rw [parseSteps_step total opens fuel cs rest start] at failed
        rw [start]
        rcases bind_eq_error _ _ _ failed with unread | ⟨⟨step, unread⟩, head, failed⟩
        · have points := opens.unexpected total rest wanted position found unread
          exact points.after [mark] (fun _ tail => tail) (fun _ _ _ _ _ tail => tail)
        rcases bind_eq_error _ _ _ failed with later | ⟨_, _, made⟩
        · obtain ⟨text, first, rfl, stops⟩ := (opens.reads_iff total rest step unread).mp head
          refine (ih unread later).after (mark :: text)
            (fun cs tail => tail_after_step _ cs step first tail) ?_
          rintro before c more more' rfl tail
          obtain ⟨_, _, again, tail⟩ := tail_of_step total opens _ tail
          have same := (opens.reads_iff total (text ++ (before ++ c :: more')) step _).mpr
            ⟨text, first, rfl, fun dot =>
              stopsAt_other_rest isNameChar before c more more' (stops dot)⟩
          cases same.symm.trans again
          exact tail
        · cases made
      · rw [parseSteps_other total fuel cs c rest start noDot noBracket] at failed
        cases failed
        rw [start]
        refine ⟨[], c :: rest, rfl, rfl, rfl, ⟨[], tail_nil⟩, ?_⟩
        intro first here more
        cases here
        have solid := (stopsAt_cons isBlank c rest).mp (start ▸ dropWhile_stops isBlank cs)
        exact not_tail_of_other c more solid noDot noBracket

theorem expression_iff_tail (before rest : List Char) (opening : Blanks before) :
    (∃ steps, Expression (before ++ '$' :: rest) steps) ↔ Tail rest := by
  simp only [expression_iff_steps before rest _ opening]
  exact exists_comm

theorem parseChars_unexpected (cs : List Char) (wanted : Wanted) (position : Nat)
    (found : Option Char) (failed : parseChars cs = .error (.unexpected wanted position found)) :
    PointsAt (fun cs => ∃ steps, Expression cs steps) (byteLength cs) cs position found := by
  obtain ⟨before, opening, split⟩ := trimStart_split cs
  have solid := dropWhile_stops isBlank cs
  unfold parseChars at failed
  dsimp only at failed
  split at failed
  case h_1 => cases failed
  case h_2 rest start =>
    have points := parseSteps_unexpected _ _ rest wanted position found failed
    have front : cs = (before ++ ['$']) ++ rest := by
      rw [split, start]
      simp
    rw [front] at points ⊢
    refine points.after (before ++ ['$']) ?_ ?_
    · intro more tail
      simpa using (expression_iff_tail before more opening).mpr tail
    · intro front c _ more _ valid
      refine (expression_iff_tail before (front ++ c :: more) opening).mp ?_
      simpa using valid
  case h_3 noEnd noRoot =>
    cases failed
    refine ⟨before, trimStart cs, split, rfl, rfl, ?_, ?_⟩
    · exact ⟨['$'], (expression_iff_tail before [] opening).mpr tail_nil⟩
    · rintro c first rest ⟨steps, before', body, after, whole, opening', _, _⟩
      obtain ⟨more, front⟩ := List.head?_eq_some_iff.mp first
      have stops : StopsAt isBlank (c :: rest) :=
        stopsAt_other_rest isBlank [] c more rest (front ▸ solid)
      have left := trimStart_run before _ opening stops
      rw [whole, trimStart_run before' _ opening' ((stopsAt_cons isBlank '$' _).mpr (by decide))]
        at left
      cases left
      exact noRoot more front

/-! ## Faults in bytes -/

theorem byteLength_append (front rest : List Char) :
    byteLength (front ++ rest) = byteLength front + byteLength rest := by
  induction front with
  | nil => simp [byteLength]
  | cons c front ih => simp [byteLength, ih, Nat.add_assoc]

theorem byteLength_eq (cs : List Char) : byteLength cs = (String.ofList cs).utf8ByteSize := by
  induction cs with
  | nil => rfl
  | cons c rest ih =>
      rw [byteLength, ih, String.ofList_cons, String.utf8ByteSize_append,
        String.utf8ByteSize_singleton]

/-- An expression with an unexpected character is wrong from that character on and no sooner.  The
position is where a character begins, counted in bytes, or the end of the text; the character found
is the one that begins there, and none just at the end.  What stands before it begins an expression,
and together with the character it begins none. -/
theorem unexpected_at_first_wrong (s : String) (wanted : Wanted) (position : Nat)
    (found : Option Char) (failed : parse s = .error (.unexpected wanted position found)) :
    String.Pos.Raw.IsValid s ⟨position⟩ ∧ position ≤ s.utf8ByteSize ∧
      (found = none ↔ position = s.utf8ByteSize) ∧
        ∃ before unread : String, s = before ++ unread ∧ position = before.utf8ByteSize ∧
          found = unread.toList.head? ∧ (∃ rest path, parse (before ++ rest) = .ok path) ∧
            ∀ c, found = some c → ∀ rest path,
              parse (before ++ String.singleton c ++ rest) ≠ .ok path := by
  rw [parse] at failed
  rcases bind_eq_error _ _ _ failed with failed | ⟨_, _, made⟩
  · obtain ⟨before, unread, split, at_unread, next, wrong⟩ :=
      parseChars_unexpected s.toList wanted position found failed
    have whole : s = String.ofList before ++ String.ofList unread := by
      rw [← String.ofList_append, ← split, String.ofList_toList]
    have size : s.utf8ByteSize = (String.ofList before).utf8ByteSize +
        (String.ofList unread).utf8ByteSize := by
      rw [whole, String.utf8ByteSize_append]
    have start : position = (String.ofList before).utf8ByteSize := by
      rw [split, byteLength_append] at at_unread
      rw [← byteLength_eq]
      omega
    refine ⟨?_, by omega, ?_, String.ofList before, String.ofList unread, whole, start, ?_, ?_, ?_⟩
    · rw [String.Pos.Raw.isValid_iff_exists_append]
      exact ⟨_, _, whole, by rw [start]; rfl⟩
    · have none_left : found = none ↔ (String.ofList unread).utf8ByteSize = 0 := by
        rw [next, List.head?_eq_none_iff, String.utf8ByteSize_eq_zero_iff]
        simp
      rw [none_left]
      omega
    · rw [next, String.toList_ofList]
    · obtain ⟨rest, valid⟩ := wrong.completes
      refine ⟨String.ofList rest, (exists_parse_iff _).mpr ?_⟩
      simpa using valid
    · intro c here rest path success
      refine wrong.refuses c (next ▸ here) rest.toList ?_
      simpa using (exists_parse_iff _).mp ⟨path, success⟩
  · cases made

/-- The accented letter takes two bytes, so the letter after the blank stands at the seventh. -/
theorem wrong_after_accented_name :
    parse "$['é' x]" = .error (.unexpected .closingBracket 7 (some 'x')) ∧
      String.Pos.Raw.IsValid "$['é' x]" ⟨7⟩ ∧
        ∃ before unread : String, "$['é' x]" = before ++ unread ∧ 7 = before.utf8ByteSize ∧
          (∃ rest path, parse (before ++ rest) = .ok path) ∧
            ∀ rest path, parse (before ++ String.singleton 'x' ++ rest) ≠ .ok path := by
  have failed : parse "$['é' x]" = .error (.unexpected .closingBracket 7 (some 'x')) := by decide
  obtain ⟨valid, _, _, before, unread, split, at_unread, _, completes, refuses⟩ :=
    unexpected_at_first_wrong _ _ _ _ failed
  exact ⟨failed, valid, before, unread, split, at_unread, completes, refuses 'x' rfl⟩

end Crosswalk.Path
