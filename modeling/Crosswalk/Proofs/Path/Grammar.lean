import Crosswalk.Path.Parser
import Crosswalk.Proofs.Text.Blank
import Crosswalk.Proofs.Traversal

/-!
# The grammar of path expressions

A path expression has the form of `Expression`: a root marker and the texts of its steps
(`StepText`), with blanks before, between and after them.  The parser accepts these expressions,
with these steps, and no others (`parse_iff_expression`).

A parser of a part takes that part and leaves the rest of the text, so each of them is described
with the rest (`parseQuoted_iff`, `parseBracket_iff`, `parseDot_iff`).  A name and an index go on as
long as they can; the parsers of both say that the rest cannot continue them.  Steps of both kinds
are then read alike, by the parser that goes with their mark (`StepReader`).
-/

set_option autoImplicit false

namespace Crosswalk.Path

open Text

/-- The characters between two quotation marks, and the name that they spell: a backslash takes the
character after it as it is. -/
inductive QuotedName (quote : Char) : List Char → List Char → Prop where
  | nil : QuotedName quote [] []
  | plain (c : Char) (body name : List Char) (inside : c ≠ quote) (bare : c ≠ '\\')
      (rest : QuotedName quote body name) : QuotedName quote (c :: body) (c :: name)
  | escaped (c : Char) (body name : List Char) (rest : QuotedName quote body name) :
      QuotedName quote ('\\' :: c :: body) (c :: name)

/-- What stands between brackets: a name in quotation marks, or a place in a list. -/
inductive SelectorText : List Char → Step → Prop where
  | quoted (quote : Char) (body name : List Char) (mark : quote = '\'' ∨ quote = '"')
      (spelled : QuotedName quote body name) :
      SelectorText (quote :: (body ++ [quote])) (.key (String.ofList name))
  | index (digits : List Char) (given : digits ≠ []) (decimal : ∀ c ∈ digits, c.isDigit = true)
      (fits : Nat.ofDigitChars 10 digits 0 < wordLimit) :
      SelectorText digits (.index (Nat.ofDigitChars 10 digits 0))

/-- The text of one step. -/
inductive StepText : List Char → Step → Prop where
  | dotted (first : Char) (name : List Char) (definite : first ≠ '*')
      (inside : ∀ c ∈ first :: name, c ≠ '.' ∧ c ≠ '[' ∧ isBlank c = false) :
      StepText ('.' :: first :: name) (.key (String.ofList (first :: name)))
  | bracketed (before selector after : List Char) (step : Step) (opening : Blanks before)
      (selects : SelectorText selector step) (closing : Blanks after) :
      StepText ('[' :: (before ++ (selector ++ (after ++ [']'])))) step

/-- The texts of several steps, with blanks before each. -/
inductive StepTexts : List Char → List Step → Prop where
  | nil : StepTexts [] []
  | cons (blanks text rest : List Char) (step : Step) (steps : List Step)
      (gap : Blanks blanks) (first : StepText text step) (others : StepTexts rest steps) :
      StepTexts (blanks ++ (text ++ rest)) (step :: steps)

/-- A path expression with the steps that it denotes. -/
def Expression (cs : List Char) (steps : List Step) : Prop :=
  ∃ before body after, cs = before ++ '$' :: (body ++ after) ∧
    Blanks before ∧ StepTexts body steps ∧ Blanks after

/-! ## Steps -/

theorem isNameChar_iff (c : Char) :
    isNameChar c = true ↔ c ≠ '.' ∧ c ≠ '[' ∧ isBlank c = false := by
  simp [isNameChar, and_assoc]

variable (total : Nat)

section Quoted

variable (start : Nat) (quote : Char)

theorem parseQuoted_plain (c : Char) (rest : List Char) (bare : c ≠ '\\') :
    parseQuoted total start quote (c :: rest) =
      if c = quote then
        .ok ([], rest)
      else (do
        let (name, unread) ← parseQuoted total start quote rest
        pure (c :: name, unread)) := by
  rw [parseQuoted]
  · intro backslash
    exact absurd backslash bare
  · intro d tail backslash
    exact absurd backslash bare

theorem bare_of_plain (c : Char) (rest : List Char) (notLast : c = '\\' → rest = [] → False)
    (notFirst : ∀ d tail, c = '\\' → rest = d :: tail → False) : c ≠ '\\' := by
  intro backslash
  cases rest with
  | nil => exact notLast backslash rfl
  | cons d tail => exact notFirst d tail backslash rfl

theorem parseQuoted_iff (mark : quote ≠ '\\') (cs name unread : List Char) :
    parseQuoted total start quote cs = .ok (name, unread) ↔
      ∃ body, QuotedName quote body name ∧ cs = body ++ quote :: unread := by
  constructor
  · intro success
    induction cs using parseQuoted.induct quote generalizing name with
    | case1 => cases success
    | case2 => cases success
    | case3 c rest ih =>
        obtain ⟨⟨tail, _⟩, inner, result⟩ := bind_eq_ok _ _ _ success
        cases result
        obtain ⟨body, spelled, split⟩ := ih tail inner
        exact ⟨'\\' :: c :: body, .escaped c body tail spelled, by simp [split]⟩
    | case4 rest =>
        rw [parseQuoted_plain total start quote quote rest mark, if_pos rfl] at success
        cases success
        exact ⟨[], .nil, rfl⟩
    | case5 c rest notLast notFirst inside ih =>
        have bare := bare_of_plain c rest notLast notFirst
        rw [parseQuoted_plain total start quote c rest bare, if_neg inside] at success
        obtain ⟨⟨tail, _⟩, inner, result⟩ := bind_eq_ok _ _ _ success
        cases result
        obtain ⟨body, spelled, split⟩ := ih tail inner
        exact ⟨c :: body, .plain c body tail inside bare spelled, by simp [split]⟩
  · rintro ⟨body, spelled, rfl⟩
    induction spelled with
    | nil =>
        rw [List.nil_append, parseQuoted_plain total start quote quote unread mark, if_pos rfl]
    | plain c body name inside bare _ ih =>
        rw [List.cons_append, parseQuoted_plain total start quote c _ bare, if_neg inside, ih]
        rfl
    | escaped c body name _ ih =>
        rw [List.cons_append, List.cons_append, parseQuoted, ih]
        rfl

end Quoted

theorem parseIndex_iff (cs : List Char) (position : Nat) (unread : List Char) :
    parseIndex total cs = .ok (position, unread) ↔
      ∃ digits, (∀ c ∈ digits, c.isDigit = true) ∧ cs = digits ++ unread ∧
        StopsAt Char.isDigit unread ∧ position = Nat.ofDigitChars 10 digits 0 ∧
        position < wordLimit := by
  constructor
  · intro success
    simp only [parseIndex] at success
    split at success
    case isTrue fits =>
      cases success
      exact ⟨cs.takeWhile Char.isDigit, takeWhile_inside Char.isDigit cs,
        List.takeWhile_append_dropWhile.symm, dropWhile_stops Char.isDigit cs, rfl, fits⟩
    case isFalse => cases success
  · rintro ⟨digits, decimal, rfl, stops, rfl, fits⟩
    simp only [parseIndex, takeWhile_run Char.isDigit digits unread decimal stops,
      dropWhile_run Char.isDigit digits unread decimal stops, if_pos fits]

section Selector

variable (first : Char) (rest : List Char)

theorem parseSelector_quoted (mark : first = '\'' ∨ first = '"') :
    parseSelector total (first :: rest) = (do
      let (name, unread) ←
        parseQuoted total (total - byteLength (first :: rest)) first rest
      pure (.key (String.ofList name), unread)) := by
  simp [parseSelector, mark]

theorem parseSelector_index (digit : first.isDigit = true) :
    parseSelector total (first :: rest) = (do
      let (position, unread) ← parseIndex total (first :: rest)
      pure (.index position, unread)) := by
  have plain : ¬(first = '\'' ∨ first = '"') := by
    rintro (rfl | rfl) <;> simp at digit
  simp [parseSelector, plain, digit]

theorem parseSelector_other (plain : ¬(first = '\'' ∨ first = '"')) (letter : first.isDigit = false) :
    ∃ fault, parseSelector total (first :: rest) = .error fault := by
  simp only [parseSelector, Bool.or_eq_true, decide_eq_true_eq, if_neg plain, letter,
    Bool.false_eq_true, if_false]
  repeat' split
  all_goals exact ⟨_, rfl⟩

end Selector

theorem not_backslash (quote : Char) (mark : quote = '\'' ∨ quote = '"') : quote ≠ '\\' := by
  rintro rfl
  simp at mark

/-- A selector that is an index goes on as long as digits follow. -/
theorem parseSelector_iff (cs : List Char) (step : Step) (unread : List Char) :
    parseSelector total cs = .ok (step, unread) ↔
      ∃ text, SelectorText text step ∧ cs = text ++ unread ∧
        ∀ position, step = .index position → StopsAt Char.isDigit unread := by
  constructor
  · intro success
    cases cs with
    | nil => cases success
    | cons c rest =>
        by_cases mark : c = '\'' ∨ c = '"'
        · rw [parseSelector_quoted total c rest mark] at success
          obtain ⟨⟨name, _⟩, inner, result⟩ := bind_eq_ok _ _ _ success
          cases result
          obtain ⟨body, spelled, split⟩ :=
            (parseQuoted_iff total _ c (not_backslash c mark) rest name unread).mp inner
          refine ⟨c :: (body ++ [c]), .quoted c body name mark spelled, by simp [split], ?_⟩
          intro position other
          cases other
        · cases digit : c.isDigit with
          | true =>
              rw [parseSelector_index total c rest digit] at success
              obtain ⟨⟨position, _⟩, inner, result⟩ := bind_eq_ok _ _ _ success
              cases result
              obtain ⟨digits, decimal, split, stops, rfl, fits⟩ :=
                (parseIndex_iff total (c :: rest) position unread).mp inner
              have given : digits ≠ [] := by
                rintro rfl
                rw [List.nil_append] at split
                rw [← split, stopsAt_cons, digit] at stops
                cases stops
              exact ⟨digits, .index digits given decimal fits, split, fun _ _ => stops⟩
          | false =>
              obtain ⟨fault, failure⟩ := parseSelector_other total c rest mark digit
              rw [failure] at success
              cases success
  · rintro ⟨text, selects, rfl, stops⟩
    cases selects with
    | quoted quote body name mark spelled =>
        have whole : quote :: (body ++ [quote]) ++ unread = quote :: (body ++ quote :: unread) := by
          simp
        have inner := fun start => (parseQuoted_iff total start quote (not_backslash quote mark)
          (body ++ quote :: unread) name unread).mpr ⟨body, spelled, rfl⟩
        rw [whole, parseSelector_quoted total quote _ mark, inner]
        rfl
    | index _ given decimal fits =>
        have inner := (parseIndex_iff total (text ++ unread) _ unread).mpr
          ⟨text, decimal, rfl, stops _ rfl, rfl, fits⟩
        obtain ⟨first, rest, rfl⟩ := List.exists_cons_of_ne_nil given
        rw [List.cons_append] at inner ⊢
        rw [parseSelector_index total first _ (decimal first (List.mem_cons_self ..)), inner]
        rfl

theorem selector_stops (text : List Char) (step : Step) (selects : SelectorText text step)
    (unread : List Char) : StopsAt isBlank (text ++ unread) := by
  cases selects with
  | quoted quote body name mark spelled =>
      rw [List.cons_append, stopsAt_cons]
      rcases mark with rfl | rfl <;> decide
  | index _ given decimal fits =>
      obtain ⟨first, rest, rfl⟩ := List.exists_cons_of_ne_nil given
      rw [List.cons_append, stopsAt_cons]
      exact isBlank_of_isDigit first (decimal first (List.mem_cons_self ..))

/-- The text up to a closing bracket does not continue an index. -/
theorem closing_stops (blanks unread : List Char) (gap : Blanks blanks) :
    StopsAt Char.isDigit (blanks ++ ']' :: unread) := by
  refine blanks_stop Char.isDigit ?_ blanks _ gap ((stopsAt_cons Char.isDigit ']' unread).mpr rfl)
  intro c blank
  cases digit : c.isDigit with
  | false => rfl
  | true =>
      rw [isBlank_of_isDigit c digit] at blank
      cases blank

theorem parseBracket_iff (cs : List Char) (step : Step) (unread : List Char) :
    parseBracket total cs = .ok (step, unread) ↔
      ∃ text, StepText ('[' :: text) step ∧ cs = text ++ unread := by
  constructor
  · intro success
    obtain ⟨⟨chosen, left⟩, inner, close⟩ := bind_eq_ok _ _ _ success
    obtain ⟨selector, selects, split, _⟩ := (parseSelector_iff total _ chosen left).mp inner
    obtain ⟨before, opening, start⟩ := trimStart_split cs
    obtain ⟨after, closing, finish⟩ := trimStart_split left
    dsimp only at close
    split at close
    case h_1 rest closed =>
      cases close
      refine ⟨before ++ (selector ++ (after ++ [']'])),
        .bracketed before selector after step opening selects closing, ?_⟩
      rw [start, split, finish, closed]
      simp
    all_goals cases close
  · rintro ⟨text, form, rfl⟩
    cases form with
    | bracketed before selector after step opening selects closing =>
        have whole : before ++ (selector ++ (after ++ [']'])) ++ unread =
            before ++ (selector ++ (after ++ ']' :: unread)) := by
          simp
        have inner := (parseSelector_iff total (selector ++ (after ++ ']' :: unread)) step
          (after ++ ']' :: unread)).mpr
          ⟨selector, selects, rfl, fun _ _ => closing_stops after unread closing⟩
        have closed : trimStart (after ++ ']' :: unread) = ']' :: unread :=
          trimStart_run after _ closing ((stopsAt_cons isBlank ']' unread).mpr (by decide))
        rw [whole, parseBracket,
          trimStart_run before _ opening (selector_stops selector step selects _), inner]
        simp only [bind, Except.bind, closed]
        rfl

/-- A name goes on as long as it can. -/
theorem parseDot_iff (cs : List Char) (step : Step) (unread : List Char) :
    parseDot total cs = .ok (step, unread) ↔
      ∃ text, StepText ('.' :: text) step ∧ cs = text ++ unread ∧ StopsAt isNameChar unread := by
  constructor
  · intro success
    unfold parseDot at success
    split at success
    case h_1 => cases success
    case h_2 => cases success
    case h_3 noDot noStar =>
      split at success
      case h_1 => cases success
      case h_2 given =>
        cases success
        obtain ⟨first, name, run⟩ := List.exists_cons_of_ne_nil given
        have inside := takeWhile_inside isNameChar cs
        have whole := List.takeWhile_append_dropWhile (p := isNameChar) (l := cs)
        rw [run] at inside whole
        rw [run]
        refine ⟨first :: name, .dotted first name ?_ fun c member =>
          (isNameChar_iff c).mp (inside c member), whole.symm, dropWhile_stops isNameChar cs⟩
        rintro rfl
        exact noStar _ whole.symm
  · rintro ⟨text, form, rfl, stops⟩
    cases form with
    | dotted first name definite inside =>
        have member : ∀ c ∈ first :: name, isNameChar c = true :=
          fun c found => (isNameChar_iff c).mpr (inside c found)
        have noDot := (inside first (List.mem_cons_self ..)).1
        unfold parseDot
        split
        case h_1 rest start =>
          cases start
          exact absurd rfl noDot
        case h_2 rest start =>
          cases start
          exact absurd rfl definite
        case h_3 =>
          rw [takeWhile_run isNameChar (first :: name) unread member stops,
            dropWhile_run isNameChar (first :: name) unread member stops]

/-! ## A step with its mark -/

/-- The mark that begins a step, and the parser of what follows the mark. -/
inductive StepReader : Char → (List Char → Except PathFault (Step × List Char)) → Prop where
  | dot : StepReader '.' (parseDot total)
  | bracket : StepReader '[' (parseBracket total)

section StepReader

variable {mark : Char} {reader : List Char → Except PathFault (Step × List Char)}
  (opens : StepReader total mark reader)

include opens

theorem StepReader.solid : isBlank mark = false := by
  cases opens <;> decide

/-- Only where a name ends depends on what follows the step. -/
theorem StepReader.reads_iff (cs : List Char) (step : Step) (unread : List Char) :
    reader cs = .ok (step, unread) ↔
      ∃ text, StepText (mark :: text) step ∧ cs = text ++ unread ∧
        (mark = '.' → StopsAt isNameChar unread) := by
  cases opens with
  | dot => simpa using parseDot_iff total cs step unread
  | bracket => simpa using parseBracket_iff total cs step unread

theorem parseSteps_step (fuel : Nat) (cs rest : List Char) (start : trimStart cs = mark :: rest) :
    parseSteps total (fuel + 1) cs = (do
      let (step, unread) ← reader rest
      let steps ← parseSteps total fuel unread
      pure (step :: steps)) := by
  cases opens <;> (rw [parseSteps, start]; rfl)

end StepReader

theorem parseSteps_end (fuel : Nat) (cs : List Char) (ends : trimStart cs = []) :
    parseSteps total (fuel + 1) cs = .ok [] := by
  rw [parseSteps, ends]

theorem parseSteps_other (fuel : Nat) (cs : List Char) (c : Char) (rest : List Char)
    (start : trimStart cs = c :: rest) (noDot : c ≠ '.') (noBracket : c ≠ '[') :
    parseSteps total (fuel + 1) cs = .error (unexpected total .step (c :: rest)) := by
  rw [parseSteps, start]
  split
  case h_1 ends => cases ends
  case h_2 dot =>
    cases dot
    exact absurd rfl noDot
  case h_3 bracket =>
    cases bracket
    exact absurd rfl noBracket
  case h_4 => rfl

theorem start_cases (cs : List Char) :
    trimStart cs = [] ∨
      (∃ mark reader rest, StepReader total mark reader ∧ trimStart cs = mark :: rest) ∨
        ∃ c rest, trimStart cs = c :: rest ∧ c ≠ '.' ∧ c ≠ '[' := by
  cases start : trimStart cs with
  | nil => exact Or.inl rfl
  | cons c rest =>
      by_cases dot : c = '.'
      · exact Or.inr (Or.inl ⟨'.', _, rest, .dot, by rw [dot]⟩)
      · by_cases bracket : c = '['
        · exact Or.inr (Or.inl ⟨'[', _, rest, .bracket, by rw [bracket]⟩)
        · exact Or.inr (Or.inr ⟨c, rest, rfl, dot, bracket⟩)

theorem stepText_opens (text : List Char) (step : Step) (form : StepText text step) :
    ∃ mark reader rest, StepReader total mark reader ∧ text = mark :: rest := by
  cases form with
  | dotted first name => exact ⟨'.', _, first :: name, .dot, rfl⟩
  | bracketed before selector after =>
      exact ⟨'[', _, before ++ (selector ++ (after ++ [']'])), .bracket, rfl⟩

/-! ## Expressions -/

theorem stepText_stops (p : Char → Bool) (dot : p '.' = false) (bracket : p '[' = false)
    (text : List Char) (step : Step) (form : StepText text step) (unread : List Char) :
    StopsAt p (text ++ unread) := by
  obtain ⟨mark, _, rest, opens, rfl⟩ := stepText_opens 0 text step form
  cases opens with
  | dot => exact (stopsAt_cons p '.' _).mpr dot
  | bracket => exact (stopsAt_cons p '[' _).mpr bracket

/-- What follows a name does not continue it. -/
theorem stepTexts_stops (body after : List Char) (steps : List Step) (form : StepTexts body steps)
    (gap : Blanks after) : StopsAt isNameChar (body ++ after) := by
  have outside : ∀ c, isBlank c = true → isNameChar c = false := by
    intro c blank
    simp [isNameChar, blank]
  cases form with
  | nil =>
      rw [List.nil_append, ← List.append_nil after]
      exact blanks_stop isNameChar outside after [] gap (stopsAt_nil isNameChar)
  | cons blanks text rest step steps between first others =>
      rw [List.append_assoc, List.append_assoc]
      exact blanks_stop isNameChar outside blanks _ between
        (stepText_stops isNameChar rfl rfl text step first _)

/-- A step that begins the text, and the steps of the text that it leaves. -/
theorem stepTexts_cons (cs text unread : List Char) (step : Step) (steps : List Step)
    (start : trimStart cs = text ++ unread) (first : StepText text step)
    (left : ∃ body after, StepTexts body steps ∧ Blanks after ∧ unread = body ++ after) :
    ∃ body after, StepTexts body (step :: steps) ∧ Blanks after ∧ cs = body ++ after := by
  obtain ⟨body, after, others, gap, rfl⟩ := left
  obtain ⟨blanks, between, split⟩ := trimStart_split cs
  refine ⟨blanks ++ (text ++ body), after, .cons blanks text body step steps between first others,
    gap, ?_⟩
  rw [split, start]
  simp

theorem unread_shorter (cs unread text : List Char) (mark : Char)
    (start : trimStart cs = mark :: (text ++ unread)) : unread.length < cs.length := by
  obtain ⟨blanks, _, split⟩ := trimStart_split cs
  have size := congrArg List.length split
  rw [start] at size
  simp only [List.length_append, List.length_cons] at size
  omega

/-- With fuel for every character, the steps are those of the whole text. -/
theorem parseSteps_iff (fuel : Nat) (cs : List Char) (steps : List Step)
    (enough : cs.length < fuel) :
    parseSteps total fuel cs = .ok steps ↔
      ∃ body after, StepTexts body steps ∧ Blanks after ∧ cs = body ++ after := by
  constructor
  · intro success
    induction fuel generalizing cs steps with
    | zero => omega
    | succ fuel ih =>
        rcases start_cases total cs with ends | ⟨mark, reader, rest, opens, start⟩ |
          ⟨c, rest, start, noDot, noBracket⟩
        · rw [parseSteps_end total fuel cs ends] at success
          cases success
          obtain ⟨blanks, gap, split⟩ := trimStart_split cs
          rw [ends, List.append_nil] at split
          exact ⟨[], blanks, .nil, gap, split⟩
        · rw [parseSteps_step total opens fuel cs rest start] at success
          obtain ⟨⟨step, unread⟩, head, success⟩ := bind_eq_ok _ _ _ success
          obtain ⟨others, tail, result⟩ := bind_eq_ok _ _ _ success
          cases result
          obtain ⟨text, first, rfl, _⟩ := (opens.reads_iff total rest step unread).mp head
          have shorter := unread_shorter cs unread text mark start
          exact stepTexts_cons cs (mark :: text) unread step others start first
            (ih unread others (by omega) tail)
        · rw [parseSteps_other total fuel cs c rest start noDot noBracket] at success
          cases success
  · rintro ⟨body, after, form, gap, rfl⟩
    induction form generalizing fuel with
    | nil =>
        obtain ⟨fuel, rfl⟩ := Nat.exists_eq_add_one_of_ne_zero (Nat.ne_zero_of_lt enough)
        have ends := trimStart_run after [] gap (stopsAt_nil isBlank)
        rw [List.append_nil] at ends
        exact parseSteps_end total fuel _ ends
    | cons blanks text rest step steps between first others ih =>
        obtain ⟨fuel, rfl⟩ := Nat.exists_eq_add_one_of_ne_zero (Nat.ne_zero_of_lt enough)
        have start : trimStart (blanks ++ (text ++ rest) ++ after) = text ++ (rest ++ after) := by
          rw [List.append_assoc, List.append_assoc]
          exact trimStart_run blanks _ between
            (stepText_stops isBlank (by decide) (by decide) text step first _)
        generalize blanks ++ (text ++ rest) ++ after = cs at start enough ⊢
        obtain ⟨mark, reader, inside, opens, rfl⟩ := stepText_opens total text step first
        have shorter := unread_shorter cs (rest ++ after) inside mark start
        have head := (opens.reads_iff total (inside ++ (rest ++ after)) step (rest ++ after)).mpr
          ⟨inside, first, rfl, fun _ => stepTexts_stops rest after steps others gap⟩
        have tail := ih fuel (by omega)
        rw [List.cons_append] at start
        rw [parseSteps_step total opens fuel cs _ start, head, ok_bind]
        dsimp only
        rw [tail]
        rfl

/-- After the root marker and the blanks before it, an expression is its steps and blanks. -/
theorem expression_iff_steps (before rest : List Char) (steps : List Step)
    (opening : Blanks before) :
    Expression (before ++ '$' :: rest) steps ↔
      ∃ body after, StepTexts body steps ∧ Blanks after ∧ rest = body ++ after := by
  have root : ∀ cs, StopsAt isBlank ('$' :: cs) := fun cs =>
    (stopsAt_cons isBlank '$' cs).mpr (by decide)
  constructor
  · rintro ⟨before', body, after, split, opening', form, closing⟩
    have left := trimStart_run before _ opening (root rest)
    rw [split, trimStart_run before' _ opening' (root _)] at left
    cases left
    exact ⟨body, after, form, closing, rfl⟩
  · rintro ⟨body, after, form, closing, rfl⟩
    exact ⟨before, body, after, rfl, opening, form, closing⟩

theorem parseChars_iff (cs : List Char) (steps : List Step) :
    parseChars cs = .ok steps ↔ Expression cs steps := by
  constructor
  · intro success
    obtain ⟨before, opening, split⟩ := trimStart_split cs
    unfold parseChars at success
    split at success
    case h_1 => cases success
    case h_2 rest start =>
      obtain ⟨body, after, form, closing, rfl⟩ :=
        (parseSteps_iff (byteLength cs) (rest.length + 1) rest steps (by omega)).mp success
      rw [start] at split
      exact ⟨before, body, after, split, opening, form, closing⟩
    case h_3 => cases success
  · rintro ⟨before, body, after, rfl, opening, form, closing⟩
    have start : trimStart (before ++ '$' :: (body ++ after)) = '$' :: (body ++ after) :=
      trimStart_run before _ opening ((stopsAt_cons isBlank '$' _).mpr (by decide))
    simp only [parseChars, start]
    exact (parseSteps_iff _ _ (body ++ after) steps (by omega)).mpr
      ⟨body, after, form, closing, rfl⟩

theorem parse_eq_ok_iff (s : String) (path : Path) :
    parse s = .ok path ↔
      path.text = String.ofList (trim s.toList) ∧ Expression s.toList path.steps := by
  obtain ⟨text, steps⟩ := path
  rw [← parseChars_iff]
  cases outcome : parseChars s.toList with
  | error fault => simp [parse, outcome, bind, Except.bind]
  | ok found => simp [parse, outcome, bind, Except.bind, pure, Except.pure, eq_comm]

theorem exists_parse_iff (s : String) :
    (∃ path, parse s = .ok path) ↔ ∃ steps, Expression s.toList steps := by
  simp only [parse_eq_ok_iff]
  constructor
  · rintro ⟨path, _, form⟩
    exact ⟨path.steps, form⟩
  · rintro ⟨steps, form⟩
    exact ⟨⟨_, steps⟩, rfl, form⟩

/-- The parser accepts the expressions, each with its steps, and refuses every other text. -/
theorem parse_iff_expression (s : String) :
    (∀ steps, (∃ path, parse s = .ok path ∧ path.steps = steps) ↔ Expression s.toList steps) ∧
      ((∃ fault, parse s = .error fault) ↔ ∀ steps, ¬ Expression s.toList steps) := by
  simp only [← parseChars_iff]
  cases outcome : parseChars s.toList with
  | error fault => simp [parse, outcome, bind, Except.bind]
  | ok steps => simp [parse, outcome, bind, Except.bind, pure, Except.pure]

end Crosswalk.Path
