import Mathlib.Algebra.Group.Nat.Defs
import Crosswalk.Proofs.Yaml.Place
import Crosswalk.Yaml.Reader

/-!
# Text in quotation marks

`Quotes` says what may be written between quotation marks for a text; the reader gives the text back
(`quotedFrom_quotes`).  In double quotation marks every text can be written (`quotes_double`), in
single ones text that is printable and has no space beside a break (`quotes_single`).
-/

set_option autoImplicit false

namespace Crosswalk.Yaml

open Text (StopsAt stopsAt_nil stopsAt_cons)

def quoteMark (double : Bool) : Char :=
  if double then '"' else '\''

/-- What may stand between quotation marks, and the text that is meant. -/
inductive Quotes (double : Bool) : List Char → List Char → Prop where
  | nil : Quotes double [] []
  | char (c : Char) (written meant : List Char) (solid : endsToken (some c) = false)
      (other : c ≠ quoteMark double) (bare : double = true → c ≠ '\\')
      (rest : Quotes double written meant) : Quotes double (c :: written) (c :: meant)
  | spaces (count : Nat) (written meant : List Char) (text : AtText written)
      (rest : Quotes double written meant) :
      Quotes double (spaces (count + 1) ++ written) (spaces (count + 1) ++ meant)
  /-- Breaks that are not folded.  The next line is indented. -/
  | breaks (breaks : List Char) (count : Nat) (written meant : List Char)
      (all : ∀ c ∈ breaks, endsLine c = true) (given : breaks ≠ [])
      (kept : breaks.head? ≠ some '\n') (text : AtText written)
      (rest : Quotes double written meant) :
      Quotes double (breaks ++ (spaces (count + 1) ++ written)) (breaks ++ meant)
  | pair (single : double = false) (written meant : List Char)
      (rest : Quotes double written meant) :
      Quotes double ('\'' :: '\'' :: written) ('\'' :: meant)
  | escape (twice : double = true) (letter : Char) (escape : List Char) (c : Char)
      (written meant : List Char) (inside : endsLine letter = false)
      (means : ∀ after, escaped? (letter :: (escape ++ after)) = some (c, escape.length + 1))
      (rest : Quotes double written meant) :
      Quotes double ('\\' :: letter :: (escape ++ written)) (c :: meant)

/-! ## Steps of the reader -/

section Steps
variable (double : Bool) (fuel column line : Nat) (fresh : Bool)
  (anchors : List (String × Outline)) (positive : 0 < column) (rest : List Char)

theorem ended_cons (c : Char) (positive : 0 < column) :
    Place.ended ⟨c :: rest, column, line, fresh, anchors⟩ = false := by
  simp [Place.ended, Place.atMarker, Nat.ne_of_gt positive]

include positive

theorem quotedFrom_gap (c : Char) (gap : Gap) (ends : endsToken (some c) = true)
    (read : Gap.read 0 ⟨c :: rest, column, line, fresh, anchors⟩ = gap) :
    quotedFrom double (fuel + 1) ⟨c :: rest, column, line, fresh, anchors⟩ =
      (quotedFrom double fuel gap.place).bind
        fun (more, last) => some (gap.folded ++ more, last) := by
  rw [quotedFrom.eq_def]
  simp only [ended_cons column line fresh anchors rest c positive, Place.head?, List.head?_cons,
    ends, Bool.false_eq_true, if_false, if_true, read]
  rfl

/-- The mark that ends the text. -/
theorem quotedFrom_mark (after : rest.head? ≠ some '\'') :
    quotedFrom double (fuel + 1) ⟨quoteMark double :: rest, column, line, fresh, anchors⟩ =
      some ([], ⟨rest, column + 1, line, false, anchors⟩) := by
  have solid : endsToken (some (quoteMark double)) = false := by cases double <;> rfl
  rw [quotedFrom.eq_def]
  simp only [ended_cons column line fresh anchors rest _ positive, Place.head?, List.head?_cons,
    solid, Bool.false_eq_true, if_false]
  cases double with
  | true => rfl
  | false =>
    split
    case h_1 same =>
      cases same
      exact absurd rfl after
    case h_2 same =>
      cases same
      rfl
    case h_5 same _ other _ _ =>
      cases same
      exact absurd rfl (other rfl)
    case h_6 same => cases same
    all_goals contradiction

theorem quotedFrom_char (c : Char) (solid : endsToken (some c) = false)
    (other : c ≠ quoteMark double) (bare : double = true → c ≠ '\\') :
    quotedFrom double (fuel + 1) ⟨c :: rest, column, line, fresh, anchors⟩ =
      (quotedFrom double fuel ⟨rest, column + 1, line, false, anchors⟩).bind
        fun (more, last) => some (c :: more, last) := by
  rw [quotedFrom.eq_def]
  simp only [ended_cons column line fresh anchors rest c positive, Place.head?, List.head?_cons,
    solid, Bool.false_eq_true, if_false]
  split
  case h_4 same =>
    cases same
    exact absurd rfl (bare rfl)
  case h_5 same =>
    cases same
    rfl
  case h_6 same => cases same
  -- the marks of the text itself
  all_goals
    rename_i same
    cases same
    exact absurd rfl other

theorem quotedFrom_pair :
    quotedFrom false (fuel + 1) ⟨'\'' :: '\'' :: rest, column, line, fresh, anchors⟩ =
      (quotedFrom false fuel ⟨rest, column + 2, line, false, anchors⟩).bind
        fun (more, last) => some ('\'' :: more, last) := by
  rw [quotedFrom.eq_def]
  simp only [ended_cons column line fresh anchors _ _ positive]
  rfl

theorem quotedFrom_escape (letter c : Char) (escape : List Char)
    (inside : endsLine letter = false)
    (means : escaped? (letter :: (escape ++ rest)) = some (c, escape.length + 1)) :
    quotedFrom true (fuel + 1)
        ⟨'\\' :: letter :: (escape ++ rest), column, line, fresh, anchors⟩ =
      (quotedFrom true fuel ⟨rest, column + (escape.length + 2), line, false, anchors⟩).bind
        fun (more, last) => some (c :: more, last) := by
  have solid : endsToken (some '\\') = false := rfl
  have past : Place.drop ⟨'\\' :: letter :: (escape ++ rest), column, line, fresh, anchors⟩
      (escape.length + 1 + 1) = ⟨rest, column + (escape.length + 2), line, false, anchors⟩ := by
    simp [Place.drop, Place.past]
  rw [quotedFrom.eq_def]
  simp only [ended_cons column line fresh anchors _ _ positive, Place.head?, List.head?_cons, solid,
    Option.any_some, inside, Bool.false_eq_true, if_false, means, past, Option.bind_eq_bind,
    Option.bind_some]
  rfl

end Steps

/-! ## Reading what is quoted -/

theorem folded_kept (blanks breaks : List Char) (place : Place) (tabbed : Bool)
    (given : breaks ≠ []) (kept : breaks.head? ≠ some '\n') :
    Gap.folded ⟨blanks, breaks, place, tabbed⟩ = breaks := by
  obtain ⟨c, rest, rfl⟩ := List.exists_cons_of_ne_nil given
  have other : c ≠ '\n' := by simpa using kept
  simp [Gap.folded, other]

/-- The reader has come to the end of a text in quotation marks, and on one line it has counted
every character. -/
def PastMark (anchors : List (String × Outline)) (tail written : List Char) (column line : Nat)
    (last : Place) : Prop :=
  ∃ column' line', last = ⟨tail, column', line', false, anchors⟩ ∧ line ≤ line' ∧
    ((∀ c ∈ written, endsLine c = false) → line' = line ∧ column' = column + written.length + 1)

section Read
variable (anchors : List (String × Outline)) (tail : List Char)

theorem PastMark.step (front written : List Char) (column line : Nat) (last : Place)
    (past : PastMark anchors tail written (column + front.length) line last) :
    PastMark anchors tail (front ++ written) column line last := by
  obtain ⟨column', line', same, later, counted⟩ := past
  refine ⟨column', line', same, later, fun whole => ?_⟩
  obtain ⟨on, at'⟩ := counted (List.forall_mem_append.mp whole).2
  rw [List.length_append]
  exact ⟨on, by omega⟩

/-- Text in quotation marks is read as the text that is meant. -/
theorem quotedFrom_quotes (double : Bool) (after : tail.head? ≠ some '\'')
    (written meant : List Char) (quotes : Quotes double written meant) (fuel column line : Nat)
    (fresh : Bool) (room : written.length < fuel) (positive : 0 < column) :
    ∃ last, quotedFrom double fuel
        ⟨written ++ quoteMark double :: tail, column, line, fresh, anchors⟩ = some (meant, last) ∧
      PastMark anchors tail written column line last := by
  have atMark : AtText (quoteMark double :: tail) := by
    cases double <;> exact (stopsAt_cons _ _ _).mpr rfl
  induction quotes generalizing fuel column line fresh with
  | nil =>
      obtain ⟨fuel, rfl⟩ := Nat.exists_eq_add_of_le' (show 1 ≤ fuel by omega)
      exact ⟨_, quotedFrom_mark double fuel column line fresh anchors positive tail after,
        _, _, rfl, Nat.le_refl _, fun _ => ⟨rfl, rfl⟩⟩
  | char c written meant solid other bare rest ih =>
      rw [List.length_cons] at room
      obtain ⟨fuel, rfl⟩ := Nat.exists_eq_add_of_le' (show 1 ≤ fuel by omega)
      obtain ⟨last, read, past⟩ := ih fuel (column + 1) line false (by omega) (by omega)
      refine ⟨last, ?_, PastMark.step anchors tail [c] written column line last past⟩
      rw [List.cons_append, quotedFrom_char double fuel column line fresh anchors positive _ c solid
        other bare, read]
      rfl
  | spaces count written meant text rest ih =>
      simp only [List.length_append, spaces, List.length_replicate] at room
      obtain ⟨fuel, rfl⟩ := Nat.exists_eq_add_of_le' (show 1 ≤ fuel by omega)
      obtain ⟨last, read, past⟩ := ih fuel (column + (count + 1)) line fresh (by omega) (by omega)
      refine ⟨last, ?_, PastMark.step anchors tail (spaces (count + 1)) written column line last
        (by simpa [spaces] using past)⟩
      have gap := read_spaces 0 (count + 1) column line fresh anchors _
        (Text.stopsAt_append _ written _ text atMark)
      rw [List.append_assoc]
      refine (quotedFrom_gap double fuel column line fresh anchors positive _ ' ' _ rfl
        gap).trans ?_
      rw [read]
      rfl
  | breaks breaks count written meant all given kept text rest ih =>
      have some := List.length_pos_iff.mpr given
      simp only [List.length_append, spaces, List.length_replicate] at room
      obtain ⟨fuel, rfl⟩ := Nat.exists_eq_add_of_le' (show 1 ≤ fuel by omega)
      obtain ⟨last, read, column', line', same, later, _⟩ :=
        ih fuel (count + 1) (line + breaks.length) true (by omega) (by omega)
      have gap := read_breaks 0 (count + 1) column line fresh anchors _
        (Text.stopsAt_append _ written _ text atMark) breaks all given
      have folded := folded_kept [] breaks
        ⟨written ++ quoteMark double :: tail, count + 1, line + breaks.length, true, anchors⟩ false
        given kept
      obtain ⟨c, more, rfl⟩ := List.exists_cons_of_ne_nil given
      have ends := all c (List.mem_cons_self ..)
      refine ⟨last, ?_, column', line', same, by omega, fun whole => ?_⟩
      · rw [List.append_assoc, List.append_assoc]
        refine (quotedFrom_gap double fuel column line fresh anchors positive _ c _
          (by simp [endsToken, ends]) gap).trans ?_
        rw [read, folded]
        rfl
      · have inside := whole c (by simp)
        rw [ends] at inside
        cases inside
  | pair single written meant rest ih =>
      subst single
      simp only [List.length_cons] at room
      obtain ⟨fuel, rfl⟩ := Nat.exists_eq_add_of_le' (show 1 ≤ fuel by omega)
      obtain ⟨last, read, past⟩ := ih fuel (column + 2) line false (by omega) (by omega)
      refine ⟨last, ?_, PastMark.step anchors tail ['\'', '\''] written column line last past⟩
      rw [List.cons_append, List.cons_append,
        quotedFrom_pair fuel column line fresh anchors positive, read]
      rfl
  | escape twice letter escape c written meant inside means rest ih =>
      subst twice
      simp only [List.length_cons, List.length_append] at room
      obtain ⟨fuel, rfl⟩ := Nat.exists_eq_add_of_le' (show 1 ≤ fuel by omega)
      obtain ⟨last, read, past⟩ := ih fuel (column + (escape.length + 2)) line false (by omega)
        (by omega)
      refine ⟨last, ?_, PastMark.step anchors tail ('\\' :: letter :: escape) written column line
        last past⟩
      rw [List.cons_append, List.cons_append, List.append_assoc,
        quotedFrom_escape fuel column line fresh anchors positive _ letter c escape inside
          (means _), read]
      rfl

/-- A text in quotation marks is a leaf. -/
theorem leaf_quotes (double : Bool) (after : tail.head? ≠ some '\'') (floor : Nat)
    (written meant : List Char) (quotes : Quotes double written meant) (column line : Nat)
    (fresh : Bool) (positive : 0 < column) :
    ∃ last, leaf floor ⟨quoteMark double :: (written ++ quoteMark double :: tail), column, line,
        fresh, anchors⟩ = some (quotedOutline meant, last) ∧
      PastMark anchors tail written (column + 1) line last := by
  obtain ⟨last, read, past⟩ := quotedFrom_quotes anchors tail double after written meant quotes
    ((written ++ quoteMark double :: tail).length + 2) (column + 1) line false (by simp; omega)
    (by omega)
  refine ⟨last, ?_, past⟩
  have inside := ended_cons column line fresh anchors (written ++ quoteMark double :: tail)
    (quoteMark double) positive
  have text : quotedText double ⟨quoteMark double :: (written ++ quoteMark double :: tail), column,
      line, fresh, anchors⟩ = some (meant, last) := read
  cases double with
  | true =>
      have value : ∀ fuel, flowValue floor (fuel + 1) ⟨'"' :: (written ++ '"' :: tail), column,
          line, fresh, anchors⟩ = some (quotedOutline meant, last) := by
        intro fuel
        rw [flowValue.eq_def]
        simp only [quoteMark, if_true] at inside text
        simp only [inside, text, Place.head?, List.head?_cons]
        rfl
      exact value (4 * (written ++ '"' :: tail).length + 7)
  | false =>
      have value : ∀ fuel, flowValue floor (fuel + 1) ⟨'\'' :: (written ++ '\'' :: tail), column,
          line, fresh, anchors⟩ = some (quotedOutline meant, last) := by
        intro fuel
        rw [flowValue.eq_def]
        simp only [quoteMark, Bool.false_eq_true, if_false] at inside text
        simp only [inside, text, Place.head?, List.head?_cons]
        rfl
      exact value (4 * (written ++ '\'' :: tail).length + 7)

end Read

/-! ## Double quotation marks -/

theorem hexDigit?_hexUpper : ∀ digit < 16, hexDigit? (hexUpper digit) = some digit := by
  decide

theorem hexPadded_length (count n : Nat) : (hexPadded count n).length = count := by
  induction count generalizing n with
  | zero => rfl
  | succ count ih => simp [hexPadded, ih]

theorem forall_hexPadded (p : Char → Prop) (digits : ∀ digit < 16, p (hexUpper digit))
    (count n : Nat) : ∀ d ∈ hexPadded count n, p d := by
  induction count generalizing n with
  | zero => exact List.forall_mem_nil _
  | succ count ih =>
      have last := digits (n % 16) (Nat.mod_lt n (by decide))
      exact List.forall_mem_append.mpr ⟨ih (n / 16), List.forall_mem_singleton.mpr last⟩

theorem hexNumber?_hexPadded (count more value n : Nat) (after : List Char)
    (fits : n < 16 ^ count) :
    hexNumber? (count + more) value (hexPadded count n ++ after) =
      hexNumber? more (value * 16 ^ count + n) after := by
  induction count generalizing more n after with
  | zero =>
      have zero : n = 0 := by simpa using fits
      simp [hexPadded, zero]
  | succ count ih =>
      have within : n / 16 < 16 ^ count := by
        rw [Nat.pow_succ] at fits
        exact (Nat.div_lt_iff_lt_mul (by decide)).mpr fits
      have digit := hexDigit?_hexUpper (n % 16) (Nat.mod_lt n (by decide))
      have scaled : value * 16 ^ (count + 1) = value * 16 ^ count * 16 := by
        rw [Nat.pow_succ, Nat.mul_assoc]
      have sum : (value * 16 ^ count + n / 16) * 16 + n % 16 = value * 16 ^ (count + 1) + n := by
        omega
      rw [hexPadded, List.append_assoc, List.singleton_append, Nat.add_assoc, Nat.add_comm 1 more,
        ih (more + 1) (n / 16) _ within]
      simp only [hexNumber?, digit, Option.bind_some, sum]

theorem isValidChar_toNat (c : Char) : c.toNat.isValidChar :=
  c.valid

/-- A character is read from its number in hexadecimal. -/
theorem escaped?_hex (letter : Char) (count : Nat) (c : Char) (after : List Char)
    (none : escapes.lookup letter = none) (digits : escapeDigits? letter = some count)
    (fits : c.toNat < 16 ^ count) :
    escaped? (letter :: (hexPadded count c.toNat ++ after)) = some (c, count + 1) := by
  have number := hexNumber?_hexPadded count 0 0 c.toNat after fits
  rw [Nat.zero_mul, Nat.zero_add, Nat.add_zero, hexNumber?] at number
  simp only [escaped?, none, digits, number, Option.bind_some, if_pos (isValidChar_toNat c),
    Char.ofNat_toNat]

theorem escaped?_short (letter c : Char) (after : List Char)
    (listed : shortEscapes.lookup c = some letter) :
    endsLine letter = false ∧ escaped? (letter :: after) = some (c, 1) := by
  have all : shortEscapes.all (fun (c, letter) =>
      !endsLine letter && escapes.lookup letter == some c) = true := by decide
  obtain ⟨front, back, table, _⟩ := List.lookup_eq_some_iff.mp listed
  have row := List.all_eq_true.mp all (c, letter) (by rw [table]; simp)
  simp only [Bool.and_eq_true, Bool.not_eq_true', beq_iff_eq] at row
  exact ⟨row.1, by simp [escaped?, row.2]⟩

theorem not_isPrintable_tab : isPrintable '\t' = false := by
  decide

theorem endsToken_of_printable (c : Char) (print : isPrintable c = true) (feed : isBreak c = false)
    (space : c ≠ ' ') : endsToken (some c) = false := by
  have tab : c ≠ '\t' := by
    rintro rfl
    rw [not_isPrintable_tab] at print
    cases print
  simp only [isBreak, Bool.or_eq_false_iff, decide_eq_false_iff_not] at feed
  simp [endsToken, isBlank, endsLine, tab, space, feed]

theorem quotes_doubleQuotedChar (c : Char) (space : c ≠ ' ') (written meant : List Char)
    (rest : Quotes true written meant) :
    Quotes true (doubleQuotedChar c ++ written) (c :: meant) := by
  rw [doubleQuotedChar]
  split
  case isTrue bare =>
    simp only [Bool.and_eq_true, Bool.not_eq_true', bne_iff_ne] at bare
    obtain ⟨⟨⟨print, feed⟩, mark⟩, slash⟩ := bare
    exact .char c written meant (endsToken_of_printable c print feed space) mark
      (fun _ => slash) rest
  case isFalse =>
    split
    case h_1 letter listed =>
      obtain ⟨inside, _⟩ := escaped?_short letter c [] listed
      exact .escape rfl letter [] c written meant inside
        (fun after => (escaped?_short letter c after listed).2) rest
    case h_2 =>
      have hex : ∀ letter count, escapes.lookup letter = none → escapeDigits? letter = some count →
          endsLine letter = false → c.toNat < 16 ^ count →
            Quotes true ('\\' :: letter :: (hexPadded count c.toNat ++ written)) (c :: meant) := by
        intro letter count none digits inside fits
        refine .escape rfl letter _ c written meant inside (fun after => ?_) rest
        rw [hexPadded_length]
        exact escaped?_hex letter count c after none digits fits
      have bound := isValidChar_toNat c
      simp only [Nat.isValidChar] at bound
      dsimp only
      split
      · exact hex 'x' 2 rfl rfl rfl (by omega)
      split
      · exact hex 'u' 4 rfl rfl rfl (by omega)
      · exact hex 'U' 8 rfl rfl rfl (by omega)

theorem doubleQuotedChar_atText (c : Char) (rest : List Char) (space : c ≠ ' ') :
    AtText (doubleQuotedChar c ++ rest) := by
  rw [doubleQuotedChar]
  split
  case isTrue bare =>
    simp only [Bool.and_eq_true, Bool.not_eq_true', bne_iff_ne] at bare
    exact (stopsAt_cons _ c rest).mpr (endsToken_of_printable c bare.1.1.1 bare.1.1.2 space)
  case isFalse =>
    have slash : AtText ('\\' :: rest) := (stopsAt_cons _ _ _).mpr rfl
    split
    · exact (stopsAt_cons _ _ _).mpr rfl
    · dsimp only
      split
      · exact (stopsAt_cons _ _ _).mpr rfl
      split <;> exact (stopsAt_cons _ _ _).mpr rfl

/-- Every text can be written in double quotation marks. -/
theorem quotes_double (cs : List Char) : Quotes true (cs.flatMap doubleQuotedChar) cs := by
  induction size : cs.length using Nat.strongRecOn generalizing cs with
  | ind size ih =>
      subst size
      obtain ⟨count, rest, rfl, other⟩ := exists_spaces cs
      have blank : (spaces count).flatMap doubleQuotedChar = spaces count := by
        clear ih
        induction count with
        | zero => rfl
        | succ count others => exact congrArg (' ' :: ·) others
      have atRest : AtText (rest.flatMap doubleQuotedChar) := by
        cases rest with
        | nil => exact stopsAt_nil _
        | cons c rest => exact doubleQuotedChar_atText c _ (by simpa using other)
      rw [List.flatMap_append, blank]
      cases count with
      | succ count =>
          exact .spaces count _ rest atRest (ih rest.length (by simp [spaces]) rest rfl)
      | zero =>
          cases rest with
          | nil => exact .nil
          | cons c rest =>
              exact quotes_doubleQuotedChar c (by simpa using other) _ rest
                (ih rest.length (by simp [spaces]) rest rfl)

/-! ## Single quotation marks -/

section AnyPair
variable (p : Char → Char → Bool)

theorem anyPair_append (front back : List Char) (none : anyPair p (front ++ back) = false) :
    anyPair p back = false := by
  induction front with
  | nil => exact none
  | cons c front ih =>
      apply ih
      rw [List.cons_append] at none
      cases rest : front ++ back with
      | nil => rfl
      | cons d rest =>
          rw [rest, anyPair, Bool.or_eq_false_iff] at none
          exact none.2

theorem anyPair_joint (front back : List Char) (c d : Char)
    (none : anyPair p (front ++ c :: d :: back) = false) : p c d = false := by
  have joint := anyPair_append p front _ none
  rw [anyPair, Bool.or_eq_false_iff] at joint
  exact joint.1

end AnyPair

/-- Text that single quotation marks may hold and that has no line feed. -/
structure Unfolded (cs : List Char) : Prop where
  print : ∀ c ∈ cs, isPrintable c = true
  feed : '\n' ∉ cs
  spaceBreak : anyPair (fun c d => c = ' ' && isBreak d) cs = false
  breakSpace : anyPair (fun c d => isBreak c && d = ' ') cs = false

theorem Unfolded.tail (front back : List Char) (text : Unfolded (front ++ back)) :
    Unfolded back where
  print c member := text.print c (List.mem_append_right front member)
  feed member := text.feed (List.mem_append_right front member)
  spaceBreak := anyPair_append _ front back text.spaceBreak
  breakSpace := anyPair_append _ front back text.breakSpace

theorem endsLine_of_printable (c : Char) (print : isPrintable c = true) :
    endsLine c = isBreak c := by
  have turn : c ≠ '\r' := by
    rintro rfl
    exact absurd print (by decide)
  have next : c ≠ '\x85' := by
    rintro rfl
    exact absurd print (by decide)
  simp [endsLine, isBreak, turn, next]

section Single
variable (indent : Nat)

theorem singleQuotedChars_breaks (after : Bool) (breaks rest : List Char)
    (all : ∀ c ∈ breaks, isBreak c = true) (given : breaks ≠ []) :
    singleQuotedChars indent after (breaks ++ rest) =
      breaks ++ singleQuotedChars indent true rest := by
  induction breaks generalizing after with
  | nil => exact absurd rfl given
  | cons c more ih =>
      obtain ⟨feed, others⟩ := List.forall_mem_cons.mp all
      rw [List.cons_append, singleQuotedChars, if_pos feed, List.cons_append]
      cases more with
      | nil => rfl
      | cons d more => rw [ih true others (List.cons_ne_nil d more)]

theorem singleQuotedChars_indented (rest : List Char) (stops : StopsAt isBreak rest) :
    singleQuotedChars indent true rest = spaces indent ++ singleQuotedChars indent false rest := by
  cases rest with
  | nil => simp [singleQuotedChars]
  | cons c rest =>
      have inside := (stopsAt_cons isBreak c rest).mp stops
      simp [singleQuotedChars, inside]

theorem singleQuotedChars_spaces (count : Nat) (rest : List Char) :
    singleQuotedChars indent false (spaces count ++ rest) =
      spaces count ++ singleQuotedChars indent false rest := by
  induction count with
  | zero => rfl
  | succ count ih => exact congrArg (' ' :: ·) ih

/-- Text goes on where neither a space nor a break comes next. -/
theorem singleQuotedChars_atText (c : Char) (rest : List Char) (print : isPrintable c = true)
    (feed : isBreak c = false) (space : c ≠ ' ') :
    AtText (singleQuotedChars indent false (c :: rest)) := by
  have solid := endsToken_of_printable c print feed space
  rw [singleQuotedChars, feed]
  simp only [Bool.false_eq_true, if_false, List.nil_append]
  split
  · exact (stopsAt_cons _ _ _).mpr rfl
  · exact (stopsAt_cons _ _ _).mpr solid

/-- After spaces or breaks the text goes on with neither. -/
theorem singleQuotedChars_after (front rest : List Char) (before : Char)
    (text : Unfolded (front ++ before :: rest)) (gap : before = ' ' ∨ isBreak before = true)
    (space : before = ' ' → rest.head? ≠ some ' ')
    (feed : isBreak before = true → StopsAt isBreak rest) :
    AtText (singleQuotedChars indent false rest) := by
  cases rest with
  | nil => exact stopsAt_nil _
  | cons c rest =>
      have print : isPrintable c = true := text.print c (by simp)
      have first := anyPair_joint _ front rest before c text.spaceBreak
      have second := anyPair_joint _ front rest before c text.breakSpace
      have inside : isBreak c = false := by
        rcases gap with rfl | breaks
        · simpa using first
        · exact (stopsAt_cons isBreak c rest).mp (feed breaks)
      have solid : c ≠ ' ' := by
        rcases gap with rfl | breaks
        · simpa using space rfl
        · simpa [breaks] using second
      exact singleQuotedChars_atText indent c rest print inside solid

theorem quotes_single (cs : List Char) (text : Unfolded cs) :
    Quotes false (singleQuotedChars (indent + 1) false cs) cs := by
  induction size : cs.length using Nat.strongRecOn generalizing cs with
  | ind size ih =>
      subst size
      cases cs with
      | nil => exact .nil
      | cons c rest =>
          by_cases feed : isBreak c = true
          · -- breaks stay as they are, and the text after them is indented
            obtain ⟨breaks, more, whole, all, stops⟩ := Text.exists_run isBreak (c :: rest)
            rcases List.eq_nil_or_concat breaks with rfl | ⟨front, last, rfl⟩
            · rw [List.nil_append] at whole
              rw [← whole, stopsAt_cons, feed] at stops
              cases stops
            rw [List.concat_eq_append] at whole all
            rw [whole] at text ih ⊢
            have given : front ++ [last] ≠ [] := by simp
            rw [singleQuotedChars_breaks _ _ _ _ all given, singleQuotedChars_indented _ _ stops]
            refine .breaks _ indent _ more (fun d member => ?_) given (fun same => ?_) ?_
              (ih more.length (by simp; omega) more (text.tail _ more) rfl)
            · rw [endsLine_of_printable d (text.print d (List.mem_append_left more member))]
              exact all d member
            · exact text.feed (List.mem_append_left more (List.mem_of_head? same))
            · rw [List.append_assoc] at text
              have breaks := all last (by simp)
              refine singleQuotedChars_after _ front more last text (.inr breaks) ?_
                (fun _ => stops)
              rintro rfl
              cases breaks
          by_cases space : c = ' '
          · subst space
            obtain ⟨count, more, rfl, other⟩ := exists_spaces rest
            have run : ' ' :: (spaces count ++ more) = spaces (count + 1) ++ more := rfl
            have ends : spaces (count + 1) ++ more = spaces count ++ ' ' :: more := by
              simp [spaces, List.replicate_succ']
            rw [run] at text ih ⊢
            rw [singleQuotedChars_spaces]
            refine .spaces count _ more ?_
              (ih more.length (by simp [spaces]) more (text.tail _ more) rfl)
            rw [ends] at text
            refine singleQuotedChars_after _ (spaces count) more ' ' text (.inl rfl)
              (fun _ => other) ?_
            intro breaks
            cases breaks
          · have others := ih rest.length (by simp) rest (text.tail [c] rest) rfl
            have print := text.print c (List.mem_cons_self ..)
            rw [Bool.not_eq_true] at feed
            rw [singleQuotedChars, feed]
            simp only [Bool.false_eq_true, if_false, List.nil_append]
            split
            case isTrue mark =>
              subst mark
              exact .pair rfl _ rest others
            case isFalse other =>
              exact .char c _ rest (endsToken_of_printable c print feed space) other
                (fun twice => by cases twice) others

end Single

end Crosswalk.Yaml
