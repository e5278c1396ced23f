import Crosswalk.Proofs.Yaml.Place
import Crosswalk.Yaml.Reader

/-!
# Plain text

Plain text is words with spaces between them.  It is read up to the colon after a key, or up to the
end of its line if the next line is not indented enough to continue it.  The text that the writer
leaves plain is of this form (`plain_of_analysis`), and so are words without signs
(`plain_of_solid`).
-/

set_option autoImplicit false

namespace Crosswalk.Yaml

open Text (StopsAt stopsAt_nil stopsAt_cons)

/-- Characters that plain text takes in one go. -/
structure Word (word : List Char) : Prop where
  given : word ≠ []
  solid : ∀ c ∈ word, endsToken (some c) = false
  start : word.head? ≠ some '#'
  finish : word.getLast? ≠ some ':'

inductive Words : List Char → Prop where
  | last (word : List Char) (single : Word word) : Words word
  | more (word : List Char) (count : Nat) (rest : List Char) (first : Word word)
      (others : Words rest) : Words (word ++ (spaces (count + 1) ++ rest))

/-- Text that is read as it stands where plain text may start. -/
structure Plain (cs : List Char) : Prop where
  words : Words cs
  start : startsPlain false cs = true
  mark : cs.head? ≠ some '\ufeff'
  ends : endsInBreak cs = false

theorem Word.atText (word tail : List Char) (single : Word word) : AtText (word ++ tail) := by
  obtain ⟨c, rest, rfl⟩ := List.exists_cons_of_ne_nil single.given
  exact (stopsAt_cons _ c _).mpr (single.solid c (List.mem_cons_self ..))

theorem Words.atText (cs tail : List Char) (words : Words cs) : AtText (cs ++ tail) := by
  cases words with
  | last _ single => exact single.atText cs tail
  | more word count rest first =>
      rw [List.append_assoc]
      exact first.atText word _

theorem Words.given (cs : List Char) (words : Words cs) : cs ≠ [] := by
  cases words with
  | last _ single => exact single.given
  | more word count rest first => exact List.append_ne_nil_of_left_ne_nil first.given _

/-! ## Reading words -/

/-- A chunk of plain text ends here. -/
def EndsChunk (tail : List Char) : Prop :=
  ∃ c rest, tail = c :: rest ∧ (endsToken (some c) || (c = ':' && endsToken rest.head?)) = true

theorem plainChunk_word (word tail : List Char) (ends : EndsChunk tail)
    (solid : ∀ c ∈ word, endsToken (some c) = false) (finish : word.getLast? ≠ some ':') :
    plainChunk false (word ++ tail) = some (word, tail) := by
  induction word with
  | nil =>
      obtain ⟨c, rest, rfl, ends⟩ := ends
      simp only [List.nil_append, plainChunk, ends, if_true]
  | cons c word ih =>
      obtain ⟨here, others⟩ := List.forall_mem_cons.mp solid
      -- a colon inside has a character of the word after it
      have inside :
          (endsToken (some c) || (c = ':' && endsToken (word ++ tail).head?)) = false := by
        rw [here, Bool.false_or]
        cases word with
        | nil =>
            have other : c ≠ ':' := by simpa using finish
            simp [other]
        | cons d word => simp [others d (List.mem_cons_self ..)]
      have more := ih others (by cases word <;> simp_all)
      rw [List.cons_append, plainChunk]
      simp only [inside, Bool.false_eq_true, if_false, Bool.false_and, more, Option.map_some]

section Reading
variable (floor fuel column line : Nat) (fresh : Bool) (anchors : List (String × Outline))
  (positive : 0 < column)
include positive

theorem plainFrom_word (word tail : List Char) (single : Word word) (ends : EndsChunk tail) :
    plainFrom false floor (fuel + 1) ⟨word ++ tail, column, line, fresh, anchors⟩ =
      let after : Place := ⟨tail, column + word.length, line, false, anchors⟩
      if !endsToken tail.head? then
        some (word, after)
      else
        let gap := Gap.read floor after
        if gap.tabbed then none
        else if decide (gap.place.column < floor) then some (word, gap.place)
        else
          (plainFrom false floor fuel gap.place).bind fun (more, last) =>
            some (if more.isEmpty then word else word ++ gap.folded ++ more, last) := by
  have chunk := plainChunk_word word tail ends single.solid single.finish
  obtain ⟨c, rest, rfl⟩ := List.exists_cons_of_ne_nil single.given
  obtain ⟨d, more, rfl, _⟩ := ends
  have inside :
      Place.atMarker ⟨(c :: rest) ++ d :: more, column, line, fresh, anchors⟩ = false := by
    simp [Place.atMarker, Nat.ne_of_gt positive]
  have solid : ¬ c = '#' := by simpa using single.start
  rw [plainFrom]
  simp only [inside, chunk, Place.head?, Place.past]
  simp only [List.head?_cons, Option.some.injEq, solid, decide_false, Bool.or_false,
    Bool.false_eq_true, if_false, List.cons_append, Option.pure_def, Option.bind_eq_bind,
    Option.bind_some, List.isEmpty_cons, Bool.not_false, Bool.true_and]
  rfl

theorem plainFrom_colon (word rest : List Char) (single : Word word)
    (ends : endsToken rest.head? = true) :
    plainFrom false floor (fuel + 1) ⟨word ++ ':' :: rest, column, line, fresh, anchors⟩ =
      some (word, ⟨':' :: rest, column + word.length, line, false, anchors⟩) := by
  have colon : EndsChunk (':' :: rest) := ⟨':', rest, rfl, by simp [ends]⟩
  rw [plainFrom_word floor fuel column line fresh anchors positive word _ single colon]
  rfl

theorem plainFrom_newLine (word rest : List Char) (count : Nat) (single : Word word)
    (text : AtText rest) (shallow : count < floor) :
    plainFrom false floor (fuel + 1)
        ⟨word ++ '\n' :: (spaces count ++ rest), column, line, fresh, anchors⟩ =
      some (word, ⟨rest, count, line + 1, true, anchors⟩) := by
  have feed : EndsChunk ('\n' :: (spaces count ++ rest)) := ⟨'\n', _, rfl, rfl⟩
  have ends : endsToken (some '\n') = true := rfl
  rw [plainFrom_word floor fuel column line fresh anchors positive word _ single feed]
  simp [ends, read_newLine floor count _ line false anchors rest text, shallow]

theorem plainFrom_spaces (word rest : List Char) (count : Nat) (single : Word word)
    (text : AtText rest) (deep : floor ≤ column + 1) :
    plainFrom false floor (fuel + 1)
        ⟨word ++ (spaces (count + 1) ++ rest), column, line, fresh, anchors⟩ =
      (plainFrom false floor fuel
          ⟨rest, column + word.length + (count + 1), line, false, anchors⟩).bind
        fun (more, last) =>
          some (if more.isEmpty then word else word ++ spaces (count + 1) ++ more, last) := by
  have blank : EndsChunk (spaces (count + 1) ++ rest) := ⟨' ', spaces count ++ rest, rfl, rfl⟩
  have ends : (!endsToken (spaces (count + 1) ++ rest).head?) = false := rfl
  have within : ¬ column + word.length + (count + 1) < floor := by omega
  rw [plainFrom_word floor fuel column line fresh anchors positive word _ single blank]
  simp only [ends, read_spaces floor (count + 1) _ line false anchors rest text, within, Gap.folded,
    Bool.false_eq_true, if_false, decide_false]

end Reading

section Words
variable (floor line : Nat) (anchors : List (String × Outline)) (tail : List Char)
  (finish : Nat → Place)

/-- Words are read one after the other, and the last of them with what follows. -/
theorem plainFrom_words (cs : List Char) (words : Words cs)
    (ending : ∀ word fuel column fresh, Word word → 0 < column →
      plainFrom false floor (fuel + 1) ⟨word ++ tail, column, line, fresh, anchors⟩ =
        some (word, finish (column + word.length)))
    (fuel column : Nat) (fresh : Bool) (room : cs.length ≤ fuel) (positive : 0 < column)
    (deep : floor ≤ column + 1) :
    plainFrom false floor fuel ⟨cs ++ tail, column, line, fresh, anchors⟩ =
      some (cs, finish (column + cs.length)) := by
  induction words generalizing fuel column fresh with
  | last word single =>
      have some := List.length_pos_iff.mpr single.given
      obtain ⟨fuel, rfl⟩ := Nat.exists_eq_add_of_le' (show 1 ≤ fuel by omega)
      exact ending word fuel column fresh single positive
  | more word count rest first others ih =>
      have some := List.length_pos_iff.mpr first.given
      simp only [List.length_append, spaces, List.length_replicate] at room
      obtain ⟨fuel, rfl⟩ := Nat.exists_eq_add_of_le' (show 1 ≤ fuel by omega)
      have next := ih fuel (column + word.length + (count + 1)) false (by omega) (by omega)
        (by omega)
      have goes : rest ≠ [] := Words.given rest others
      rw [List.append_assoc, List.append_assoc,
        plainFrom_spaces floor fuel column line fresh anchors positive word _ count first
          (Words.atText rest tail others) deep, next]
      simp [goes, spaces, Nat.add_assoc]

end Words

/-! ## Reading plain text -/

theorem startsPlain_append (flow : Bool) (cs tail : List Char)
    (start : startsPlain flow cs = true) : startsPlain flow (cs ++ tail) = true := by
  cases cs with
  | nil => cases start
  | cons c rest =>
      cases rest with
      | cons d rest => exact start
      | nil =>
          -- alone, a sign is not plain text
          have none : endsToken (none : Option Char) = true := rfl
          simp only [startsPlain, List.head?_nil, none, Bool.not_true, Bool.and_false] at start
          simp only [List.cons_append, List.nil_append, startsPlain]
          split at start
          · cases start
          split at start
          · cases start
          split at start
          · cases start
          · rename_i solid dash sign
            simp only [if_neg solid, if_neg dash, if_neg sign]

/-- A text that starts like plain text is nothing else. -/
theorem leaf_plain (floor : Nat) (place : Place) (start : startsPlain false place.rest = true) :
    leaf floor place =
      (plainText false floor place).map fun (cs, last) => (plainOutline cs, last) := by
  obtain ⟨rest, column, line, fresh, anchors⟩ := place
  cases rest with
  | nil => cases start
  | cons c rest =>
      have other : reservedStarts.contains c = false := by
        simp only [startsPlain] at start
        split at start
        · cases start
        · simp_all
      rw [leaf.eq_def]
      split
      all_goals first | rfl | skip
      all_goals
        rename_i same
        cases same
        cases other

section Leaf
variable (floor column line : Nat) (fresh : Bool) (anchors : List (String × Outline))
  (cs rest : List Char) (plain : Plain cs) (positive : 0 < column) (deep : floor ≤ column + 1)
include plain positive deep

theorem leaf_plain_colon (ends : endsToken rest.head? = true) :
    leaf floor ⟨cs ++ ':' :: rest, column, line, fresh, anchors⟩ =
      some (plainOutline cs, ⟨':' :: rest, column + cs.length, line, false, anchors⟩) := by
  have start := startsPlain_append false cs (':' :: rest) plain.start
  have read := plainFrom_words floor line anchors (':' :: rest)
    (fun column => ⟨':' :: rest, column, line, false, anchors⟩) cs plain.words
    (fun word fuel column fresh single positive =>
      plainFrom_colon floor fuel column line fresh anchors positive word rest single ends)
    ((cs ++ ':' :: rest).length + 1) column fresh (by simp; omega) positive deep
  rw [leaf_plain floor _ start, plainText, if_pos start, read]
  rfl

theorem leaf_plain_newLine (count : Nat) (text : AtText rest) (shallow : count < floor) :
    leaf floor ⟨cs ++ '\n' :: (spaces count ++ rest), column, line, fresh, anchors⟩ =
      some (plainOutline cs, ⟨rest, count, line + 1, true, anchors⟩) := by
  have start := startsPlain_append false cs ('\n' :: (spaces count ++ rest)) plain.start
  have read := plainFrom_words floor line anchors ('\n' :: (spaces count ++ rest))
    (fun _ => ⟨rest, count, line + 1, true, anchors⟩) cs plain.words
    (fun word fuel column fresh single positive =>
      plainFrom_newLine floor fuel column line fresh anchors positive word rest count single text
        shallow)
    ((cs ++ '\n' :: (spaces count ++ rest)).length + 1) column fresh (by simp; omega) positive deep
  rw [leaf_plain floor _ start, plainText, if_pos start, read]
  rfl

end Leaf

/-! ## Text that is left plain -/

theorem hasIndicator_append (before : Option Char) (front back : List Char)
    (clean : hasIndicator before (front ++ back) = false) :
    hasIndicator (front.getLast?.or before) back = false := by
  induction front generalizing before with
  | nil => exact clean
  | cons c front ih =>
      simp only [List.cons_append, hasIndicator, Bool.or_eq_false_iff] at clean
      have rest := ih (some c) clean.2
      cases front with
      | nil => exact rest
      | cons d front => simpa [List.getLast?_cons] using rest

theorem endsToken_of_not_isEdge (c : Option Char) (inside : isEdge c = false) :
    endsToken c = false := by
  cases c with
  | none => cases inside
  | some c =>
      simp only [isEdge, isBreak, Bool.or_eq_false_iff, decide_eq_false_iff_not] at inside
      simp [endsToken, isBlank, endsLine, inside]

/-- The characters of text that may be left plain. -/
def OnLine (cs : List Char) : Prop :=
  ∀ c ∈ cs, c = ' ' ∨ isEdge (some c) = false

theorem word_of_onLine (before : Option Char) (word after : List Char) (line : OnLine word)
    (given : word ≠ []) (inside : ∀ c ∈ word, (c != ' ') = true)
    (stops : StopsAt (· != ' ') after) (comment : word.head? ≠ some '#')
    (clean : hasIndicator before (word ++ after) = false) : Word word := by
  refine ⟨given, fun c member => ?_, comment, fun colon => ?_⟩
  · have other : c ≠ ' ' := by simpa using inside c member
    exact endsToken_of_not_isEdge (some c) ((line c member).resolve_left other)
  · obtain ⟨front, rfl⟩ := List.getLast?_eq_some_iff.mp colon
    rw [List.append_assoc] at clean
    have found := hasIndicator_append before front _ clean
    simp only [List.singleton_append, hasIndicator, Bool.or_eq_false_iff] at found
    cases after with
    | nil => simp [isEdge] at found
    | cons c after =>
        have space : c = ' ' := by simpa using (stopsAt_cons _ c after).mp stops
        subst space
        simp [isEdge] at found

theorem words_of_onLine (before : Option Char) (cs : List Char) (line : OnLine cs)
    (given : cs ≠ []) (first : cs.head? ≠ some ' ') (last : cs.getLast? ≠ some ' ')
    (comment : cs.head? ≠ some '#') (clean : hasIndicator before cs = false) : Words cs := by
  induction size : cs.length using Nat.strongRecOn generalizing before cs with
  | ind size ih =>
      obtain ⟨word, after, rfl, inside, stops⟩ := Text.exists_run (· != ' ') cs
      have occupied : word ≠ [] := by
        rintro rfl
        cases after with
        | nil => exact given rfl
        | cons c after => simp_all [stopsAt_cons]
      obtain ⟨front, back⟩ := List.forall_mem_append.mp line
      have other : word.head? ≠ some '#' := by
        obtain ⟨c, word, rfl⟩ := List.exists_cons_of_ne_nil occupied
        simpa using comment
      have single : Word word :=
        word_of_onLine before word after front occupied inside stops other clean
      obtain ⟨count, rest, rfl, text⟩ := exists_spaces after
      cases count with
      | zero =>
          cases rest with
          | nil => simpa [spaces] using Words.last word single
          | cons c rest =>
              have space : c = ' ' := by simpa using (stopsAt_cons _ c rest).mp stops
              exact absurd (by rw [space]; rfl) text
      | succ count =>
          have blank : (spaces (count + 1)).getLast? = some ' ' := by
            simp [spaces, List.getLast?_replicate]
          have more : rest ≠ [] := by
            rintro rfl
            simp [List.getLast?_append, blank] at last
          rw [← List.append_assoc] at clean last
          rw [getLast?_append _ _ more] at last
          have found := hasIndicator_append before (word ++ spaces (count + 1)) rest clean
          rw [List.getLast?_append, blank, Option.some_or, Option.some_or] at found
          have shorter : rest.length < (word ++ (spaces (count + 1) ++ rest)).length := by
            simp [spaces]
            omega
          refine .more word count rest single
            (ih rest.length (size ▸ shorter) (some ' ') rest ?_ more text last ?_ found rfl)
          · exact (List.forall_mem_append.mp back).2
          · -- after a space it would start a comment
            obtain ⟨c, rest, rfl⟩ := List.exists_cons_of_ne_nil more
            rintro same
            cases same
            simp [hasIndicator, isEdge] at found

theorem reservedStarts_contains (c : Char) :
    reservedStarts.contains c = leadingIndicators.contains c := by
  simp only [reservedStarts, leadingIndicators, List.contains_cons]
  ac_rfl

theorem startsPlain_of_startsWithIndicator (c : Char) (rest : List Char)
    (inside : isEdge (some c) = false) (free : startsWithIndicator (c :: rest) = false) :
    startsPlain false (c :: rest) = true := by
  simp only [startsWithIndicator, Bool.or_eq_false_iff, Bool.and_eq_false_iff] at free
  obtain ⟨free, sign⟩ := free
  have goes : (c = '-' ∨ c = '?' ∨ c = ':') → endsToken rest.head? = false := by
    intro is
    apply endsToken_of_not_isEdge
    apply sign.resolve_left
    rcases is with rfl | rfl | rfl <;> decide
  rw [startsPlain, reservedStarts_contains, free, endsToken_of_not_isEdge _ inside]
  simp only [Bool.or_self, Bool.false_eq_true, if_false, Bool.or_eq_true, decide_eq_true_eq]
  split
  case isTrue dash => simp [goes (.inl dash)]
  case isFalse =>
    split
    case isTrue mark => simp [goes (.inr mark)]
    case isFalse => rfl

/-- Text that may be left plain is read as it stands. -/
theorem plain_of_analysis (cs : List Char) (given : cs ≠ [])
    (allowed : (analyze cs).plainAllowed = true) : Plain cs := by
  simp only [analyze, Bool.not_eq_true', Bool.or_eq_false_iff] at allowed
  obtain ⟨⟨⟨⟨⟨⟨⟨⟨_, breaks⟩, special⟩, _⟩, _⟩, first⟩, last⟩, free⟩, clean⟩ := allowed
  have line : OnLine cs := by
    intro c member
    have feed := List.any_eq_false.mp breaks c member
    have print := List.any_eq_false.mp special c member
    have tab : c ≠ '\t' := by
      rintro rfl
      exact print rfl
    by_cases space : c = ' '
    · exact .inl space
    · exact .inr (by simp_all [isEdge])
  obtain ⟨c, rest, rfl⟩ := List.exists_cons_of_ne_nil given
  have space : c ≠ ' ' := by
    rintro rfl
    cases first
  have inside := (line c (List.mem_cons_self ..)).resolve_left space
  have print := List.any_eq_false.mp special c (List.mem_cons_self ..)
  refine ⟨words_of_onLine none _ line given (by simpa using space) ?_ ?_ clean,
    startsPlain_of_startsWithIndicator c rest inside free, ?_, ?_⟩
  · intro same
    rw [same] at last
    cases last
  · rintro same
    cases same
    cases free
  · rintro same
    cases same
    exact print (by decide)
  · rw [endsInBreak]
    cases ends : (c :: rest).getLast? with
    | none => rfl
    | some d => simpa using List.any_eq_false.mp breaks d (List.mem_of_getLast? ends)

/-! ## Names and numerals -/

/-- A character that is at no edge of a word and no sign in plain text. -/
def isSolid (c : Char) : Bool :=
  !isEdge (some c) && c != '#' && c != ':' && c != '\ufeff'

theorem plain_of_solid (cs : List Char) (given : cs ≠ []) (solid : cs.all isSolid = true)
    (start : startsPlain false cs = true) : Plain cs := by
  have each : ∀ c ∈ cs, isEdge (some c) = false ∧ c ≠ '#' ∧ c ≠ ':' ∧ c ≠ '\ufeff' := by
    intro c member
    have all := List.all_eq_true.mp solid c member
    simpa [isSolid, and_assoc] using all
  refine ⟨.last cs ⟨given, fun c member => endsToken_of_not_isEdge _ (each c member).1, ?_, ?_⟩,
    start, ?_, ?_⟩
  · exact fun first => (each '#' (List.mem_of_head? first)).2.1 rfl
  · exact fun last => (each ':' (List.mem_of_getLast? last)).2.2.1 rfl
  · exact fun first => (each '\ufeff' (List.mem_of_head? first)).2.2.2 rfl
  · rw [endsInBreak]
    cases ends : cs.getLast? with
    | none => rfl
    | some c =>
        have edge := (each c (List.mem_of_getLast? ends)).1
        simp only [isEdge, Bool.or_eq_false_iff] at edge
        exact edge.2

end Crosswalk.Yaml
