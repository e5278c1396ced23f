import Crosswalk.Text.Blank

/-!
# Runs of characters and trimmed text

A text that a run of characters begins and that no such character continues is split where the run
ends (`takeWhile_run`, `dropWhile_run`).  So leading blanks are what trimming takes away from the
start of a text (`trimStart_run`), and a text that neither begins nor ends with a blank is left as
it is (`trim_of_trimmed`), and is what trimming leaves of it between blanks (`trim_between`).  Every
text is of that form (`trim_split`), so blanks around a text make no difference to what trimming
leaves of it (`trim_surrounded`).
-/

set_option autoImplicit false

namespace Crosswalk.Text

/-- The text does not begin with a character of the class. -/
def StopsAt (p : Char → Bool) (cs : List Char) : Prop :=
  cs.takeWhile p = []

section Runs

variable (p : Char → Bool)

theorem stopsAt_nil : StopsAt p [] :=
  rfl

theorem stopsAt_cons (c : Char) (unread : List Char) : StopsAt p (c :: unread) ↔ p c = false := by
  cases head : p c <;> simp [StopsAt, head]

theorem stopsAt_front (front cs : List Char) (within : front <+: cs) (stops : StopsAt p cs) :
    StopsAt p front := by
  obtain ⟨rest, rfl⟩ := within
  cases front with
  | nil => exact stopsAt_nil p
  | cons c front => exact (stopsAt_cons p c front).mpr ((stopsAt_cons p c _).mp stops)

theorem stopsAt_append (front rest : List Char) (first : StopsAt p front) (next : StopsAt p rest) :
    StopsAt p (front ++ rest) := by
  cases front with
  | nil => exact next
  | cons c front => exact (stopsAt_cons p c _).mpr ((stopsAt_cons p c front).mp first)

theorem takeWhile_run (run unread : List Char) (inside : ∀ c ∈ run, p c = true)
    (stops : StopsAt p unread) : (run ++ unread).takeWhile p = run := by
  rw [List.takeWhile_append_of_pos inside, stops, List.append_nil]

theorem dropWhile_run (run unread : List Char) (inside : ∀ c ∈ run, p c = true)
    (stops : StopsAt p unread) : (run ++ unread).dropWhile p = unread := by
  have whole := List.takeWhile_append_dropWhile (p := p) (l := run ++ unread)
  rw [takeWhile_run p run unread inside stops] at whole
  exact List.append_cancel_left whole

theorem takeWhile_inside (cs : List Char) : ∀ c ∈ cs.takeWhile p, p c = true :=
  List.all_eq_true.mp List.all_takeWhile

theorem dropWhile_stops (cs : List Char) : StopsAt p (cs.dropWhile p) := by
  induction cs with
  | nil => rfl
  | cons c rest ih =>
      cases head : p c with
      | true => simpa [head] using ih
      | false => simpa [head] using (stopsAt_cons p c rest).mpr head

theorem exists_run (cs : List Char) :
    ∃ run unread, cs = run ++ unread ∧ (∀ c ∈ run, p c = true) ∧ StopsAt p unread :=
  ⟨_, _, List.takeWhile_append_dropWhile.symm, takeWhile_inside p cs, dropWhile_stops p cs⟩

end Runs

/-! ## Blanks -/

def Blanks (cs : List Char) : Prop :=
  ∀ c ∈ cs, isBlank c = true

theorem blanks_nil : Blanks [] :=
  List.forall_mem_nil _

/-- Blanks before a text do not begin what the text does not begin. -/
theorem blanks_stop (p : Char → Bool) (outside : ∀ c, isBlank c = true → p c = false)
    (blanks unread : List Char) (gap : Blanks blanks) (stops : StopsAt p unread) :
    StopsAt p (blanks ++ unread) := by
  cases blanks with
  | nil => exact stops
  | cons c rest => exact (stopsAt_cons p c _).mpr (outside c (gap c (List.mem_cons_self ..)))

theorem blanks_reverse (cs : List Char) (gap : Blanks cs) : Blanks cs.reverse := by
  intro c member
  exact gap c (List.mem_reverse.mp member)

theorem trimStart_run (blanks unread : List Char) (gap : Blanks blanks)
    (stops : StopsAt isBlank unread) : trimStart (blanks ++ unread) = unread :=
  dropWhile_run isBlank blanks unread gap stops

theorem trimStart_solid (c : Char) (rest : List Char) (solid : isBlank c = false) :
    trimStart (c :: rest) = c :: rest :=
  trimStart_run [] (c :: rest) blanks_nil ((stopsAt_cons isBlank c rest).mpr solid)

theorem trimStart_split (cs : List Char) : ∃ blanks, Blanks blanks ∧ cs = blanks ++ trimStart cs :=
  ⟨cs.takeWhile isBlank, takeWhile_inside isBlank cs, List.takeWhile_append_dropWhile.symm⟩

theorem isBlank_of_isDigit (c : Char) (digit : c.isDigit = true) : isBlank c = false := by
  have range : 48 ≤ c.toNat ∧ c.toNat ≤ 57 := by
    simp only [Char.isDigit, Bool.and_eq_true, decide_eq_true_eq, ge_iff_le,
      UInt32.le_iff_toNat_le] at digit
    exact digit
  simp only [isBlank, blanks, CodePointSet.contains, List.any_cons, List.any_nil,
    Bool.or_eq_false_iff, Bool.and_eq_false_iff, decide_eq_false_iff_not, and_true]
  omega

/-! ## Trimmed text -/

/-- No blank stands at either end. -/
def Trimmed (cs : List Char) : Prop :=
  StopsAt isBlank cs ∧ StopsAt isBlank cs.reverse

theorem trimmed_trim (cs : List Char) : Trimmed (trim cs) := by
  have finish : (trim cs).reverse = trimStart (trimStart cs).reverse :=
    List.reverse_reverse _
  refine ⟨stopsAt_front isBlank _ (trimStart cs) ?_ (dropWhile_stops isBlank cs), ?_⟩
  · rw [← List.reverse_suffix, finish]
    exact List.dropWhile_suffix isBlank
  · rw [finish]
    exact dropWhile_stops isBlank _

theorem trim_split (cs : List Char) :
    ∃ before after, Blanks before ∧ Blanks after ∧ cs = before ++ trim cs ++ after := by
  obtain ⟨before, left, start⟩ := trimStart_split cs
  obtain ⟨after, right, finish⟩ := trimStart_split (trimStart cs).reverse
  have ends : trimStart cs = trim cs ++ after.reverse := by
    rw [← List.reverse_reverse (trimStart cs), finish, List.reverse_append]
    rfl
  refine ⟨before, after.reverse, left, blanks_reverse after right, ?_⟩
  rw [List.append_assoc, ← ends]
  exact start

theorem trim_of_trimmed (cs : List Char) (trimmed : Trimmed cs) : trim cs = cs := by
  have start : trimStart cs = cs := trimStart_run [] cs blanks_nil trimmed.1
  have finish : trimStart cs.reverse = cs.reverse :=
    trimStart_run [] cs.reverse blanks_nil trimmed.2
  rw [trim, start]
  exact (congrArg List.reverse finish).trans (List.reverse_reverse cs)

theorem trimmed_of_solid (cs : List Char) (solid : ∀ c ∈ cs, isBlank c = false) : Trimmed cs := by
  have stops : ∀ ds : List Char, (∀ c ∈ ds, isBlank c = false) → StopsAt isBlank ds := by
    intro ds plain
    cases ds with
    | nil => exact stopsAt_nil isBlank
    | cons c rest => exact (stopsAt_cons isBlank c rest).mpr (plain c (List.mem_cons_self ..))
  refine ⟨stops cs solid, stops cs.reverse ?_⟩
  intro c member
  exact solid c (List.mem_reverse.mp member)

/-- Of a trimmed text between blanks trimming leaves the text. -/
theorem trim_between (before cs after : List Char) (left : Blanks before) (trimmed : Trimmed cs)
    (right : Blanks after) : trim (before ++ cs ++ after) = cs := by
  have start : trimStart (before ++ cs ++ after) = trimStart (cs ++ after) := by
    rw [List.append_assoc, trimStart, List.dropWhile_append_of_pos left]
    rfl
  cases cs with
  | nil =>
      have gone := trimStart_run after [] right (stopsAt_nil isBlank)
      rw [List.append_nil] at gone
      rw [trim, start, List.nil_append, gone]
      rfl
  | cons c rest =>
      have stops : StopsAt isBlank (c :: (rest ++ after)) :=
        (stopsAt_cons isBlank c _).mpr ((stopsAt_cons isBlank c rest).mp trimmed.1)
      have finish : trimStart (c :: rest ++ after).reverse = (c :: rest).reverse := by
        rw [List.reverse_append]
        exact trimStart_run after.reverse _ (blanks_reverse after right) trimmed.2
      rw [trim, start, List.cons_append, trimStart_solid c _ ((stopsAt_cons isBlank c _).mp stops)]
      exact (congrArg List.reverse finish).trans (List.reverse_reverse (c :: rest))

theorem trim_surrounded (before cs after : List Char) (left : Blanks before)
    (right : Blanks after) : trim (before ++ cs ++ after) = trim cs := by
  obtain ⟨opening, closing, first, last, split⟩ := trim_split cs
  have whole : before ++ cs ++ after = (before ++ opening) ++ trim cs ++ (closing ++ after) := by
    calc before ++ cs ++ after
        = before ++ (opening ++ trim cs ++ closing) ++ after := by rw [← split]
      _ = (before ++ opening) ++ trim cs ++ (closing ++ after) := by simp
  rw [whole]
  exact trim_between _ (trim cs) _ (List.forall_mem_append.mpr ⟨left, first⟩) (trimmed_trim cs)
    (List.forall_mem_append.mpr ⟨last, right⟩)

end Crosswalk.Text
