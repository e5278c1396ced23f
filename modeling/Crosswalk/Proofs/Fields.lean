import Mathlib.Data.List.Nodup
import Crosswalk.Fields

/-!
# Fields written one after another

Entries written one after another leave one field for every name (`nodup_names_ofEntries`).  The
first entry of a name settles the place of its field and the last one its value: an entry in front
of others gives the first field, and takes its name away from theirs (`ofEntries_cons`).
-/

set_option autoImplicit false

namespace Crosswalk.Fields

universe u
variable {α : Type u}

theorem get?_cons (name other : String) (value : α) (rest : Fields α) :
    get? ((name, value) :: rest) other = if name = other then some value else get? rest other := by
  by_cases same : name = other
  · simp [get?, same]
  · have different : (other == name) = false := beq_false_of_ne fun equal => same equal.symm
    rw [get?, List.lookup_cons, different, if_neg same]
    rfl

theorem mem_of_get? (fields : Fields α) (name : String) (value : α)
    (found : get? fields name = some value) : (name, value) ∈ fields := by
  induction fields with
  | nil => simp [get?] at found
  | cons field rest ih =>
      obtain ⟨other, old⟩ := field
      rw [get?_cons] at found
      by_cases same : other = name
      · rw [if_pos same] at found
        cases found
        rw [same]
        exact List.mem_cons_self ..
      · rw [if_neg same] at found
        exact List.mem_cons_of_mem _ (ih found)

theorem get?_eq_some_iff (fields : Fields α) (distinct : (names fields).Nodup) (name : String)
    (value : α) : get? fields name = some value ↔ (name, value) ∈ fields := by
  refine ⟨mem_of_get? fields name value, ?_⟩
  intro member
  induction fields with
  | nil => cases member
  | cons field rest ih =>
      obtain ⟨other, old⟩ := field
      obtain ⟨once, distinct⟩ := List.nodup_cons.mp distinct
      rw [get?_cons]
      rcases List.mem_cons.mp member with here | later
      · cases here
        exact if_pos rfl
      · have different : ¬ other = name := by
          rintro rfl
          exact once (List.mem_map.mpr ⟨_, later, rfl⟩)
        rw [if_neg different]
        exact ih distinct later

theorem get?_of_mem_names (fields : Fields α) (name : String) (member : name ∈ names fields) :
    ∃ value, get? fields name = some value := by
  induction fields with
  | nil => cases member
  | cons field rest ih =>
      obtain ⟨other, old⟩ := field
      rw [get?_cons]
      by_cases same : other = name
      · exact ⟨old, if_pos same⟩
      · rw [if_neg same]
        rcases List.mem_cons.mp member with here | later
        · exact absurd here.symm same
        · exact ih later

/-- A name goes to the end of a list that does not have it. -/
def addName (names : List String) (name : String) : List String :=
  if names.contains name then names else names ++ [name]

theorem names_insert (name : String) (value : α) (fields : Fields α) :
    names (insert name value fields) = addName (names fields) name := by
  induction fields with
  | nil => rfl
  | cons field rest ih =>
      obtain ⟨other, old⟩ := field
      by_cases same : other = name
      · simp [insert, names, addName, same]
      · have different : (name == other) = false := beq_false_of_ne fun equal => same equal.symm
        simp only [names] at ih
        simp only [insert, if_neg same, names, List.map_cons, ih, addName, List.contains_cons,
          different, Bool.false_or]
        split <;> rfl

theorem get?_insert (name other : String) (value : α) (fields : Fields α) :
    get? (insert name value fields) other =
      if name = other then some value else get? fields other := by
  induction fields with
  | nil => rw [insert, get?_cons]
  | cons field rest ih =>
      obtain ⟨first, old⟩ := field
      by_cases written : first = name
      · subst first
        rw [insert, if_pos rfl, get?_cons, get?_cons]
        split <;> rfl
      · rw [insert, if_neg written, get?_cons, get?_cons, ih]
        by_cases same : first = other
        · have missed : ¬ name = other := fun equal => written (same.trans equal.symm)
          rw [if_pos same, if_neg missed, if_pos same]
        · rw [if_neg same, if_neg same]

/-- The names of fields written one after another are the names of the entries, each where it
first comes. -/
theorem names_ofEntries (entries : List (String × α)) :
    names (ofEntries entries) = (entries.map Prod.fst).foldl addName [] := by
  have fold : ∀ fields : Fields α,
      names (entries.foldl (fun fields entry => insert entry.1 entry.2 fields) fields) =
        (entries.map Prod.fst).foldl addName (names fields) := by
    induction entries with
    | nil => intro fields; rfl
    | cons entry rest ih =>
        intro fields
        simp only [List.foldl_cons, List.map_cons, ih, names_insert]
  exact fold []

/-- The fields under other names. -/
def others (name : String) (fields : Fields α) : Fields α :=
  fields.filter fun field => field.1 ≠ name

theorem others_cons_self (name : String) (value : α) (rest : Fields α) :
    others name ((name, value) :: rest) = others name rest := by
  simp [others]

theorem others_cons_of_ne (name other : String) (value : α) (rest : Fields α)
    (different : other ≠ name) :
    others name ((other, value) :: rest) = (other, value) :: others name rest := by
  simp [others, different]

theorem others_insert_self (name : String) (value : α) (fields : Fields α) :
    others name (insert name value fields) = others name fields := by
  induction fields with
  | nil => exact others_cons_self name value []
  | cons field rest ih =>
      obtain ⟨other, old⟩ := field
      by_cases same : other = name
      · subst other
        rw [insert, if_pos rfl, others_cons_self, others_cons_self]
      · rw [insert, if_neg same, others_cons_of_ne _ _ _ _ same, others_cons_of_ne _ _ _ _ same, ih]

theorem others_insert_of_ne (name written : String) (value : α) (fields : Fields α)
    (different : written ≠ name) :
    others name (insert written value fields) = insert written value (others name fields) := by
  induction fields with
  | nil => exact others_cons_of_ne name written value [] different
  | cons field rest ih =>
      obtain ⟨other, old⟩ := field
      by_cases here : other = written
      · subst other
        rw [insert, if_pos rfl, others_cons_of_ne _ _ _ _ different,
          others_cons_of_ne _ _ _ _ different, insert, if_pos rfl]
      · rw [insert, if_neg here]
        by_cases front : other = name
        · subst other
          rw [others_cons_self, others_cons_self, ih]
        · rw [others_cons_of_ne _ _ _ _ front, others_cons_of_ne _ _ _ _ front, insert,
            if_neg here, ih]

/-- Writing to fields with one of them in front writes to that one or to the others. -/
theorem insert_front (name written : String) (old value : α) (fields : Fields α) :
    insert written value ((name, old) :: others name fields) =
      (name, if written = name then value else old) ::
        others name (insert written value fields) := by
  by_cases same : written = name
  · subst written
    rw [insert, if_pos rfl, if_pos rfl, others_insert_self]
  · have front : ¬ name = written := fun equal => same equal.symm
    rw [insert, if_neg front, if_neg same, others_insert_of_ne _ _ _ _ same]

/-- An entry in front of others: its field comes first, with the last value under its name. -/
theorem ofEntries_cons (name : String) (value : α) (rest : List (String × α)) :
    ofEntries ((name, value) :: rest) =
      (name, (get? (ofEntries rest) name).getD value) :: others name (ofEntries rest) := by
  have fold : ∀ fields : Fields α,
      rest.foldl (fun fields entry => insert entry.1 entry.2 fields)
          ((name, (get? fields name).getD value) :: others name fields) =
        (name, (get? (rest.foldl (fun fields entry => insert entry.1 entry.2 fields) fields)
          name).getD value) ::
          others name (rest.foldl (fun fields entry => insert entry.1 entry.2 fields) fields) := by
    induction rest with
    | nil => intro fields; rfl
    | cons entry rest ih =>
        intro fields
        have front : (if entry.1 = name then entry.2 else (get? fields name).getD value) =
            (get? (insert entry.1 entry.2 fields) name).getD value := by
          rw [get?_insert]
          split <;> rfl
        simp only [List.foldl_cons, insert_front, front, ih]
  exact fold []

theorem nodup_names_ofEntries (entries : List (String × α)) :
    (names (ofEntries entries)).Nodup := by
  induction entries with
  | nil => exact List.nodup_nil
  | cons entry rest ih =>
      rw [ofEntries_cons, names, List.map_cons, List.nodup_cons]
      constructor
      · simp [others]
      · exact ih.sublist (List.filter_sublist.map Prod.fst)

/-- Every field was written by one of the entries. -/
theorem mem_of_mem_ofEntries (entries : List (String × α)) (field : String × α)
    (member : field ∈ ofEntries entries) : field ∈ entries := by
  induction entries with
  | nil => cases member
  | cons entry rest ih =>
      obtain ⟨name, value⟩ := entry
      rw [ofEntries_cons] at member
      rcases List.mem_cons.mp member with here | later
      · cases found : get? (ofEntries rest) name with
        | none =>
            rw [found] at here
            subst here
            exact List.mem_cons_self ..
        | some last =>
            rw [found] at here
            subst here
            exact List.mem_cons_of_mem _ (ih (mem_of_get? _ _ _ found))
      · exact List.mem_cons_of_mem _ (ih (List.mem_of_mem_filter later))

/-- Under a name stands the value of the last entry of that name. -/
theorem get?_ofEntries (entries : List (String × α)) (name : String) :
    get? (ofEntries entries) name =
      (entries.filter fun entry => entry.1 = name).getLast?.map Prod.snd := by
  have fold : ∀ fields : Fields α,
      get? (entries.foldl (fun fields entry => insert entry.1 entry.2 fields) fields) name =
        ((entries.filter fun entry => entry.1 = name).getLast?.map Prod.snd).or
          (get? fields name) := by
    induction entries with
    | nil => intro fields; rfl
    | cons entry rest ih =>
        intro fields
        rw [List.foldl_cons, ih, get?_insert]
        by_cases same : entry.1 = name
        · rw [if_pos same, List.filter_cons_of_pos (by simpa using same), List.getLast?_cons]
          cases (rest.filter fun entry => entry.1 = name).getLast? <;> rfl
        · rw [if_neg same, List.filter_cons_of_neg (by simpa using same)]
  rw [ofEntries, fold []]
  exact Option.or_none

theorem get?_of_last (before after : List (String × α)) (name : String) (value : α)
    (last : ∀ later ∈ after, later.1 ≠ name) :
    get? (ofEntries (before ++ (name, value) :: after)) name = some value := by
  have gone : (after.filter fun entry => entry.1 = name) = [] :=
    List.filter_eq_nil_iff.mpr fun later member => by simpa using last later member
  rw [get?_ofEntries, List.filter_append, List.filter_cons_of_pos (by simp), gone]
  simp

/-- Of an entry that is written over only the place is left. -/
theorem ofEntries_of_later (before after : List (String × α)) (name : String) (a b : α)
    (later : ∃ entry ∈ after, entry.1 = name) :
    ofEntries (before ++ (name, a) :: after) = ofEntries (before ++ (name, b) :: after) := by
  induction before with
  | nil =>
      obtain ⟨entry, member, named⟩ := later
      have filled : entry ∈ after.filter fun entry => entry.1 = name :=
        List.mem_filter.mpr ⟨member, decide_eq_true named⟩
      cases found : (after.filter fun entry => entry.1 = name).getLast? with
      | none =>
          rw [List.getLast?_eq_none_iff.mp found] at filled
          cases filled
      | some last =>
          have value : get? (ofEntries after) name = some last.2 := by
            rw [get?_ofEntries, found]
            rfl
          rw [List.nil_append, List.nil_append, ofEntries_cons, ofEntries_cons, value]
          rfl
  | cons entry before ih =>
      obtain ⟨other, old⟩ := entry
      rw [List.cons_append, List.cons_append, ofEntries_cons, ofEntries_cons, ih]

/-- Entries without repetition are the fields that they write. -/
theorem ofEntries_of_nodup (entries : List (String × α)) (distinct : (names entries).Nodup) :
    ofEntries entries = entries := by
  induction entries with
  | nil => rfl
  | cons entry rest ih =>
      obtain ⟨name, value⟩ := entry
      obtain ⟨once, distinct⟩ := List.nodup_cons.mp distinct
      have absent : get? rest name = none := by
        cases found : get? rest name with
        | none => rfl
        | some other => exact absurd (List.mem_map_of_mem (mem_of_get? _ _ _ found)) once
      have apart : others name rest = rest := by
        refine List.filter_eq_self.mpr fun field member => decide_eq_true ?_
        rintro rfl
        exact once (List.mem_map.mpr ⟨field, member, rfl⟩)
      rw [ofEntries_cons, ih distinct, absent, apart]
      rfl

end Crosswalk.Fields
