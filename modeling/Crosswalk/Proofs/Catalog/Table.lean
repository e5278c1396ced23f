import Mathlib.Data.List.Nodup
import Crosswalk.Catalog.Table
import Crosswalk.Proofs.Fields

/-!
# What a table holds

Entering an entry in an index that leads to the entries before it either refuses the entry, because
it repeats one of them (`Repeats`), or gives an index that leads to it as well (`enter_spec`).  So a
table is made of a list just if no entry repeats an earlier one, the fault is that of the first
entry that does, and looking up through the index finds what looking through the list finds
(`table_behaves_as_list`).
-/

set_option autoImplicit false

namespace Crosswalk

variable {α : Type} [Entry α]

/-! ## Entries that repeat others -/

/-- No two entries share an identifier or, where names are to be unique, a name. -/
structure Unrepeated (entries : List α) : Prop where
  ids : (entries.map Entry.id).Nodup
  names : Entry.uniqueField α = true → (entries.filterMap Entry.field?).Nodup

/-- The fault of an entry that repeats one of those seen. -/
inductive Repeats (seen : List α) (entry : α) : CatalogFault → Prop where
  | id (known : Entry.id entry ∈ seen.map Entry.id) :
      Repeats seen entry (.duplicateId (Entry.table α) (Entry.id entry))
  | name (name : String) (fresh : Entry.id entry ∉ seen.map Entry.id)
      (unique : Entry.uniqueField α = true) (named : Entry.field? entry = some name)
      (known : name ∈ seen.filterMap Entry.field?) :
      Repeats seen entry (.duplicateName (Entry.table α) (Entry.id entry) name)

/-- The fault is that of the first entry that repeats an earlier one. -/
def FirstRepeat (entries : List α) (fault : CatalogFault) : Prop :=
  ∃ before entry after, entries = before ++ entry :: after ∧ Unrepeated before ∧
    Repeats before entry fault

theorem unrepeated_nil : Unrepeated ([] : List α) where
  ids := List.nodup_nil
  names _ := List.nodup_nil

theorem unrepeated_front (front back : List α) (whole : Unrepeated (front ++ back)) :
    Unrepeated front where
  ids := whole.ids.sublist ((List.sublist_append_left front back).map Entry.id)
  names unique :=
    (whole.names unique).sublist ((List.sublist_append_left front back).filterMap Entry.field?)

theorem nodup_concat_iff {β : Type} (xs : List β) (x : β) :
    (xs ++ [x]).Nodup ↔ x ∉ xs ∧ xs.Nodup := by
  rw [← List.concat_eq_append, List.nodup_concat]

theorem unrepeated_concat (seen : List α) (entry : α) :
    Unrepeated (seen ++ [entry]) ↔ Unrepeated seen ∧ ∀ fault, ¬ Repeats seen entry fault := by
  constructor
  · intro whole
    refine ⟨unrepeated_front seen [entry] whole, ?_⟩
    intro fault repeats
    cases repeats with
    | id known =>
        have ids := whole.ids
        rw [List.map_append, List.map_singleton, nodup_concat_iff] at ids
        exact ids.1 known
    | name name fresh unique named known =>
        have names := whole.names unique
        rw [List.filterMap_append, List.filterMap_cons_some named, List.filterMap_nil,
          nodup_concat_iff] at names
        exact names.1 known
  · intro both
    obtain ⟨before, clean⟩ := both
    have fresh : Entry.id entry ∉ seen.map Entry.id := fun known => clean _ (.id known)
    constructor
    · rw [List.map_append, List.map_singleton, nodup_concat_iff]
      exact ⟨fresh, before.ids⟩
    · intro unique
      cases named : Entry.field? entry with
      | none =>
          rw [List.filterMap_append, List.filterMap_cons_none named, List.filterMap_nil,
            List.append_nil]
          exact before.names unique
      | some name =>
          rw [List.filterMap_append, List.filterMap_cons_some named, List.filterMap_nil,
            nodup_concat_iff]
          exact ⟨fun known => clean _ (.name name fresh unique named known), before.names unique⟩

theorem repeats_unique (seen : List α) (entry : α) (fault other : CatalogFault)
    (first : Repeats seen entry fault) (second : Repeats seen entry other) : fault = other := by
  cases first with
  | id known =>
      cases second with
      | id _ => rfl
      | name _ fresh => exact absurd known fresh
  | name name fresh unique named known =>
      cases second with
      | id known => exact absurd known fresh
      | name other _ _ named' _ =>
          rw [named] at named'
          cases named'
          rfl

theorem not_unrepeated_of_firstRepeat (entries : List α) (fault : CatalogFault)
    (first : FirstRepeat entries fault) : ¬ Unrepeated entries := by
  intro whole
  obtain ⟨before, entry, after, split, _, repeats⟩ := first
  rw [split, List.append_cons] at whole
  have front := unrepeated_front (before ++ [entry]) after whole
  exact ((unrepeated_concat before entry).mp front).2 fault repeats

/-- An entry that repeats an earlier one cannot stand among entries that do not. -/
theorem eq_nil_of_repeats (before more after rest : List α) (entry : α) (fault : CatalogFault)
    (repeats : Repeats before entry fault) (plain : Unrepeated (before ++ more))
    (same : entry :: after = more ++ rest) : more = [] := by
  cases more with
  | nil => rfl
  | cons next more =>
      obtain ⟨rfl, _⟩ := List.cons.inj same
      have front := unrepeated_front before (entry :: more) plain
      exact absurd plain (not_unrepeated_of_firstRepeat _ fault
        ⟨before, entry, more, rfl, front, repeats⟩)

theorem firstRepeat_unique (entries : List α) (fault other : CatalogFault)
    (first : FirstRepeat entries fault) (second : FirstRepeat entries other) : fault = other := by
  obtain ⟨before, entry, after, split, plain, repeats⟩ := first
  obtain ⟨before', entry', after', split', plain', repeats'⟩ := second
  rw [split] at split'
  have together : before = before' ∧ entry :: after = entry' :: after' := by
    rcases List.append_eq_append_iff.mp split' with ⟨more, longer, rest⟩ | ⟨more, longer, rest⟩
    · rw [longer] at plain'
      have none := eq_nil_of_repeats before more after _ entry fault repeats plain' rest
      subst none
      exact ⟨by rw [longer, List.append_nil], rest⟩
    · rw [longer] at plain
      have none := eq_nil_of_repeats before' more after' _ entry' other repeats' plain rest
      subst none
      exact ⟨by rw [longer, List.append_nil], rest.symm⟩
  obtain ⟨same, rest⟩ := together
  cases rest
  rw [← same] at repeats'
  exact repeats_unique before entry fault other repeats repeats'

/-! ## Indexes -/

namespace Index

/-- At the places in the index stand the entries of the list that it is asked for. -/
structure Leads (index : Index) (entries : List α) : Prop where
  ids : ∀ id, (index.place? id).map (fun place => entries[place]?) =
    (entries.find? fun entry => Entry.id entry == id).map some
  names : ∀ name, (index.places name).map (fun place => entries[place]?) =
    (entries.filter fun entry => Entry.field? entry == some name).map some

theorem leads_empty : empty.Leads ([] : List α) where
  ids _ := rfl
  names _ := rfl

section Step

variable {index : Index} {seen : List α} (leads : index.Leads seen) (entry : α)
include leads

theorem place?_isSome_iff (id : EntryId) :
    (index.place? id).isSome = true ↔ id ∈ seen.map Entry.id := by
  have found := congrArg Option.isSome (leads.ids id)
  rw [Option.isSome_map, Option.isSome_map] at found
  rw [found, List.find?_isSome, List.mem_map]
  simp only [beq_iff_eq]

theorem places_eq_nil_iff (name : String) :
    index.places name = [] ↔ name ∉ seen.filterMap Entry.field? := by
  rw [← List.map_eq_nil_iff, leads.names name, List.map_eq_nil_iff, List.filter_eq_nil_iff]
  simp only [beq_iff_eq, List.mem_filterMap, not_exists, not_and]

/-- The places lie in the list, so that more entries after it change nothing. -/
theorem ids_kept (id : EntryId) :
    (index.place? id).map (fun place => (seen ++ [entry])[place]?) =
      (seen.find? fun entry => Entry.id entry == id).map some := by
  rw [← leads.ids id]
  cases found : index.place? id with
  | none => rfl
  | some place =>
      have stands := leads.ids id
      rw [found, Option.map_some, eq_comm, Option.map_eq_some_iff] at stands
      obtain ⟨old, _, here⟩ := stands
      have inside := (List.getElem?_eq_some_iff.mp here.symm).1
      rw [Option.map_some, Option.map_some, List.getElem?_append_left inside]

theorem names_kept (name : String) :
    (index.places name).map (fun place => (seen ++ [entry])[place]?) =
      (seen.filter fun entry => Entry.field? entry == some name).map some := by
  rw [← leads.names name]
  apply List.map_congr_left
  intro place member
  have stands : seen[place]? ∈ (index.places name).map fun place => seen[place]? :=
    List.mem_map_of_mem member
  rw [leads.names name, List.mem_map] at stands
  obtain ⟨old, _, here⟩ := stands
  have inside := (List.getElem?_eq_some_iff.mp here.symm).1
  exact List.getElem?_append_left inside

theorem ids_entered (fresh : Entry.id entry ∉ seen.map Entry.id) (names : Fields (List Nat))
    (id : EntryId) :
    ((Index.mk ((Entry.id entry, seen.length) :: index.ids) names).place? id).map
        (fun place => (seen ++ [entry])[place]?) =
      ((seen ++ [entry]).find? fun entry => Entry.id entry == id).map some := by
  rw [place?, List.lookup_cons, List.find?_append, List.find?_singleton]
  by_cases same : Entry.id entry = id
  · subst same
    have absent : seen.find? (fun other => Entry.id other == Entry.id entry) = none := by
      rw [← Option.not_isSome_iff_eq_none, List.find?_isSome]
      simpa using fresh
    simp [absent]
  · have other : (id == Entry.id entry) = false := beq_false_of_ne fun equal => same equal.symm
    have kept := ids_kept leads entry id
    rw [place?] at kept
    simp [other, same, kept]

theorem names_entered (name : String) (named : Entry.field? entry = some name)
    (ids : List (EntryId × Nat)) (asked : String) :
    ((Index.mk ids (Fields.insert name (index.places name ++ [seen.length]) index.names)).places
        asked).map (fun place => (seen ++ [entry])[place]?) =
      ((seen ++ [entry]).filter fun entry => Entry.field? entry == some asked).map some := by
  have kept := names_kept leads entry
  rw [places, Fields.get?_insert, List.filter_append, List.map_append]
  by_cases same : name = asked
  · subst same
    rw [if_pos rfl, Option.getD_some, List.map_append, kept name]
    simp [named]
  · have other : (Entry.field? entry == some asked) = false := by
      rw [named]
      exact beq_false_of_ne fun equal => same (Option.some.inj equal)
    rw [if_neg same, List.filter_cons_of_neg (by simp [other]), List.filter_nil, List.map_nil,
      List.append_nil]
    exact kept asked

theorem names_unentered (unnamed : Entry.field? entry = none) (ids : List (EntryId × Nat))
    (asked : String) :
    ((Index.mk ids index.names).places asked).map (fun place => (seen ++ [entry])[place]?) =
      ((seen ++ [entry]).filter fun entry => Entry.field? entry == some asked).map some := by
  rw [List.filter_append, List.filter_cons_of_neg (by simp [unnamed]), List.filter_nil,
    List.append_nil]
  exact names_kept leads entry asked

/-- What entering one entry does. -/
theorem enter_spec :
    match index.enter seen.length entry with
    | .ok next => next.Leads (seen ++ [entry]) ∧ ∀ fault, ¬ Repeats seen entry fault
    | .error fault => Repeats seen entry fault := by
  rw [enter]
  by_cases known : (index.place? (Entry.id entry)).isSome = true
  · rw [if_pos known]
    exact .id ((place?_isSome_iff leads _).mp known)
  rw [if_neg known]
  rw [place?_isSome_iff leads] at known
  cases named : Entry.field? entry with
  | none =>
      refine ⟨⟨ids_entered leads entry known _, names_unentered leads entry named _⟩, ?_⟩
      intro fault repeats
      cases repeats with
      | id old => exact known old
      | name name _ _ other _ =>
          rw [named] at other
          cases other
  | some name =>
      by_cases taken : Entry.uniqueField α = true ∧ name ∈ seen.filterMap Entry.field?
      · have full : (Entry.uniqueField α && !(index.places name).isEmpty) = true := by
          rw [Bool.and_eq_true, Bool.not_eq_true', ← Bool.not_eq_true, List.isEmpty_iff,
            places_eq_nil_iff leads, not_not]
          exact taken
        simp only [if_pos full]
        exact .name name known taken.1 named taken.2
      · have free : ¬ (Entry.uniqueField α && !(index.places name).isEmpty) = true := by
          rw [Bool.and_eq_true, Bool.not_eq_true', ← Bool.not_eq_true, List.isEmpty_iff,
            places_eq_nil_iff leads, not_not]
          exact taken
        simp only [if_neg free]
        refine ⟨⟨ids_entered leads entry known _, names_entered leads entry name named _⟩, ?_⟩
        intro fault repeats
        cases repeats with
        | id old => exact known old
        | name other _ unique named' old =>
            rw [named] at named'
            cases named'
            exact taken ⟨unique, old⟩

end Step

/-- What entering the rest of a list does. -/
theorem enterFrom_spec (index : Index) (seen rest : List α) (leads : index.Leads seen)
    (plain : Unrepeated seen) :
    match index.enterFrom seen.length rest with
    | .ok next => next.Leads (seen ++ rest) ∧ Unrepeated (seen ++ rest)
    | .error fault => FirstRepeat (seen ++ rest) fault := by
  induction rest generalizing index seen with
  | nil =>
      rw [enterFrom, List.append_nil]
      exact ⟨leads, plain⟩
  | cons entry rest ih =>
      have step := enter_spec leads entry
      rw [enterFrom]
      cases entered : index.enter seen.length entry with
      | error fault =>
          rw [entered] at step
          exact ⟨seen, entry, rest, rfl, plain, step⟩
      | ok next =>
          rw [entered] at step
          have onward := ih next (seen ++ [entry]) step.1
            ((unrepeated_concat seen entry).mpr ⟨plain, step.2⟩)
          rw [List.length_append, List.length_singleton, ← List.append_cons] at onward
          exact onward

theorem ofEntries_spec (entries : List α) :
    match ofEntries entries with
    | .ok index => index.Leads entries ∧ Unrepeated entries
    | .error fault => FirstRepeat entries fault :=
  enterFrom_spec empty [] entries leads_empty unrepeated_nil

omit [Entry α] in
theorem bind_place (entries : List α) (place : Option Nat) (found : Option α)
    (stands : place.map (fun place => entries[place]?) = found.map some) :
    (place.bind fun place => entries[place]?) = found := by
  cases place with
  | none =>
      rw [Option.map_none, eq_comm, Option.map_eq_none_iff] at stands
      rw [stands]
      rfl
  | some place =>
      rw [Option.map_some, eq_comm, Option.map_eq_some_iff] at stands
      obtain ⟨entry, first, here⟩ := stands
      rw [first, Option.bind_some, ← here]

theorem leads_of_ofEntries (entries : List α) (index : Index)
    (made : ofEntries entries = .ok index) : index.Leads entries := by
  have spec := ofEntries_spec entries
  rw [made] at spec
  exact spec.1

theorem ofEntries_ok_iff (entries : List α) :
    (∃ index, ofEntries entries = .ok index) ↔ Unrepeated entries := by
  have spec := ofEntries_spec entries
  cases made : ofEntries entries with
  | ok index =>
      rw [made] at spec
      exact iff_of_true ⟨index, rfl⟩ spec.2
  | error fault =>
      rw [made] at spec
      exact iff_of_false (by simp) (not_unrepeated_of_firstRepeat entries fault spec)

theorem ofEntries_error_iff (entries : List α) (fault : CatalogFault) :
    ofEntries entries = .error fault ↔ FirstRepeat entries fault := by
  have spec := ofEntries_spec entries
  cases made : ofEntries entries with
  | ok index =>
      rw [made] at spec
      refine iff_of_false (by simp) ?_
      intro first
      exact not_unrepeated_of_firstRepeat entries fault first spec.2
  | error other =>
      rw [made] at spec
      constructor
      · intro same
        cases same
        exact spec
      · intro first
        rw [firstRepeat_unique entries other fault spec first]

end Index

/-! ## Looking up -/

namespace Table

section Lookup

variable (table : Table α)

theorem leads : table.index.Leads table.entries :=
  Index.leads_of_ofEntries table.entries table.index table.indexed

theorem unrepeated : Unrepeated table.entries :=
  (Index.ofEntries_ok_iff table.entries).mp ⟨table.index, table.indexed⟩

theorem nodup_ids : (table.entries.map Entry.id).Nodup :=
  table.unrepeated.ids

theorem nodup_names (unique : Entry.uniqueField α = true) :
    (table.entries.filterMap Entry.field?).Nodup :=
  table.unrepeated.names unique

theorem byId?_eq_find? (id : EntryId) :
    table.byId? id = table.entries.find? fun entry => Entry.id entry == id :=
  Index.bind_place table.entries _ _ (table.leads.ids id)

theorem byField?_eq_find? (name : String) :
    table.byField? name =
      table.entries.find? fun entry => Entry.field? entry == some name := by
  have stands := congrArg List.head? (table.leads.names name)
  rw [List.head?_map, List.head?_map, List.head?_filter] at stands
  exact Index.bind_place table.entries _ _ stands

theorem allByField_eq_filter (name : String) :
    table.allByField name =
      table.entries.filter fun entry => Entry.field? entry == some name := by
  have stands := congrArg (List.filterMap id) (table.leads.names name)
  rw [List.filterMap_map, List.filterMap_map] at stands
  exact stands.trans List.filterMap_some

/-- Looking up an identifier finds the one entry that has it. -/
theorem byId?_eq_some_iff (id : EntryId) (entry : α) :
    table.byId? id = some entry ↔ entry ∈ table.entries ∧ Entry.id entry = id := by
  rw [byId?_eq_find?]
  constructor
  · intro found
    have same := List.find?_some found
    exact ⟨List.mem_of_find?_eq_some found, eq_of_beq same⟩
  · intro listed
    obtain ⟨member, same⟩ := listed
    cases found : table.entries.find? fun entry => Entry.id entry == id with
    | none =>
        have missed := List.find?_eq_none.mp found entry member
        exact absurd (beq_iff_eq.mpr same) missed
    | some other =>
        have there := List.mem_of_find?_eq_some found
        have agree := List.find?_some found
        have equal := (eq_of_beq agree).trans same.symm
        rw [List.inj_on_of_nodup_map table.nodup_ids there member equal]

end Lookup

/-! ## Making a table -/

theorem ofList_entries (table : Table α) : ofList table.entries = .ok table := by
  obtain ⟨entries, indexed⟩ := table
  rw [ofList]
  split
  case h_1 index made =>
    rw [indexed] at made
    cases made
    rfl
  case h_2 fault made =>
    rw [indexed] at made
    cases made

theorem entries_of_ofList (entries : List α) (table : Table α)
    (made : ofList entries = .ok table) : table.entries = entries := by
  rw [ofList] at made
  split at made
  · cases made
    rfl
  · cases made

theorem ofList_ok_iff (entries : List α) :
    (∃ table, ofList entries = .ok table) ↔ Unrepeated entries := by
  constructor
  · intro accepted
    obtain ⟨table, made⟩ := accepted
    rw [← entries_of_ofList entries table made]
    exact table.unrepeated
  · intro plain
    obtain ⟨index, made⟩ := (Index.ofEntries_ok_iff entries).mpr plain
    exact ⟨⟨entries, made⟩, ofList_entries ⟨entries, made⟩⟩

theorem ofList_error_iff (entries : List α) (fault : CatalogFault) :
    ofList entries = .error fault ↔ FirstRepeat entries fault := by
  rw [← Index.ofEntries_error_iff, ofList]
  split
  case h_1 index made => simp [made]
  case h_2 other made => simp [made]

end Table

/-- A table is made of a list just if no two entries share an identifier or, where names are to be
unique, a name; else the fault is that of the first entry that repeats an earlier one.  Looking up
in the table finds what the list holds. -/
theorem table_behaves_as_list (entries : List α) :
    ((∃ table, Table.ofList entries = .ok table) ↔
      (entries.map Entry.id).Nodup ∧
        (Entry.uniqueField α = true → (entries.filterMap Entry.field?).Nodup)) ∧
    (∀ fault, Table.ofList entries = .error fault ↔ FirstRepeat entries fault) ∧
    ∀ table, Table.ofList entries = .ok table →
      table.entries = entries ∧
      ∀ id name,
        (∀ entry, table.byId? id = some entry ↔ entry ∈ entries ∧ Entry.id entry = id) ∧
        table.byField? name = entries.find? (fun entry => Entry.field? entry == some name) ∧
        table.allByField name = entries.filter fun entry => Entry.field? entry == some name := by
  refine ⟨?_, Table.ofList_error_iff entries, ?_⟩
  · rw [Table.ofList_ok_iff]
    constructor
    · intro plain
      exact ⟨plain.ids, plain.names⟩
    · intro both
      exact ⟨both.1, both.2⟩
  · intro table made
    have listed := Table.entries_of_ofList entries table made
    refine ⟨listed, ?_⟩
    intro id name
    rw [← listed]
    exact ⟨table.byId?_eq_some_iff id, table.byField?_eq_find? name,
      table.allByField_eq_filter name⟩

/-- Two uses of one mask, and between them one of another. -/
def threeUses : List MaskUse :=
  [⟨1, "TRIM"⟩, ⟨2, "UPPER_CASE"⟩, ⟨3, "TRIM"⟩]

theorem threeUses_behave_as_list :
    ∃ table, Table.ofList threeUses = .ok table ∧
      table.byId? 2 = some ⟨2, "UPPER_CASE"⟩ ∧ table.byField? "TRIM" = some ⟨1, "TRIM"⟩ ∧
      table.allByField "TRIM" = [⟨1, "TRIM"⟩, ⟨3, "TRIM"⟩] := by
  obtain ⟨accepted, _, looking⟩ := table_behaves_as_list threeUses
  obtain ⟨table, made⟩ := accepted.mpr ⟨by decide, nofun⟩
  obtain ⟨ids, first, all⟩ := (looking table made).2 2 "TRIM"
  exact ⟨table, made, (ids _).mpr (by decide), first, all⟩

end Crosswalk
