import Crosswalk.Catalog.Basic
import Crosswalk.Proofs.Catalog.Table
import Crosswalk.Proofs.Traversal

/-!
# What catalogs are made from

A catalog is made of its own document again (`Catalog.ofDocument_toDocument`), and every document
that a catalog is made from is its own (`Catalog.toDocument_of_ofDocument`).  The documents that
catalogs are made from are those whose entries differ as they have to, whose paths are expressions
and whose defaults fit (`Catalog.ofDocument_ok_iff`).
-/

set_option autoImplicit false

namespace Crosswalk

/-! ## Faults of fields -/

theorem fault?_eq_none_iff {α : Type} (result : Except Error α) :
    fault? result = none ↔ ∃ a, result = .ok a := by
  cases result with
  | error e => simp [fault?]
  | ok a => simp [fault?]

theorem fieldFault?_eq_none_iff (sources : List SourceField)
    (destinations : List DestinationField) :
    fieldFault? sources destinations = none ↔
      (∀ field ∈ sources, field.fault? = none) ∧ ∀ field ∈ destinations, field.fault? = none := by
  rw [fieldFault?, Option.or_eq_none_iff, List.findSome?_eq_none_iff, List.findSome?_eq_none_iff]

/-! ## Tables and documents -/

namespace Catalog

theorem entries_of_table {α : Type} [Entry α] (entries : List α) (made : Table α)
    (success : table entries = .ok made) : made.entries = entries := by
  cases list : Table.ofList entries with
  | error fault =>
      rw [table, list] at success
      cases success
  | ok other =>
      rw [table, list] at success
      cases success
      exact Table.entries_of_ofList entries made list

theorem ofDocument_toDocument (catalog : Catalog) : ofDocument catalog.toDocument = .ok catalog := by
  have each : ∀ {α : Type} [Entry α] (made : Table α), table made.entries = .ok made := by
    intro α _ made
    rw [table, Table.ofList_entries]
    rfl
  rw [ofDocument, toDocument]
  simp only [each, bind, Except.bind]
  split
  · rfl
  · rename_i fault
    rw [catalog.sound] at fault
    cases fault

theorem toDocument_of_ofDocument (document : Document) (catalog : Catalog)
    (made : ofDocument document = .ok catalog) : catalog.toDocument = document := by
  obtain ⟨sources, first, made⟩ := bind_eq_ok _ _ _ made
  obtain ⟨destinations, second, made⟩ := bind_eq_ok _ _ _ made
  obtain ⟨maskUses, third, made⟩ := bind_eq_ok _ _ _ made
  obtain ⟨links, fourth, made⟩ := bind_eq_ok _ _ _ made
  split at made
  · cases made
    change Document.mk sources.entries destinations.entries maskUses.entries links.entries = _
    rw [entries_of_table _ _ first, entries_of_table _ _ second, entries_of_table _ _ third,
      entries_of_table _ _ fourth]
  · cases made

end Catalog

/-! ## The documents that catalogs are made from -/

/-- The entries of each table differ in their identifiers, and the fields of records in their names
as well. -/
structure Document.Distinct (document : Document) : Prop where
  sourceIds : (document.sources.map SourceField.id).Nodup
  sourceNames : (document.sources.map SourceField.name).Nodup
  destinationIds : (document.destinations.map DestinationField.id).Nodup
  destinationNames : (document.destinations.map DestinationField.name).Nodup
  maskUseIds : (document.maskUses.map MaskUse.id).Nodup
  linkIds : (document.links.map Link.id).Nodup

theorem filterMap_some {α β : Type} (f : α → β) (entries : List α) :
    entries.filterMap (fun entry => some (f entry)) = entries.map f :=
  congrFun List.filterMap_eq_map' entries

theorem Document.distinct_iff (document : Document) :
    document.Distinct ↔
      Unrepeated document.sources ∧ Unrepeated document.destinations ∧
        Unrepeated document.maskUses ∧ Unrepeated document.links := by
  have sourceNames := filterMap_some SourceField.name document.sources
  have destinationNames := filterMap_some DestinationField.name document.destinations
  constructor
  · intro distinct
    refine ⟨⟨distinct.sourceIds, fun _ => ?_⟩, ⟨distinct.destinationIds, fun _ => ?_⟩,
      ⟨distinct.maskUseIds, nofun⟩, ⟨distinct.linkIds, nofun⟩⟩
    · exact sourceNames ▸ distinct.sourceNames
    · exact destinationNames ▸ distinct.destinationNames
  · rintro ⟨⟨sourceIds, sources⟩, ⟨destinationIds, destinations⟩, ⟨maskUseIds, _⟩, ⟨linkIds, _⟩⟩
    exact {
      sourceIds, destinationIds, maskUseIds, linkIds
      sourceNames := sourceNames ▸ sources rfl
      destinationNames := destinationNames ▸ destinations rfl }

theorem readPath_eq_ok_iff (text : String) (path : Path) :
    readPath text = .ok path ↔ Path.parse text = .ok path := by
  rw [readPath, mapError_eq_ok_iff]

theorem SourceField.fault?_eq_none_iff (field : SourceField) :
    field.fault? = none ↔ ∃ path, readPath field.path = .ok path := by
  rw [SourceField.fault?, Crosswalk.fault?_eq_none_iff]

theorem DestinationField.fault?_eq_none_iff (field : DestinationField) :
    field.fault? = none ↔
      (∃ path, readPath field.path = .ok path) ∧ ∃ value, field.convertedDefault = .ok value := by
  rw [DestinationField.fault?, Option.or_eq_none_iff, Crosswalk.fault?_eq_none_iff,
    Crosswalk.fault?_eq_none_iff]

/-- A catalog is made from a document just if its entries differ as they have to, its paths are
expressions and its defaults fit. -/
theorem Catalog.ofDocument_ok_iff (document : Document) :
    (∃ catalog, ofDocument document = .ok catalog) ↔
      document.Distinct ∧
        (∀ field ∈ document.sources, ∃ path, readPath field.path = .ok path) ∧
        ∀ field ∈ document.destinations,
          (∃ path, readPath field.path = .ok path) ∧
            ∃ value, field.convertedDefault = .ok value := by
  simp only [Document.distinct_iff, ← SourceField.fault?_eq_none_iff,
    ← DestinationField.fault?_eq_none_iff, ← fieldFault?_eq_none_iff]
  constructor
  · rintro ⟨catalog, made⟩
    obtain rfl := toDocument_of_ofDocument document catalog made
    exact ⟨⟨catalog.sources.unrepeated, catalog.destinations.unrepeated,
      catalog.maskUses.unrepeated, catalog.links.unrepeated⟩, catalog.sound⟩
  · rintro ⟨⟨sources, destinations, maskUses, links⟩, sound⟩
    obtain ⟨_, sources⟩ := (Index.ofEntries_ok_iff document.sources).mpr sources
    obtain ⟨_, destinations⟩ := (Index.ofEntries_ok_iff document.destinations).mpr destinations
    obtain ⟨_, maskUses⟩ := (Index.ofEntries_ok_iff document.maskUses).mpr maskUses
    obtain ⟨_, links⟩ := (Index.ofEntries_ok_iff document.links).mpr links
    exact ⟨_, ofDocument_toDocument
      ⟨⟨_, sources⟩, ⟨_, destinations⟩, ⟨_, maskUses⟩, ⟨_, links⟩, sound⟩⟩

end Crosswalk
