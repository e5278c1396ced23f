import Crosswalk.Proofs.Engine.Meaning

/-!
# The kinds of output values

A converted value has the kind it was converted to, and a mask leaves text text.  So every value of
an output has the kind of its destination, but for a null that stands for a missing value where
the default is null (`output_kinds`).
-/

set_option autoImplicit false

namespace Crosswalk

/-! ## Converted values -/

namespace Coercion

theorem of_convert? (kind : Kind) (value converted : Json)
    (conversion : convert? kind value = some converted) : Kind.of converted = some kind := by
  cases kind with
  | string =>
      cases conversion
      rfl
  | float =>
      obtain ⟨x, _, rfl⟩ := Option.map_eq_some_iff.mp conversion
      rfl
  | integer =>
      obtain ⟨number, chosen, rfl⟩ := Option.map_eq_some_iff.mp conversion
      obtain ⟨n, _, fitting⟩ := Option.bind_eq_some_iff.mp chosen
      rw [Number.ofInt?] at fitting
      split at fitting <;> cases fitting
      rfl
  | boolean =>
      obtain ⟨flag, _, rfl⟩ := Option.map_eq_some_iff.mp conversion
      rfl
  | list =>
      cases value <;> cases conversion
      rfl
  | mapping =>
      cases value <;> cases conversion
      rfl

theorem of_convert (field : String) (kind : Kind) (value converted : Json)
    (conversion : convert field kind value = .ok converted) :
    Kind.of converted = some kind := by
  rw [convert] at conversion
  split at conversion
  · rename_i result found
    cases conversion
    exact of_convert? kind value converted found
  · cases conversion

theorem of_convertDefault (field : String) (kind : Kind) (default converted : Json)
    (conversion : convertDefault field kind default = .ok converted) :
    Kind.of converted = some kind ∨ converted = .null ∧ default = .null := by
  rw [convertDefault] at conversion
  split at conversion
  · rename_i null
    cases conversion
    exact Or.inr ⟨rfl, (Engine.isNull_iff default).mp null⟩
  · exact Or.inl (of_convert field kind default converted conversion)

end Coercion

namespace Engine

theorem of_masked {mask : Option Mask} {value stored : Json} (result : Masked mask value stored)
    (kind : Kind) (before : Kind.of value = some kind) : Kind.of stored = some kind := by
  cases result with
  | none => exact before
  | some mask text => exact before

section Links
variable {engine : Engine} {record : Json}

/-- What a link writes has the kind of the destination, or is null for want of a value. -/
theorem of_writes {link : Link} {destination : DestinationField} {value : Json}
    (writes : Writes engine record link destination value) :
    Kind.of value = some destination.kind ∨
      value = .null ∧ destination.default = .null ∧ SourceMissing engine record link := by
  cases writes with
  | default source path mask _ sourced destined located masked missing converted =>
      rcases Coercion.of_convertDefault _ _ _ _ converted with kind | ⟨rfl, null⟩
      · exact Or.inl kind
      · refine Or.inr ⟨rfl, null, source, path, sourced, located, ?_⟩
        rcases missing with ⟨absent, _⟩ | empty
        · exact Or.inl absent
        · exact Or.inr empty
  | value source path mask found converted _ sourced destined located masked present filled fits
      conversion result =>
      have kind := Coercion.of_convert _ _ _ _ conversion
      exact Or.inl (of_masked result destination.kind kind)

end Links

/-- Every field of an output is named after a destination, and its value has the kind of that
destination, unless it is null: the default is null, and the last link into the destination found
no value. -/
theorem output_kinds (engine : Engine) (record : Json) (output : Record)
    (transformed : engine.transform record = .ok output) :
    (∀ field ∈ output, ∃ destination ∈ engine.catalog.destinations.entries,
      field.1 = destination.name) ∧
    ∀ destination ∈ engine.catalog.destinations.entries, ∀ value,
      Fields.get? output destination.name = some value →
        Kind.of value = some destination.kind ∨
          value = .null ∧ destination.default = .null ∧
            ∃ last, LastInto engine.links destination.id last ∧
              SourceMissing engine record last := by
  have carries := carries_of_transform engine record output transformed
  constructor
  · intro field member
    obtain ⟨link, _, destination, _, destined, named, _, _⟩ :=
      forall₂_mem_right carries field member
    have known := ((engine.catalog.destinationOf_eq_ok_iff link destination).mp destined).1
    exact ⟨destination, known, named⟩
  · intro destination known value found
    obtain ⟨link, _, other, last, destined, named, ends, writes⟩ :=
      forall₂_mem_right carries _ (Fields.mem_of_get? _ _ _ found)
    obtain ⟨known', id⟩ := (engine.catalog.destinationOf_eq_ok_iff link other).mp destined
    have same := engine.catalog.destination_eq_of_name_eq _ _ known known' named
    subst other
    rw [← id] at ends
    rcases of_writes writes with kind | ⟨rfl, null, missing⟩
    · exact Or.inl kind
    · exact Or.inr ⟨rfl, null, last, ends, missing⟩

theorem output_kinds_without_nickname :
    nicknameEngine.transform (.object [("Name", .string "Ann")]) =
      .ok [("Name", .null), ("Town", .string "n/a")] ∧
    (∀ field ∈ [("Name", Json.null), ("Town", .string "n/a")],
      ∃ destination ∈ nicknameEngine.catalog.destinations.entries,
        field.1 = destination.name) ∧
    ∀ destination ∈ nicknameEngine.catalog.destinations.entries, ∀ value,
      Fields.get? [("Name", Json.null), ("Town", .string "n/a")] destination.name = some value →
        Kind.of value = some destination.kind ∨
          value = .null ∧ destination.default = .null ∧
            ∃ last, LastInto nicknameEngine.links destination.id last ∧
              SourceMissing nicknameEngine (.object [("Name", .string "Ann")]) last := by
  have transformed : nicknameEngine.transform (.object [("Name", .string "Ann")]) =
      .ok [("Name", .null), ("Town", .string "n/a")] := rfl
  exact ⟨transformed, output_kinds nicknameEngine _ _ transformed⟩

end Engine

end Crosswalk
