import Crosswalk.Proofs.Catalog.Construction
import Crosswalk.Proofs.Path.Grammar

/-!
# Which documents are accepted

A catalog is made of a document just if the document is well formed: its entries differ, its paths
are expressions, and its defaults are null or convert to the kinds of their fields.  So neither the
order of the entries matters, nor what the links refer to, nor which masks are named
(`accepts_exactly_wellFormed`).
-/

set_option autoImplicit false

namespace Crosswalk

namespace Document

structure WellFormed (document : Document) : Prop where
  distinct : document.Distinct
  sourcePaths : ∀ field ∈ document.sources, ∃ steps, Path.Expression field.path.toList steps
  destinationPaths : ∀ field ∈ document.destinations,
    ∃ steps, Path.Expression field.path.toList steps
  defaults : ∀ field ∈ document.destinations, field.default = .null ∨
    ∃ value, Coercion.convert field.name field.kind field.default = .ok value

/-- The same fields in some order, and as many uses of masks and links with the same identifiers in
some order, whatever they refer to. -/
structure Rearranged (document other : Document) : Prop where
  sources : document.sources.Perm other.sources
  destinations : document.destinations.Perm other.destinations
  maskUses : (document.maskUses.map MaskUse.id).Perm (other.maskUses.map MaskUse.id)
  links : (document.links.map Link.id).Perm (other.links.map Link.id)

end Document

/-! ## Paths and defaults -/

theorem readPath_ok_iff (text : String) :
    (∃ path, readPath text = .ok path) ↔ ∃ steps, Path.Expression text.toList steps := by
  simp only [readPath_eq_ok_iff]
  exact Path.exists_parse_iff text

theorem convertedDefault_ok_iff (field : DestinationField) :
    (∃ value, field.convertedDefault = .ok value) ↔
      field.default = .null ∨
        ∃ value, Coercion.convert field.name field.kind field.default = .ok value := by
  simp only [DestinationField.convertedDefault, mapError_eq_ok_iff, Coercion.convertDefault]
  cases field.default with
  | null => simp [Json.isNull]
  | bool _ | number _ | string _ | array _ | object _ => simp [Json.isNull]

theorem accepted_iff_wellFormed (document : Document) :
    (∃ catalog, Catalog.ofDocument document = .ok catalog) ↔ document.WellFormed := by
  simp only [Catalog.ofDocument_ok_iff, readPath_ok_iff, convertedDefault_ok_iff]
  constructor
  · intro checks
    obtain ⟨distinct, sources, destinations⟩ := checks
    exact ⟨distinct, sources, fun field member => (destinations field member).1,
      fun field member => (destinations field member).2⟩
  · intro wellFormed
    refine ⟨wellFormed.distinct, wellFormed.sourcePaths, ?_⟩
    intro field member
    exact ⟨wellFormed.destinationPaths field member, wellFormed.defaults field member⟩

/-! ## Rearranged documents -/

namespace Document

variable {document other : Document}

theorem Rearranged.symm (rearranged : document.Rearranged other) : other.Rearranged document where
  sources := rearranged.sources.symm
  destinations := rearranged.destinations.symm
  maskUses := rearranged.maskUses.symm
  links := rearranged.links.symm

theorem Rearranged.distinct (rearranged : document.Rearranged other)
    (distinct : document.Distinct) : other.Distinct where
  sourceIds := (rearranged.sources.map SourceField.id).nodup distinct.sourceIds
  sourceNames := (rearranged.sources.map SourceField.name).nodup distinct.sourceNames
  destinationIds :=
    (rearranged.destinations.map DestinationField.id).nodup distinct.destinationIds
  destinationNames :=
    (rearranged.destinations.map DestinationField.name).nodup distinct.destinationNames
  maskUseIds := rearranged.maskUses.nodup distinct.maskUseIds
  linkIds := rearranged.links.nodup distinct.linkIds

theorem Rearranged.wellFormed (rearranged : document.Rearranged other)
    (wellFormed : document.WellFormed) : other.WellFormed where
  distinct := rearranged.distinct wellFormed.distinct
  sourcePaths field member :=
    wellFormed.sourcePaths field (rearranged.sources.mem_iff.mpr member)
  destinationPaths field member :=
    wellFormed.destinationPaths field (rearranged.destinations.mem_iff.mpr member)
  defaults field member :=
    wellFormed.defaults field (rearranged.destinations.mem_iff.mpr member)

end Document

/-- The documents that catalogs are made of are the well-formed ones, and a document is accepted
just if any rearranged one is. -/
theorem accepts_exactly_wellFormed (document : Document) :
    ((∃ catalog, Catalog.ofDocument document = .ok catalog) ↔ document.WellFormed) ∧
      ∀ other, document.Rearranged other →
        ((∃ catalog, Catalog.ofDocument document = .ok catalog) ↔
          ∃ catalog, Catalog.ofDocument other = .ok catalog) := by
  refine ⟨accepted_iff_wellFormed document, ?_⟩
  intro other rearranged
  rw [accepted_iff_wellFormed, accepted_iff_wellFormed]
  constructor
  · intro wellFormed
    exact rearranged.wellFormed wellFormed
  · intro wellFormed
    exact rearranged.symm.wellFormed wellFormed

/-- Two fields on either side, with links between them and a mask. -/
def pairDocument (mask : String) (links : List Link) : Document where
  sources := [.ofName 1 "Age" .string true, .ofName 2 "Town" .string false]
  destinations := [.ofName 1 "Age" .float (.string " 18 "), .ofName 2 "Town" .string .null]
  maskUses := [⟨1, mask⟩]
  links

/-- The second document has no link that leads anywhere, two links into one destination, and a mask
that nobody knows. -/
theorem dangling_references_accepted :
    (pairDocument "TRIM" [.plain 1 1 1, (Link.plain 2 2 2).withMask 1]).WellFormed ∧
      ∃ catalog, Catalog.ofDocument
        (pairDocument "SHRUG" [(Link.plain 2 7 9).withMask 8, .plain 1 5 9]) = .ok catalog := by
  have paths : ∀ name ∈ ["Age", "Town"],
      ∃ steps, Path.Expression (memberPath name).toList steps := by
    intro name member
    refine ⟨[.key name], (Path.parseChars_iff _ _).mp ?_⟩
    rcases List.mem_pair.mp member with rfl | rfl <;> decide
  have wellFormed :
      (pairDocument "TRIM" [.plain 1 1 1, (Link.plain 2 2 2).withMask 1]).WellFormed := by
    constructor
    · constructor <;> decide
    · intro field member
      rcases List.mem_pair.mp member with rfl | rfl
      · exact paths "Age" (by decide)
      · exact paths "Town" (by decide)
    · intro field member
      rcases List.mem_pair.mp member with rfl | rfl
      · exact paths "Age" (by decide)
      · exact paths "Town" (by decide)
    · intro field member
      rcases List.mem_pair.mp member with rfl | rfl
      · exact .inr ⟨_, rfl⟩
      · exact .inl rfl
  obtain ⟨accepted, rearranged⟩ := accepts_exactly_wellFormed
    (pairDocument "TRIM" [.plain 1 1 1, (Link.plain 2 2 2).withMask 1])
  refine ⟨wellFormed, (rearranged _ ?_).mp (accepted.mpr wellFormed)⟩
  exact ⟨.refl _, .refl _, .refl _, .swap ..⟩

end Crosswalk
