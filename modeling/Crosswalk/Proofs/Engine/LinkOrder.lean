import Crosswalk.Proofs.Engine.Meaning

/-!
# The order of links

Catalogs that differ only in the order of their links pass the check of the links alike
(`Catalog.Reordered.checkLinks_ok_iff`), and each link by itself does the same in their engines
(`assign_reordered`).  Links into different destinations write under different names, so a field of
an output has the value of the one link that writes it (`get?_transform_iff`), and the order of the
links settles the order of the fields and nothing else (`reordered_links_reorder_output`).
-/

set_option autoImplicit false

namespace Crosswalk

/-! ## Catalogs -/

namespace Catalog

/-- The catalogs differ at most in the order of their links. -/
structure Reordered (a b : Catalog) : Prop where
  sources : a.sources = b.sources
  destinations : a.destinations = b.destinations
  maskUses : a.maskUses = b.maskUses
  links : a.links.entries.Perm b.links.entries

namespace Reordered
variable {a b : Catalog} (reordered : Reordered a b)
include reordered

theorem sourceOf_eq (link : Link) : a.sourceOf link = b.sourceOf link := by
  rw [sourceOf, sourceOf, reordered.sources]

theorem destinationOf_eq (link : Link) : a.destinationOf link = b.destinationOf link := by
  rw [destinationOf, destinationOf, reordered.destinations]

theorem maskOf_eq (registry : Registry) (link : Link) :
    a.maskOf registry link = b.maskOf registry link := by
  rw [maskOf, maskOf, maskUseOf, maskUseOf, reordered.maskUses]

theorem checkLinks_ok_iff (registry : Registry) :
    a.checkLinks registry = .ok () ↔ b.checkLinks registry = .ok () := by
  have same : a.checkLink registry = b.checkLink registry := by
    funext link
    rw [checkLink, checkLink, reordered.sourceOf_eq, reordered.destinationOf_eq,
      reordered.maskOf_eq]
  rw [checkLinks, checkLinks, forM_eq_ok_iff, forM_eq_ok_iff, same]
  exact forall_congr' fun link => imp_congr reordered.links.mem_iff Iff.rfl

end Reordered

end Catalog

/-! ## Engines -/

namespace Engine

/-- In engines of the same mode for catalogs with the same links, a link does the same. -/
theorem assign_reordered {a b : Catalog} (reordered : Catalog.Reordered a b)
    (registry : Registry) (validation : LinkValidation) (first second : Engine)
    (built : build a registry validation = .ok first)
    (built' : build b registry validation = .ok second) (record : Json) :
    first.assign record = second.assign record := by
  obtain ⟨_, paths, compiled, rfl⟩ := (build_eq_ok_iff _ _ _ _).mp built
  obtain ⟨_, paths', compiled', rfl⟩ := (build_eq_ok_iff _ _ _ _).mp built'
  have paths_eq : paths = paths' := by
    rw [reordered.sources, compiled'] at compiled
    exact (Except.ok.inj compiled).symm
  subst paths_eq
  funext link
  simp only [assign, pathOf, reordered.sourceOf_eq, reordered.destinationOf_eq,
    reordered.maskOf_eq]

/-! ## Links into different destinations -/

variable (engine : Engine) (record : Json)

theorem nodup_names_of_distinct (links : List Link) (assignments : List Assignment)
    (assigned : List.Forall₂ (fun link a => engine.assign record link = .ok a)
      links assignments)
    (distinct : (links.map Link.destination).Nodup) :
    (assignments.map fun a => a.destination.name).Nodup := by
  induction assigned with
  | nil => exact List.nodup_nil
  | @cons link assignment links assignments head tail ih =>
      obtain ⟨once, distinct⟩ := List.nodup_cons.mp distinct
      refine List.nodup_cons.mpr ⟨?_, ih distinct⟩
      intro again
      obtain ⟨later, member, same⟩ := List.mem_map.mp again
      obtain ⟨link', found, assigned'⟩ := forall₂_mem_right tail later member
      have into := (engine.catalog.name_eq_iff link' link _ _
        (destinationOf_of_assign engine record link' later assigned')
        (destinationOf_of_assign engine record link assignment head)).mp same
      exact once (List.mem_map.mpr ⟨link', found, into⟩)

section Distinct
variable (distinct : (engine.links.map Link.destination).Nodup) (output : Record)
  (transformed : engine.transform record = .ok output)
include distinct transformed

/-- Every link has its own field, and the fields stand in the order of the links. -/
theorem fields_in_link_order :
    List.Forall₂ (fun link field => ∃ a, engine.assign record link = .ok a ∧
      field = (a.destination.name, a.value)) engine.links output := by
  obtain ⟨assignments, assigned, rfl⟩ := (transform_eq_ok_iff engine record output).mp transformed
  have names := nodup_names_of_distinct engine record _ _ assigned distinct
  rw [Fields.ofEntries_of_nodup _ (by rw [Fields.names, List.map_map]; exact names),
    List.forall₂_map_right_iff]
  exact assigned.imp fun link a passes => ⟨a, passes, rfl⟩

theorem names_in_link_order :
    List.Forall₂ (fun link name => ∃ destination,
      engine.catalog.destinationOf link = .ok destination ∧ destination.name = name)
        engine.links (Fields.names output) := by
  rw [Fields.names, List.forall₂_map_right_iff]
  refine (fields_in_link_order engine record distinct output transformed).imp ?_
  rintro link field ⟨a, assigned, rfl⟩
  exact ⟨a.destination, destinationOf_of_assign engine record link a assigned, rfl⟩

theorem get?_transform_iff (name : String) (value : Json) :
    Fields.get? output name = some value ↔
      ∃ link ∈ engine.links, ∃ a, engine.assign record link = .ok a ∧
        (name, value) = (a.destination.name, a.value) := by
  have once := (names_of_transform engine record output transformed).2
  have fields := fields_in_link_order engine record distinct output transformed
  rw [Fields.get?_eq_some_iff output once]
  constructor
  · exact forall₂_mem_right fields (name, value)
  · rintro ⟨link, member, a, assigned, named⟩
    obtain ⟨field, kept, a', assigned', made⟩ := forall₂_mem_left fields link member
    rw [assigned] at assigned'
    cases assigned'
    rw [named, ← made]
    exact kept

end Distinct

theorem transform_ok_iff :
    (∃ output, engine.transform record = .ok output) ↔
      ∀ link ∈ engine.links, ∃ a, engine.assign record link = .ok a := by
  constructor
  · rintro ⟨output, transformed⟩ link member
    obtain ⟨assignments, assigned, _⟩ := (transform_eq_ok_iff engine record output).mp transformed
    obtain ⟨a, _, passes⟩ := forall₂_mem_left assigned link member
    exact ⟨a, passes⟩
  · intro passes
    obtain ⟨assignments, collected⟩ := mapM_ok_of_forall _ _ passes
    exact ⟨_, (transform_eq_ok_iff engine record _).mpr
      ⟨assignments, (mapM_eq_ok_iff _ _ _).mp collected, rfl⟩⟩

/-- Let two catalogs differ only in the order of their links, which go into different destinations.
The engine that checks its links can be built for both or for neither.  Engines of the same mode
transform the same records, to outputs with the same values under the same names, in each of which
the names stand in the order of the links of its catalog. -/
theorem reordered_links_reorder_output (a b : Catalog) (reordered : Catalog.Reordered a b)
    (distinct : (a.links.entries.map Link.destination).Nodup) (registry : Registry) :
    ((∃ engine, build a registry .eager = .ok engine) ↔
      ∃ engine, build b registry .eager = .ok engine) ∧
    ∀ validation first second, build a registry validation = .ok first →
      build b registry validation = .ok second → ∀ record,
        ((∃ output, first.transform record = .ok output) ↔
          ∃ output, second.transform record = .ok output) ∧
        ∀ output output', first.transform record = .ok output →
          second.transform record = .ok output' →
            (∀ name, Fields.get? output name = Fields.get? output' name) ∧
            List.Forall₂ (fun link name => ∃ destination,
              a.destinationOf link = .ok destination ∧ destination.name = name)
                a.links.entries (Fields.names output) ∧
            List.Forall₂ (fun link name => ∃ destination,
              b.destinationOf link = .ok destination ∧ destination.name = name)
                b.links.entries (Fields.names output') := by
  constructor
  · rw [build_eager_ok_iff, build_eager_ok_iff, reordered.checkLinks_ok_iff]
  intro validation first second built built' record
  have same := assign_reordered reordered registry validation first second built built' record
  obtain ⟨rfl, _⟩ := build_spec a registry validation first built
  obtain ⟨rfl, _⟩ := build_spec b registry validation second built'
  have member : ∀ link, link ∈ first.links ↔ link ∈ second.links := fun link =>
    reordered.links.mem_iff
  have distinct' : (second.links.map Link.destination).Nodup :=
    (reordered.links.map Link.destination).nodup_iff.mp distinct
  constructor
  · rw [transform_ok_iff, transform_ok_iff, same]
    exact forall_congr' fun link => imp_congr (member link) Iff.rfl
  intro output output' transformed transformed'
  refine ⟨?_, names_in_link_order first record distinct output transformed,
    names_in_link_order second record distinct' output' transformed'⟩
  intro name
  ext value
  rw [get?_transform_iff first record distinct output transformed,
    get?_transform_iff second record distinct' output' transformed', same]
  simp only [member]

/-! ## A catalog with its links the other way round -/

/-- The links of `townCatalog`, last to first. -/
def turnedTownCatalog : Catalog :=
  { townCatalog with links := ⟨[(Link.plain 2 2 2).withMask 1, .plain 1 1 1], rfl⟩ }

def turnedTownEngine : Engine :=
  { townEngine with catalog := turnedTownCatalog }

def bathRecord : Json :=
  .object [("Name", .string "Ann"), ("Town", .string "Bath")]

theorem turnedTown_reorders_output :
    Catalog.Reordered townCatalog turnedTownCatalog ∧
    (townCatalog.links.entries.map Link.destination).Nodup ∧
    townEngine.transform bathRecord = .ok [("Name", .string "Ann"), ("Town", .string "Bath!")] ∧
    turnedTownEngine.transform bathRecord =
      .ok [("Town", .string "Bath!"), ("Name", .string "Ann")] ∧
    ∀ name, Fields.get? [("Name", .string "Ann"), ("Town", Json.string "Bath!")] name =
      Fields.get? [("Town", .string "Bath!"), ("Name", Json.string "Ann")] name := by
  have reordered : Catalog.Reordered townCatalog turnedTownCatalog :=
    ⟨rfl, rfl, rfl, List.Perm.swap ..⟩
  have distinct : (townCatalog.links.entries.map Link.destination).Nodup := by decide
  have straight : townEngine.transform bathRecord =
      .ok [("Name", .string "Ann"), ("Town", .string "Bath!")] := rfl
  have turned : turnedTownEngine.transform bathRecord =
      .ok [("Town", .string "Bath!"), ("Name", .string "Ann")] := rfl
  obtain ⟨_, engines⟩ := reordered_links_reorder_output _ _ reordered distinct townMasks
  obtain ⟨_, outputs⟩ := engines .eager townEngine turnedTownEngine rfl rfl bathRecord
  exact ⟨reordered, distinct, straight, turned, (outputs _ _ straight turned).1⟩

end Engine

end Crosswalk
