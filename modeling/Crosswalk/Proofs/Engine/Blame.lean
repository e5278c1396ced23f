import Crosswalk.Engine
import Crosswalk.Proofs.Catalog.Construction

/-!
# Who is to blame for an error

A link that passes the check of its catalog can fail only for the record (`assign_blamesRecord`):
its entries and its mask are there, every source field has its path, and every default fits.  A
link that does not pass fails on every record, for what the check reports or, before that is met,
for the record (`assign_of_unchecked`).  So an engine whose links were checked never blames its
catalog on a record (`transform_blames_record`), and one whose links were not fails on every record
where the check does, or at an earlier link for the record (`lazy_fails_as_eager_rejects`).
-/

set_option autoImplicit false

namespace Crosswalk

/-- The computation succeeds or fails with an error of the record level. -/
def BlamesRecord {α : Type} (result : Except Error α) : Prop :=
  ∀ e, result = .error e → e.isRecordLevel = true

theorem blamesRecord_of_ok {α : Type} {result : Except Error α} (ok : ∃ a, result = .ok a) :
    BlamesRecord result := by
  obtain ⟨a, rfl⟩ := ok
  intro e failed
  cases failed

theorem blamesRecord_bind {α β : Type} {first : Except Error α} {next : α → Except Error β}
    (head : BlamesRecord first) (tail : ∀ a, first = .ok a → BlamesRecord (next a)) :
    BlamesRecord (first >>= next) := by
  cases first with
  | error e =>
      intro d failed
      cases failed
      exact head e rfl
  | ok a => exact tail a rfl

/-! ## What building a catalog and an engine settles -/

namespace Catalog
variable (catalog : Catalog)

theorem source_path_ok (field : SourceField) (member : field ∈ catalog.sources.entries) :
    ∃ path, readPath field.path = .ok path := by
  have clean := ((fieldFault?_eq_none_iff _ _).mp catalog.sound).1 field member
  exact (fault?_eq_none_iff _).mp clean

theorem convertedDefault_ok (field : DestinationField)
    (member : field ∈ catalog.destinations.entries) :
    ∃ value, field.convertedDefault = .ok value := by
  have clean := ((fieldFault?_eq_none_iff _ _).mp catalog.sound).2 field member
  rw [DestinationField.fault?, Option.or_eq_none_iff] at clean
  exact (fault?_eq_none_iff _).mp clean.2

theorem checkLink_eq_ok (registry : Registry) (link : Link)
    (passes : catalog.checkLink registry link = .ok ()) :
    ∃ source destination mask, catalog.sourceOf link = .ok source ∧
      catalog.destinationOf link = .ok destination ∧ catalog.maskOf registry link = .ok mask := by
  rw [checkLink] at passes
  obtain ⟨source, sourced, passes⟩ := bind_eq_ok _ _ _ passes
  obtain ⟨destination, destined, passes⟩ := bind_eq_ok _ _ _ passes
  obtain ⟨mask, masked, _⟩ := bind_eq_ok _ _ _ passes
  exact ⟨source, destination, mask, sourced, destined, masked⟩

theorem checkLink_eq_error (registry : Registry) (link : Link) (e : Error)
    (failed : catalog.checkLink registry link = .error e) :
    catalog.sourceOf link = .error e ∨
      ∃ source, catalog.sourceOf link = .ok source ∧
        (catalog.destinationOf link = .error e ∨
          ∃ destination, catalog.destinationOf link = .ok destination ∧
            catalog.maskOf registry link = .error e) := by
  rw [checkLink] at failed
  rcases bind_eq_error _ _ _ failed with unsourced | ⟨source, sourced, failed⟩
  · exact Or.inl unsourced
  refine Or.inr ⟨source, sourced, ?_⟩
  rcases bind_eq_error _ _ _ failed with undestined | ⟨destination, destined, failed⟩
  · exact Or.inl undestined
  refine Or.inr ⟨destination, destined, ?_⟩
  rcases bind_eq_error _ _ _ failed with unmasked | ⟨mask, _, passes⟩
  · exact unmasked
  · cases passes

theorem mem_of_sourceOf (link : Link) (source : SourceField)
    (found : catalog.sourceOf link = .ok source) : source ∈ catalog.sources.entries := by
  rw [sourceOf] at found
  split at found
  · rename_i field present
    cases found
    exact ((catalog.sources.byId?_eq_some_iff _ _).mp present).1
  · cases found

theorem mem_of_destinationOf (link : Link) (destination : DestinationField)
    (found : catalog.destinationOf link = .ok destination) :
    destination ∈ catalog.destinations.entries := by
  rw [destinationOf] at found
  split at found
  · rename_i field present
    cases found
    exact ((catalog.destinations.byId?_eq_some_iff _ _).mp present).1
  · cases found

end Catalog

namespace Engine

theorem compilePaths_ok (catalog : Catalog) :
    ∃ paths, compilePaths catalog.sources.entries = .ok paths := by
  apply mapM_ok_of_forall
  intro field member
  obtain ⟨path, read⟩ := catalog.source_path_ok field member
  exact ⟨(field.id, path), by simp [read, bind, Except.bind, pure, Except.pure]⟩

theorem compilePaths_lookup (fields : List SourceField) (paths : List (EntryId × Path))
    (compiled : compilePaths fields = .ok paths) (field : SourceField) (member : field ∈ fields) :
    ∃ path, paths.lookup field.id = some path := by
  induction fields generalizing paths with
  | nil => cases member
  | cons first rest ih =>
      rw [compilePaths, List.mapM_cons] at compiled
      obtain ⟨entry, read, compiled⟩ := bind_eq_ok _ _ _ compiled
      obtain ⟨others, tail, joined⟩ := bind_eq_ok _ _ _ compiled
      obtain ⟨path, _, named⟩ := bind_eq_ok _ _ _ read
      cases named
      cases joined
      by_cases same : field.id = first.id
      · exact ⟨path, by rw [same, List.lookup_cons_self]⟩
      · have other : field ∈ rest := by
          rcases List.mem_cons.mp member with here | later
          · exact absurd (congrArg SourceField.id here) same
          · exact later
        obtain ⟨found, at_tail⟩ := ih others tail other
        have differ : (field.id == first.id) = false := beq_false_of_ne same
        exact ⟨found, by rw [List.lookup_cons, differ]; exact at_tail⟩

theorem build_eq (catalog : Catalog) (registry : Registry) (validation : LinkValidation) :
    build catalog registry validation =
      (if validation = .eager then catalog.checkLinks registry else .ok ()) >>= fun _ =>
        compilePaths catalog.sources.entries >>= fun paths =>
          pure ⟨catalog, registry, validation, paths⟩ := by
  cases validation <;> rfl

/-- An engine is built with the compiled paths, and with eager validation just if every link passes
the check. -/
theorem build_eq_ok_iff (catalog : Catalog) (registry : Registry) (validation : LinkValidation)
    (engine : Engine) :
    build catalog registry validation = .ok engine ↔
      (validation = .eager → catalog.checkLinks registry = .ok ()) ∧
        ∃ paths, compilePaths catalog.sources.entries = .ok paths ∧
          engine = ⟨catalog, registry, validation, paths⟩ := by
  rw [build_eq]
  constructor
  · intro built
    obtain ⟨_, checked, built⟩ := bind_eq_ok _ _ _ built
    obtain ⟨paths, compiled, made⟩ := bind_eq_ok _ _ _ built
    cases made
    refine ⟨?_, paths, compiled, rfl⟩
    intro eager
    rw [if_pos eager] at checked
    exact checked
  · rintro ⟨checked, paths, compiled, rfl⟩
    have passes : (if validation = .eager then catalog.checkLinks registry else .ok ()) =
        .ok () := by
      split
      · rename_i eager
        exact checked eager
      · rfl
    rw [passes, compiled]
    rfl

/-- The tables and masks of a built engine are those it was built from, and every source field has
its path.  With eager validation every link passes the check. -/
theorem build_spec (catalog : Catalog) (registry : Registry) (validation : LinkValidation)
    (engine : Engine) (built : build catalog registry validation = .ok engine) :
    engine.catalog = catalog ∧ engine.registry = registry ∧
      (∀ field ∈ catalog.sources.entries, ∃ path, engine.pathOf field = .ok path) ∧
        (validation = .eager → catalog.checkLinks registry = .ok ()) := by
  obtain ⟨checked, paths, compiled, rfl⟩ := (build_eq_ok_iff _ _ _ _).mp built
  refine ⟨rfl, rfl, ?_, checked⟩
  intro field member
  obtain ⟨path, found⟩ := compilePaths_lookup _ paths compiled field member
  exact ⟨path, by simp [pathOf, found]⟩

theorem build_lazy_ok (catalog : Catalog) (registry : Registry) :
    ∃ engine, build catalog registry .lazy = .ok engine := by
  obtain ⟨paths, compiled⟩ := compilePaths_ok catalog
  exact ⟨_, (build_eq_ok_iff _ _ _ _).mpr ⟨nofun, paths, compiled, rfl⟩⟩

theorem build_eager_ok_iff (catalog : Catalog) (registry : Registry) :
    (∃ engine, build catalog registry .eager = .ok engine) ↔
      catalog.checkLinks registry = .ok () := by
  obtain ⟨paths, compiled⟩ := compilePaths_ok catalog
  constructor
  · rintro ⟨engine, built⟩
    exact ((build_eq_ok_iff _ _ _ _).mp built).1 rfl
  · intro checked
    exact ⟨_, (build_eq_ok_iff _ _ _ _).mpr ⟨fun _ => checked, paths, compiled, rfl⟩⟩

theorem build_eager_of_rejected (catalog : Catalog) (registry : Registry) (e : Error)
    (rejected : catalog.checkLinks registry = .error e) :
    build catalog registry .eager = .error e := by
  simp [build, rejected, bind, Except.bind]

/-! ## One link -/

theorem sourceValue_blamesRecord (path : Path) (field : SourceField) (record : Json) :
    BlamesRecord (sourceValue path field record) := by
  intro e failed
  rw [sourceValue] at failed
  split at failed
  · split at failed <;> cases failed
    rfl
  · split at failed
    · cases failed
    · split at failed <;> cases failed
      rfl

theorem destinationValue_blamesRecord (field : DestinationField) (mask : Option Mask)
    (value : Option Json) (fits : ∃ converted, field.convertedDefault = .ok converted) :
    BlamesRecord (destinationValue field mask value) := by
  cases value with
  | none => exact blamesRecord_of_ok fits
  | some value =>
      apply blamesRecord_bind
      · intro e failed
        cases converted : Coercion.convert field.name field.kind value with
        | ok json => rw [converted] at failed; cases failed
        | error mismatch =>
            rw [converted] at failed
            cases failed
            rfl
      · intro converted _ e failed
        split at failed <;> cases failed
        rfl

section Links
variable (engine : Engine) (record : Json) (link : Link)

theorem assign_of_found (source : SourceField) (destination : DestinationField) (path : Path)
    (sourced : engine.catalog.sourceOf link = .ok source)
    (destined : engine.catalog.destinationOf link = .ok destination)
    (located : engine.pathOf source = .ok path) :
    engine.assign record link = (do
      let value ← sourceValue path source record
      let mask ← engine.catalog.maskOf engine.registry link
      let stored ← destinationValue destination mask value
      pure ⟨link, source, destination, stored, value.isNone⟩) := by
  simp only [assign, sourced, destined, bind, Except.bind, located]

variable
  (compiled : ∀ field ∈ engine.catalog.sources.entries, ∃ path, engine.pathOf field = .ok path)
include compiled

theorem assign_blamesRecord
    (checked : engine.catalog.checkLink engine.registry link = .ok ()) :
    BlamesRecord (engine.assign record link) := by
  obtain ⟨source, destination, mask, sourced, destined, masked⟩ :=
    engine.catalog.checkLink_eq_ok engine.registry link checked
  obtain ⟨path, located⟩ := compiled source (engine.catalog.mem_of_sourceOf link source sourced)
  have fits := engine.catalog.convertedDefault_ok destination
    (engine.catalog.mem_of_destinationOf link destination destined)
  rw [assign_of_found engine record link source destination path sourced destined located]
  apply blamesRecord_bind (sourceValue_blamesRecord path source record)
  intro value _
  rw [masked]
  apply blamesRecord_bind (destinationValue_blamesRecord destination mask value fits)
  intro stored _
  exact blamesRecord_of_ok ⟨_, rfl⟩

theorem assign_of_unchecked (e : Error)
    (unchecked : engine.catalog.checkLink engine.registry link = .error e) :
    engine.assign record link = .error e ∨
      ∃ d, engine.assign record link = .error d ∧ d.isRecordLevel = true := by
  rcases engine.catalog.checkLink_eq_error engine.registry link e unchecked with
    unsourced | ⟨source, sourced, undestined | ⟨destination, destined, unmasked⟩⟩
  · exact Or.inl (by rw [assign, unsourced]; rfl)
  · exact Or.inl (by rw [assign, sourced, undestined]; rfl)
  · obtain ⟨path, located⟩ := compiled source (engine.catalog.mem_of_sourceOf link source sourced)
    rw [assign_of_found engine record link source destination path sourced destined located]
    -- The value is read before the mask is looked up, so the record may fail first.
    cases read : sourceValue path source record with
    | error d => exact Or.inr ⟨d, rfl, sourceValue_blamesRecord path source record d read⟩
    | ok value => exact Or.inl (by rw [unmasked]; rfl)

end Links

/-! ## A whole record -/

theorem transform_eq_error_iff (engine : Engine) (record : Json) (e : Error) :
    engine.transform record = .error e ↔
      ∃ place, FirstError (engine.assign record) engine.links place e := by
  rw [← mapM_eq_error_iff, transform]
  cases engine.links.mapM (engine.assign record) with
  | error d => simp [bind, Except.bind]
  | ok assignments => simp [bind, Except.bind, pure, Except.pure]

/-- An engine that was built with eager validation turns every record into an output or fails for
the record. -/
theorem transform_blames_record (catalog : Catalog) (registry : Registry) (engine : Engine)
    (built : build catalog registry .eager = .ok engine) (record : Json) :
    (∃ output, engine.transform record = .ok output) ∨
      ∃ e, engine.transform record = .error e ∧ e.isRecordLevel = true ∧
        e.isCatalogLevel = false := by
  obtain ⟨rfl, rfl, compiled, checked⟩ := build_spec catalog registry .eager engine built
  cases transformed : engine.transform record with
  | ok output => exact Or.inl ⟨output, rfl⟩
  | error e =>
      obtain ⟨place, ⟨link, found, failed⟩, _⟩ :=
        (transform_eq_error_iff engine record e).mp transformed
      have passes := (forM_eq_ok_iff _ _).mp (checked rfl) link (List.mem_of_getElem? found)
      have level := assign_blamesRecord engine record link compiled passes e failed
      refine Or.inr ⟨e, rfl, level, ?_⟩
      cases e <;> first | rfl | cases level

/-- Where the check of the links fails, the engine is built with lazy validation all the same, and
every record fails: at the same link for the same reason, or no later for the record. -/
theorem lazy_fails_as_eager_rejects (catalog : Catalog) (registry : Registry) (e : Error)
    (rejected : catalog.checkLinks registry = .error e) :
    ∃ place, FirstError (catalog.checkLink registry) catalog.links.entries place e ∧
      build catalog registry .eager = .error e ∧
        ∃ engine, build catalog registry .lazy = .ok engine ∧
          ∀ record, ∃ place' d, engine.transform record = .error d ∧
            FirstError (engine.assign record) engine.links place' d ∧
              (place' = place ∧ d = e ∨ place' ≤ place ∧ d.isRecordLevel = true) := by
  obtain ⟨place, broken⟩ := (forM_eq_error_iff _ _ e).mp rejected
  obtain ⟨engine, built⟩ := build_lazy_ok catalog registry
  refine ⟨place, broken, build_eager_of_rejected catalog registry e rejected, engine, built, ?_⟩
  intro record
  obtain ⟨rfl, rfl, compiled, _⟩ := build_spec catalog registry .lazy engine built
  have passing : ∀ link b, engine.catalog.checkLink engine.registry link = .ok b →
      (∃ a, engine.assign record link = .ok a) ∨
        ∃ d, engine.assign record link = .error d ∧ d.isRecordLevel = true := by
    intro link b passes
    have blames := assign_blamesRecord engine record link compiled passes
    cases assigned : engine.assign record link with
    | ok a => exact Or.inl ⟨a, rfl⟩
    | error d => exact Or.inr ⟨d, rfl, blames d assigned⟩
  have failing := fun link d => assign_of_unchecked engine record link compiled d
  obtain ⟨place', d, first, agree⟩ :=
    FirstError.no_later passing failing engine.catalog.links.entries place e broken
  exact ⟨place', d, (transform_eq_error_iff engine record d).mpr ⟨place', first⟩, first, agree⟩

/-! ## A catalog with one mask -/

/-- The name is required; the town has a default, and a mask where it is there. -/
def townCatalog : Catalog where
  sources :=
    { entries := [.ofName 1 "Name" .string true, .ofName 2 "Town" .string false],
      index := ⟨[(2, 1), (1, 0)], [("Name", [0]), ("Town", [1])]⟩, indexed := by decide }
  destinations :=
    { entries := [.ofName 1 "Name" .string .null, .ofName 2 "Town" .string (.string "n/a")],
      index := ⟨[(2, 1), (1, 0)], [("Name", [0]), ("Town", [1])]⟩, indexed := by decide }
  maskUses :=
    { entries := [⟨1, "SHOUT"⟩], index := ⟨[(1, 0)], [("SHOUT", [0])]⟩, indexed := by decide }
  links :=
    { entries := [.plain 1 1 1, (Link.plain 2 2 2).withMask 1], index := ⟨[(2, 1), (1, 0)], []⟩,
      indexed := by decide }
  sound := by decide

/-- A mask by the name that the catalog uses. -/
def townMasks : Registry :=
  Registry.empty.register "SHOUT" fun text => text ++ "!"

def townEngine : Engine :=
  ⟨townCatalog, townMasks, .eager,
    [(1, ⟨"$.Name", [.key "Name"]⟩), (2, ⟨"$.Town", [.key "Town"]⟩)]⟩

/-- A record with a number for the town. -/
def townRecord : Json :=
  .object [("Name", .string "Ann"), ("Town", .ofNat 7)]

theorem transform_town_blames_record :
    build townCatalog townMasks .eager = .ok townEngine ∧
      townEngine.transform townRecord =
        .error (.mismatch (.ofValue "Town" .string (.ofNat 7))) ∧
      ((∃ output, townEngine.transform townRecord = .ok output) ∨
        ∃ e, townEngine.transform townRecord = .error e ∧ e.isRecordLevel = true ∧
          e.isCatalogLevel = false) := by
  have built : build townCatalog townMasks .eager = .ok townEngine := rfl
  exact ⟨built, rfl, transform_blames_record townCatalog townMasks townEngine built townRecord⟩

theorem lazy_fails_on_town :
    townCatalog.checkLinks .empty = .error (.unknownMask "SHOUT" []) ∧
      ∃ place, FirstError (townCatalog.checkLink .empty) townCatalog.links.entries place
          (.unknownMask "SHOUT" []) ∧
        build townCatalog .empty .eager = .error (.unknownMask "SHOUT" []) ∧
          ∃ engine, build townCatalog .empty .lazy = .ok engine ∧
            ∀ record, ∃ place' d, engine.transform record = .error d ∧
              FirstError (engine.assign record) engine.links place' d ∧
                (place' = place ∧ d = .unknownMask "SHOUT" [] ∨
                  place' ≤ place ∧ d.isRecordLevel = true) := by
  have rejected : townCatalog.checkLinks .empty = .error (.unknownMask "SHOUT" []) := rfl
  exact ⟨rejected, lazy_fails_as_eager_rejects townCatalog .empty _ rejected⟩

end Engine

end Crosswalk
