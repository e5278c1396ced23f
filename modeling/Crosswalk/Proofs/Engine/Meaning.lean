import Crosswalk.Proofs.Catalog.Table
import Crosswalk.Proofs.Engine.Blame
import Crosswalk.Proofs.Fields

/-!
# What the output of a record holds

A link by itself writes a value into its destination, or fails (`Writes`, `writes_iff`).  A record
fails at the first link that fails.  If none does, its output has one field for every link that is
the first into its destination, in the order of these links, and each field has the value of the
last link into that destination (`transform_meaning`).
-/

set_option autoImplicit false

namespace Crosswalk

/-! ## What a link refers to -/

namespace Catalog
variable (catalog : Catalog)

theorem destinationOf_eq_ok_iff_found (link : Link) (field : DestinationField) :
    catalog.destinationOf link = .ok field ↔
      catalog.destinations.byId? link.destination = some field := by
  rw [destinationOf]
  cases catalog.destinations.byId? link.destination <;> simp

theorem destinationOf_eq_ok_iff (link : Link) (field : DestinationField) :
    catalog.destinationOf link = .ok field ↔
      field ∈ catalog.destinations.entries ∧ field.id = link.destination :=
  (catalog.destinationOf_eq_ok_iff_found link field).trans
    (catalog.destinations.byId?_eq_some_iff link.destination field)

/-- Destinations differ in their names. -/
theorem destination_eq_of_name_eq (a b : DestinationField)
    (first : a ∈ catalog.destinations.entries) (second : b ∈ catalog.destinations.entries)
    (same : a.name = b.name) : a = b := by
  have distinct : (catalog.destinations.entries.filterMap fun field => some field.name).Nodup :=
    catalog.destinations.nodup_names rfl
  rw [List.filterMap_eq_map'] at distinct
  exact List.inj_on_of_nodup_map distinct first second same

/-- Two links write under one name just when they have one destination. -/
theorem name_eq_iff (a b : Link) (first second : DestinationField)
    (destined : catalog.destinationOf a = .ok first)
    (other : catalog.destinationOf b = .ok second) :
    first.name = second.name ↔ a.destination = b.destination := by
  obtain ⟨member, id⟩ := (catalog.destinationOf_eq_ok_iff a first).mp destined
  obtain ⟨member', id'⟩ := (catalog.destinationOf_eq_ok_iff b second).mp other
  constructor
  · intro same
    rw [← id, ← id', catalog.destination_eq_of_name_eq first second member member' same]
  · intro same
    have ids : first.id = second.id := by rw [id, id', same]
    rw [List.inj_on_of_nodup_map catalog.destinations.nodup_ids member member' ids]

end Catalog

/-! ## One link -/

namespace Engine

/-- The path of the source field leads to nothing in the record, or to null. -/
def SourceMissing (engine : Engine) (record : Json) (link : Link) : Prop :=
  ∃ source path, engine.catalog.sourceOf link = .ok source ∧ engine.pathOf source = .ok path ∧
    (path.resolve? record = none ∨ path.resolve? record = some .null)

/-- What a mask makes of a value: without one the value stays, and with one it has to be text. -/
inductive Masked : Option Mask → Json → Json → Prop where
  | none (value : Json) : Masked none value value
  | some (mask : Mask) (text : String) : Masked (some mask) (.string text) (.string (mask text))

/-- A link by itself writes a value: the default of its destination, which no mask touches, where
the source has no value, and what the mask makes of the converted value where it has one. -/
inductive Writes (engine : Engine) (record : Json) (link : Link)
    (destination : DestinationField) : Json → Prop where
  | default (source : SourceField) (path : Path) (mask : Option Mask) (value : Json)
      (sourced : engine.catalog.sourceOf link = .ok source)
      (destined : engine.catalog.destinationOf link = .ok destination)
      (located : engine.pathOf source = .ok path)
      (masked : engine.catalog.maskOf engine.registry link = .ok mask)
      (missing : path.resolve? record = none ∧ source.required = false ∨
        path.resolve? record = some .null)
      (converted : Coercion.convertDefault destination.name destination.kind
        destination.default = .ok value) :
      Writes engine record link destination value
  | value (source : SourceField) (path : Path) (mask : Option Mask) (found converted stored : Json)
      (sourced : engine.catalog.sourceOf link = .ok source)
      (destined : engine.catalog.destinationOf link = .ok destination)
      (located : engine.pathOf source = .ok path)
      (masked : engine.catalog.maskOf engine.registry link = .ok mask)
      (present : path.resolve? record = some found)
      (filled : found ≠ .null)
      (fits : Kind.of found = some source.kind)
      (conversion : Coercion.convert destination.name destination.kind found = .ok converted)
      (result : Masked mask converted stored) :
      Writes engine record link destination stored

theorem isNull_iff (value : Json) : value.isNull = true ↔ value = .null := by
  cases value <;> simp [Json.isNull]

theorem sourceValue_eq_none_iff (path : Path) (field : SourceField) (record : Json) :
    sourceValue path field record = .ok none ↔
      path.resolve? record = none ∧ field.required = false ∨
        path.resolve? record = some .null := by
  rw [sourceValue]
  cases path.resolve? record with
  | none => cases field.required <;> simp
  | some value =>
      by_cases empty : value = .null
      · simp [empty, Json.isNull]
      · have filled : ¬ value.isNull = true := fun null => empty ((isNull_iff value).mp null)
        by_cases fits : Kind.of value = some field.kind <;> simp [empty, filled, fits]

theorem sourceValue_eq_some_iff (path : Path) (field : SourceField) (record found : Json) :
    sourceValue path field record = .ok (some found) ↔
      path.resolve? record = some found ∧ found ≠ .null ∧ Kind.of found = some field.kind := by
  rw [sourceValue]
  constructor
  · intro read
    split at read
    · split at read <;> cases read
    · rename_i value resolved
      split at read
      · cases read
      · rename_i filled
        split at read
        · rename_i fits
          cases read
          exact ⟨resolved, fun null => filled ((isNull_iff found).mpr null), fits⟩
        · cases read
  · rintro ⟨resolved, filled, fits⟩
    have full : ¬ found.isNull = true := fun null => filled ((isNull_iff found).mp null)
    simp only [resolved, if_neg full, if_pos fits]

theorem destinationValue_none (field : DestinationField) (mask : Option Mask) (value : Json) :
    destinationValue field mask none = .ok value ↔
      Coercion.convertDefault field.name field.kind field.default = .ok value := by
  rw [destinationValue, DestinationField.convertedDefault]
  cases Coercion.convertDefault field.name field.kind field.default <;> simp [Except.mapError]

theorem destinationValue_some (field : DestinationField) (mask : Option Mask)
    (found stored : Json) :
    destinationValue field mask (some found) = .ok stored ↔
      ∃ converted, Coercion.convert field.name field.kind found = .ok converted ∧
        Masked mask converted stored := by
  rw [destinationValue]
  cases Coercion.convert field.name field.kind found with
  | error mismatch => simp [Except.mapError, bind, Except.bind]
  | ok converted =>
      simp only [Except.mapError, bind, Except.bind, Except.ok.injEq, exists_eq_left']
      constructor
      · intro result
        split at result <;> cases result
        · exact .none _
        · exact .some _ _
      · rintro ⟨⟩ <;> rfl

/-- All that a link looks up and reads is found when it succeeds by itself. -/
theorem assign_eq_ok_iff (engine : Engine) (record : Json) (link : Link)
    (assignment : Assignment) :
    engine.assign record link = .ok assignment ↔
      ∃ source destination path value mask stored,
        engine.catalog.sourceOf link = .ok source ∧
        engine.catalog.destinationOf link = .ok destination ∧
        engine.pathOf source = .ok path ∧ sourceValue path source record = .ok value ∧
        engine.catalog.maskOf engine.registry link = .ok mask ∧
        destinationValue destination mask value = .ok stored ∧
        assignment = ⟨link, source, destination, stored, value.isNone⟩ := by
  constructor
  · intro assigned
    rw [assign] at assigned
    obtain ⟨source, sourced, assigned⟩ := bind_eq_ok _ _ _ assigned
    obtain ⟨destination, destined, assigned⟩ := bind_eq_ok _ _ _ assigned
    obtain ⟨path, located, assigned⟩ := bind_eq_ok _ _ _ assigned
    obtain ⟨value, read, assigned⟩ := bind_eq_ok _ _ _ assigned
    obtain ⟨mask, masked, assigned⟩ := bind_eq_ok _ _ _ assigned
    obtain ⟨stored, written, made⟩ := bind_eq_ok _ _ _ assigned
    cases made
    exact ⟨source, destination, path, value, mask, stored, sourced, destined, located, read,
      masked, written, rfl⟩
  · rintro ⟨source, destination, path, value, mask, stored, sourced, destined, located, read,
      masked, written, rfl⟩
    rw [assign_of_found engine record link source destination path sourced destined located,
      read, ok_bind, masked, ok_bind, written, ok_bind]
    rfl

/-- A link succeeds by itself just when it writes something. -/
theorem writes_iff (engine : Engine) (record : Json) (link : Link)
    (destination : DestinationField) (value : Json) :
    Writes engine record link destination value ↔
      ∃ assignment, engine.assign record link = .ok assignment ∧
        assignment.destination = destination ∧ assignment.value = value := by
  constructor
  · rintro (⟨source, path, mask, _, sourced, destined, located, masked, missing, converted⟩ |
      ⟨source, path, mask, found, converted, _, sourced, destined, located, masked, present,
        filled, fits, conversion, result⟩)
    · have read := (sourceValue_eq_none_iff path source record).mpr missing
      have stored := (destinationValue_none destination mask value).mpr converted
      exact ⟨_, (assign_eq_ok_iff engine record link _).mpr ⟨source, destination, path, none, mask,
        value, sourced, destined, located, read, masked, stored, rfl⟩, rfl, rfl⟩
    · have read := (sourceValue_eq_some_iff path source record found).mpr ⟨present, filled, fits⟩
      have stored := (destinationValue_some destination mask found value).mpr
        ⟨converted, conversion, result⟩
      exact ⟨_, (assign_eq_ok_iff engine record link _).mpr ⟨source, destination, path, some found,
        mask, value, sourced, destined, located, read, masked, stored, rfl⟩, rfl, rfl⟩
  · rintro ⟨assignment, assigned, rfl, rfl⟩
    obtain ⟨source, destination, path, value, mask, stored, sourced, destined, located, read,
      masked, written, rfl⟩ := (assign_eq_ok_iff engine record link assignment).mp assigned
    cases value with
    | none =>
        exact .default source path mask stored sourced destined located masked
          ((sourceValue_eq_none_iff path source record).mp read)
          ((destinationValue_none destination mask stored).mp written)
    | some found =>
        obtain ⟨present, filled, fits⟩ :=
          (sourceValue_eq_some_iff path source record found).mp read
        obtain ⟨converted, conversion, result⟩ :=
          (destinationValue_some destination mask found stored).mp written
        exact .value source path mask found converted stored sourced destined located masked
          present filled fits conversion result

theorem destined_of_writes {engine : Engine} {record : Json} {link : Link}
    {destination : DestinationField} {value : Json}
    (writes : Writes engine record link destination value) :
    engine.catalog.destinationOf link = .ok destination := by
  cases writes <;> assumption

theorem writes_of_assign (engine : Engine) (record : Json) (link : Link) (assignment : Assignment)
    (assigned : engine.assign record link = .ok assignment) :
    Writes engine record link assignment.destination assignment.value :=
  (writes_iff engine record link _ _).mpr ⟨assignment, assigned, rfl, rfl⟩

theorem destinationOf_of_assign (engine : Engine) (record : Json) (link : Link)
    (assignment : Assignment) (assigned : engine.assign record link = .ok assignment) :
    engine.catalog.destinationOf link = .ok assignment.destination :=
  destined_of_writes (writes_of_assign engine record link assignment assigned)

/-! ## Links into one destination -/

/-- The links that are the first into their destination. -/
def leading : List Link → List Link
  | [] => []
  | link :: rest =>
    link :: (leading rest).filter fun later => later.destination ≠ link.destination

/-- The link is the last into a destination. -/
def LastInto (links : List Link) (destination : EntryId) (link : Link) : Prop :=
  ∃ before after, links = before ++ link :: after ∧ link.destination = destination ∧
    ∀ later ∈ after, later.destination ≠ destination

theorem exists_leading (links : List Link) (link : Link) (member : link ∈ links) :
    ∃ first ∈ leading links, first.destination = link.destination := by
  induction links with
  | nil => cases member
  | cons head rest ih =>
      by_cases same : head.destination = link.destination
      · exact ⟨head, List.mem_cons_self .., same⟩
      · rcases List.mem_cons.mp member with rfl | later
        · exact absurd rfl same
        · obtain ⟨first, leads, agrees⟩ := ih later
          refine ⟨first, List.mem_cons_of_mem _ (List.mem_filter.mpr ⟨leads, ?_⟩), agrees⟩
          rw [agrees]
          simpa using fun equal => same equal.symm

theorem lastInto_cons {links : List Link} {destination : EntryId} {link : Link} (head : Link)
    (last : LastInto links destination link) : LastInto (head :: links) destination link := by
  obtain ⟨before, after, rfl, target, none_later⟩ := last
  exact ⟨head :: before, after, rfl, target, none_later⟩

theorem lastInto_head (link : Link) (rest : List Link)
    (none_later : ∀ later ∈ rest, later.destination ≠ link.destination) :
    LastInto (link :: rest) link.destination link :=
  ⟨[], rest, rfl, rfl, none_later⟩

/-- A field of an output has the name of the destination of a link, and the value of the last of
several links into that destination. -/
def Carries (engine : Engine) (record : Json) (links : List Link) (link : Link)
    (field : String × Json) : Prop :=
  ∃ destination last, engine.catalog.destinationOf link = .ok destination ∧
    field.1 = destination.name ∧ LastInto links link.destination last ∧
      Writes engine record last destination field.2

section Output
variable (engine : Engine) (record : Json)

theorem carries_cons (links : List Link) (head link : Link) (field : String × Json)
    (carries : Carries engine record links link field) :
    Carries engine record (head :: links) link field := by
  obtain ⟨destination, last, destined, named, ends, writes⟩ := carries
  exact ⟨destination, last, destined, named, lastInto_cons head ends, writes⟩

theorem destination_eq (a b : Link) (first second : DestinationField)
    (destined : engine.catalog.destinationOf a = .ok first)
    (other : engine.catalog.destinationOf b = .ok second) (same : first.name = second.name) :
    first = second := by
  have member := ((engine.catalog.destinationOf_eq_ok_iff a first).mp destined).1
  have member' := ((engine.catalog.destinationOf_eq_ok_iff b second).mp other).1
  exact engine.catalog.destination_eq_of_name_eq first second member member' same

/-- Assignments written one after another leave one field for every leading link. -/
theorem ofEntries_carries (links : List Link) (assignments : List Assignment)
    (assigned : List.Forall₂ (fun link a => engine.assign record link = .ok a)
      links assignments) :
    List.Forall₂ (Carries engine record links) (leading links)
      (Fields.ofEntries (assignments.map fun a => (a.destination.name, a.value))) := by
  induction assigned with
  | nil => exact .nil
  | @cons link assignment links assignments head _ ih =>
      have writes := writes_of_assign engine record link assignment head
      have destined := destinationOf_of_assign engine record link assignment head
      rw [List.map_cons, Fields.ofEntries_cons, leading]
      refine .cons ?front ?later
      case front =>
        cases written : Fields.get? (Fields.ofEntries
            (assignments.map fun a => (a.destination.name, a.value)))
            assignment.destination.name with
        | none =>
            -- No later link has this destination, or there would be a field of its name.
            refine ⟨assignment.destination, link, destined, rfl, lastInto_head link links ?_, writes⟩
            intro later member same
            obtain ⟨first, leads, agrees⟩ := exists_leading links later member
            obtain ⟨field, kept, other, last, destined', named, _, _⟩ :=
              forall₂_mem_left ih first leads
            have name : other.name = assignment.destination.name :=
              (engine.catalog.name_eq_iff first link _ _ destined' destined).mpr
                (agrees.trans same)
            have known := List.mem_map_of_mem (f := Prod.fst) kept
            rw [named, name] at known
            obtain ⟨value, present⟩ := Fields.get?_of_mem_names _ _ known
            rw [written] at present
            cases present
        | some value =>
            obtain ⟨other, _, destination, last, destined', named, ends, writes'⟩ :=
              forall₂_mem_right ih _ (Fields.mem_of_get? _ _ _ written)
            have into := (engine.catalog.name_eq_iff link other _ _ destined destined').mp named
            have equal := destination_eq engine link other _ _ destined destined' named
            rw [← into] at ends
            rw [← equal] at writes'
            exact ⟨assignment.destination, last, destined, rfl, lastInto_cons link ends, writes'⟩
      case later =>
        have others := List.rel_filter (R := Carries engine record links)
          (p := fun later => later.destination ≠ link.destination)
          (q := fun field => field.1 ≠ assignment.destination.name)
          (fun later field carries => by
            obtain ⟨destination, _, destined', named, _, _⟩ := carries
            have names := engine.catalog.name_eq_iff later link _ _ destined' destined
            simp only [decide_eq_true_eq, named, ne_eq, names])
        exact (others ih).imp fun later field => carries_cons engine record links link later field

/-- The names that the links write under. -/
theorem filterMap_destination (links : List Link) (assignments : List Assignment)
    (assigned : List.Forall₂ (fun link a => engine.assign record link = .ok a)
      links assignments) :
    links.filterMap (fun link =>
        (engine.catalog.destinations.byId? link.destination).map DestinationField.name) =
      assignments.map fun a => a.destination.name := by
  induction assigned with
  | nil => rfl
  | @cons link assignment links assignments head _ ih =>
      have destined := destinationOf_of_assign engine record link assignment head
      have found : engine.catalog.destinations.byId? link.destination =
          some assignment.destination :=
        (engine.catalog.destinationOf_eq_ok_iff_found link _).mp destined
      have name : (engine.catalog.destinations.byId? link.destination).map
          DestinationField.name = some assignment.destination.name := by
        rw [found, Option.map_some]
      simp only [List.filterMap_cons, name, List.map_cons, ih]

theorem outputFields_eq (assignments : List Assignment)
    (assigned : List.Forall₂ (fun link a => engine.assign record link = .ok a)
      engine.links assignments) :
    engine.outputFields =
      Fields.names (Fields.ofEntries (assignments.map fun a => (a.destination.name, a.value))) := by
  rw [Fields.names_ofEntries, outputFields, filterMap_destination engine record _ _ assigned,
    List.map_map]
  rfl

theorem transform_eq_ok_iff (output : Record) :
    engine.transform record = .ok output ↔
      ∃ assignments, List.Forall₂ (fun link a => engine.assign record link = .ok a)
        engine.links assignments ∧
          output = Fields.ofEntries (assignments.map fun a => (a.destination.name, a.value)) := by
  rw [transform]
  constructor
  · intro transformed
    obtain ⟨assignments, assigned, made⟩ := bind_eq_ok _ _ _ transformed
    cases made
    exact ⟨assignments, (mapM_eq_ok_iff _ _ _).mp assigned, rfl⟩
  · rintro ⟨assignments, assigned, rfl⟩
    rw [(mapM_eq_ok_iff _ _ _).mpr assigned]
    rfl

theorem transform_fails_iff :
    (∃ e, engine.transform record = .error e) ↔
      ∃ link ∈ engine.links, ∀ destination value,
        ¬ Writes engine record link destination value := by
  constructor
  · rintro ⟨e, failed⟩
    obtain ⟨place, ⟨link, found, fails⟩, _⟩ :=
      (transform_eq_error_iff engine record e).mp failed
    refine ⟨link, List.mem_of_getElem? found, ?_⟩
    intro destination value writes
    obtain ⟨assignment, assigned, _⟩ := (writes_iff engine record link _ _).mp writes
    rw [fails] at assigned
    cases assigned
  · rintro ⟨link, member, idle⟩
    cases transformed : engine.transform record with
    | error e => exact ⟨e, rfl⟩
    | ok output =>
        obtain ⟨assignments, assigned, _⟩ :=
          (transform_eq_ok_iff engine record output).mp transformed
        obtain ⟨assignment, _, passes⟩ := forall₂_mem_left assigned link member
        exact absurd ((writes_iff engine record link _ _).mpr ⟨assignment, passes, rfl, rfl⟩)
          (idle assignment.destination assignment.value)

section Success
variable (output : Record) (transformed : engine.transform record = .ok output)
include transformed

theorem names_of_transform :
    Fields.names output = engine.outputFields ∧ (Fields.names output).Nodup := by
  obtain ⟨assignments, assigned, rfl⟩ := (transform_eq_ok_iff engine record output).mp transformed
  exact ⟨(outputFields_eq engine record assignments assigned).symm,
    Fields.nodup_names_ofEntries _⟩

theorem carries_of_transform :
    List.Forall₂ (Carries engine record engine.links) (leading engine.links) output := by
  obtain ⟨assignments, assigned, rfl⟩ := (transform_eq_ok_iff engine record output).mp transformed
  exact ofEntries_carries engine record engine.links assignments assigned

end Success

/-- A record fails at the first link that fails by itself.  Otherwise the names of the output are
the output fields, once each: every link that is the first into its destination has its field, and
the field has the value of the last link into that destination. -/
theorem transform_meaning :
    (∀ link destination value, Writes engine record link destination value ↔
      ∃ assignment, engine.assign record link = .ok assignment ∧
        assignment.destination = destination ∧ assignment.value = value) ∧
    ((∃ e, engine.transform record = .error e) ↔
      ∃ link ∈ engine.links, ∀ destination value,
        ¬ Writes engine record link destination value) ∧
    (∀ e, engine.transform record = .error e ↔
      ∃ place, FirstError (engine.assign record) engine.links place e) ∧
    ∀ output, engine.transform record = .ok output →
      Fields.names output = engine.outputFields ∧ engine.outputFields.Nodup ∧
        List.Forall₂ (Carries engine record engine.links) (leading engine.links) output := by
  refine ⟨writes_iff engine record, transform_fails_iff engine record,
    transform_eq_error_iff engine record, ?_⟩
  intro output transformed
  obtain ⟨names, distinct⟩ := names_of_transform engine record output transformed
  exact ⟨names, names ▸ distinct, carries_of_transform engine record output transformed⟩

end Output

/-! ## A catalog with two links into one destination -/

/-- A nickname is written over the name, and a mask is asked for wherever there is text. -/
def nicknameCatalog : Catalog where
  sources := ⟨[.ofName 1 "Name" .string true, .ofName 2 "Nickname" .string false,
    .ofName 3 "Town" .string false], rfl⟩
  destinations :=
    ⟨[.ofName 1 "Name" .string .null, .ofName 2 "Town" .string (.string "n/a")], rfl⟩
  maskUses := ⟨[⟨1, "SHOUT"⟩], rfl⟩
  links := ⟨[.plain 1 1 1, (Link.plain 2 3 2).withMask 1, (Link.plain 3 2 1).withMask 1],
    rfl⟩
  sound := rfl

def nicknameEngine : Engine :=
  ⟨nicknameCatalog, Registry.empty.register "SHOUT" fun text => text ++ "!", .lazy,
    [(1, ⟨"$.Name", [.key "Name"]⟩), (2, ⟨"$.Nickname", [.key "Nickname"]⟩),
      (3, ⟨"$.Town", [.key "Town"]⟩)]⟩

def nicknameRecord : Json :=
  .object [("Name", .string "Ann"), ("Nickname", .string "Nan"), ("Town", .null)]

theorem transform_nickname_meaning :
    nicknameEngine.transform nicknameRecord =
      .ok [("Name", .string "Nan!"), ("Town", .string "n/a")] ∧
    Fields.names [("Name", Json.string "Nan!"), ("Town", Json.string "n/a")] =
      nicknameEngine.outputFields ∧
    nicknameEngine.outputFields.Nodup ∧
    List.Forall₂ (Carries nicknameEngine nicknameRecord nicknameEngine.links)
      (leading nicknameEngine.links) [("Name", .string "Nan!"), ("Town", .string "n/a")] := by
  have transformed : nicknameEngine.transform nicknameRecord =
      .ok [("Name", .string "Nan!"), ("Town", .string "n/a")] := rfl
  exact ⟨transformed,
    (transform_meaning nicknameEngine nicknameRecord).2.2.2 _ transformed⟩

end Engine

end Crosswalk
