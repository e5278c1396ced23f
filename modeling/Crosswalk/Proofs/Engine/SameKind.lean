import Crosswalk.Proofs.Coercion
import Crosswalk.Proofs.Engine.Meaning

/-!
# Values that are of the kind wanted

An integer field holds integers of 64 bits with a sign, and a record may have an integer that needs
all 64 bits without one.  Such an integer is of the integer kind and is refused all the same.  Every
other value stays what it is in a field of its own kind (`convert_own_kind`), and a link into such a
field stores it, unless the link has a mask: a mask makes another text of a text, and fails on
anything else (`assign_own_kind`).  A mismatch that expects what it finds is of an integer too great
(`transform_telling`).
-/

set_option autoImplicit false

namespace Crosswalk

/-! ## Kinds and their names -/

namespace Kind

theorem name_injective (a b : Kind) (same : a.name = b.name) : a = b := by
  cases a <;> cases b <;> simp [name] at same ⊢

theorem describe_eq_name_iff (value : Json) (kind : Kind) :
    describe value = kind.name ↔ of value = some kind := by
  rw [describe]
  cases of value with
  | none => cases kind <;> simp [name]
  | some other =>
      rw [Option.some.injEq]
      exact ⟨name_injective other kind, congrArg name⟩

theorem eq_integer (value : Json) (is : of value = some .integer) :
    ∃ n fits, value = .number (.integer n fits) := by
  unfold of at is
  split at is <;> cases is
  exact ⟨_, _, rfl⟩

theorem eq_string (value : Json) (is : of value = some .string) : ∃ text, value = .string text := by
  unfold of at is
  split at is <;> cases is
  exact ⟨_, rfl⟩

end Kind

/-! ## Conversion to the own kind -/

namespace Coercion

/-- An integer that a record can hold and an integer field cannot. -/
def TooGreat (value : Json) : Prop :=
  ∃ (n : Int) (fits : FitsWord n), value = .number (.integer n fits) ∧ (2 : Int) ^ 63 ≤ n

theorem not_tooGreat_of_kind (value : Json) (kind : Kind) (is : Kind.of value = some kind)
    (other : kind ≠ .integer) : ¬ TooGreat value := by
  rintro ⟨n, fits, rfl, _⟩
  cases is
  exact other rfl

theorem convert_own_integer (field : String) (n : Int) (fits : FitsWord n) :
    convert field .integer (.number (.integer n fits)) = .ok (.number (.integer n fits)) ↔
      ¬ (2 : Int) ^ 63 ≤ n := by
  rw [convert_integer_iff]
  constructor
  · rintro ⟨m, fits', same, _, _, below⟩
    cases same
    omega
  · intro below
    have least : -(2 : Int) ^ 63 ≤ n := by
      have bound := fits.1
      simp only [signedWordLimit] at bound
      omega
    exact ⟨n, fits, rfl, rfl, least, by omega⟩

theorem convert_own_other (field : String) (kind : Kind) (value : Json)
    (is : Kind.of value = some kind) (other : kind ≠ .integer) :
    convert field kind value = .ok value := by
  cases value with
  | null => cases is
  | number v =>
      cases v with
      | integer n fits =>
          cases is
          exact absurd rfl other
      | float x =>
          cases is
          rfl
  | bool _ | string _ | array _ | object _ =>
      cases is
      rfl

/-- A value stays what it is in a field of its own kind, unless it is an integer too great. -/
theorem convert_own_kind (field : String) (kind : Kind) (value : Json)
    (is : Kind.of value = some kind) :
    convert field kind value = .ok value ↔ ¬ TooGreat value := by
  by_cases whole : kind = .integer
  · subst whole
    obtain ⟨n, fits, rfl⟩ := Kind.eq_integer value is
    rw [convert_own_integer, not_iff_not]
    constructor
    · intro great
      exact ⟨n, fits, rfl, great⟩
    · rintro ⟨m, fits', same, great⟩
      cases same
      exact great
  · exact iff_of_true (convert_own_other field kind value is whole)
      (not_tooGreat_of_kind value kind is whole)

theorem convert_eq_error_iff (field : String) (kind : Kind) (value : Json) (m : Mismatch) :
    convert field kind value = .error m ↔
      convert? kind value = none ∧ m = .ofValue field kind value := by
  rw [convert]
  cases convert? kind value <;> simp [eq_comm]

end Coercion

/-! ## Mismatches -/

/-- The mismatch expects one kind and finds another, or it is of an integer too great. -/
def Mismatch.Telling (m : Mismatch) : Prop :=
  m.found = m.expected.name →
    ∃ field value, m = .ofValue field .integer value ∧ Coercion.TooGreat value

theorem Mismatch.telling_of_other (field : String) (kind : Kind) (value : Json)
    (other : Kind.of value ≠ some kind) : (Mismatch.ofValue field kind value).Telling := by
  intro same
  exact absurd ((Kind.describe_eq_name_iff value kind).mp same) other

theorem Coercion.convert_telling (field : String) (kind : Kind) (value : Json) (m : Mismatch)
    (failed : Coercion.convert field kind value = .error m) : m.Telling := by
  obtain ⟨_, made⟩ := (Coercion.convert_eq_error_iff field kind value m).mp failed
  subst made
  intro same
  have is := (Kind.describe_eq_name_iff value kind).mp same
  have great : Coercion.TooGreat value := by
    by_contra small
    rw [(Coercion.convert_own_kind field kind value is).mpr small] at failed
    cases failed
  by_cases whole : kind = .integer
  · subst whole
    exact ⟨field, value, rfl, great⟩
  · exact absurd great (Coercion.not_tooGreat_of_kind value kind is whole)

/-! ## Mismatches of a record -/

theorem Catalog.maskOf_ne_mismatch (catalog : Catalog) (registry : Registry) (link : Link)
    (m : Mismatch) : catalog.maskOf registry link ≠ .error (.mismatch m) := by
  intro failed
  rw [maskOf] at failed
  rcases bind_eq_error _ _ _ failed with unknown | ⟨use, _, failed⟩
  · rw [maskUseOf] at unknown
    split at unknown
    · cases unknown
    · split at unknown <;> cases unknown
  · split at failed
    · cases failed
    · split at failed <;> cases failed

namespace Engine

theorem sourceValue_telling (path : Path) (field : SourceField) (record : Json) (m : Mismatch)
    (failed : sourceValue path field record = .error (.mismatch m)) : m.Telling := by
  rw [sourceValue] at failed
  split at failed
  · split at failed <;> cases failed
  · split at failed
    · cases failed
    · split at failed
      · cases failed
      · rename_i other
        cases failed
        exact Mismatch.telling_of_other _ _ _ other

theorem destinationValue_telling (field : DestinationField) (mask : Option Mask)
    (value : Option Json) (m : Mismatch)
    (failed : destinationValue field mask value = .error (.mismatch m)) : m.Telling := by
  cases value with
  | none =>
      -- A default that does not fit is a fault of the catalog.
      rw [destinationValue, DestinationField.convertedDefault] at failed
      cases converted : Coercion.convertDefault field.name field.kind field.default <;>
        simp [converted, Except.mapError] at failed
  | some value =>
      rw [destinationValue] at failed
      rcases bind_eq_error _ _ _ failed with refused | ⟨converted, _, unmasked⟩
      · cases conversion : Coercion.convert field.name field.kind value with
        | ok json => simp [conversion, Except.mapError] at refused
        | error cause =>
            simp only [conversion, Except.mapError, Except.error.injEq,
              Error.mismatch.injEq] at refused
            subst refused
            exact Coercion.convert_telling _ _ _ _ conversion
      · split at unmasked
        · cases unmasked
        · cases unmasked
        · rename_i noText
          cases unmasked
          apply Mismatch.telling_of_other
          intro is
          obtain ⟨text, text_eq⟩ := Kind.eq_string converted is
          exact noText text text_eq

theorem assign_telling (engine : Engine) (record : Json) (link : Link) (m : Mismatch)
    (failed : engine.assign record link = .error (.mismatch m)) : m.Telling := by
  rw [assign] at failed
  rcases bind_eq_error _ _ _ failed with unsourced | ⟨source, _, failed⟩
  · rw [Catalog.sourceOf] at unsourced
    split at unsourced <;> cases unsourced
  rcases bind_eq_error _ _ _ failed with undestined | ⟨destination, _, failed⟩
  · rw [Catalog.destinationOf] at undestined
    split at undestined <;> cases undestined
  rcases bind_eq_error _ _ _ failed with unlocated | ⟨path, _, failed⟩
  · rw [pathOf] at unlocated
    split at unlocated <;> cases unlocated
  rcases bind_eq_error _ _ _ failed with unread | ⟨value, _, failed⟩
  · exact sourceValue_telling path source record m unread
  rcases bind_eq_error _ _ _ failed with unmasked | ⟨mask, _, failed⟩
  · exact absurd unmasked (engine.catalog.maskOf_ne_mismatch engine.registry link m)
  rcases bind_eq_error _ _ _ failed with unstored | ⟨stored, _, made⟩
  · exact destinationValue_telling destination mask value m unstored
  · cases made

theorem transform_telling (engine : Engine) (record : Json) (m : Mismatch)
    (failed : engine.transform record = .error (.mismatch m)) : m.Telling := by
  obtain ⟨_, ⟨link, _, fails⟩, _⟩ := (transform_eq_error_iff engine record _).mp failed
  exact assign_telling engine record link m fails

section Links
variable {engine : Engine} {record : Json} {link : Link} {source : SourceField}
  {destination : DestinationField} {path : Path} {mask : Option Mask} {found : Json}
  (sourced : engine.catalog.sourceOf link = .ok source)
  (destined : engine.catalog.destinationOf link = .ok destination)
  (located : engine.pathOf source = .ok path)
  (masked : engine.catalog.maskOf engine.registry link = .ok mask)
  (read : sourceValue path source record = .ok (some found))
include sourced destined located masked read

/-- A value that passes the check of its source arrives at the mask as it is, if the destination is
of the same kind. -/
theorem assign_own_kind (same : destination.kind = source.kind)
    (small : ¬ Coercion.TooGreat found) :
    (mask = none → engine.assign record link = .ok ⟨link, source, destination, found, false⟩) ∧
      (∀ change, mask = some change → source.kind = .string →
        ∃ text, found = .string text ∧ engine.assign record link =
          .ok ⟨link, source, destination, .string (change text), false⟩) ∧
      ∀ change, mask = some change → source.kind ≠ .string →
        engine.assign record link =
          .error (.mismatch (.ofValue destination.name .string found)) := by
  obtain ⟨_, _, fits⟩ := (sourceValue_eq_some_iff path source record found).mp read
  have conversion : Coercion.convert destination.name destination.kind found = .ok found := by
    rw [same]
    exact (Coercion.convert_own_kind destination.name source.kind found fits).mpr small
  rw [assign_of_found engine record link source destination path sourced destined located,
    read, ok_bind, masked, ok_bind, destinationValue, conversion]
  refine ⟨?_, ?_, ?_⟩
  · rintro rfl
    rfl
  · rintro change rfl textual
    rw [textual] at fits
    obtain ⟨text, rfl⟩ := Kind.eq_string found fits
    exact ⟨text, rfl, rfl⟩
  · rintro change rfl other
    cases found with
    | string text => exact absurd (Option.some.inj fits).symm other
    | _ => rfl

end Links

/-- A value stays what it is in a field of its own kind, and a link between fields of one kind
stores it: as it is without a mask, and as another text if it is text and the link has a mask.  A
mask on a link between fields of another kind makes the link fail.  Integers too great for an integer
field are the exception, and only of them a mismatch says that it expects what it finds. -/
theorem own_kind_kept (engine : Engine) (record : Json) :
    (∀ field kind value, Kind.of value = some kind →
      (Coercion.convert field kind value = .ok value ↔ ¬ Coercion.TooGreat value)) ∧
    (∀ link source destination path mask found,
      engine.catalog.sourceOf link = .ok source →
      engine.catalog.destinationOf link = .ok destination →
      engine.pathOf source = .ok path →
      engine.catalog.maskOf engine.registry link = .ok mask →
      sourceValue path source record = .ok (some found) →
      destination.kind = source.kind → ¬ Coercion.TooGreat found →
        (mask = none →
          engine.assign record link = .ok ⟨link, source, destination, found, false⟩) ∧
        (∀ change, mask = some change → source.kind = .string →
          ∃ text, found = .string text ∧ engine.assign record link =
            .ok ⟨link, source, destination, .string (change text), false⟩) ∧
        ∀ change, mask = some change → source.kind ≠ .string →
          engine.assign record link =
            .error (.mismatch (.ofValue destination.name .string found))) ∧
    (∀ field kind value m, Coercion.convert field kind value = .error m → m.Telling) ∧
    ∀ m, engine.transform record = .error (.mismatch m) → m.Telling := by
  refine ⟨Coercion.convert_own_kind, ?_, Coercion.convert_telling, transform_telling engine record⟩
  intro link source destination path mask found sourced destined located masked read same small
  exact assign_own_kind sourced destined located masked read same small

/-! ## Catalogs of one integer -/

/-- The number of visits goes from one integer field into another. -/
def visitsCatalog : Catalog where
  sources := ⟨[.ofName 1 "Visits" .integer true], rfl⟩
  destinations := ⟨[.ofName 1 "Visits" .integer .null], rfl⟩
  maskUses := ⟨[], rfl⟩
  links := ⟨[.plain 1 1 1], rfl⟩
  sound := rfl

def visitsEngine : Engine :=
  ⟨visitsCatalog, .empty, .eager, [(1, ⟨"$.Visits", [.key "Visits"]⟩)]⟩

/-- The same catalog with a mask on the link. -/
def trimmedVisitsCatalog : Catalog where
  sources := ⟨[.ofName 1 "Visits" .integer true], rfl⟩
  destinations := ⟨[.ofName 1 "Visits" .integer .null], rfl⟩
  maskUses := ⟨[⟨1, "TRIM"⟩], rfl⟩
  links := ⟨[(Link.plain 1 1 1).withMask 1], rfl⟩
  sound := rfl

def trimmedVisitsEngine : Engine :=
  ⟨trimmedVisitsCatalog, .builtIn, .eager, [(1, ⟨"$.Visits", [.key "Visits"]⟩)]⟩

/-- The least integer that no integer field holds. -/
def leastTooGreat : Json :=
  .number (.integer 9223372036854775808 (by decide))

def sevenVisits : Json :=
  .object [("Visits", .ofNat 7)]

theorem visits_kept :
    visitsEngine.assign sevenVisits (.plain 1 1 1) =
      .ok ⟨.plain 1 1 1, .ofName 1 "Visits" .integer true, .ofName 1 "Visits" .integer .null,
        .ofNat 7, false⟩ ∧
    trimmedVisitsEngine.assign sevenVisits ((Link.plain 1 1 1).withMask 1) =
      .error (.mismatch ⟨"Visits", .string, "integer", "7"⟩) ∧
    ¬ Coercion.convert "Visits" .integer leastTooGreat = .ok leastTooGreat := by
  have small : ¬ Coercion.TooGreat (.ofNat 7) := by
    rintro ⟨n, fits, same, great⟩
    cases same
    omega
  obtain ⟨converts, stores, _⟩ := own_kind_kept visitsEngine sevenVisits
  obtain ⟨plain, _⟩ := stores (.plain 1 1 1) (.ofName 1 "Visits" .integer true)
    (.ofName 1 "Visits" .integer .null) ⟨"$.Visits", [.key "Visits"]⟩ none (.ofNat 7) rfl rfl rfl
    rfl rfl rfl small
  obtain ⟨_, stores, _⟩ := own_kind_kept trimmedVisitsEngine sevenVisits
  obtain ⟨_, _, refused⟩ := stores ((Link.plain 1 1 1).withMask 1) (.ofName 1 "Visits" .integer true)
    (.ofName 1 "Visits" .integer .null) ⟨"$.Visits", [.key "Visits"]⟩ (some Mask.trim) (.ofNat 7)
    rfl rfl rfl rfl rfl rfl small
  refine ⟨plain rfl, refused Mask.trim rfl (by decide), ?_⟩
  rw [converts "Visits" .integer leastTooGreat rfl, not_not]
  exact ⟨9223372036854775808, by decide, rfl, by norm_num⟩

/-- An integer is expected and an integer is found; and an engine that passes every check stores no
number of visits, since its link trims them. -/
theorem visits_too_great :
    Kind.of leastTooGreat = some .integer ∧
    Coercion.convert "Visits" .integer leastTooGreat =
      .error ⟨"Visits", .integer, "integer", "9223372036854775808"⟩ ∧
    visitsEngine.transform (.object [("Visits", leastTooGreat)]) =
      .error (.mismatch ⟨"Visits", .integer, "integer", "9223372036854775808"⟩) ∧
    Engine.build trimmedVisitsCatalog .builtIn .eager = .ok trimmedVisitsEngine ∧
    trimmedVisitsEngine.transform sevenVisits =
      .error (.mismatch ⟨"Visits", .string, "integer", "7"⟩) :=
  ⟨rfl, rfl, rfl, rfl, rfl⟩

end Engine

end Crosswalk
