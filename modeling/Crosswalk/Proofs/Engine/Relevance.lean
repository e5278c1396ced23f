import Crosswalk.Proofs.Engine.Meaning
import Crosswalk.Proofs.Path.Replacement

/-!
# What of a record matters

A link sees of a record only what the path of its source leads to (`assign_of_alike`), so records
that look the same to every link have the same output, or fail with the same error
(`transform_of_alike`).  A place that the paths of all links part from is not read, and whatever
happens there does not matter (`transform_ignores_unread`).
-/

set_option autoImplicit false

namespace Crosswalk.Engine

variable (engine : Engine) (record record' : Json)

/-- The path of the source of a link leads to the same in two records. -/
def Alike (link : Link) : Prop :=
  ∀ source path, engine.catalog.sourceOf link = .ok source → engine.pathOf source = .ok path →
    path.resolve? record = path.resolve? record'

theorem sourceValue_of_resolve? (path : Path) (field : SourceField)
    (same : path.resolve? record = path.resolve? record') :
    sourceValue path field record = sourceValue path field record' := by
  simp only [sourceValue, same]

theorem assign_of_alike (link : Link) (alike : Alike engine record record' link) :
    engine.assign record link = engine.assign record' link := by
  cases sourced : engine.catalog.sourceOf link with
  | error e => simp only [assign, sourced, bind, Except.bind]
  | ok source =>
      cases destined : engine.catalog.destinationOf link with
      | error e => simp only [assign, sourced, destined, bind, Except.bind]
      | ok destination =>
          cases located : engine.pathOf source with
          | error e => simp only [assign, sourced, destined, located, bind, Except.bind]
          | ok path =>
              have same := sourceValue_of_resolve? record record' path source
                (alike source path sourced located)
              rw [assign_of_found engine record link source destination path sourced destined
                located, same,
                assign_of_found engine record' link source destination path sourced destined located]

theorem transform_of_alike (alike : ∀ link ∈ engine.links, Alike engine record record' link) :
    engine.transform record = engine.transform record' := by
  have same := mapM_congr (engine.assign record) (engine.assign record') engine.links
    fun link member => assign_of_alike engine record record' link (alike link member)
  rw [transform, transform, same]

/-- No link reads at the place, around it or inside it: the path of every source that there is
parts from the way to it. -/
def Unread (place : List Step) : Prop :=
  ∀ link ∈ engine.links, ∀ source path, engine.catalog.sourceOf link = .ok source →
    engine.pathOf source = .ok path → Path.Apart path.steps place

variable {engine}

theorem Unread.within {place inner : List Step} (unread : Unread engine place)
    (within : place <+: inner) : Unread engine inner := by
  intro link member source path sourced located
  exact (unread link member source path sourced located).within within

/-- It is enough that the compiled paths part from the way to the place. -/
theorem unread_of_paths {place : List Step}
    (parted : ∀ entry ∈ engine.paths, Path.Apart entry.2.steps place) : Unread engine place := by
  intro link _ source path _ located
  rw [pathOf] at located
  split at located
  · rename_i other found
    cases located
    obtain ⟨before, after, split, _⟩ := List.lookup_eq_some_iff.mp found
    exact parted (source.id, path) (by simp [split])
  · cases located

variable {record}

theorem transform_put_of_unread {place : List Step} (unread : Unread engine place)
    (old value : Json) (there : Path.follow? place record = some old) :
    engine.transform (Path.put value place record) = engine.transform record := by
  apply transform_of_alike
  intro link member source path sourced located
  have apart := unread link member source path sourced located
  exact Path.follow?_put_of_apart path.steps place record old value there apart

/-- Objects that differ in one member may stand for one another if that member is not read. -/
theorem transform_put_object_of_unread {holder : List Step} {name : String}
    {members : List (String × Json)} (unread : Unread engine (holder ++ [.key name]))
    (there : Path.follow? holder record = some (.object members))
    (members' : List (String × Json)) (same : Fields.SameBut name members members') :
    engine.transform (Path.put (.object members') holder record) = engine.transform record := by
  apply transform_of_alike
  intro link member source path sourced located
  have apart := unread link member source path sourced located
  exact Path.follow?_put_object path.steps holder name record members members' there same apart

/-- At a place that no link reads, or inside it, a value can be replaced by any other, and an object
can gain a member, lose one or have it changed, whatever becomes of the order of its members. -/
theorem transform_ignores_unread (engine : Engine) (record : Json) (place : List Step)
    (unread : Unread engine place) :
    (∀ inner old value, place <+: inner → Path.follow? inner record = some old →
      Path.follow? inner (Path.put value inner record) = some value ∧
        engine.transform (Path.put value inner record) = engine.transform record) ∧
    ∀ holder name members, place <+: holder ++ [.key name] →
      Path.follow? holder record = some (.object members) →
        (∀ value, engine.transform (Path.put (.object (Fields.insert name value members)) holder
          record) = engine.transform record) ∧
        engine.transform (Path.put (.object (Fields.others name members)) holder record) =
          engine.transform record ∧
        ∀ members', Fields.SameBut name members members' →
          engine.transform (Path.put (.object members') holder record) =
            engine.transform record := by
  constructor
  · intro inner old value within there
    exact ⟨Path.follow?_put_self inner record old value there,
      transform_put_of_unread (unread.within within) old value there⟩
  · intro holder name members within there
    have free := transform_put_object_of_unread (unread.within within) there
    refine ⟨?_, free _ (Fields.sameBut_others name members), free⟩
    intro value
    exact free _ (Fields.sameBut_insert name value members)

/-- A record with an address, of which the links of `nicknameEngine` read nothing. -/
def addressedRecord : Json :=
  .object [("Name", .string "Ann"),
    ("Address", .object [("Street", .string "Hill"), ("Numbers", .array [.ofNat 1, .ofNat 2])])]

theorem address_ignored :
    Unread nicknameEngine [.key "Address"] ∧
    nicknameEngine.transform addressedRecord = .ok [("Name", .null), ("Town", .string "n/a")] ∧
    nicknameEngine.transform
        (Path.put .null [.key "Address", .key "Numbers", .index 1] addressedRecord) =
      nicknameEngine.transform addressedRecord ∧
    nicknameEngine.transform
        (Path.put (.object (Fields.others "Street" [("Street", .string "Hill"),
          ("Numbers", .array [.ofNat 1, .ofNat 2])])) [.key "Address"] addressedRecord) =
      nicknameEngine.transform addressedRecord := by
  have unread : Unread nicknameEngine [.key "Address"] := unread_of_paths (by decide)
  obtain ⟨replaced, changed⟩ := transform_ignores_unread nicknameEngine addressedRecord _ unread
  refine ⟨unread, rfl, ?_, ?_⟩
  · exact (replaced [.key "Address", .key "Numbers", .index 1] (.ofNat 2) .null (by decide) rfl).2
  · exact (changed [.key "Address"] "Street" _ (by decide) rfl).2.1

end Crosswalk.Engine
