import Mathlib.Data.List.TakeWhile
import Crosswalk.Event
import Crosswalk.Proofs.Engine.Meaning

/-!
# Warnings about overwritten values

Links that pass the check are warned about just where an earlier link writes into their destination,
one warning each and in their order (`ofCheck_warns`).  Every other link is the first to write its
output field, so links and output fields differ by the number of warnings
(`length_repeated_add`).  What a link writes is lost to a record just where a later link writes
under the same name (`superseded_iff`), and that link was warned about
(`overwriting_is_warned`).
-/

set_option autoImplicit false

namespace Crosswalk

/-! ## The links that are warned about -/

namespace Catalog

/-- The links into a destination that an earlier link writes into, in their order. -/
def laterWriters (links : List Link) : List Link :=
  (links.zipIdx.filter fun entry =>
    entry.1.destination ∈ (links.take entry.2).map Link.destination).map Prod.fst

/-- The destinations seen are those of the links gone through, which is all that the check knows
of them. -/
theorem repeated_eq (before links : List Link) (seen : List EntryId)
    (agree : ∀ id, id ∈ seen ↔ id ∈ before.map Link.destination) :
    repeated seen links =
      ((links.zipIdx before.length).filter fun entry =>
        entry.1.destination ∈ ((before ++ links).take entry.2).map Link.destination).map
          Prod.fst := by
  induction links generalizing before seen with
  | nil => rfl
  | cons link rest ih =>
      have moved : before ++ link :: rest = (before ++ [link]) ++ rest := by simp
      have place : before.length + 1 = (before ++ [link]).length := by simp
      have here : (before ++ link :: rest).take before.length = before := List.take_left
      rw [List.zipIdx_cons, repeated]
      by_cases again : link.destination ∈ seen
      · have known := (agree link.destination).mp again
        have next : ∀ id, id ∈ seen ↔ id ∈ (before ++ [link]).map Link.destination := by
          intro id
          rw [List.map_append, List.mem_append, List.map_singleton, List.mem_singleton, agree id]
          constructor
          · exact Or.inl
          · rintro (old | rfl)
            · exact old
            · exact known
        rw [if_pos (List.contains_iff_mem.mpr again), List.filter_cons_of_pos, List.map_cons,
          ih (before ++ [link]) seen next, ← moved, ← place]
        simpa only [here, decide_eq_true_eq] using known
      · have unknown : link.destination ∉ before.map Link.destination := fun known =>
          again ((agree link.destination).mpr known)
        have next : ∀ id, id ∈ link.destination :: seen ↔
            id ∈ (before ++ [link]).map Link.destination := by
          intro id
          rw [List.map_append, List.mem_append, List.map_singleton, List.mem_singleton,
            List.mem_cons, agree id]
          exact or_comm
        rw [if_neg (by simpa using again), List.filter_cons_of_neg,
          ih (before ++ [link]) (link.destination :: seen) next, ← moved, ← place]
        simpa only [here, decide_eq_true_eq] using unknown

theorem repeated_nil_eq (links : List Link) : repeated [] links = laterWriters links :=
  repeated_eq [] links [] fun _ => Iff.rfl

theorem mem_laterWriters (front back : List Link) (earlier link : Link) (member : earlier ∈ front)
    (same : earlier.destination = link.destination) :
    link ∈ laterWriters (front ++ link :: back) := by
  have there : (link, front.length) ∈ (front ++ link :: back).zipIdx :=
    List.mk_mem_zipIdx_iff_getElem?.mpr (by simp)
  have known : link.destination ∈
      ((front ++ link :: back).take front.length).map Link.destination := by
    rw [List.take_left]
    exact List.mem_map.mpr ⟨earlier, member, same⟩
  exact List.mem_map.mpr ⟨_, List.mem_filter.mpr ⟨there, decide_eq_true known⟩, rfl⟩

variable (catalog : Catalog) (registry : Registry)

section Accepted
variable (accepted : catalog.checkLinks registry = .ok ())
include accepted

theorem checkLink_of_accepted (link : Link) (member : link ∈ catalog.links.entries) :
    catalog.checkLink registry link = .ok () :=
  (forM_eq_ok_iff _ _).mp accepted link member

theorem destined_of_accepted (link : Link) (member : link ∈ catalog.links.entries) :
    ∃ destination, catalog.destinationOf link = .ok destination := by
  obtain ⟨_, destination, _, _, destined, _⟩ := catalog.checkLink_eq_ok registry link
    (catalog.checkLink_of_accepted registry accepted link member)
  exact ⟨destination, destined⟩

theorem overwritingLinks_eq :
    catalog.overwritingLinks registry = laterWriters catalog.links.entries := by
  have all : catalog.checkedLinks registry = catalog.links.entries := by
    refine List.takeWhile_eq_self_iff.mpr fun link member => ?_
    rw [catalog.checkLink_of_accepted registry accepted link member]
    rfl
  rw [overwritingLinks, all, repeated_nil_eq]

end Accepted

/-- The event is the warning about the link, with the name of its destination. -/
def WarnsOf (link : Link) (event : Event) : Prop :=
  ∃ destination, catalog.destinationOf link = .ok destination ∧
    event = .linkOverwrites link.id destination.name

/-- There is one warning for every link into a destination that was written before. -/
theorem ofCheck_warns (accepted : catalog.checkLinks registry = .ok ()) :
    List.Forall₂ catalog.WarnsOf (laterWriters catalog.links.entries)
      (Event.ofCheck catalog registry) := by
  have destined : ∀ link ∈ laterWriters catalog.links.entries,
      ∃ destination, catalog.destinationOf link = .ok destination := by
    intro link member
    obtain ⟨entry, kept, rfl⟩ := List.mem_map.mp member
    exact catalog.destined_of_accepted registry accepted _
      (List.fst_mem_of_mem_zipIdx (List.mem_of_mem_filter kept))
  rw [Event.ofCheck, catalog.overwritingLinks_eq registry accepted]
  refine (forall₂_filterMap _ _ ?found).imp ?warns
  case found =>
    intro link member
    obtain ⟨destination, found⟩ := destined link member
    exact ⟨_, by rw [(catalog.destinationOf_eq_ok_iff_found link destination).mp found]; rfl⟩
  case warns =>
    intro link event made
    obtain ⟨destination, found, rfl⟩ := Option.map_eq_some_iff.mp made
    exact ⟨destination, (catalog.destinationOf_eq_ok_iff_found link destination).mpr found, rfl⟩

/-- Of the links gone through, the names that are known are those of the destinations seen.  Each
further link is either into one of these, or adds its own to both. -/
theorem length_repeated_add (links : List Link)
    (destined : ∀ link ∈ links, ∃ destination, catalog.destinationOf link = .ok destination)
    (seen : List EntryId) (names : List String)
    (agree : ∀ link destination, catalog.destinationOf link = .ok destination →
      (link.destination ∈ seen ↔ destination.name ∈ names)) :
    (repeated seen links).length +
        ((links.filterMap fun link =>
          (catalog.destinations.byId? link.destination).map DestinationField.name).foldl
            (fun names name => if names.contains name then names else names ++ [name])
            names).length =
      links.length + names.length := by
  induction links generalizing seen names with
  | nil => simp [repeated]
  | cons link rest ih =>
      obtain ⟨⟨destination, here⟩, tail⟩ := List.forall_mem_cons.mp destined
      have found : (catalog.destinations.byId? link.destination).map DestinationField.name =
          some destination.name := by
        rw [(catalog.destinationOf_eq_ok_iff_found link destination).mp here]
        rfl
      simp only [List.filterMap_cons, found, List.foldl_cons, repeated]
      by_cases again : link.destination ∈ seen
      · have known := (agree link destination here).mp again
        have counts := ih tail seen names agree
        rw [if_pos (List.contains_iff_mem.mpr again), if_pos (List.contains_iff_mem.mpr known)]
        simp only [List.length_cons]
        omega
      · have unknown : destination.name ∉ names := fun known =>
          again ((agree link destination here).mpr known)
        have counts := ih tail (link.destination :: seen) (names ++ [destination.name]) (by
          intro other field found
          have same := catalog.name_eq_iff other link field destination found here
          rw [List.mem_cons, List.mem_append, List.mem_singleton, agree other field found, same]
          exact or_comm)
        rw [if_neg (by simpa using again), if_neg (by simpa using unknown)]
        simp only [List.length_cons, List.length_append, List.length_nil] at counts ⊢
        omega

end Catalog

/-! ## The values that are lost -/

namespace Engine

/-- The fields that assignments leave, written one after another. -/
def written (assignments : List Assignment) : Record :=
  Fields.ofEntries (assignments.map fun a => (a.destination.name, a.value))

/-- Nothing is left of the value that an assignment between others writes: with any other value in
its place the fields would be the same. -/
def Superseded (before : List Assignment) (assignment : Assignment) (after : List Assignment) :
    Prop :=
  ∀ value, written (before ++ { assignment with value } :: after) =
    written (before ++ assignment :: after)

section Written
variable (before : List Assignment) (assignment : Assignment) (after : List Assignment)

theorem written_between (value : Json) :
    written (before ++ { assignment with value } :: after) =
      Fields.ofEntries ((before.map fun a => (a.destination.name, a.value)) ++
        (assignment.destination.name, value) ::
          after.map fun a => (a.destination.name, a.value)) := by
  simp only [written, List.map_append, List.map_cons]

theorem get?_written (value : Json)
    (last : ∀ later ∈ after, later.destination.name ≠ assignment.destination.name) :
    Fields.get? (written (before ++ { assignment with value } :: after))
      assignment.destination.name = some value := by
  rw [written_between]
  refine Fields.get?_of_last _ _ _ _ ?_
  intro entry member
  obtain ⟨later, found, rfl⟩ := List.mem_map.mp member
  exact last later found

/-- A value is lost just where a later assignment writes under its name. -/
theorem superseded_iff :
    Superseded before assignment after ↔
      ∃ later ∈ after, later.destination.name = assignment.destination.name := by
  constructor
  · intro lost
    by_contra none
    have last : ∀ later ∈ after, later.destination.name ≠ assignment.destination.name :=
      fun later member same => none ⟨later, member, same⟩
    -- Without a later one the field would follow the value, whichever it is.
    have follows : ∀ value, value = assignment.value := by
      intro value
      have here := get?_written before assignment after value last
      rw [lost value] at here
      exact Option.some.inj (here.symm.trans
        (get?_written before assignment after assignment.value last))
    have same := (follows .null).trans (follows (.bool true)).symm
    cases same
  · rintro ⟨later, member, same⟩ value
    exact (written_between before assignment after value).trans
      ((Fields.ofEntries_of_later _ _ _ _ _ ⟨_, List.mem_map.mpr ⟨later, member, rfl⟩, same⟩).trans
        (written_between before assignment after assignment.value).symm)

end Written

section Transform
variable (engine : Engine) (record : Json)

/-- There are as many warnings as links in excess of the output fields. -/
theorem length_ofCheck_add (accepted : engine.catalog.checkLinks engine.registry = .ok ()) :
    (Event.ofCheck engine.catalog engine.registry).length + engine.outputFields.length =
      engine.links.length := by
  have warnings := (engine.catalog.ofCheck_warns engine.registry accepted).length_eq
  have counts := engine.catalog.length_repeated_add engine.catalog.links.entries
    (engine.catalog.destined_of_accepted engine.registry accepted) [] [] (by simp)
  rw [← warnings, ← Catalog.repeated_nil_eq]
  exact counts

theorem link_of_assign (link : Link) (assignment : Assignment)
    (assigned : engine.assign record link = .ok assignment) : assignment.link = link := by
  obtain ⟨_, _, _, _, _, _, _, _, _, _, _, _, rfl⟩ :=
    (assign_eq_ok_iff engine record link assignment).mp assigned
  rfl

theorem assignments_eq (links : List Link) (assigned : List Assignment)
    (passes : List.Forall₂ (fun link a => engine.assign record link = .ok a) links assigned) :
    assignments.go engine record links = assigned := by
  induction passes with
  | nil => rfl
  | cons here _ ih => rw [assignments.go, here, ih]

/-- An output is what the assignments of all links leave. -/
theorem assignments_of_transform (output : Record)
    (transformed : engine.transform record = .ok output) :
    List.Forall₂ (fun link a => engine.assign record link = .ok a ∧ a.link = link) engine.links
      (engine.assignments record) ∧ output = written (engine.assignments record) := by
  obtain ⟨assigned, passes, made⟩ := (transform_eq_ok_iff engine record output).mp transformed
  have same : engine.assignments record = assigned :=
    assignments_eq engine record engine.links assigned passes
  rw [same]
  refine ⟨passes.imp fun link a here => ?_, made⟩
  exact ⟨here, link_of_assign engine record link a here⟩

theorem map_link_of_assigned (links : List Link) (assigned : List Assignment)
    (passes : List.Forall₂ (fun link a => engine.assign record link = .ok a ∧ a.link = link)
      links assigned) : assigned.map Assignment.link = links := by
  induction passes with
  | nil => rfl
  | cons here _ ih => rw [List.map_cons, here.2, ih]

/-- An assignment under the name of an earlier one comes from a link that was warned about. -/
theorem warned_of_later (accepted : engine.catalog.checkLinks engine.registry = .ok ())
    (passes : List.Forall₂ (fun link a => engine.assign record link = .ok a ∧ a.link = link)
      engine.links (engine.assignments record))
    (before : List Assignment) (assignment : Assignment) (after : List Assignment)
    (split : engine.assignments record = before ++ assignment :: after)
    (later : Assignment) (member : later ∈ after)
    (same : later.destination.name = assignment.destination.name) :
    Event.linkOverwrites later.link.id later.destination.name ∈
      Event.ofCheck engine.catalog engine.registry := by
  have destined : ∀ a ∈ engine.assignments record,
      engine.catalog.destinationOf a.link = .ok a.destination := by
    intro a found
    obtain ⟨link, _, assigned, rfl⟩ := forall₂_mem_right passes a found
    exact destinationOf_of_assign engine record _ a assigned
  have here := destined assignment (by simp [split])
  have there := destined later (by simp [split, member])
  have into := (engine.catalog.name_eq_iff _ _ _ _ there here).mp same
  obtain ⟨between, rest, rfl⟩ := List.append_of_mem member
  have links : engine.catalog.links.entries =
      (before ++ assignment :: between).map Assignment.link ++
        later.link :: rest.map Assignment.link := by
    have all := map_link_of_assigned engine record _ _ passes
    rw [split] at all
    rw [← List.map_cons, ← List.map_append, List.append_assoc, List.cons_append]
    exact all.symm
  have among : later.link ∈ Catalog.laterWriters engine.catalog.links.entries := by
    rw [links]
    exact Catalog.mem_laterWriters _ _ assignment.link _ (by simp) into.symm
  obtain ⟨event, listed, destination, found, rfl⟩ :=
    forall₂_mem_left (engine.catalog.ofCheck_warns engine.registry accepted) _ among
  rw [there] at found
  cases found
  exact listed

end Transform

/-- Where every link passes the check, the warnings are about the links into a destination that an
earlier link writes into, one each and in their order.  In every engine of the catalog there are as
many of them as links in excess of the output fields.  Whenever a record is transformed, its output
is what the links assign, written one after another, and the value that a link assigns is lost from
it just where a later link with the same destination name was warned about; otherwise the output
has that value. -/
theorem overwriting_is_warned (catalog : Catalog) (registry : Registry)
    (accepted : catalog.checkLinks registry = .ok ()) :
    List.Forall₂ catalog.WarnsOf (Catalog.laterWriters catalog.links.entries)
      (Event.ofCheck catalog registry) ∧
    ∀ validation engine, build catalog registry validation = .ok engine →
      (Event.ofCheck catalog registry).length + engine.outputFields.length =
        engine.links.length ∧
      ∀ record output, engine.transform record = .ok output →
        List.Forall₂ (fun link a => engine.assign record link = .ok a ∧ a.link = link)
          engine.links (engine.assignments record) ∧
        output = written (engine.assignments record) ∧
        ∀ before assignment after,
          engine.assignments record = before ++ assignment :: after →
            (Superseded before assignment after ↔
              ∃ later ∈ after, later.destination.name = assignment.destination.name ∧
                .linkOverwrites later.link.id later.destination.name ∈
                  Event.ofCheck catalog registry) ∧
            (Superseded before assignment after ∨
              Fields.get? output assignment.destination.name = some assignment.value) := by
  refine ⟨catalog.ofCheck_warns registry accepted, ?_⟩
  intro validation engine built
  obtain ⟨rfl, rfl, _, _⟩ := build_spec catalog registry validation engine built
  refine ⟨length_ofCheck_add engine accepted, ?_⟩
  intro record output transformed
  obtain ⟨passes, made⟩ := assignments_of_transform engine record output transformed
  refine ⟨passes, made, ?_⟩
  intro before assignment after split
  rw [superseded_iff]
  constructor
  · constructor
    · rintro ⟨later, member, same⟩
      exact ⟨later, member, same, warned_of_later engine record accepted passes before assignment
        after split later member same⟩
    · rintro ⟨later, member, same, _⟩
      exact ⟨later, member, same⟩
  · by_cases lost : ∃ later ∈ after, later.destination.name = assignment.destination.name
    · exact Or.inl lost
    · refine Or.inr ?_
      rw [made, split]
      exact get?_written before assignment after assignment.value fun later member same =>
        lost ⟨later, member, same⟩

/-- The third link of the catalog writes the nickname over the name, and is warned about. -/
theorem nickname_is_warned :
    nicknameCatalog.checkLinks nicknameEngine.registry = .ok () ∧
    build nicknameCatalog nicknameEngine.registry .lazy = .ok nicknameEngine ∧
    nicknameEngine.transform nicknameRecord =
      .ok [("Name", .string "Nan!"), ("Town", .string "n/a")] ∧
    Event.ofCheck nicknameCatalog nicknameEngine.registry = [.linkOverwrites 3 "Name"] ∧
    1 + nicknameEngine.outputFields.length = nicknameEngine.links.length ∧
    ∃ first rest, nicknameEngine.assignments nicknameRecord = [] ++ first :: rest ∧
      first.value = .string "Ann" ∧ Superseded [] first rest := by
  have accepted : nicknameCatalog.checkLinks nicknameEngine.registry = .ok () := rfl
  have built : build nicknameCatalog nicknameEngine.registry .lazy = .ok nicknameEngine := rfl
  have transformed : nicknameEngine.transform nicknameRecord =
      .ok [("Name", .string "Nan!"), ("Town", .string "n/a")] := rfl
  have warnings : Event.ofCheck nicknameCatalog nicknameEngine.registry =
      [.linkOverwrites 3 "Name"] := rfl
  obtain ⟨_, engines⟩ := overwriting_is_warned nicknameCatalog nicknameEngine.registry accepted
  obtain ⟨counts, outputs⟩ := engines .lazy nicknameEngine built
  obtain ⟨_, _, values⟩ := outputs nicknameRecord _ transformed
  refine ⟨accepted, built, transformed, warnings, counts, _, _, rfl, rfl, ?_⟩
  refine (values [] _ _ rfl).1.mpr ⟨_, List.mem_cons_of_mem _ (List.mem_singleton_self _), rfl, ?_⟩
  rw [warnings]
  exact List.mem_singleton_self _

end Engine

end Crosswalk
