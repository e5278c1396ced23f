import Crosswalk.Path.Basic
import Crosswalk.Proofs.Fields

/-!
# Values put in place of others

A value can be put at any place that a record has (`follow?_put_self`).  What is put there shows
only to a path that leads to the place, to something around it or to something inside it: a path
that neither ends on the way to the place nor tells the two values apart leads to what it led to
before (`follow?_put`).  So a path that parts from the way to the place does not notice the change
(`follow?_put_of_apart`), and neither does one that parts from the way to the one member in which
two objects differ (`follow?_put_object`).
-/

set_option autoImplicit false

namespace Crosswalk

/-! ## Objects that differ in one member -/

namespace Fields
variable {α : Type}

/-- The fields have the same values under every name but one. -/
def SameBut (name : String) (fields others : Fields α) : Prop :=
  ∀ other, other ≠ name → get? fields other = get? others other

theorem sameBut_insert (name : String) (value : α) (fields : Fields α) :
    SameBut name fields (insert name value fields) := by
  intro other different
  rw [get?_insert, if_neg different.symm]

theorem sameBut_others (name : String) (fields : Fields α) :
    SameBut name fields (others name fields) := by
  intro other different
  induction fields with
  | nil => rfl
  | cons field rest ih =>
      obtain ⟨first, value⟩ := field
      by_cases here : first = name
      · subst here
        rw [others_cons_self, get?_cons, if_neg different.symm, ih]
      · rw [others_cons_of_ne _ _ _ _ here, get?_cons, get?_cons, ih]

end Fields

/-! ## One step -/

namespace Step

/-- Put a value one step away: in the place of the old one, or as a new member. -/
def put (value : Json) : Step → Json → Json
  | .key name, .object members => .object (Fields.insert name value members)
  | .index position, .array items => .array (items.set position value)
  | _, holder => holder

theorem next?_key (name : String) (members : List (String × Json)) :
    (Step.key name).next? (.object members) = Fields.get? members name :=
  rfl

theorem next?_put_self (step : Step) (holder old value : Json)
    (there : step.next? holder = some old) : step.next? (step.put value holder) = some value := by
  cases step with
  | key name =>
      cases holder with
      | object members => rw [put, next?_key, Fields.get?_insert, if_pos rfl]
      | null | bool _ | number _ | string _ | array _ => cases there
  | index position =>
      cases holder with
      | array items =>
          obtain ⟨inside, _⟩ := List.getElem?_eq_some_iff.mp there
          exact List.getElem?_set_self inside
      | null | bool _ | number _ | string _ | object _ => cases there

theorem next?_put_of_ne (step other : Step) (different : step ≠ other) (holder value : Json) :
    other.next? (step.put value holder) = other.next? holder := by
  cases holder with
  | object members =>
      cases step with
      | key name =>
          cases other with
          | key name' =>
              have names : name ≠ name' := fun same => different (congrArg Step.key same)
              rw [put, next?_key, next?_key, Fields.get?_insert, if_neg names]
          | index position' => rfl
      | index position => rfl
  | array items =>
      cases step with
      | key name => rfl
      | index position =>
          cases other with
          | key name' => rfl
          | index position' =>
              have positions : position ≠ position' := fun same =>
                different (congrArg Step.index same)
              exact List.getElem?_set_ne positions
  | null | bool _ | number _ | string _ => cases step <;> rfl

end Step

/-! ## Many steps -/

namespace Path

/-- Put a value at the end of the way, if the way leads anywhere. -/
def put (value : Json) : List Step → Json → Json
  | [], _ => value
  | step :: rest, holder =>
    match step.next? holder with
    | some child => step.put (put value rest child) holder
    | none => holder

theorem follow?_cons (step : Step) (rest : List Step) (holder value : Json) :
    follow? (step :: rest) holder = some value ↔
      ∃ child, step.next? holder = some child ∧ follow? rest child = some value := by
  rw [follow?, Option.bind_eq_some_iff]

theorem follow?_put_self (place : List Step) (record old value : Json)
    (there : follow? place record = some old) :
    follow? place (put value place record) = some value := by
  induction place generalizing record with
  | nil => rfl
  | cons step rest ih =>
      obtain ⟨child, near, far⟩ := (follow?_cons step rest record old).mp there
      simp only [put, near]
      exact (follow?_cons _ _ _ _).mpr
        ⟨_, Step.next?_put_self step record child _ near, ih child far⟩

/-- A path that does not end on the way to the place, and to which the old and the new value look
the same, leads to the same as before. -/
theorem follow?_put (path place : List Step) (record old value : Json)
    (there : follow? place record = some old) (onward : ¬ path <+: place)
    (alike : ∀ rest, path = place ++ rest → follow? rest value = follow? rest old) :
    follow? path (put value place record) = follow? path record := by
  induction place generalizing path record with
  | nil =>
      cases there
      exact alike path rfl
  | cons step rest ih =>
      obtain ⟨child, near, far⟩ := (follow?_cons step rest record old).mp there
      cases path with
      | nil => exact absurd List.nil_prefix onward
      | cons first others =>
          simp only [put, near, follow?]
          by_cases same : step = first
          · subst first
            rw [Step.next?_put_self step record child _ near, near]
            refine ih others child far ?_ ?_
            · exact fun ends => onward (List.cons_prefix_cons.mpr ⟨rfl, ends⟩)
            · exact fun tail split => alike tail (congrArg (step :: ·) split)
          · rw [Step.next?_put_of_ne step first same]

/-- The ways part: neither is a part of the other. -/
def Apart (path place : List Step) : Prop :=
  ¬ path <+: place ∧ ¬ place <+: path

instance (path place : List Step) : Decidable (Apart path place) :=
  inferInstanceAs (Decidable (_ ∧ _))

theorem Apart.within {path place inner : List Step} (apart : Apart path place)
    (within : place <+: inner) : Apart path inner := by
  refine ⟨?_, fun leads => apart.2 (within.trans leads)⟩
  intro ends
  rcases List.prefix_or_prefix_of_prefix ends within with short | long
  · exact apart.1 short
  · exact apart.2 long

theorem follow?_put_of_apart (path place : List Step) (record old value : Json)
    (there : follow? place record = some old) (apart : Apart path place) :
    follow? path (put value place record) = follow? path record := by
  refine follow?_put path place record old value there apart.1 ?_
  rintro rest rfl
  exact absurd (List.prefix_append place rest) apart.2

/-- The member of a name is the only thing in which two objects differ.  A path that parts from
the way to it finds the same in both. -/
theorem follow?_put_object (path holder : List Step) (name : String) (record : Json)
    (members members' : List (String × Json))
    (there : follow? holder record = some (.object members))
    (same : Fields.SameBut name members members') (apart : Apart path (holder ++ [.key name])) :
    follow? path (put (.object members') holder record) = follow? path record := by
  have onward : ¬ path <+: holder := fun ends =>
    apart.1 (ends.trans (List.prefix_append holder _))
  refine follow?_put path holder record _ _ there onward ?_
  rintro rest rfl
  cases rest with
  | nil => exact absurd ⟨[], by simp⟩ onward
  | cons step rest =>
      have looks : step.next? (.object members') = step.next? (.object members) := by
        cases step with
        | index position => rfl
        | key other =>
            rw [Step.next?_key, Step.next?_key]
            refine (same other ?_).symm
            rintro rfl
            exact apart.2 ⟨rest, by simp⟩
      simp only [follow?, looks]

end Path

end Crosswalk
