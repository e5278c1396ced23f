import Crosswalk.Decoding.Decoder
import Crosswalk.Proofs.Fields

/-!
# Induction on JSON values

What holds of a list or an object whenever it holds of everything in it holds of every value
(`Json.induction`).  `Json.Every` says of a value and of all values in it what a predicate says of
one.  Values that the reader can give are `Distinct`: no object in them has a name twice.
-/

set_option autoImplicit false

namespace Crosswalk

namespace Json

@[elab_as_elim]
theorem induction {motive : Json → Prop} (null : motive .null) (bool : ∀ b, motive (.bool b))
    (number : ∀ n, motive (.number n)) (string : ∀ s, motive (.string s))
    (array : ∀ items, (∀ item ∈ items, motive item) → motive (.array items))
    (object : ∀ members, (∀ member ∈ members, motive (Prod.snd member)) →
      motive (.object members))
    (value : Json) : motive value :=
  @Json.rec motive (fun items => ∀ item ∈ items, motive item)
    (fun members => ∀ member ∈ members, motive (Prod.snd member))
    (fun member => motive member.2) null bool number string array object
    (List.forall_mem_nil _) (fun _ _ head tail => List.forall_mem_cons.mpr ⟨head, tail⟩)
    (List.forall_mem_nil _) (fun _ _ head tail => List.forall_mem_cons.mpr ⟨head, tail⟩)
    (fun _ _ value => value) value

/-- The predicate holds of the value and of every value in it. -/
inductive Every (p : Json → Prop) : Json → Prop where
  | null (here : p .null) : Every p .null
  | bool (b : Bool) (here : p (.bool b)) : Every p (.bool b)
  | number (n : Number) (here : p (.number n)) : Every p (.number n)
  | string (s : String) (here : p (.string s)) : Every p (.string s)
  | array (items : List Json) (here : p (.array items)) (inside : ∀ item ∈ items, Every p item) :
      Every p (.array items)
  | object (members : List (String × Json)) (here : p (.object members))
      (inside : ∀ member ∈ members, Every p (Prod.snd member)) : Every p (.object members)

theorem Every.here {p : Json → Prop} {value : Json} (every : Every p value) : p value := by
  cases every <;> assumption

@[simp]
theorem every_null_iff (p : Json → Prop) : Every p .null ↔ p .null :=
  ⟨Every.here, .null⟩

@[simp]
theorem every_bool_iff (p : Json → Prop) (b : Bool) : Every p (.bool b) ↔ p (.bool b) :=
  ⟨Every.here, .bool b⟩

@[simp]
theorem every_number_iff (p : Json → Prop) (n : Number) : Every p (.number n) ↔ p (.number n) :=
  ⟨Every.here, .number n⟩

@[simp]
theorem every_string_iff (p : Json → Prop) (s : String) : Every p (.string s) ↔ p (.string s) :=
  ⟨Every.here, .string s⟩

@[simp]
theorem every_array_iff (p : Json → Prop) (items : List Json) :
    Every p (.array items) ↔ p (.array items) ∧ ∀ item ∈ items, Every p item := by
  constructor
  · rintro (_ | _ | _ | _ | ⟨_, here, inside⟩ | _)
    exact ⟨here, inside⟩
  · rintro ⟨here, inside⟩
    exact .array items here inside

@[simp]
theorem every_object_iff (p : Json → Prop) (members : List (String × Json)) :
    Every p (.object members) ↔
      p (.object members) ∧ ∀ member ∈ members, Every p (Prod.snd member) := by
  constructor
  · rintro (_ | _ | _ | _ | _ | ⟨_, here, inside⟩)
    exact ⟨here, inside⟩
  · rintro ⟨here, inside⟩
    exact .object members here inside

/-- No object in the value has a name twice.  It is so in every value that is read
(`Decoder.any_gives`). -/
def Distinct (value : Json) : Prop :=
  value.Every fun
    | .object members => (Fields.names members).Nodup
    | _ => True

/-! ## Heights -/

theorem itemsHeight_le_iff (items : List Json) (room : Nat) :
    itemsHeight items ≤ room ↔ ∀ item ∈ items, item.height ≤ room := by
  induction items with
  | nil => simp [itemsHeight]
  | cons item rest ih => rw [itemsHeight, Nat.max_le, ih, List.forall_mem_cons]

theorem membersHeight_le_iff (members : List (String × Json)) (room : Nat) :
    membersHeight members ≤ room ↔ ∀ member ∈ members, (Prod.snd member).height ≤ room := by
  induction members with
  | nil => simp [membersHeight]
  | cons member rest ih => rw [membersHeight, Nat.max_le, ih, List.forall_mem_cons]

theorem height_lt_array (items : List Json) (item : Json) (member : item ∈ items) :
    item.height < (array items).height :=
  Nat.lt_succ_of_le ((itemsHeight_le_iff items _).mp (Nat.le_refl _) item member)

theorem height_lt_object (members : List (String × Json)) (member : String × Json)
    (inside : member ∈ members) : member.2.height < (object members).height :=
  Nat.lt_succ_of_le ((membersHeight_le_iff members _).mp (Nat.le_refl _) member inside)

end Json

end Crosswalk
