import Crosswalk.Proofs.Decoding.Textual
import Crosswalk.Proofs.Json.Reading

/-!
# Decoded lists and records

A list is decoded item by item and a record field by field.  Whatever is in a decoded list or in a
field that must be there was decoded from some outline (`list_gives`, `required_eq_value`).  The
other way, a list of written values is decoded if each of them is (`list_written`), and so is an
object with the known names of a record if its fields can be assembled (`decode_written`).
-/

set_option autoImplicit false

namespace Crosswalk

open Outline (Textual)

/-! ## Assembling -/

namespace Assembled
variable {α β : Type}

theorem seq_eq_value (f : Assembled (α → β)) (a : Assembled α) (b : β)
    (value : f <*> a = .value b) : ∃ g x, f = .value g ∧ a = .value x ∧ g x = b := by
  cases f with
  | value g =>
      cases a with
      | value x =>
          cases value
          exact ⟨g, x, rfl, rfl, rfl⟩
      | fault place e => cases value
  | fault place e =>
      cases a with
      | value x => cases value
      | fault other later =>
          simp only [Seq.seq, seq] at value
          split at value <;> cases value

theorem map_eq_value (f : α → β) (a : Assembled α) (b : β) (value : f <$> a = .value b) :
    ∃ x, a = .value x ∧ f x = b := by
  obtain ⟨g, x, same, found, made⟩ := seq_eq_value (.value f) a b value
  cases same
  exact ⟨x, found, made⟩

theorem atPlace_eq_value (place : Nat) (result : Except DecodeError α) (a : α)
    (value : atPlace place result = .value a) : result = .ok a := by
  cases result with
  | error e => cases value
  | ok b =>
      cases value
      rfl

theorem result_eq_ok (assembled : Assembled α) (a : α) (result : assembled.result = .ok a) :
    assembled = .value a := by
  cases assembled with
  | value b =>
      cases result
      rfl
  | fault place e => cases result

end Assembled

/-! ## Fields -/

namespace Parts
variable {α : Type}

/-- The fields of a record that is read from a text. -/
def Textual : Parts → Prop
  | .items list _ => ∀ o ∈ list, o.Textual
  | .members list _ => ∀ member ∈ list, (Prod.snd member).Textual

theorem find?_mem (name : String) (place found : Nat)
    (list : List (Except Fault String × Outline)) (o : Outline)
    (here : find? name place list = some (found, o)) : ∃ member ∈ list, Prod.snd member = o := by
  induction list generalizing place with
  | nil => cases here
  | cons member list ih =>
      obtain ⟨key, content⟩ := member
      have later : find? name (place + 1) list = some (found, o) →
          ∃ member ∈ (key, content) :: list, Prod.snd member = o := by
        intro here
        obtain ⟨member, inside, same⟩ := ih (place + 1) here
        exact ⟨member, List.mem_cons_of_mem _ inside, same⟩
      cases key with
      | error fault => exact later here
      | ok key =>
          rw [find?] at here
          split at here
          · cases here
            exact ⟨_, List.mem_cons_self .., rfl⟩
          · exact later here

theorem field_eq_value (parts : Parts) (textual : parts.Textual) (rules : DecodingRules)
    (index : Nat) (name : String) (decode : Decoder α) (absent : Assembled α) (a : α)
    (value : parts.field rules index name decode absent = .value a) :
    (∃ o, o.Textual ∧ decode rules o = .ok a) ∨ absent = .value a := by
  cases parts with
  | items list closing =>
      rw [field] at value
      split at value
      · rename_i o found
        exact .inl ⟨o, textual o (List.mem_of_getElem? found),
          Assembled.atPlace_eq_value _ _ _ value⟩
      · exact .inr value
  | members list closing =>
      rw [field] at value
      split at value
      · rename_i place o found
        obtain ⟨member, inside, same⟩ := find?_mem name 0 place list o found
        exact .inl ⟨o, same ▸ textual member inside, Assembled.atPlace_eq_value _ _ _ value⟩
      · exact .inr value

theorem missing_ne_value (parts : Parts) (expected : String) (index : Nat) (name : String) (a : α) :
    parts.missing expected index name ≠ .value a := by
  cases parts <;> simp [missing]

end Parts

namespace RecordShape
variable {α : Type} (shape : RecordShape)

theorem required_eq_value (parts : Parts) (textual : parts.Textual) (rules : DecodingRules)
    (index : Nat) (name : String) (decode : Decoder α) (a : α)
    (value : shape.required parts rules index name decode = .value a) :
    ∃ o, o.Textual ∧ decode rules o = .ok a := by
  rcases parts.field_eq_value textual rules index name decode _ a value with found | absent
  · exact found
  · exact absurd absent (parts.missing_ne_value _ _ _ a)

theorem defaulted_eq_value (parts : Parts) (textual : parts.Textual) (rules : DecodingRules)
    (index : Nat) (name : String) (decode : Decoder α) (default a : α)
    (value : defaulted parts rules index name decode default = .value a) :
    (∃ o, o.Textual ∧ decode rules o = .ok a) ∨ default = a := by
  rcases parts.field_eq_value textual rules index name decode _ a value with found | absent
  · exact .inl found
  · cases absent
    exact .inr rfl

/-- The record of given parts. -/
def ofParts (assemble : Parts → DecodingRules → Assembled α) (rules : DecodingRules)
    (parts : Parts) : Except DecodeError α :=
  if rules.room = 0 then
    .error (.unreadable .nestedTooDeep)
  else
    let checked := Functor.map (fun (_ : Unit) (a : α) => a) (parts.check shape.fieldNames)
    (Assembled.seq checked (assemble parts rules.within)).result

theorem ofParts_eq_ok (assemble : Parts → DecodingRules → Assembled α) (rules : DecodingRules)
    (parts : Parts) (a : α) (decoded : shape.ofParts assemble rules parts = .ok a) :
    0 < rules.room ∧ assemble parts rules.within = .value a := by
  rw [ofParts] at decoded
  split at decoded
  · cases decoded
  · rename_i positive
    have value := Assembled.result_eq_ok _ _ decoded
    obtain ⟨checked, b, both, assembled, same⟩ := Assembled.seq_eq_value _ _ _ value
    obtain ⟨_, _, made⟩ := Assembled.map_eq_value _ _ _ both
    subst made
    exact ⟨Nat.pos_of_ne_zero positive, assembled.trans (congrArg _ same)⟩

/-- A record that is read from a text was assembled from parts of that text. -/
theorem decode_eq_ok (assemble : Parts → DecodingRules → Assembled α) (rules : DecodingRules)
    (o : Outline) (textual : o.Textual) (a : α) (decoded : shape.decode assemble rules o = .ok a) :
    ∃ parts : Parts, parts.Textual ∧ 0 < rules.room ∧ assemble parts rules.within = .value a := by
  have made : ∃ parts : Parts, parts.Textual ∧ shape.ofParts assemble rules parts = .ok a := by
    cases textual with
    | array list closing inside =>
        rw [decode] at decoded
        cases form : rules.listed with
        | never =>
            simp only [form] at decoded
            cases decoded
        | exact =>
            simp only [form] at decoded
            exact ⟨.items list closing, inside, decoded⟩
        | leading =>
            -- items after the fields are passed over, so not all parts are taken
            simp only [form] at decoded
            exact ⟨.items _ closing, fun o member => inside o (List.mem_of_mem_take member), decoded⟩
    | object list closing inside => exact ⟨.members list closing, inside, decoded⟩
    | null => cases decoded
    | bool b => cases decoded
    | number n => cases n <;> cases decoded
    | string s => cases s <;> cases decoded
    | cut stop => cases decoded
  obtain ⟨parts, inside, decoded⟩ := made
  exact ⟨parts, inside, shape.ofParts_eq_ok assemble rules parts a decoded⟩

/-- A field that is found among written members and is read is had, be it required or not. -/
theorem field_written (members : List (Except Fault String × Outline)) (closing : Closing)
    (rules : DecodingRules) (index place : Nat) (name : String) (decode : Decoder α)
    (absent : Assembled α) (o : Outline) (a : α)
    (found : Parts.find? name 0 members = some (place, o)) (read : decode rules o = .ok a) :
    (Parts.members members closing).field rules index name decode absent = .value a := by
  simp only [Parts.field, found, read]
  rfl

/-- An object with known names is the record that its fields are assembled to. -/
theorem decode_written (assemble : Parts → DecodingRules → Assembled α) (rules : DecodingRules)
    (members : List (String × Json)) (a : α) (room : 0 < rules.room)
    (known : (Parts.members (Json.textMembers members) .bracket).check shape.fieldNames = .value ())
    (assembled : assemble (.members (Json.textMembers members) .bracket) rules.within = .value a) :
    shape.decode assemble rules (Json.object members).textOutline = .ok a := by
  have record : shape.ofParts assemble rules (.members (Json.textMembers members) .bracket) =
      .ok a := by
    rw [ofParts, if_neg (Nat.ne_of_gt room), known, assembled]
    rfl
  exact record

end RecordShape

/-! ## Lists -/

namespace Decoder
variable {α : Type} (decode : Decoder α)

theorem items_eq_ok (rules : DecodingRules) (os : List Outline) (as : List α)
    (decoded : items decode rules os = .ok as) : ∀ a ∈ as, ∃ o ∈ os, decode rules o = .ok a := by
  induction os generalizing as with
  | nil =>
      cases decoded
      exact List.forall_mem_nil _
  | cons o os ih =>
      obtain ⟨first, head, decoded⟩ := bind_eq_ok _ _ _ decoded
      obtain ⟨others, tail, decoded⟩ := bind_eq_ok _ _ _ decoded
      cases decoded
      refine List.forall_mem_cons.mpr ⟨⟨o, List.mem_cons_self .., head⟩, fun a member => ?_⟩
      obtain ⟨o', inside, read⟩ := ih others tail a member
      exact ⟨o', List.mem_cons_of_mem _ inside, read⟩

/-- Every item of a list was decoded with less room. -/
theorem list_gives (p : Nat → α → Prop) (gives : Gives decode p) :
    Gives (list decode) fun room as => 0 < room ∧ ∀ a ∈ as, p (room - 1) a := by
  intro rules o as textual decoded
  cases textual with
  | array os closing inside =>
      rw [list] at decoded
      obtain ⟨positive, _, read, rfl⟩ := nested_eq_ok rules _ closing id _ decoded
      refine ⟨positive, fun a member => ?_⟩
      obtain ⟨o, among, made⟩ := items_eq_ok decode rules.within os _ read a member
      exact gives rules.within o a (inside o among) made
  | object list closing inside => cases decoded
  | null => cases decoded
  | bool b => cases decoded
  | number n => cases n <;> cases decoded
  | string s => cases s <;> cases decoded
  | cut stop => cases decoded

/-- A list of written values is read as a list if each of them is read. -/
theorem list_written (encode : α → Json) (rules : DecodingRules) (as : List α)
    (room : 0 < rules.room)
    (read : ∀ a ∈ as, decode rules.within (encode a).textOutline = .ok a) :
    list decode rules (Json.array (as.map encode)).textOutline = .ok as := by
  have values : items decode rules.within (Json.textItems (as.map encode)) = .ok as := by
    induction as with
    | nil => rfl
    | cons a as ih =>
        obtain ⟨head, tail⟩ := List.forall_mem_cons.mp read
        rw [List.map_cons, Json.textItems, items, head, ih tail]
        rfl
  rw [Json.textOutline, list, if_neg (Nat.ne_of_gt room), values]
  rfl

end Decoder

end Crosswalk
