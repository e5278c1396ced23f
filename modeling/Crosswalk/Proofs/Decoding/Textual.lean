import Crosswalk.Json.Parse
import Crosswalk.Proofs.Json.Induction
import Crosswalk.Proofs.Traversal

/-!
# Values that texts give

The outline of a JSON text has no text without quotation marks in it (`outline_textual`).  Any value
that is decoded from such an outline has no name twice in an object and no more containers nested
in each other than there was room for (`any_gives`).
-/

set_option autoImplicit false

namespace Crosswalk

/-- The outline of a text in which all text stands in quotation marks. -/
inductive Outline.Textual : Outline → Prop where
  | null : Textual .null
  | bool (b : Bool) : Textual (.bool b)
  | number (n : Except Fault Number) : Textual (.number n)
  | string (s : Except Fault String) : Textual (.string s)
  | cut (stop : Stop) : Textual (.cut stop)
  | array (items : List Outline) (closing : Closing) (inside : ∀ o ∈ items, Textual o) :
      Textual (.array items closing)
  | object (members : List (Except Fault String × Outline)) (closing : Closing)
      (inside : ∀ member ∈ members, Textual (Prod.snd member)) :
      Textual (.object members closing)

namespace Json

open Outline (Textual)

/-! ## What is scanned -/

theorem scanWord_textual (word : List Char) (value : Outline) (cs : List Char)
    (textual : value.Textual) : (scanWord word value cs).1.Textual := by
  rw [scanWord]
  split
  · exact textual
  · exact .cut _

theorem scanNumber_textual (cs : List Char) : (scanNumber cs).1.Textual := by
  rw [scanNumber]
  split
  · split
    · exact .number _
    · exact .number _
  · exact .cut _

theorem scanString_textual (cs : List Char) : (scanString cs).1.Textual := by
  rw [scanString]
  split
  · exact .string _
  · exact .cut _

/-- What a scan with less fuel yields. -/
structure ScansTextual (fuel : Nat) : Prop where
  value : ∀ cs, (scanValue fuel cs).1.Textual
  items : ∀ first cs, ∀ o ∈ (scanItems fuel first cs).1, o.Textual
  members : ∀ first cs, ∀ member ∈ (scanMembers fuel first cs).1, (Prod.snd member).Textual

theorem scanValue_textual (fuel : Nat) (below : ScansTextual fuel) (cs : List Char) :
    (scanValue (fuel + 1) cs).1.Textual := by
  simp only [scanValue]
  split
  · exact .cut _
  · split
    · exact scanString_textual _
    split
    · exact .array _ _ (below.items _ _)
    split
    · exact .object _ _ (below.members _ _)
    split
    · exact scanWord_textual _ _ _ .null
    split
    · exact scanWord_textual _ _ _ (.bool true)
    split
    · exact scanWord_textual _ _ _ (.bool false)
    split
    · exact scanNumber_textual _
    · exact .cut _

/-- One item, and those after it. -/
def scanItem (fuel : Nat) (cs : List Char) : List Outline × Closing × Option (List Char) :=
  match scanValue fuel cs with
  | (value, none) => ([value], .bracket, none)
  | (value, some rest) =>
    let (items, closing, rest) := scanItems fuel false rest
    (value :: items, closing, rest)

theorem scanItem_textual (fuel : Nat) (below : ScansTextual fuel) (cs : List Char) :
    ∀ o ∈ (scanItem fuel cs).1, o.Textual := by
  have value := below.value cs
  rw [scanItem]
  split
  · rename_i read
    rw [read] at value
    exact List.forall_mem_singleton.mpr value
  · rename_i read
    rw [read] at value
    exact List.forall_mem_cons.mpr ⟨value, below.items false _⟩

theorem scanItems_textual (fuel : Nat) (below : ScansTextual fuel) (first : Bool) (cs : List Char) :
    ∀ o ∈ (scanItems (fuel + 1) first cs).1, o.Textual := by
  have item := scanItem_textual fuel below
  simp only [scanItems]
  split
  · exact List.forall_mem_nil _
  · split
    · exact List.forall_mem_nil _
    split
    · exact item _
    split
    · split
      · exact List.forall_mem_nil _
      · split
        · exact List.forall_mem_nil _
        · exact item _
    · exact List.forall_mem_nil _

/-- One member whose opening quotation mark has been read, and those after it. -/
def scanMember (fuel : Nat) (cs : List Char) :
    List (Except Fault String × Outline) × Closing × Option (List Char) :=
  match readString .empty cs with
  | .error stop => ([], .stopped stop stop.wanted, none)
  | .ok (key, rest) =>
    match skipSpace rest with
    | [] => ([(key, .cut (.plain .endInObject))], .bracket, none)
    | c :: rest =>
      if c = ':' then
        match scanValue fuel rest with
        | (value, none) => ([(key, value)], .bracket, none)
        | (value, some rest) =>
          let (members, closing, rest) := scanMembers fuel false rest
          ((key, value) :: members, closing, rest)
      else
        ([(key, .cut (.plain .expectedColon))], .bracket, none)

theorem scanMember_textual (fuel : Nat) (below : ScansTextual fuel) (cs : List Char) :
    ∀ member ∈ (scanMember fuel cs).1, (Prod.snd member).Textual := by
  rw [scanMember]
  split
  · exact List.forall_mem_nil _
  · split
    · exact List.forall_mem_singleton.mpr (.cut _)
    · rename_i rest _
      split
      · have value := below.value rest
        split
        · rename_i read
          rw [read] at value
          exact List.forall_mem_singleton.mpr value
        · rename_i read
          rw [read] at value
          exact List.forall_mem_cons.mpr ⟨value, below.members false _⟩
      · exact List.forall_mem_singleton.mpr (.cut _)

theorem scanMembers_textual (fuel : Nat) (below : ScansTextual fuel) (first : Bool)
    (cs : List Char) :
    ∀ member ∈ (scanMembers (fuel + 1) first cs).1, (Prod.snd member).Textual := by
  have member := scanMember_textual fuel below
  simp only [scanMembers]
  split
  · exact List.forall_mem_nil _
  · split
    · exact List.forall_mem_nil _
    split
    · split
      · exact member _
      · exact List.forall_mem_nil _
    split
    · split
      · exact List.forall_mem_nil _
      · split
        · exact member _
        split
        · exact List.forall_mem_nil _
        · exact List.forall_mem_nil _
    · exact List.forall_mem_nil _

theorem scansTextual (fuel : Nat) : ScansTextual fuel := by
  induction fuel with
  | zero => exact ⟨fun _ => .cut _, fun _ _ => List.forall_mem_nil _, fun _ _ => List.forall_mem_nil _⟩
  | succ fuel ih =>
      exact ⟨scanValue_textual fuel ih, scanItems_textual fuel ih, scanMembers_textual fuel ih⟩

theorem outline_textual (cs : List Char) : (outline cs).1.Textual := by
  have value := (scansTextual (2 * cs.length + 2)).value cs
  rw [outline]
  split
  · rename_i read
    rwa [read] at value
  · rename_i read
    rwa [read] at value

end Json

/-! ## What is decoded -/

namespace Decoder

open Outline (Textual)

/-- What is decoded of the outline of a text has a property that may speak of the room there
was. -/
def Gives {α : Type} (decode : Decoder α) (p : Nat → α → Prop) : Prop :=
  ∀ rules o a, Textual o → decode rules o = .ok a → p rules.room a

/-- What is decoded between brackets is made of values that were decoded with less room. -/
theorem nested_eq_ok {α β : Type} (rules : DecodingRules) (inner : Except DecodeError α)
    (closing : Closing) (finish : α → β) (b : β)
    (decoded : (do
      if rules.room = 0 then throw (.unreadable .nestedTooDeep)
      let values ← inner
      closing.check
      pure (finish values)) = Except.ok b) :
    0 < rules.room ∧ ∃ values, inner = .ok values ∧ b = finish values := by
  split at decoded
  · cases decoded
  · rename_i positive
    obtain ⟨values, read, decoded⟩ := bind_eq_ok _ _ _ decoded
    obtain ⟨_, _, decoded⟩ := bind_eq_ok _ _ _ decoded
    cases decoded
    exact ⟨Nat.pos_of_ne_zero positive, values, read, rfl⟩

theorem anyItems_eq_ok (rules : DecodingRules) (items : List Outline) (values : List Json)
    (decoded : anyItems rules items = .ok values) :
    ∀ value ∈ values, ∃ o ∈ items, any rules o = .ok value := by
  induction items generalizing values with
  | nil =>
      cases decoded
      exact List.forall_mem_nil _
  | cons o items ih =>
      obtain ⟨first, head, decoded⟩ := bind_eq_ok _ _ _ decoded
      obtain ⟨others, tail, decoded⟩ := bind_eq_ok _ _ _ decoded
      cases decoded
      refine List.forall_mem_cons.mpr ⟨⟨o, List.mem_cons_self .., head⟩, fun value member => ?_⟩
      obtain ⟨o', inside, read⟩ := ih others tail value member
      exact ⟨o', List.mem_cons_of_mem _ inside, read⟩

theorem anyMembers_eq_ok (rules : DecodingRules)
    (members : List (Except Fault String × Outline)) (entries : List (String × Json))
    (decoded : anyMembers rules members = .ok entries) :
    ∀ entry ∈ entries, ∃ member ∈ members, any rules (Prod.snd member) = .ok (Prod.snd entry) := by
  induction members generalizing entries with
  | nil =>
      cases decoded
      exact List.forall_mem_nil _
  | cons member members ih =>
      obtain ⟨key, o⟩ := member
      cases key with
      | error fault => cases decoded
      | ok key =>
          obtain ⟨first, head, decoded⟩ := bind_eq_ok _ _ _ decoded
          obtain ⟨others, tail, decoded⟩ := bind_eq_ok _ _ _ decoded
          cases decoded
          refine List.forall_mem_cons.mpr
            ⟨⟨_, List.mem_cons_self .., head⟩, fun entry inside => ?_⟩
          obtain ⟨other, within, read⟩ := ih others tail entry inside
          exact ⟨other, List.mem_cons_of_mem _ within, read⟩

theorem any_gives : Gives any fun room value => value.Distinct ∧ value.height ≤ room := by
  intro rules o value textual decoded
  induction textual generalizing rules value with
  | null =>
      cases decoded
      exact ⟨.null trivial, Nat.zero_le _⟩
  | bool b =>
      cases decoded
      exact ⟨.bool b trivial, Nat.zero_le _⟩
  | number n =>
      cases n with
      | error fault => cases decoded
      | ok n =>
          cases decoded
          exact ⟨.number n trivial, Nat.zero_le _⟩
  | string s =>
      cases s with
      | error fault => cases decoded
      | ok s =>
          cases decoded
          exact ⟨.string s trivial, Nat.zero_le _⟩
  | cut stop => cases decoded
  | array items closing inside ih =>
      rw [any] at decoded
      obtain ⟨positive, values, read, rfl⟩ := nested_eq_ok rules _ closing Json.array _ decoded
      have each : ∀ value ∈ values, value.Distinct ∧ value.height ≤ rules.within.room := by
        intro value member
        obtain ⟨o, among, made⟩ := anyItems_eq_ok _ _ _ read value member
        exact ih o among rules.within value made
      refine ⟨.array values trivial fun value member => (each value member).1, ?_⟩
      have low := (Json.itemsHeight_le_iff values _).mpr fun value member => (each value member).2
      rw [Json.height]
      simp only [DecodingRules.within] at low
      omega
  | object members closing inside ih =>
      rw [any] at decoded
      obtain ⟨positive, entries, read, rfl⟩ := nested_eq_ok rules _ closing
        (fun entries => Json.object (Fields.ofEntries entries)) _ decoded
      have each : ∀ field ∈ Fields.ofEntries entries,
          (Prod.snd field).Distinct ∧ field.2.height ≤ rules.within.room := by
        intro field written
        have entry := Fields.mem_of_mem_ofEntries entries field written
        obtain ⟨member, among, made⟩ := anyMembers_eq_ok _ _ _ read field entry
        exact ih member among rules.within field.2 made
      refine ⟨.object _ (Fields.nodup_names_ofEntries entries) fun field member =>
        (each field member).1, ?_⟩
      have low := (Json.membersHeight_le_iff _ _).mpr fun field member => (each field member).2
      rw [Json.height]
      simp only [DecodingRules.within] at low
      omega

end Decoder

end Crosswalk
