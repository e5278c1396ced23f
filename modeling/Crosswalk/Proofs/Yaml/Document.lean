import Crosswalk.Proofs.Yaml.Characters
import Crosswalk.Proofs.Yaml.Reading
import Crosswalk.Yaml.Parse

/-!
# Reading a written list

A list that has been written as a document is read back, whatever values stand in it, where no
object has a name twice and the reader's limit of nesting is kept (`parse_write`).
-/

set_option autoImplicit false

namespace Crosswalk.Yaml

theorem skip_start (rest : List Char) :
    (Place.start ('-' :: ' ' :: rest)).skip false = Place.start ('-' :: ' ' :: rest) :=
  skip_atToken false _ ((Text.stopsAt_cons _ _ _).mpr rfl)

theorem blockContent_start (fuel : Nat) (rest : List Char) :
    blockContent (fuel + 2) 0 false false (Place.start ('-' :: ' ' :: rest)) =
      (blockItems fuel 0 (Place.start ('-' :: ' ' :: rest))).bind fun (items, last) =>
        some (.array items .bracket, last) := by
  have ended : Place.ended (Place.start ('-' :: ' ' :: rest)) = false :=
    ended_dash 0 0 true [] rest
  rw [blockContent, skip_start]
  simp only [ended, Bool.false_eq_true, if_false, decide_true, Bool.true_or, if_true]
  exact blockValue_dash 0 fuel 0 0 false [] rest

/-- A document that begins with a dash is a list. -/
theorem outline?_dash (rest : List Char) (written : Written ('-' :: ' ' :: rest)) :
    outline? (String.ofList ('-' :: ' ' :: rest)) =
      (blockItems (4 * ('-' :: ' ' :: rest).length + 2) 0 (Place.start ('-' :: ' ' :: rest))).bind
        fun (items, last) => if atEnd last then some (.array items .bracket) else none := by
  have allowed : ('-' :: ' ' :: rest).all isAllowed = true :=
    List.all_eq_true.mpr fun c member => isAllowed_of_isPrintable c (written c member)
  have kept := normalizeBreaks_written _ written
  have marker : Place.atMarker (Place.start ('-' :: ' ' :: rest)) = false := by
    simp [Place.atMarker, Place.start]
  have given : (Place.start ('-' :: ' ' :: rest)).rest.isEmpty = false := rfl
  rw [outline?, String.toList_ofList]
  simp only [allowed, kept, skip_start, marker, given, blockContent_start, Bool.not_true,
    Bool.false_eq_true, if_false, Bool.false_and]
  simp only [Option.bind_eq_bind, Option.bind_assoc, Option.bind_some]

theorem atEnd_of_comesTo (anchors : List (String × Outline)) (line : Nat) (last : Place)
    (comes : ComesTo anchors line 0 [] last) : atEnd last = true := by
  obtain ⟨later, _, here⟩ := comes
  simp [atEnd, here]

theorem write_array (items : List Json) :
    write (.array items) = String.ofList (closed (inlineText 0 (.array items))) := by
  simp only [write, closed]
  split <;> simp

theorem outline?_items (item : Json) (items : List Json)
    (distinct : ∀ item' ∈ item :: items, item'.Distinct) :
    ∃ os, outline? (write (.array (item :: items))) = some (.array os .bracket) ∧
      ∀ rules : DecodingRules, itemsHeight (item :: items) ≤ rules.room →
        Decoder.anyItems rules os = .ok (item :: items) := by
  obtain ⟨first, others⟩ := List.forall_mem_cons.mp distinct
  have layout : closed (inlineText 0 (.array (item :: items))) =
      '-' :: ' ' :: (closed (inlineText (0 + 1 + 1) item) ++ itemLines 0 items) :=
    closed_items 0 item items
  have written : Written (closed (inlineText 0 (.array (item :: items)))) := by
    intro c member
    rcases mem_closed _ c member with inside | rfl
    · exact (written_value _ 0).1 c inside
    · decide
  have none : NoItem [] := rfl
  obtain ⟨os, last, read, means, comes⟩ := blockItems_items item items (read_value item first).1
    (fun item' member => (read_value item' (others item' member)).1) 0
    (4 * (closed (inlineText 0 (.array (item :: items)))).length + 2) 0 0 true [] []
    (Nat.le_refl 0) (fun _ => none) (Text.stopsAt_nil _) (by
      simp only [inlineText, spaces, List.replicate_zero, List.append_nil]
      omega)
  have whole : closed (itemsText 0 Option.none (item :: items)) ++ (spaces 0 ++ []) =
      closed (inlineText 0 (.array (item :: items))) := List.append_nil _
  rw [whole] at read
  refine ⟨os, ?_, means⟩
  rw [layout] at written read
  rw [write_array, layout, outline?_dash _ written, Place.start, read]
  simp [atEnd_of_comesTo [] 0 last comes]

theorem parse_write (items : List Json) (distinct : (Json.array items).Distinct)
    (low : (Json.array items).height ≤ nestingLimit) :
    parse (write (.array items)) = .ok (.array items) := by
  obtain ⟨-, inside⟩ := (Json.every_array_iff _ _).mp distinct
  cases items with
  | nil => with_unfolding_all rfl
  | cons item items =>
      obtain ⟨os, read, means⟩ := outline?_items item items inside
      have value := means_array os _ means ⟨nestingLimit, .never, .never⟩ low
      simp only [parse, decodeText, read]
      exact value

end Crosswalk.Yaml
