import Crosswalk.Output.Console
import Crosswalk.Proofs.Records

/-!
# The JSON console as a stream of values

In the JSON format an item prints the value that it has for programs on one line, and an item for
people prints nothing (`text_of_item`).  A summary has an object with its counts for programs.  So
what items print one after another is JSON Lines (`text_of_items`), in which the reader finds their
values, in order and nothing else (`json_console_streams_values`).
-/

set_option autoImplicit false

namespace Crosswalk

/-! ## Values that are printed -/

namespace Json

/-- The reader gives the value again for its text: its floats are read back, no object in it has a
name twice, and its containers are not nested too deep. -/
structure Readable (value : Json) : Prop where
  floats : value.FloatsReadBack
  distinct : value.Distinct
  room : value.height ≤ nestingLimit

theorem compactChars_printable (value : Json) : Printable value.compactChars := by
  rw [compactChars_eq value 0]
  exact layout_compact_printable 0 value

theorem floats_object_iff (members : List (String × Json)) :
    (object members).FloatsReadBack ↔ ∀ member ∈ members, (Prod.snd member).FloatsReadBack := by
  simp [FloatsReadBack]

theorem floats_integer (value : Int) (fits : FitsWord value) :
    (number (.integer value fits)).FloatsReadBack := by
  simp [FloatsReadBack]

theorem floats_ofNat (n : Nat) : (ofNat n).FloatsReadBack := by
  rw [ofNat, Number.ofNat]
  split <;> exact floats_integer _ _

theorem floats_ofInt (n : Int) : (number ((Number.ofInt? n).getD default)).FloatsReadBack := by
  rw [Number.ofInt?]
  split <;> exact floats_integer _ _

theorem floats_bool (b : Bool) : (bool b).FloatsReadBack := by
  simp [FloatsReadBack]

theorem floats_string (s : String) : (string s).FloatsReadBack := by
  simp [FloatsReadBack]

end Json

theorem CatalogSummary.readable_toJson (summary : CatalogSummary) : summary.toJson.Readable where
  floats := by simp [toJson, Json.floats_object_iff, Json.floats_ofNat]
  distinct := by simp [toJson, Json.Distinct, Json.ofNat, Fields.names]
  room := by simp [toJson, Json.height, membersHeight, Json.ofNat, Json.nestingLimit]

theorem BatchSummary.readable_toJson (summary : BatchSummary) : summary.toJson.Readable where
  floats := by
    simp [toJson, Json.floats_object_iff, Json.floats_ofNat, Json.floats_ofInt, Json.floats_bool,
      Json.floats_string]
  distinct := by simp [toJson, Json.Distinct, Json.ofNat, Fields.names]
  room := by simp [toJson, Json.height, membersHeight, Json.ofNat, Json.nestingLimit]

namespace Printed

/-- The value that an item has for programs, if it is not for people only. -/
def value? : Printed → Option Json
  | .data value | .record _ value => some value
  | .catalogSummary summary =>
    some (.object
      [("sources", .ofNat summary.sources), ("required_sources", .ofNat summary.requiredSources),
        ("destinations", .ofNat summary.destinations), ("transforms", .ofNat summary.maskUses),
        ("links", .ofNat summary.links)])
  | .batchSummary summary =>
    some (.object
      [("submitted", .ofNat summary.counts.submitted),
        ("processed", .ofNat summary.counts.processed),
        ("succeeded", .ofNat summary.counts.succeeded), ("failed", .ofNat summary.counts.failed),
        ("halted", .bool summary.counts.halted), ("started_at", .string summary.startedAt.text),
        ("duration_ms", .number ((Number.ofInt? summary.duration).getD default))])
  | _ => none

/-- The item is no text that is printed as it is, and a value handed in can be read. -/
def Sound : Printed → Prop
  | .data value | .record _ value => value.Readable
  | .raw _ | .line _ => False
  | _ => True

theorem Sound.readable {item : Printed} (sound : item.Sound) (value : Json)
    (has : item.value? = some value) : value.Readable := by
  cases item with
  | data | record =>
      cases has
      exact sound
  | catalogSummary summary =>
      cases has
      exact summary.readable_toJson
  | batchSummary summary =>
      cases has
      exact summary.readable_toJson
  | _ => cases has

end Printed

/-! ## What the console prints -/

theorem Text.trimEnd_solid (cs : List Char) (c : Char) (solid : isBlank c = false) :
    trimEnd (cs ++ [c]) = cs ++ [c] := by
  simp [trimEnd, solid]

namespace Records

theorem toJsonLines_cons (value : Json) (values : List Json) :
    toJsonLines (value :: values) = Console.onLine value.compact ++ toJsonLines values := by
  have feed : String.ofList ['\n'] = "\n" := rfl
  rw [toJsonLines, List.flatMap_cons, String.ofList_append, String.ofList_append, feed]
  rfl

theorem toJsonLines_append (before after : List Json) :
    toJsonLines (before ++ after) = toJsonLines before ++ toJsonLines after := by
  rw [toJsonLines, List.flatMap_append, String.ofList_append]
  rfl

theorem toJsonLines_singleton (value : Json) :
    toJsonLines [value] = Console.onLine value.compact := by
  rw [toJsonLines_cons]
  exact String.append_empty

end Records

namespace Console

/-- Compact text has no line break of its own. -/
theorem dataText_json (console : Console) (json : console.format = .json) (value : Json) :
    console.dataText value = Records.toJsonLines [value] := by
  have unbroken : value.compactChars.getLast? ≠ some '\n' := by
    intro ends
    have above := value.compactChars_printable '\n' (List.mem_of_getLast? ends)
    exact absurd above (by decide)
  have text : console.format.write value = String.ofList value.compactChars := by
    rw [json]
    rfl
  rw [dataText, text, String.toList_ofList, if_neg unbroken, Records.toJsonLines_singleton]
  rfl

/-- The compact text of an object ends with a brace, so nothing is trimmed. -/
theorem summaryText_object (members : List (String × Json)) :
    summaryText (Json.object members).compact = Records.toJsonLines [.object members] := by
  have text : (Json.object members).compactChars =
      ('\x7b' :: Json.compactMembers members) ++ ['\x7d'] := rfl
  rw [summaryText, Records.toJsonLines_singleton, Json.compact, String.toList_ofList, text,
    Text.trimEnd_solid _ _ (by decide)]

section Json
variable (console : Console) (json : console.format = .json)
include json

/-- In the JSON format an item prints a line for the value that it has for programs, and nothing
else, whatever the console does with messages and colours. -/
theorem text_of_item (item : Printed) (sound : item.Sound) :
    console.text item = Records.toJsonLines item.value?.toList := by
  have quietly : console.chatty = false := by simp [chatty, json]
  have machine : ¬ console.format = .human := by simp [json]
  cases item with
  | info | success | heading | table =>
      simp only [text, quietly]
      rfl
  | warning | error | failure =>
      simp only [text, if_neg machine]
      rfl
  | raw | line => cases sound
  | data value => exact console.dataText_json json value
  | record index value =>
      simp only [text, if_neg machine]
      exact console.dataText_json json value
  | catalogSummary | batchSummary =>
      simp only [text, json]
      exact summaryText_object _

/-- Items printed one after another give the lines of their values. -/
theorem text_of_items (items : List Printed) (sound : ∀ item ∈ items, item.Sound) :
    String.join (items.map console.text) =
      Records.toJsonLines (items.filterMap Printed.value?) := by
  induction items with
  | nil => rfl
  | cons item items ih =>
      obtain ⟨head, tail⟩ := List.forall_mem_cons.mp sound
      have values : (item :: items).filterMap Printed.value? =
          item.value?.toList ++ items.filterMap Printed.value? := by
        rw [List.filterMap_cons]
        cases item.value? <;> rfl
      rw [List.map_cons, String.join_cons, text_of_item console json item head, ih tail, values,
        Records.toJsonLines_append]

/-- Whatever is printed in the JSON format, quietly or not and coloured or not, the text is one
line for each value and summary that was handed in, in the order in which they were, and nothing
else, and the reader of JSON Lines finds just these values in it. -/
theorem json_console_streams_values (items : List Printed) (sound : ∀ item ∈ items, item.Sound) :
    String.join (items.map console.text) =
        Records.toJsonLines (items.filterMap Printed.value?) ∧
      Records.lines (String.join (items.map console.text)).toList =
        (items.filterMap Printed.value?).map Json.compactChars ∧
      Records.ofText .jsonLines (String.join (items.map console.text)) =
        .ok (items.filterMap Printed.value?) := by
  have readable : ∀ value ∈ items.filterMap Printed.value?, value.Readable := by
    intro value member
    obtain ⟨item, printed, has⟩ := List.mem_filterMap.mp member
    exact (sound item printed).readable value has
  have read := Records.ofText_toText .jsonLines (items.filterMap Printed.value?) (by decide)
    (fun value member => (readable value member).floats)
    (fun value member => (readable value member).distinct)
    (fun value member => (readable value member).room)
  rw [text_of_items console json items sound]
  exact ⟨rfl, Records.lines_toJsonLines _, read⟩

end Json

/-- Messages and a table between a text with line breaks, a record, a null and two summaries. -/
def noisySession : List Printed :=
  [.info "two\nlines", .data (.string "a\r\nb"), .table ["│"] [["\n"]],
    .record 3 Records.noisyRecord, .failure 4 "\x7b\"no\": \"record\"\x7d", .data .null,
    .catalogSummary ⟨1, 1, 2, 0, 3⟩, .warning "halted\n",
    .batchSummary ⟨⟨5, 3, 2, 1, true⟩, ⟨1737109800, 5000000⟩, 12⟩]

theorem noisySession_sound : ∀ item ∈ noisySession, item.Sound := by
  have text : (Json.string "a\r\nb").Readable := ⟨.string _ trivial, .string _ trivial, by decide⟩
  have record : Records.noisyRecord.Readable :=
    ⟨Records.noisyRecord_floats, Records.noisyRecord_distinct, by decide⟩
  have null : Json.null.Readable := ⟨.null trivial, .null trivial, by decide⟩
  simp [noisySession, Printed.Sound, text, record, null]

theorem noisySession_streams_values :
    (∀ item ∈ noisySession, item.Sound) ∧
      (Records.lines
          (String.join (noisySession.map (Console.mk .json true true).text)).toList).length = 5 ∧
      Records.ofText .jsonLines
          (String.join (noisySession.map (Console.mk .json true true).text)) =
        .ok [.string "a\r\nb", Records.noisyRecord, .null,
          .object [("sources", .ofNat 1), ("required_sources", .ofNat 1),
            ("destinations", .ofNat 2), ("transforms", .ofNat 0), ("links", .ofNat 3)],
          .object [("submitted", .ofNat 5), ("processed", .ofNat 3), ("succeeded", .ofNat 2),
            ("failed", .ofNat 1), ("halted", .bool true),
            ("started_at", .string "2025-01-17T10:30:00.005Z"), ("duration_ms", .ofNat 12)]] := by
  obtain ⟨_, lines, read⟩ := json_console_streams_values (Console.mk .json true true) rfl
    noisySession noisySession_sound
  exact ⟨noisySession_sound, by rw [lines]; rfl, read⟩

end Console

end Crosswalk
