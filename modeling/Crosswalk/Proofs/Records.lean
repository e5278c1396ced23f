import Mathlib.Data.List.TakeWhile
import Crosswalk.Job.Transform
import Crosswalk.Proofs.Files.Extension
import Crosswalk.Proofs.Files.Tree
import Crosswalk.Proofs.Json.Reading
import Crosswalk.Proofs.Yaml.Document

/-!
# Saved records are read back

The compact text of a value has no control character (`layout_compact_printable`) and begins with
a character that is no blank.  So JSON Lines are cut at the ends of records and nowhere else
(`lines_toJsonLines`), none of them is passed over, and the records that a text is written of are
the records that it holds (`saved_records_read_back`).  A YAML text holds them as well
(`heldBy_toText`), and its floats are always read back.
-/

set_option autoImplicit false

namespace Crosswalk

namespace Json

/-! ## Text without control characters -/

def Printable (cs : List Char) : Prop :=
  ∀ c ∈ cs, 0x20 ≤ c.toNat

@[simp]
theorem printable_nil : Printable [] :=
  List.forall_mem_nil _

@[simp]
theorem printable_cons (c : Char) (cs : List Char) :
    Printable (c :: cs) ↔ 0x20 ≤ c.toNat ∧ Printable cs :=
  List.forall_mem_cons

@[simp]
theorem printable_append (cs ds : List Char) :
    Printable (cs ++ ds) ↔ Printable cs ∧ Printable ds :=
  List.forall_mem_append

theorem hexDigit_printable : ∀ n < 0x20,
    0x20 ≤ (hexDigit (n / 16)).toNat ∧ 0x20 ≤ (hexDigit (n % 16)).toNat := by
  decide

theorem escape_printable (c : Char) : Printable (escape c) := by
  rw [escape]
  split
  · simp
  split
  · simp
  split
  · simp
  split
  · simp
  split
  · simp
  split
  · simp
  split
  · simp
  split
  · rename_i control
    obtain ⟨high, low⟩ := hexDigit_printable c.toNat control
    simp [high, low]
  · rename_i printable
    simpa using printable

theorem stringText_printable (s : String) : Printable (stringText s) := by
  have escaped : Printable (s.toList.flatMap escape) := by
    intro c member
    obtain ⟨d, _, inside⟩ := List.mem_flatMap.mp member
    exact escape_printable d c inside
  simp [stringText, escaped]

theorem numerals_printable (cs : List Char) (numerals : Numerals cs) : Printable cs := by
  intro c member
  have numeral := numerals c member
  simp only [isNumeral, Char.isDigit, Bool.or_eq_true, Bool.and_eq_true, decide_eq_true_eq,
    beq_iff_eq, ge_iff_le, UInt32.le_iff_toNat_le] at numeral
  rcases numeral with (((digit | rfl) | rfl) | rfl) | rfl
  · exact Nat.le_trans (by decide) digit.1
  all_goals decide

theorem layoutItems_printable (depth : Nat) (items : List Json)
    (printable : ∀ item ∈ items, ∀ depth, Printable (layout .compact depth item)) :
    Printable (layoutItems .compact depth items) := by
  induction items with
  | nil => simp [layoutItems]
  | cons item items ih =>
      obtain ⟨head, tail⟩ := List.forall_mem_cons.mp printable
      simp [layoutItems, head depth, ih tail]

theorem layoutMembers_printable (depth : Nat) (members : List (String × Json))
    (printable : ∀ member ∈ members, ∀ depth, Printable (layout .compact depth (Prod.snd member))) :
    Printable (layoutMembers .compact depth members) := by
  induction members with
  | nil => simp [layoutMembers]
  | cons member members ih =>
      obtain ⟨head, tail⟩ := List.forall_mem_cons.mp printable
      simp [layoutMembers, stringText_printable, head depth, ih tail]

theorem layout_compact_printable (depth : Nat) (value : Json) :
    Printable (layout .compact depth value) := by
  induction value using Json.induction generalizing depth with
  | null => simp [layout]
  | bool b => cases b <;> simp [layout, boolText]
  | number n => exact numerals_printable n.text n.numerals_text
  | string s => exact stringText_printable s
  | array items ih =>
      cases items with
      | nil => simp [layout]
      | cons item items =>
          obtain ⟨head, tail⟩ := List.forall_mem_cons.mp ih
          have others := layoutItems_printable (depth + 1) items tail
          simp [layout, head (depth + 1), others]
  | object members ih =>
      cases members with
      | nil => simp [layout]
      | cons member members =>
          obtain ⟨head, tail⟩ := List.forall_mem_cons.mp ih
          have others := layoutMembers_printable (depth + 1) members tail
          simp [layout, stringText_printable, head (depth + 1), others]

end Json

namespace Records

open Text (StopsAt)

/-! ## Lines -/

theorem lines_append (line rest : List Char) (printable : Json.Printable line) :
    lines (line ++ '\n' :: rest) = line :: lines rest := by
  induction line with
  | nil => rfl
  | cons c line ih =>
      obtain ⟨above, tail⟩ := (Json.printable_cons c line).mp printable
      have feed : c ≠ '\n' := by
        rintro rfl
        exact absurd above (by decide)
      have turn : c ≠ '\r' := by
        rintro rfl
        exact absurd above (by decide)
      rw [List.cons_append, lines, ih tail]
      · exact feed
      · exact fun _ same _ => turn same

theorem lines_toJsonLines (records : List Json) :
    lines (toJsonLines records).toList = records.map Json.compactChars := by
  rw [toJsonLines, String.toList_ofList]
  induction records with
  | nil => rfl
  | cons record records ih =>
      have printable : Json.Printable record.compactChars := by
        rw [Json.compactChars_eq record 0]
        exact Json.layout_compact_printable 0 record
      rw [List.flatMap_cons, List.append_assoc, List.singleton_append,
        lines_append _ _ printable, ih]
      rfl

/-- Text that begins with a character that is no blank is not blank. -/
theorem trim_not_isEmpty (c : Char) (cs : List Char) (solid : Text.isBlank c = false) :
    (Text.trim (c :: cs)).isEmpty = false := by
  have start : Text.trimStart (c :: cs) = c :: cs := by simp [Text.trimStart, solid]
  have some : (c :: cs).reverse.dropWhile Text.isBlank ≠ [] := by
    intro gone
    have blank := List.dropWhile_eq_nil_iff.mp gone c (by simp)
    rw [solid] at blank
    cases blank
  rw [Text.trim, start, Text.trimEnd, List.isEmpty_reverse]
  exact List.isEmpty_eq_false_iff.mpr some

theorem ofLines_compact (number : Nat) (records : List Json)
    (floats : ∀ record ∈ records, record.FloatsReadBack)
    (distinct : ∀ record ∈ records, record.Distinct)
    (room : ∀ record ∈ records, record.height ≤ Json.nestingLimit) :
    ofLines number (records.map Json.compactChars) = .ok records := by
  induction records generalizing number with
  | nil => rfl
  | cons record records ih =>
      obtain ⟨back, floats⟩ := List.forall_mem_cons.mp floats
      obtain ⟨apart, distinct⟩ := List.forall_mem_cons.mp distinct
      obtain ⟨low, room⟩ := List.forall_mem_cons.mp room
      have written : (Text.trim record.compactChars).isEmpty = false := by
        obtain ⟨c, cs, text, solid, _⟩ := Json.layout_head .compact 0 record back
        rw [Json.compactChars_eq record 0, text]
        exact trim_not_isEmpty c cs solid
      have read : Json.parse (String.ofList record.compactChars) = .ok record :=
        Json.parse_compact record back apart low
      have others := ih (number + 1) floats distinct room
      rw [List.map_cons, ofLines, if_neg (by simp [written]), read]
      simp only [others]
      rfl

/-! ## Files of records -/

/-- The format that the extension of a path tells.  What has no other one is a JSON file. -/
inductive Format.Told (path : String) : Format → Prop where
  | jsonLines (extension : String) (known : extension = "jsonl" ∨ extension = "ndjson")
      (has : Files.HasExtension path extension) : Told path .jsonLines
  | yaml (extension : String) (known : extension = "yaml" ∨ extension = "yml")
      (has : Files.HasExtension path extension) : Told path .yaml
  | json (other : ∀ extension, Files.HasExtension path extension →
      extension ∉ ["jsonl", "ndjson", "yaml", "yml"]) : Told path .json

theorem Format.told_iff (path : String) (format : Format) :
    Format.Told path format ↔ Format.ofPath path = format := by
  constructor
  · intro told
    rw [Format.ofPath]
    cases told with
    | jsonLines extension known has =>
        rw [(Files.extension?_eq_some_iff path extension).mpr has]
        rcases known with rfl | rfl <;> rfl
    | yaml extension known has =>
        rw [(Files.extension?_eq_some_iff path extension).mpr has]
        rcases known with rfl | rfl <;> rfl
    | json other =>
        have apart : ∀ extension ∈ ["jsonl", "ndjson", "yaml", "yml"],
            Files.extension? path ≠ some extension := fun extension listed found =>
          other extension ((Files.extension?_eq_some_iff path extension).mp found) listed
        split
        case h_1 found => exact absurd found (apart _ (by simp))
        case h_2 found => exact absurd found (apart _ (by simp))
        case h_3 found => exact absurd found (apart _ (by simp))
        case h_4 found => exact absurd found (apart _ (by simp))
        case h_5 => rfl
  · rintro rfl
    have has : ∀ extension, Files.extension? path = some extension →
        Files.HasExtension path extension := fun extension =>
      (Files.extension?_eq_some_iff path extension).mp
    rw [Format.ofPath]
    split
    case h_1 found => exact .jsonLines "jsonl" (.inl rfl) (has _ found)
    case h_2 found => exact .jsonLines "ndjson" (.inr rfl) (has _ found)
    case h_3 found => exact .yaml "yaml" (.inl rfl) (has _ found)
    case h_4 found => exact .yaml "yml" (.inr rfl) (has _ found)
    case h_5 jsonl ndjson yaml yml =>
        refine .json fun extension given listed => ?_
        have found := (Files.extension?_eq_some_iff path extension).mpr given
        simp only [List.mem_cons, List.not_mem_nil, or_false] at listed
        rcases listed with rfl | rfl | rfl | rfl
        · exact jsonl found
        · exact ndjson found
        · exact yaml found
        · exact yml found

/-- The documents that a list of records is written as. -/
def documents (format : Format) (records : List Json) : List Json :=
  match format with
  | .jsonLines => records
  | .json | .yaml => [.array records]

theorem ofText_toText (format : Format) (records : List Json) (json : format ≠ .yaml)
    (floats : ∀ record ∈ records, record.FloatsReadBack)
    (distinct : ∀ record ∈ records, record.Distinct)
    (room : ∀ document ∈ documents format records, document.height ≤ Json.nestingLimit) :
    ofText format (toText format records) = .ok records := by
  cases format with
  | json =>
      have floats : (Json.array records).FloatsReadBack :=
        (Json.every_array_iff _ records).mpr ⟨trivial, floats⟩
      have distinct : (Json.array records).Distinct :=
        (Json.every_array_iff _ records).mpr ⟨trivial, distinct⟩
      have read := Json.parse_pretty (.array records) floats distinct
        (room _ (List.mem_singleton_self _))
      simp only [ofText, toText, ofJson, toJson, read]
      rfl
  | jsonLines =>
      rw [ofText, toText, ofJsonLines, lines_toJsonLines]
      exact ofLines_compact 1 records floats distinct room
  | yaml => exact absurd rfl json

theorem ofText_toText_yaml (records : List Json) (distinct : ∀ record ∈ records, record.Distinct)
    (room : (Json.array records).height ≤ Json.nestingLimit) :
    ofText .yaml (toText .yaml records) = .ok records := by
  have whole : (Json.array records).Distinct :=
    (Json.every_array_iff _ records).mpr ⟨trivial, distinct⟩
  have limits : Json.nestingLimit ≤ Yaml.nestingLimit := by decide
  have read := Yaml.parse_write records whole (Nat.le_trans room limits)
  simp only [ofText, toText, ofYaml, read]
  rfl

/-- The records can be read back: their objects have no name twice and are not nested too deep, and
their floats are read back by the reader of JSON where that reads them. -/
structure Readable (format : Format) (records : List Json) : Prop where
  floats : format ≠ .yaml → ∀ record ∈ records, record.FloatsReadBack
  distinct : ∀ record ∈ records, record.Distinct
  room : ∀ document ∈ documents format records, document.height ≤ Json.nestingLimit

/-- A text is what records are written as in a format, and holds them for who reads it. -/
structure HeldBy (format : Format) (records : List Json) (text : String) : Prop where
  written : text = toText format records
  read : Readable format records → ofText format text = .ok records

theorem heldBy_toText (format : Format) (records : List Json) :
    HeldBy format records (toText format records) := by
  refine ⟨rfl, fun readable => ?_⟩
  by_cases yaml : format = .yaml
  · subst yaml
    exact ofText_toText_yaml records readable.distinct (readable.room _ (List.mem_singleton_self _))
  · exact ofText_toText format records yaml (readable.floats yaml) readable.distinct readable.room

/-- Whatever is in the records, the text that they are written as under a path holds just them, and
so does the file that they are saved in. -/
theorem saved_records_read_back (path : String) (records : List Json)
    (json : Format.ofPath path ≠ .yaml)
    (floats : ∀ record ∈ records, record.FloatsReadBack)
    (distinct : ∀ record ∈ records, record.Distinct)
    (room : ∀ document ∈ documents (Format.ofPath path) records,
      document.height ≤ Json.nestingLimit) :
    ofText (Format.ofPath path) (toText (Format.ofPath path) records) = .ok records ∧
      ∀ tree saved, Records.save tree path records = .ok saved →
        ∃ text, saved.read path = .ok text ∧ ofText (Format.ofPath path) text = .ok records := by
  have read := ofText_toText (Format.ofPath path) records json floats distinct room
  refine ⟨read, fun tree saved saves => ⟨_, ?_, read⟩⟩
  exact Files.Tree.read_of_savedAs tree saved path _
    (Files.Tree.savedAs_of_save tree saved path _ saves)

/-- A record with line breaks, quotation marks and other characters in its text, and a float. -/
def noisyRecord : Json :=
  .object
    [("na\nïve", .string "a\r\n\"b\"\t\u0001→"),
      ("rate", .number (.float Coercion.one)),
      ("tags", .array [.ofNat 3, .null, .array []])]

theorem noisyRecord_floats : noisyRecord.FloatsReadBack := by
  have rate : (Number.float Coercion.one).ReadsBack := by rfl
  simp [Json.FloatsReadBack, noisyRecord, Json.ofNat, Number.ofNat, FitsWord, wordLimit, rate]

theorem noisyRecord_distinct : noisyRecord.Distinct := by
  simp [Json.Distinct, noisyRecord, Json.ofNat, Fields.names]

/-- JSON Lines are any values, here the noisy record and a null. -/
theorem noisy_records_read_back :
    Format.ofPath "out/clean.jsonl" = .jsonLines ∧
      ofText .jsonLines (toText .jsonLines [noisyRecord, .null]) = .ok [noisyRecord, .null] ∧
      ∀ tree saved, Records.save tree "out/clean.jsonl" [noisyRecord, .null] = .ok saved →
        ∃ text, saved.read "out/clean.jsonl" = .ok text ∧
          ofText .jsonLines text = .ok [noisyRecord, .null] := by
  have lines : Format.ofPath "out/clean.jsonl" = .jsonLines := by decide
  have floats : ∀ record ∈ [noisyRecord, .null], record.FloatsReadBack :=
    List.forall_mem_cons.mpr ⟨noisyRecord_floats, List.forall_mem_singleton.mpr (.null trivial)⟩
  have distinct : ∀ record ∈ [noisyRecord, .null], record.Distinct :=
    List.forall_mem_cons.mpr ⟨noisyRecord_distinct, List.forall_mem_singleton.mpr (.null trivial)⟩
  have read := saved_records_read_back "out/clean.jsonl" [noisyRecord, .null] (by decide) floats
    distinct (by decide)
  rw [lines] at read
  exact ⟨lines, read⟩

end Records

end Crosswalk
