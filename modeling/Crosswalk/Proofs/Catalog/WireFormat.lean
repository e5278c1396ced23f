import Crosswalk.Catalog.Codec
import Crosswalk.Proofs.Catalog.Construction
import Crosswalk.Proofs.Decoding.Record

/-!
# Catalog documents are read back

Every entry of a catalog is decoded from what it is written as (`Document.decoder_toJson`), and a
catalog is made of its own document again (`Catalog.ofDocument_toDocument`), so what is written as
text is read back.
-/

set_option autoImplicit false

namespace Crosswalk

/-! ## Entries -/

theorem Decoder.word_written (rules : DecodingRules) (n : UInt64) :
    Decoder.word rules (Json.ofUInt64 n).textOutline = .ok n := by
  have natural : Decoder.natural "u64" rules (Json.ofUInt64 n).textOutline = .ok n.toNat := by
    have positive : ¬ ((n.toNat : Int) < 0) := by omega
    simp [Json.ofUInt64, Number.ofUInt64, Json.textOutline, Decoder.natural, positive]
  rw [Decoder.word, natural]
  exact congrArg Except.ok (UInt64.ofNat_toNat)

theorem Kind.decoder_written (rules : DecodingRules) (kind : Kind) :
    Kind.decoder rules (Json.string kind.keyword).textOutline = .ok kind := by
  cases kind <;> rfl

open RecordShape (field_written)

section Entries
variable (rules : DecodingRules) (room : 0 < rules.room)
include room

theorem SourceField.decoder_toJson (field : SourceField) :
    SourceField.decoder rules field.toJson.textOutline = .ok field := by
  refine shape.decode_written _ rules _ field room rfl ?_
  simp only [RecordShape.required, RecordShape.defaulted]
  rw [field_written _ _ _ 0 0 "id" _ _ _ field.id rfl (Decoder.word_written _ _),
    field_written _ _ _ 1 1 "source_field_name" _ _ _ field.name rfl rfl,
    field_written _ _ _ 2 2 "source_field_mapping" _ _ _ field.path rfl rfl,
    field_written _ _ _ 3 3 "source_field_type" _ _ _ field.kind rfl (Kind.decoder_written _ _),
    field_written _ _ _ 4 4 "is_required" _ _ _ field.required rfl rfl]
  rfl

theorem DestinationField.decoder_toJson (field : DestinationField)
    (distinct : field.default.Distinct) (low : field.default.height + 1 ≤ rules.room) :
    DestinationField.decoder rules field.toJson.textOutline = .ok field := by
  have default := Json.any_textOutline rules.within field.default distinct
    (Nat.le_sub_one_of_lt low)
  refine shape.decode_written _ rules _ field room rfl ?_
  simp only [RecordShape.required, RecordShape.defaulted]
  rw [field_written _ _ _ 0 0 "id" _ _ _ field.id rfl (Decoder.word_written _ _),
    field_written _ _ _ 1 1 "destination_field_name" _ _ _ field.name rfl rfl,
    field_written _ _ _ 2 2 "destination_field_mapping" _ _ _ field.path rfl rfl,
    field_written _ _ _ 3 3 "destination_field_type" _ _ _ field.kind rfl
      (Kind.decoder_written _ _),
    field_written _ _ _ 4 4 "default_value" _ _ _ field.default rfl default]
  rfl

theorem MaskUse.decoder_toJson (use : MaskUse) :
    MaskUse.decoder rules use.toJson.textOutline = .ok use := by
  refine shape.decode_written _ rules _ use room rfl ?_
  simp only [RecordShape.required]
  rw [field_written _ _ _ 0 0 "id" _ _ _ use.id rfl (Decoder.word_written _ _),
    field_written _ _ _ 1 1 "transform_mask" _ _ _ use.mask rfl rfl]
  rfl

theorem Link.decoder_toJson (link : Link) :
    Link.decoder rules link.toJson.textOutline = .ok link := by
  obtain ⟨id, source, destination, maskUse⟩ := link
  cases maskUse with
  | none =>
      refine shape.decode_written _ rules _ _ room rfl ?_
      simp only [RecordShape.required]
      rw [field_written _ _ _ 0 0 "id" _ _ _ id rfl (Decoder.word_written _ _),
        field_written _ _ _ 1 1 "mapping_source" _ _ _ source rfl (Decoder.word_written _ _),
        field_written _ _ _ 2 2 "mapping_destination" _ _ _ destination rfl
          (Decoder.word_written _ _)]
      rfl
  | some use =>
      have mask : Decoder.option Decoder.word rules.within (Json.ofUInt64 use).textOutline =
          .ok (some use) := by
        change (Decoder.word rules.within (Json.ofUInt64 use).textOutline).map some = _
        rw [Decoder.word_written]
        rfl
      refine shape.decode_written _ rules _ _ room rfl ?_
      simp only [RecordShape.required, RecordShape.defaulted]
      rw [field_written _ _ _ 0 0 "id" _ _ _ id rfl (Decoder.word_written _ _),
        field_written _ _ _ 1 1 "mapping_source" _ _ _ source rfl (Decoder.word_written _ _),
        field_written _ _ _ 2 2 "mapping_destination" _ _ _ destination rfl
          (Decoder.word_written _ _),
        field_written _ _ _ 3 3 "mapping_transform" _ _ _ (some use) rfl mask]
      rfl

end Entries

/-! ## Documents -/

namespace Document

/-- The defaults can be written and read with the given room for containers. -/
def DefaultsFit (room : Nat) (document : Document) : Prop :=
  ∀ field ∈ document.destinations, field.default.Distinct ∧ field.default.height + 3 ≤ room

theorem decoder_toJson (rules : DecodingRules) (room : 3 ≤ rules.room) (document : Document)
    (fit : document.DefaultsFit rules.room) :
    Document.decoder rules document.toJson.textOutline = .ok document := by
  have within : 0 < rules.within.room := Nat.le_sub_of_add_le (Nat.le_trans (by decide) room)
  have inner : 0 < rules.within.within.room := Nat.le_sub_of_add_le (Nat.le_sub_of_add_le room)
  have sources := Decoder.list_written SourceField.decoder SourceField.toJson rules.within
    document.sources within fun field _ => SourceField.decoder_toJson _ inner field
  have destinations := Decoder.list_written DestinationField.decoder DestinationField.toJson
    rules.within document.destinations within fun field member => by
      obtain ⟨distinct, low⟩ := fit field member
      exact DestinationField.decoder_toJson _ inner field distinct
        (Nat.le_sub_of_add_le (Nat.le_sub_of_add_le low))
  have maskUses := Decoder.list_written MaskUse.decoder MaskUse.toJson rules.within
    document.maskUses within fun use _ => MaskUse.decoder_toJson _ inner use
  have links := Decoder.list_written Link.decoder Link.toJson rules.within document.links within
    fun link _ => Link.decoder_toJson _ inner link
  refine shape.decode_written _ rules _ document (Nat.le_trans (by decide) room) rfl ?_
  simp only [RecordShape.required, RecordShape.defaulted]
  rw [field_written _ _ _ 0 0 "source" _ _ _ _ rfl sources,
    field_written _ _ _ 1 1 "destination" _ _ _ _ rfl destinations,
    field_written _ _ _ 2 2 "transform" _ _ _ _ rfl maskUses,
    field_written _ _ _ 3 3 "mapping" _ _ _ _ rfl links]
  rfl

/-- A default stands in the written document three containers deep. -/
theorem written_default (document : Document) (field : DestinationField)
    (member : field ∈ document.destinations) :
    (∀ p, document.toJson.Every p → field.default.Every p) ∧
      field.default.height + 3 ≤ document.toJson.height := by
  have entry := List.mem_map_of_mem (f := DestinationField.toJson) member
  have table : ("destination", Json.array (document.destinations.map DestinationField.toJson)) ∈
      [("source", Json.array (document.sources.map SourceField.toJson)),
        ("destination", Json.array (document.destinations.map DestinationField.toJson)),
        ("transform", Json.array (document.maskUses.map MaskUse.toJson)),
        ("mapping", Json.array (document.links.map Link.toJson))] := by simp
  have default : ("default_value", field.default) ∈
      [("id", Json.ofUInt64 field.id), ("destination_field_name", .string field.name),
        ("destination_field_mapping", .string field.path),
        ("destination_field_type", .string field.kind.keyword),
        ("default_value", field.default)] := by simp
  constructor
  · intro p every
    have tables := ((Json.every_object_iff p _).mp every).2
    have entries := ((Json.every_array_iff p _).mp (tables _ table)).2
    exact ((Json.every_object_iff p _).mp (entries _ entry)).2 _ default
  · have inner := Json.height_lt_object _ _ default
    have middle := Json.height_lt_array _ _ entry
    have outer := Json.height_lt_object _ _ table
    simp only [toJson, DestinationField.toJson] at inner middle outer ⊢
    omega

end Document

/-! ## Decoded documents -/

theorem DestinationField.decoder_gives : Decoder.Gives DestinationField.decoder fun room field =>
    field.default.Distinct ∧ field.default.height + 1 ≤ room := by
  intro rules o field textual decoded
  obtain ⟨parts, inside, room, assembled⟩ := shape.decode_eq_ok _ rules o textual field decoded
  obtain ⟨_, default, four, last, whole⟩ := Assembled.seq_eq_value _ _ _ assembled
  obtain ⟨_, kind, three, _, withKind⟩ := Assembled.seq_eq_value _ _ _ four
  obtain ⟨_, path, two, _, withPath⟩ := Assembled.seq_eq_value _ _ _ three
  obtain ⟨_, name, one, _, withName⟩ := Assembled.seq_eq_value _ _ _ two
  obtain ⟨id, _, withId⟩ := Assembled.map_eq_value _ _ _ one
  subst withId withName withPath withKind whole
  rcases RecordShape.defaulted_eq_value parts inside _ _ _ _ _ default last with
    ⟨o, within, read⟩ | rfl
  · obtain ⟨distinct, low⟩ := Decoder.any_gives rules.within o default within read
    exact ⟨distinct, Nat.add_le_of_le_sub room low⟩
  · exact ⟨.null trivial, room⟩

theorem Document.decoder_gives : Decoder.Gives Document.decoder fun room document =>
    document.DefaultsFit room := by
  intro rules o document textual decoded
  obtain ⟨parts, inside, room, assembled⟩ := shape.decode_eq_ok _ rules o textual document decoded
  obtain ⟨_, links, three, _, whole⟩ := Assembled.seq_eq_value _ _ _ assembled
  obtain ⟨_, maskUses, two, _, withMaskUses⟩ := Assembled.seq_eq_value _ _ _ three
  obtain ⟨_, destinations, one, second, withDestinations⟩ := Assembled.seq_eq_value _ _ _ two
  obtain ⟨sources, _, withSources⟩ := Assembled.map_eq_value _ _ _ one
  subst withSources withDestinations withMaskUses whole
  obtain ⟨o, within, read⟩ := shape.required_eq_value parts inside _ _ _ _ destinations second
  obtain ⟨more, each⟩ := Decoder.list_gives _ _ DestinationField.decoder_gives rules.within o
    destinations within read
  intro field member
  obtain ⟨distinct, low⟩ := each field member
  refine ⟨distinct, ?_⟩
  simp only [DecodingRules.within] at low more
  omega

/-! ## Both ways -/

/-- A document is decoded from its text, without blanks or pretty. -/
theorem Document.decodeText_written (document : Document)
    (fit : document.DefaultsFit Json.nestingLimit) (floats : document.toJson.FloatsReadBack) :
    Json.decodeText Document.decoder document.toJson.compact = .ok document ∧
      Json.decodeText Document.decoder document.toJson.pretty = .ok document := by
  have read := document.decoder_toJson ⟨Json.nestingLimit, .withNull, .exact⟩ (by decide) fit
  constructor
  · rw [Json.compact, Json.compactChars_eq _ 0, Json.decodeText_layout _ _ _ _ floats, read]
  · rw [Json.pretty, Json.prettyChars_eq, Json.decodeText_layout _ _ _ _ floats, read]

theorem Catalog.ofJson_of_decodeText (catalog : Catalog) (text : String)
    (read : Json.decodeText Document.decoder text = .ok catalog.toDocument) :
    Catalog.ofJson text = .ok catalog := by
  simp only [ofJson, read]
  exact ofDocument_toDocument catalog

/-- A catalog that is written as text is read back; and a catalog that was read from a text, however
that was written, has a document that comes out the same when it is written and read again. -/
theorem Catalog.wire_format_round_trip :
    (∀ document catalog, Catalog.ofDocument document = .ok catalog →
      document.toJson.Distinct → document.toJson.FloatsReadBack →
      document.toJson.height ≤ Json.nestingLimit →
        catalog.toDocument = document ∧
          Catalog.ofJson catalog.toDocument.toJson.compact = .ok catalog ∧
          Catalog.ofJson catalog.toDocument.toJson.pretty = .ok catalog) ∧
    ∀ text catalog, Catalog.ofJson text = .ok catalog →
      catalog.toDocument.toJson.FloatsReadBack →
        ∀ written, written = catalog.toDocument.toJson.compact ∨
            written = catalog.toDocument.toJson.pretty →
          Json.decodeText Document.decoder written = .ok catalog.toDocument ∧
            Catalog.ofJson written = .ok catalog := by
  constructor
  · intro document catalog made distinct floats low
    have same := toDocument_of_ofDocument document catalog made
    have fit : document.DefaultsFit Json.nestingLimit := by
      intro field member
      obtain ⟨every, deep⟩ := document.written_default field member
      exact ⟨every _ distinct, Nat.le_trans deep low⟩
    rw [← same] at fit floats
    obtain ⟨compact, pretty⟩ := catalog.toDocument.decodeText_written fit floats
    exact ⟨same, ofJson_of_decodeText catalog _ compact, ofJson_of_decodeText catalog _ pretty⟩
  · intro text catalog loaded floats written either
    -- what was read was within the limit, and the tables of the written text lie as deep
    have fit : catalog.toDocument.DefaultsFit Json.nestingLimit := by
      rw [ofJson] at loaded
      split at loaded
      · rename_i document decoded
        rw [toDocument_of_ofDocument document catalog loaded]
        rw [← String.ofList_toList (s := text)] at decoded
        obtain ⟨o, read, made⟩ := (Json.decodeText_eq_ok_iff _ _ _).mp decoded
        have textual := Json.outline_textual text.toList
        rw [read] at textual
        exact Document.decoder_gives _ o document textual made
      · cases loaded
    obtain ⟨compact, pretty⟩ := catalog.toDocument.decodeText_written fit floats
    rcases either with rfl | rfl
    · exact ⟨compact, ofJson_of_decodeText catalog _ compact⟩
    · exact ⟨pretty, ofJson_of_decodeText catalog _ pretty⟩

/-- Defaults of which one is a float and one holds text that has to be escaped. -/
def notesDocument : Document where
  sources := [⟨7, "age", "$.age", .integer, true⟩]
  destinations :=
    [⟨1, "years", "$.years", .float, .number (.float ⟨false, 0x18000000000000, -52, by decide⟩)⟩,
      ⟨2, "notes", "$.notes", .mapping, .object [("a\n\"b\"", .array [.null, .string "→"])]⟩]
  maskUses := [⟨3, "trim"⟩]
  links := [⟨1, 7, 1, none⟩, ⟨2, 7, 2, some 3⟩]

/-- An unknown key, an entry as a list of its fields, another keyword for its kind, no masks. -/
def looseText : String :=
  "\x7b\"x\":0,\"source\":[],\"destination\":[[1,\"n\",\"$.n\",\" Map\",\x7b\"a\":1\x7d]],\"mapping\":[]\x7d"

/-- The document of the loose text. -/
def looseDocument : Document where
  sources := []
  destinations := [⟨1, "n", "$.n", .mapping, .object [("a", .ofUInt64 1)]⟩]
  maskUses := []
  links := []

theorem Catalog.notes_and_loose_text_round_trip :
    (∃ catalog, Catalog.ofDocument notesDocument = .ok catalog ∧
      catalog.toDocument = notesDocument ∧
        Catalog.ofJson notesDocument.toJson.compact = .ok catalog ∧
        Catalog.ofJson notesDocument.toJson.pretty = .ok catalog) ∧
    ∃ catalog, Catalog.ofJson looseText = .ok catalog ∧ catalog.toDocument = looseDocument ∧
      Json.decodeText Document.decoder looseDocument.toJson.pretty = .ok looseDocument ∧
        Catalog.ofJson looseDocument.toJson.pretty = .ok catalog := by
  constructor
  · obtain ⟨catalog, made⟩ : ∃ catalog, Catalog.ofDocument notesDocument = .ok catalog :=
      ⟨_, rfl⟩
    have distinct : notesDocument.toJson.Distinct := by
      simp [Json.Distinct, notesDocument, Document.toJson, SourceField.toJson,
        DestinationField.toJson, MaskUse.toJson, Link.toJson, Json.ofUInt64, Fields.names]
    have years : (Number.float ⟨false, 0x18000000000000, -52, by decide⟩).ReadsBack := by rfl
    have floats : notesDocument.toJson.FloatsReadBack := by
      simp [Json.FloatsReadBack, notesDocument, Document.toJson, SourceField.toJson,
        DestinationField.toJson, MaskUse.toJson, Link.toJson, Json.ofUInt64, Number.ofUInt64, years]
    have low : notesDocument.toJson.height ≤ Json.nestingLimit := by decide
    obtain ⟨same, read⟩ := wire_format_round_trip.1 notesDocument catalog made distinct floats low
    rw [same] at read
    exact ⟨catalog, made, same, read⟩
  · obtain ⟨catalog, made⟩ : ∃ catalog, Catalog.ofDocument looseDocument = .ok catalog :=
      ⟨_, rfl⟩
    have decoded : Json.decodeText Document.decoder looseText = .ok looseDocument := by
      decide +kernel
    have loaded : Catalog.ofJson looseText = .ok catalog := by
      rw [ofJson, decoded]
      exact made
    have same := toDocument_of_ofDocument looseDocument catalog made
    have floats : looseDocument.toJson.FloatsReadBack := by
      simp [Json.FloatsReadBack, looseDocument, Document.toJson, DestinationField.toJson,
        Json.ofUInt64, Number.ofUInt64]
    have read := wire_format_round_trip.2 looseText catalog loaded (same ▸ floats) _ (Or.inr rfl)
    rw [same] at read
    exact ⟨catalog, loaded, same, read⟩

end Crosswalk
