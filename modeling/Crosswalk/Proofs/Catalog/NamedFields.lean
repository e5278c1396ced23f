import Crosswalk.Proofs.Catalog.Construction
import Crosswalk.Proofs.Fields
import Crosswalk.Proofs.Path.Grammar

/-!
# Fields known by their name alone

A field made from its name has the path expression that puts the name after the root marker and a
dot, and that expression is read like any other.  It leads to the member of that name just if the
name is plain (`PlainName`): every other name is refused, or is read as another path.  A catalog of
such fields is accepted just if all their names make expressions
(`named_fields_read_own_member`).
-/

set_option autoImplicit false

namespace Crosswalk

/-- A name that can stand after a dot as it is. -/
def PlainName (name : String) : Prop :=
  name ≠ "" ∧ name.toList.head? ≠ some '*' ∧
    ∀ c ∈ name.toList, c ≠ '.' ∧ c ≠ '[' ∧ Text.isBlank c = false

instance (name : String) : Decidable (PlainName name) :=
  decidable_of_iff
    (name ≠ "" ∧ name.toList.head? ≠ some '*' ∧ name.toList.all Path.isNameChar = true)
    (by simp only [PlainName, List.all_eq_true, Path.isNameChar_iff])

namespace Path

open Text

/-! ## The step of a name -/

theorem stepText_name_iff (name : String) :
    StepText ('.' :: name.toList) (.key name) ↔ PlainName name := by
  constructor
  · intro form
    generalize split : name.toList = cs at form
    generalize target : Step.key name = step at form
    cases form with
    | dotted first rest definite inside =>
        refine ⟨?_, ?_, by rwa [split]⟩
        · rintro rfl
          cases split
        · rw [split]
          simpa using definite
  · rintro ⟨given, definite, inside⟩
    cases split : name.toList with
    | nil => exact absurd (String.toList_eq_nil_iff.mp split) given
    | cons first rest =>
        rw [split] at definite inside
        have spelled : name = String.ofList (first :: rest) := by
          rw [← split, String.ofList_toList]
        rw [spelled]
        exact .dotted first rest (by simpa using definite) inside

theorem follow?_member_iff (steps : List Step) (name : String) :
    (∀ members, follow? steps (.object members) = members.lookup name) ↔ steps = [.key name] := by
  constructor
  · intro own
    -- In an object with this member alone, and nothing inside it, there is one way to it.
    have single := own [(name, .null)]
    rw [List.lookup_cons_self] at single
    cases steps with
    | nil => cases single
    | cons step rest =>
        obtain ⟨child, near, far⟩ := Option.bind_eq_some_iff.mp single
        cases step with
        | index position => cases near
        | key other =>
            change Fields.get? [(name, Json.null)] other = some child at near
            rw [Fields.get?_cons] at near
            split at near
            case isFalse => cases near
            case isTrue same =>
              cases near
              subst same
              cases rest with
              | nil => rfl
              | cons step rest => cases step <;> cases far
  · rintro rfl members
    rw [follow?, Step.next?]
    cases members.lookup name <;> rfl

/-! ## The expression of a name -/

theorem expression_name_iff (name : String) (steps : List Step) :
    Expression (memberPath name).toList steps ↔
      ∃ body after, StepTexts body steps ∧ Blanks after ∧ '.' :: name.toList = body ++ after := by
  have spelled : (memberPath name).toList = [] ++ '$' :: ('.' :: name.toList) := by
    simp [memberPath]
  rw [spelled]
  exact expression_iff_steps [] _ steps blanks_nil

theorem stepText_dot (name : String) (text after : List Char) (form : StepText text (.key name))
    (start : '.' :: name.toList = text ++ after) : text = '.' :: name.toList := by
  generalize target : Step.key name = step at form
  cases form with
  | dotted first rest definite inside =>
      cases target
      rw [String.toList_ofList]
  | bracketed before selector closing => cases start

theorem expression_single_iff (name : String) :
    Expression (memberPath name).toList [.key name] ↔ PlainName name := by
  rw [expression_name_iff, ← stepText_name_iff]
  constructor
  · rintro ⟨body, after, form, closing, split⟩
    cases form with
    | cons blanks text _ _ _ gap first others =>
        -- The dot is no blank, so the text of the step begins with it.
        have start : trimStart ('.' :: name.toList) = text ++ after := by
          cases others
          rw [split, List.append_nil, List.append_assoc]
          exact trimStart_run blanks _ gap
            (stepText_stops isBlank (by decide) (by decide) text _ first after)
        rw [trimStart_solid '.' _ (by decide)] at start
        rwa [← stepText_dot name text after first start]
  · intro form
    refine ⟨'.' :: name.toList, [], ?_, blanks_nil, by simp⟩
    simpa using StepTexts.cons [] _ [] _ [] blanks_nil form .nil

end Path

/-! ## Fields made from names -/

/-- The paths read from the expressions of plain names, and no others, lead from every object to the
member of the name. -/
theorem reads_member_iff (name : String) :
    (∃ path, readPath (memberPath name) = .ok path ∧
        ∀ members, path.resolve? (.object members) = members.lookup name) ↔
      PlainName name := by
  simp only [readPath_eq_ok_iff, Path.parse_eq_ok_iff, Path.resolve?, Path.follow?_member_iff,
    ← Path.expression_single_iff]
  constructor
  · rintro ⟨path, ⟨_, form⟩, single⟩
    rwa [single] at form
  · intro form
    exact ⟨⟨_, [.key name]⟩, ⟨rfl, form⟩, rfl⟩

/-- The fields are as they are made from their names, the entries differ and the defaults fit. -/
structure Document.Named (document : Document) : Prop where
  sources : ∀ field ∈ document.sources,
    field = .ofName field.id field.name field.kind field.required
  destinations : ∀ field ∈ document.destinations,
    field = .ofName field.id field.name field.kind field.default
  distinct : document.Distinct
  defaults : ∀ field ∈ document.destinations, ∃ value, field.convertedDefault = .ok value

/-- The names of the fields of a document, of input records and then of output records. -/
def Document.names (document : Document) : List String :=
  document.sources.map SourceField.name ++ document.destinations.map DestinationField.name

section Named

variable (document : Document) (named : document.Named)

include named

theorem path_of_named_source (field : SourceField) (member : field ∈ document.sources) :
    field.path = memberPath field.name := by
  rw [named.sources field member]
  rfl

theorem path_of_named_destination (field : DestinationField)
    (member : field ∈ document.destinations) : field.path = memberPath field.name := by
  rw [named.destinations field member]
  rfl

/-- Nothing but the names is left to check. -/
theorem accepts_named_iff :
    (∃ catalog, Catalog.ofDocument document = .ok catalog) ↔
      ∀ name ∈ document.names, ∃ steps, Path.Expression (memberPath name).toList steps := by
  simp only [Catalog.ofDocument_ok_iff, readPath_eq_ok_iff, Path.exists_parse_iff, Document.names,
    List.forall_mem_append, List.forall_mem_map]
  constructor
  · rintro ⟨_, sources, destinations⟩
    constructor
    · intro field member
      rw [← path_of_named_source document named field member]
      exact sources field member
    · intro field member
      rw [← path_of_named_destination document named field member]
      exact (destinations field member).1
  · rintro ⟨sources, destinations⟩
    refine ⟨named.distinct, ?_, ?_⟩
    · intro field member
      rw [path_of_named_source document named field member]
      exact sources field member
    · intro field member
      rw [path_of_named_destination document named field member]
      exact ⟨destinations field member, named.defaults field member⟩

/-- A catalog of fields made from their names is accepted just if every name makes an expression,
and so if every name is plain.  The path of a field of input records leads from every object to the
member of its name just if the name is plain. -/
theorem named_fields_read_own_member :
    ((∃ catalog, Catalog.ofDocument document = .ok catalog) ↔
        ∀ name ∈ document.names, ∃ steps, Path.Expression (memberPath name).toList steps) ∧
      ((∀ name ∈ document.names, PlainName name) →
        ∃ catalog, Catalog.ofDocument document = .ok catalog) ∧
      ∀ field ∈ document.sources,
        (∃ path, readPath field.path = .ok path ∧
            ∀ members, path.resolve? (.object members) = members.lookup field.name) ↔
          PlainName field.name := by
  have accepted := accepts_named_iff document named
  refine ⟨accepted, ?_, ?_⟩
  · intro plain
    refine accepted.mpr fun name member => ⟨[.key name], ?_⟩
    exact (Path.expression_single_iff name).mpr (plain name member)
  · intro field member
    rw [path_of_named_source document named field member]
    exact reads_member_iff field.name

end Named

/-- A catalog that copies one field into another, both made from their names. -/
def copying (name : String) : Document where
  sources := [.ofName 1 name .string false]
  destinations := [.ofName 1 "Copy" .string .null]
  maskUses := []
  links := [.plain 1 1 1]

theorem copying_named (name : String) : (copying name).Named where
  sources := by simp [copying, SourceField.ofName]
  destinations := by simp [copying, DestinationField.ofName]
  distinct := by constructor <;> simp [copying]
  defaults := by
    intro field member
    obtain rfl := List.mem_singleton.mp member
    exact ⟨.null, rfl⟩

theorem gender_read_as_member :
    (copying "Gender").Named ∧ (∃ catalog, Catalog.ofDocument (copying "Gender") = .ok catalog) ∧
      ∃ path, readPath "$.Gender" = .ok path ∧
        ∀ members, path.resolve? (.object members) = members.lookup "Gender" := by
  have named := copying_named "Gender"
  obtain ⟨_, accepted, own⟩ := named_fields_read_own_member (copying "Gender") named
  have field := own (.ofName 1 "Gender" .string false) (List.mem_singleton_self _)
  exact ⟨named, accepted (by decide), field.mpr (by decide)⟩

/-- A name with a dot in it is read as two steps, and one with a blank in it is refused. -/
theorem dotted_name_misread :
    (copying "a.b").Named ∧ (∃ catalog, Catalog.ofDocument (copying "a.b") = .ok catalog) ∧
      (∃ path, readPath (SourceField.ofName 1 "a.b" .string false).path = .ok path ∧
        path.resolve?
            (.object [("a.b", .string "own"), ("a", .object [("b", .string "other")])]) =
          some (.string "other")) ∧
      (copying "first name").Named ∧
        ¬ ∃ catalog, Catalog.ofDocument (copying "first name") = .ok catalog := by
  have accepted := accepts_named_iff (copying "a.b") (copying_named "a.b")
  have refused := accepts_named_iff (copying "first name") (copying_named "first name")
  refine ⟨copying_named "a.b", accepted.mpr ?_, ?_, copying_named "first name", ?_⟩
  · intro name member
    simp only [Document.names, copying, List.map_cons, List.map_nil, List.cons_append,
      List.nil_append, List.mem_cons, List.not_mem_nil, or_false] at member
    rcases member with rfl | rfl
    · exact ⟨[.key "a", .key "b"], (Path.parseChars_iff _ _).mp (by decide)⟩
    · exact ⟨[.key "Copy"], (Path.parseChars_iff _ _).mp (by decide)⟩
  · exact ⟨⟨"$.a.b", [.key "a", .key "b"]⟩, by decide, by decide⟩
  · intro made
    obtain ⟨steps, form⟩ := refused.mp made "first name" (List.mem_cons_self ..)
    have read := (Path.parseChars_iff _ _).mpr form
    have fault : Path.parseChars (memberPath "first name").toList =
        .error (.unexpected .step 8 (some 'n')) := by decide
    rw [fault] at read
    cases read

end Crosswalk
