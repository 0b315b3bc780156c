import DocFilter.Proofs.PrintedValues
import DocFilter.Schema.Notation
import DocFilter.Schema.Resolution

set_option autoImplicit false

namespace DocFilter

namespace Value

/-- A value made of texts, arrays and mappings alone. -/
inductive Textual : Value → Prop where
  | string (text : String) : Textual (.string text)
  | array (items : List Value) (each : ∀ item ∈ items, Textual item) : Textual (.array items)
  | mapping (entries : List (String × Value)) (each : ∀ entry ∈ entries, Textual entry.2) :
      Textual (.mapping entries)

theorem Textual.floatFree {value : Value} (textual : value.Textual) : value.FloatFree := by
  induction textual with
  | string text => exact .string text
  | array items _ ih => exact .array items ih
  | mapping entries _ ih => exact .mapping entries ih

/-- A mapping with one entry needs no order. -/
theorem sorted_singleton (key : String) (value : Value) :
    (mapping [(key, value)]).sorted = mapping [(key, value.sorted)] := rfl

end Value

/-- Reading each of the written items gives the items back. -/
theorem mapM_map_of_inverse {α β : Type} {write : α → β} {read : β → Option α}
    (items : List α) (inverse : ∀ item ∈ items, read (write item) = some item) :
    (items.map write).mapM read = some items := by
  induction items with
  | nil => rfl
  | cons item rest ih =>
      rw [List.forall_mem_cons] at inverse
      rw [List.map_cons, List.mapM_cons, inverse.1, ih inverse.2]
      rfl

theorem ScalarType.ofName?_name (type : ScalarType) : ofName? type.name = some type := by
  cases type <;> rfl

namespace Kind

theorem ofItem?_eq (entries : List (String × Value)) :
    ofItem? entries = (Entries.lookup "item" entries).bind ofValue? := by
  induction entries with
  | nil => rfl
  | cons entry rest ih =>
      obtain ⟨key, value⟩ := entry
      rw [ofItem?, Entries.lookup_cons, ih]
      split <;> rfl

theorem ofValue?_mapping (entries : List (String × Value)) :
    ofValue? (.mapping entries) =
      ofMembers? (memberText? "type" entries) (memberText? "document" entries)
        ((Entries.lookup "item" entries).bind ofValue?) := by
  rw [ofValue?, ofItem?_eq]

theorem distinct_toEntries (kind : Kind) : (Entries.keys kind.toEntries).Nodup := by
  cases kind <;> simp [toEntries, Entries.keys]

theorem textual_toEntries (kind : Kind) : ∀ entry ∈ kind.toEntries, entry.2.Textual := by
  induction kind with
  | scalar type => simpa [toEntries] using Value.Textual.string _
  | embedded document => simp [toEntries, Value.Textual.string]
  | list item ih =>
      have inner : (Value.mapping item.toEntries).Textual := .mapping _ ih
      simp [toEntries, Value.Textual.string, inner]

/-- The members that describe a kind. -/
def memberNames : List String :=
  ["type", "document", "item"]

/-- A mapping denotes a kind if its members are those written for the kind, in whatever order and
whatever else the mapping has. -/
theorem ofValue?_of_members (kind : Kind) {entries : List (String × Value)}
    (same : ∀ key ∈ memberNames,
      Entries.lookup key entries = (Entries.lookup key kind.toEntries).map Value.sorted) :
    ofValue? (.mapping entries) = some kind := by
  induction kind generalizing entries with
  | scalar type =>
      have named : Entries.lookup "type" entries = some (.string type.name) :=
        same "type" (by decide)
      simp only [ofValue?_mapping, memberText?, named, ofMembers?, ScalarType.ofName?_name]
  | embedded document =>
      have named : Entries.lookup "type" entries = some (.string "embedded") :=
        same "type" (by decide)
      have target : Entries.lookup "document" entries = some (.string document) :=
        same "document" (by decide)
      have noScalar : ScalarType.ofName? "embedded" = none := by decide
      simp [ofValue?_mapping, memberText?, named, target, ofMembers?, noScalar]
  | list item ih =>
      have named : Entries.lookup "type" entries = some (.string "list") :=
        same "type" (by decide)
      have inner : Entries.lookup "item" entries =
          some (.mapping (Entries.ofList (Value.sortedEntries item.toEntries))) :=
        same "item" (by decide)
      have noScalar : ScalarType.ofName? "list" = none := by decide
      have innerKind := ih fun key _ => Value.lookup_sorted item.distinct_toEntries key
      simp [ofValue?_mapping, memberText?, named, inner, ofMembers?, noScalar, innerKind]

end Kind

namespace Field

def toEntries (field : Field) : List (String × Value) :=
  ("name", .string field.name) ::
    (field.storedName.map fun name => ("db_field", Value.string name)).toList ++
      field.kind.toEntries

theorem toValue_eq (field : Field) : field.toValue = .mapping field.toEntries := by
  cases stored : field.storedName <;> simp [toValue, toEntries, stored]

theorem distinct_toEntries (field : Field) : (Entries.keys field.toEntries).Nodup := by
  obtain ⟨name, stored, kind⟩ := field
  cases stored <;> cases kind <;> simp [toEntries, Kind.toEntries, Entries.keys]

theorem textual_toValue (field : Field) : field.toValue.Textual := by
  rw [toValue_eq]
  apply Value.Textual.mapping
  intro entry member
  simp only [toEntries, List.cons_append, List.mem_cons, List.mem_append, Option.mem_toList,
    Option.map_eq_some_iff] at member
  rcases member with rfl | ⟨stored, -, rfl⟩ | member
  · exact .string _
  · exact .string _
  · exact field.kind.textual_toEntries entry member

theorem lookup_kind_toEntries (field : Field) {key : String} (described : key ∈ Kind.memberNames) :
    Entries.lookup key field.toEntries = Entries.lookup key field.kind.toEntries := by
  have noName : "name" ≠ key := by
    rintro rfl
    exact absurd described (by decide)
  have noStored : "db_field" ≠ key := by
    rintro rfl
    exact absurd described (by decide)
  cases stored : field.storedName <;>
    simp [toEntries, stored, Entries.lookup_cons, noName, noStored]

theorem lookup_stored_toEntries (field : Field) :
    Entries.lookup "db_field" field.toEntries = field.storedName.map Value.string := by
  cases stored : field.storedName with
  | none =>
      cases kind : field.kind <;>
        simp [toEntries, stored, kind, Kind.toEntries, Entries.lookup_cons]
  | some name => simp [toEntries, stored, Entries.lookup_cons]

theorem ofValue?_toValue (field : Field) : ofValue? field.toValue.sorted = some field := by
  have found := Value.lookup_sorted field.distinct_toEntries
  have kind : Kind.ofValue? (.mapping (Entries.ofList (Value.sortedEntries field.toEntries))) =
      some field.kind := by
    apply Kind.ofValue?_of_members
    intro key described
    rw [found, lookup_kind_toEntries field described]
  have name : Entries.lookup "name" (Entries.ofList (Value.sortedEntries field.toEntries)) =
      some (.string field.name) := found "name"
  have stored : optionalText?
      (Entries.lookup "db_field" (Entries.ofList (Value.sortedEntries field.toEntries))) =
        some field.storedName := by
    rw [found, lookup_stored_toEntries]
    cases field.storedName <;> rfl
  rw [toValue_eq, Value.sorted, ofValue?]
  simp only [name, stored, kind]

end Field

namespace DocumentType

theorem textual_toValue (document : DocumentType) : document.toValue.Textual := by
  have fields : (Value.array (document.fields.map Field.toValue)).Textual := by
    apply Value.Textual.array
    intro item member
    obtain ⟨field, -, rfl⟩ := List.mem_map.mp member
    exact field.textual_toValue
  apply Value.Textual.mapping
  simpa using fields

theorem ofValue?_toValue (document : DocumentType) :
    ofValue? document.toValue.sorted = some document := by
  have fields : (Value.sortedItems (document.fields.map Field.toValue)).mapM Field.ofValue? =
      some document.fields := by
    rw [Value.sortedItems_eq_map, List.map_map]
    exact mapM_map_of_inverse _ fun field _ => field.ofValue?_toValue
  rw [toValue, Value.sorted_singleton, Value.sorted, ofValue?]
  simp [Entries.lookup_cons, ofFields?, fields]

end DocumentType

namespace Schema

def toEntries (schema : Schema) : List (String × Value) :=
  schema.documents.entries.map fun (name, document) => (name, document.toValue)

theorem textual_toValue (schema : Schema) : schema.toValue.Textual := by
  have documents : (Value.mapping schema.toEntries).Textual := by
    apply Value.Textual.mapping
    intro entry member
    obtain ⟨⟨name, document⟩, -, rfl⟩ := List.mem_map.mp member
    exact document.textual_toValue
  have whole : schema.toValue = .mapping [("documents", .mapping schema.toEntries)] := rfl
  rw [whole]
  apply Value.Textual.mapping
  simpa using documents

theorem ascending_sortedEntries (schema : Schema) :
    Entries.Ascending (Value.sortedEntries schema.toEntries) := by
  rw [Entries.Ascending, Value.sortedEntries_eq_map, toEntries, List.pairwise_map,
    List.pairwise_map]
  exact schema.documents.ascending

theorem ofValue?_toValue (schema : Schema) : ofValue? schema.toValue.sorted = some schema := by
  have documents : (Value.sortedEntries schema.toEntries).mapM DocumentType.ofEntry? =
      some schema.documents.entries := by
    rw [Value.sortedEntries_eq_map, toEntries, List.map_map]
    apply mapM_map_of_inverse
    intro entry _
    simp [DocumentType.ofEntry?, DocumentType.ofValue?_toValue]
  have ordered := Entries.ofList_of_ascending schema.ascending_sortedEntries
  have written : schema.toValue.sorted =
      .mapping [("documents", .mapping (Value.sortedEntries schema.toEntries))] := by
    rw [toValue, Value.sorted_singleton, Value.sorted]
    exact congrArg (fun entries => Value.mapping [("documents", .mapping entries)]) ordered
  rw [written, ofValue?]
  simp only [Entries.lookup_cons, ↓reduceIte, ofDocuments?, documents, Option.map_some,
    OrderedMap.ofList_entries]

theorem ofText?_text (schema : Schema) : ofText? schema.text = some schema := by
  rw [ofText?, text, Value.ofText?_compactText schema.textual_toValue.floatFree, Option.bind_some,
    ofValue?_toValue]

/-- The text of the schema that a text denotes. -/
def rewritten? (text : String) : Option String :=
  (ofText? text).map Schema.text

/-- A schema survives being written and read, so all paths resolve as before. Whatever else denotes
the schema, what is written for it denotes it too, holds no null, and is not changed by being read
and written again. -/
theorem text_survives :
    (∀ schema : Schema, ofText? schema.text = some schema ∧
      ∀ document path, (ofText? schema.text).map (fun again => again.resolve document path) =
        some (schema.resolve document path)) ∧
    (∀ value schema, ofValue? value = some schema →
      ofText? schema.text = some schema ∧ schema.toValue.Textual) ∧
    ∀ text once, rewritten? text = some once → rewritten? once = some once := by
  refine ⟨?_, ?_, ?_⟩
  · intro schema
    refine ⟨schema.ofText?_text, ?_⟩
    intro document path
    rw [ofText?_text, Option.map_some]
  · intro value schema _
    exact ⟨schema.ofText?_text, schema.textual_toValue⟩
  · intro text once written
    obtain ⟨schema, -, rfl⟩ := Option.map_eq_some_iff.mp written
    rw [rewritten?, ofText?_text, Option.map_some]

/-- A schema with members that mean nothing, among them a null for a stored name. -/
def annotatedValue : Value :=
  .mapping [
    ("documents", .mapping [("Thread", .mapping [
      ("fields", .array [
        .mapping [("db_field", .null), ("item", .mapping [
            ("item", .mapping [("document", .string "Post"), ("name", .bool true),
              ("type", .string "embedded")]),
            ("type", .string "list")]),
          ("name", .string "posts"), ("type", .string "list")],
        .mapping [("db_field", .string "p\n"), ("document", .array []),
          ("name", .string "posts"), ("type", .string "int")]]),
      ("note", .null)])]),
    ("version", .string "1")]

/-- What `annotatedValue` denotes: a document type with two fields of one name. -/
def annotatedSchema : Schema :=
  empty.withDocument "Thread"
    ⟨[⟨"posts", none, .list (.list (.embedded "Post"))⟩, ⟨"posts", some "p\n", .scalar .int⟩]⟩

theorem text_survives_annotated :
    ofText? annotatedSchema.text = some annotatedSchema ∧ annotatedSchema.toValue.Textual ∧
      rewritten? annotatedSchema.text = some annotatedSchema.text := by
  obtain ⟨-, accepted, settled⟩ := text_survives
  have read : ofValue? annotatedValue.sorted = some annotatedSchema := rfl
  have free : annotatedValue.FloatFree := by
    simp [annotatedValue, Value.floatFree_array_iff, Value.floatFree_mapping_iff]
  have once : rewritten? annotatedValue.compactText = some annotatedSchema.text := by
    rw [rewritten?, ofText?, Value.ofText?_compactText free, Option.bind_some, read,
      Option.map_some]
  obtain ⟨again, textual⟩ := accepted annotatedValue.sorted annotatedSchema read
  exact ⟨again, textual, settled _ _ once⟩

end Schema

end DocFilter
