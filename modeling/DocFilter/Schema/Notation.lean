import DocFilter.Schema.Basic
import DocFilter.Value.Printer
import DocFilter.Value.Reader

set_option autoImplicit false

namespace DocFilter

namespace Kind

def toEntries : Kind → List (String × Value)
  | scalar type => [("type", .string type.name)]
  | embedded document => [("type", .string "embedded"), ("document", .string document)]
  | list item => [("type", .string "list"), ("item", .mapping item.toEntries)]

/-- The kind that the members of a description name: its type, and what that type needs. -/
def ofMembers? (type document : Option String) (item : Option Kind) : Option Kind :=
  match type with
  | none => none
  | some type =>
      match ScalarType.ofName? type with
      | some scalarType => some (scalar scalarType)
      | none =>
          if type = "embedded" then document.map embedded
          else if type = "list" then item.map list
          else none

def memberText? (key : String) (entries : List (String × Value)) : Option String :=
  match Entries.lookup key entries with
  | some (.string text) => some text
  | _ => none

mutual

/-- A kind is a mapping, or an array of its type and what the type needs. The type is given by its
name; a number in its place, which may stand for a type inside of a field, is not read. -/
def ofValue? : Value → Option Kind
  | .mapping entries =>
      ofMembers? (memberText? "type" entries) (memberText? "document" entries) (ofItem? entries)
  | .array [.string type] => (ScalarType.ofName? type).map scalar
  | .array [.string "embedded", .string document] => some (embedded document)
  | .array [.string "list", item] => (ofValue? item).map list
  | _ => none
termination_by structural v => v

def ofItem? : List (String × Value) → Option Kind
  | [] => none
  | (key, value) :: rest => if key = "item" then ofValue? value else ofItem? rest
termination_by structural entries => entries

end

end Kind

namespace Field

def toValue (field : Field) : Value :=
  let stored := match field.storedName with
    | some name => [("db_field", .string name)]
    | none => []
  .mapping (("name", .string field.name) :: stored ++ field.kind.toEntries)

/-- A member that may be a text, or null like one that is absent. -/
def optionalText? : Option Value → Option (Option String)
  | none => some none
  | some .null => some none
  | some (.string text) => some (some text)
  | some _ => none

def ofValue? : Value → Option Field
  | .mapping entries =>
      match Entries.lookup "name" entries, optionalText? (Entries.lookup "db_field" entries),
          Kind.ofValue? (.mapping entries) with
      | some (.string name), some storedName, some kind => some ⟨name, storedName, kind⟩
      | _, _, _ => none
  | _ => none

end Field

namespace DocumentType

def toValue (document : DocumentType) : Value :=
  .mapping [("fields", .array (document.fields.map Field.toValue))]

def ofFields? : Value → Option DocumentType
  | .array items => (items.mapM Field.ofValue?).map DocumentType.mk
  | _ => none

/-- A document type is a mapping, or an array of its single member. -/
def ofValue? : Value → Option DocumentType
  | .mapping entries =>
      match Entries.lookup "fields" entries with
      | none => some ⟨[]⟩
      | some fields => ofFields? fields
  | .array [] => some ⟨[]⟩
  | .array [fields] => ofFields? fields
  | _ => none

def ofEntry? (entry : String × Value) : Option (String × DocumentType) :=
  (ofValue? entry.2).map fun document => (entry.1, document)

end DocumentType

namespace Schema

def toValue (schema : Schema) : Value :=
  .mapping [("documents",
    .mapping (schema.documents.entries.map fun (name, document) => (name, document.toValue)))]

def ofDocuments? : Value → Option Schema
  | .mapping documents =>
      (documents.mapM DocumentType.ofEntry?).map fun pairs => ⟨OrderedMap.ofList pairs⟩
  | _ => none

/-- A schema is a mapping, or an array of its single member. -/
def ofValue? : Value → Option Schema
  | .mapping entries =>
      match Entries.lookup "documents" entries with
      | none => some empty
      | some documents => ofDocuments? documents
  | .array [] => some empty
  | .array [documents] => ofDocuments? documents
  | _ => none

def text (schema : Schema) : String :=
  schema.toValue.compactText

def ofText? (text : String) : Option Schema :=
  (Value.ofText? text).bind ofValue?

end Schema

end DocFilter
