import DocFilter.Schema.Notation
import DocFilter.Toml.Reader

set_option autoImplicit false

namespace DocFilter

structure Options where
  /-- Whether filters are validated before they are compiled. -/
  validate : Bool
  /-- Whether queries are written over several lines. -/
  pretty : Bool
  deriving DecidableEq

structure Config where
  options : Options
  schema : Schema

namespace Options

def default : Options := ⟨true, true⟩

def truth? (fallback : Bool) : Option Toml.Item → Option Bool
  | none => some fallback
  | some (.bool truth) => some truth
  | some _ => none

/-- Options are a table, or an array of their values in the order of their declaration. A date has
none of the members, so it leaves all of them at their default. -/
def ofItem? : Toml.Item → Option Options
  | .table _ entries =>
      match truth? default.validate (Entries.lookup "validate" entries),
          truth? default.pretty (Entries.lookup "pretty" entries) with
      | some validate, some pretty => some ⟨validate, pretty⟩
      | _, _ => none
  | .array items =>
      match truth? default.validate items[0]?, truth? default.pretty items[1]? with
      | some validate, some pretty => some ⟨validate, pretty⟩
      | _, _ => none
  | .datetime => some default
  | _ => none

end Options

namespace Toml

def memberText? (key : String) (entries : List (String × Item)) : Option String :=
  match Entries.lookup key entries with
  | some (.string text) => some text
  | _ => none

mutual

/-- A kind is a table, or an array of its type and what the type needs. -/
def kind? : Item → Option Kind
  | .table _ entries =>
      Kind.ofMembers? (memberText? "type" entries) (memberText? "document" entries)
        (itemKind? entries)
  | .array [.string type] => (ScalarType.ofName? type).map Kind.scalar
  | .array [.string "embedded", .string document] => some (.embedded document)
  | .array [.string "list", item] => (kind? item).map Kind.list
  | _ => none
termination_by structural item => item

def itemKind? : List (String × Item) → Option Kind
  | [] => none
  | (key, item) :: rest => if key = "item" then kind? item else itemKind? rest
termination_by structural entries => entries

end

def field? : Item → Option Field
  | .table origin entries =>
      match memberText? "name" entries, Entries.lookup "db_field" entries,
          kind? (.table origin entries) with
      | some name, none, some kind => some ⟨name, none, kind⟩
      | some name, some (.string stored), some kind => some ⟨name, some stored, kind⟩
      | _, _, _ => none
  | _ => none

def fields? : Item → Option (List Field)
  | .array items => items.mapM field?
  | .tables elements => elements.reverse.mapM fun entries => field? (.table .header entries)
  | _ => none

/-- A document type is a table, or an array of its single member; a date has no member. -/
def documentType? : Item → Option DocumentType
  | .table _ entries =>
      match Entries.lookup "fields" entries with
      | none => some ⟨[]⟩
      | some item => (fields? item).map DocumentType.mk
  | .array [] => some ⟨[]⟩
  | .array [item] => (fields? item).map DocumentType.mk
  | .datetime => some ⟨[]⟩
  | _ => none

def documentEntry? (entry : String × Item) : Option (String × DocumentType) :=
  (documentType? entry.2).map fun document => (entry.1, document)

def schema? : Option Item → Option Schema
  | none => some Schema.empty
  | some (.table _ entries) =>
      (entries.mapM documentEntry?).map fun pairs => ⟨OrderedMap.ofList pairs⟩
  | some _ => none

def options? : Option Item → Option Options
  | none => some Options.default
  | some item => Options.ofItem? item

end Toml

namespace Config

def default : Config := ⟨Options.default, Schema.empty⟩

def ofText? (text : String) : Option Config :=
  match Toml.ofText? text with
  | none => none
  | some entries =>
      match Toml.options? (Entries.lookup "options" entries),
          Toml.schema? (Entries.lookup "documents" entries) with
      | some options, some schema => some ⟨options, schema⟩
      | _, _ => none

end Config

end DocFilter
