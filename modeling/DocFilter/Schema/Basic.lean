import DocFilter.OrderedMap
import DocFilter.Schema.Field

set_option autoImplicit false

namespace DocFilter

structure DocumentType where
  fields : List Field
  deriving DecidableEq, Inhabited

def DocumentType.field? (document : DocumentType) (name : String) : Option Field :=
  document.fields.find? fun field => field.name = name

structure Schema where
  documents : OrderedMap DocumentType

namespace Schema

def empty : Schema := ⟨OrderedMap.empty⟩

/-- Adds a document type; one of the same name is replaced. -/
def withDocument (schema : Schema) (name : String) (document : DocumentType) : Schema :=
  ⟨schema.documents.insert name document⟩

def document? (schema : Schema) (name : String) : Option DocumentType :=
  schema.documents.get? name

def documentNames (schema : Schema) : List String :=
  schema.documents.keys

end Schema

end DocFilter
