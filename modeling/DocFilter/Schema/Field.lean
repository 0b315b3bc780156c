set_option autoImplicit false

namespace DocFilter

inductive ScalarType where
  | string
  | int
  | float
  | bool
  | datetime
  | objectId
  | uuid
  /-- A value of any shape, whose inner paths are not declared. -/
  | any
  deriving DecidableEq

namespace ScalarType

def name : ScalarType → String
  | string => "string"
  | int => "int"
  | float => "float"
  | bool => "bool"
  | datetime => "datetime"
  | objectId => "objectid"
  | uuid => "uuid"
  | any => "any"

def all : List ScalarType :=
  [string, int, float, bool, datetime, objectId, uuid, any]

def ofName? (name : String) : Option ScalarType :=
  all.find? fun type => type.name = name

end ScalarType

inductive Kind where
  | scalar (type : ScalarType)
  | embedded (document : String)
  | list (item : Kind)
  deriving DecidableEq

namespace Kind

/-- Whether a value of the kind has parts that are declared by the schema. -/
def isComposite : Kind → Bool
  | scalar _ => false
  | embedded _ => true
  | list _ => true

/-- The document type found inside the kind, lists being looked through. -/
def embeddedDocument? : Kind → Option String
  | scalar _ => none
  | embedded document => some document
  | list item => item.embeddedDocument?

def scalarType? : Kind → Option ScalarType
  | scalar type => some type
  | _ => none

end Kind

structure Field where
  name : String
  /-- The name in the store, if it differs from the logical one. -/
  storedName : Option String
  kind : Kind
  deriving DecidableEq

namespace Field

/-- The name that queries use for the field. -/
def wireName (field : Field) : String :=
  field.storedName.getD field.name

def isComposite (field : Field) : Bool :=
  field.kind.isComposite

end Field

end DocFilter
