import DocFilter.Number.Decimal
import DocFilter.Schema.Basic
import DocFilter.Text.Pieces

set_option autoImplicit false

namespace DocFilter

/-- One component of a path as a query names it. -/
inductive Segment where
  | field (declared : Field)
  /-- A position in a list, or a component below a field that holds anything. -/
  | raw (text : String)
  deriving DecidableEq

namespace Segment

def wireName : Segment → String
  | field declared => declared.wireName
  | raw text => text

def field? : Segment → Option Field
  | field declared => some declared
  | raw _ => none

def isComposite : Segment → Bool
  | field declared => declared.isComposite
  | raw _ => false

end Segment

def wireName (segments : List Segment) : String :=
  Text.dotted (segments.map fun segment => segment.wireName.toList)

inductive ResolutionCause where
  | fieldNotFound (document component : String)
  | notTraversable (field : String)
  | unknownDocument (document : String)
  | emptyPath
  deriving DecidableEq

structure ResolutionError where
  path : String
  cause : ResolutionCause
  deriving DecidableEq

namespace ResolutionError

def message (error : ResolutionError) : String :=
  "Invalid field '" ++ error.path ++ "': " ++
    match error.cause with
    | .fieldNotFound document component =>
        "field '" ++ component ++ "' not found in '" ++ document ++ "'"
    | .notTraversable field => "'" ++ field ++ "' is not an embedded document or list"
    | .unknownDocument document => "unknown embedded document '" ++ document ++ "'"
    | .emptyPath => "empty field path"

end ResolutionError

/-- Anything that gives the segments of a field path. -/
structure Resolver where
  segments : String → Except ResolutionError (List Segment)

/-- Where a walk stands: the last declared field on the way, and the kind of what is there. -/
structure Place where
  field : String
  kind : Kind
  deriving DecidableEq

/-- Positions are written with the digits 0 to 9. -/
def isPosition (component : String) : Bool :=
  !component.isEmpty && component.toList.all isDigit

namespace Schema

def fieldOf (schema : Schema) (document component : String) : Except ResolutionCause Field :=
  match schema.document? document with
  | none => .error (.unknownDocument document)
  | some type =>
      match type.field? component with
      | none => .error (.fieldNotFound document component)
      | some field => .ok field

def enter (schema : Schema) (document component : String) :
    Except ResolutionCause (Segment × Place) :=
  match schema.fieldOf document component with
  | .error cause => .error cause
  | .ok field => .ok (.field field, ⟨field.name, field.kind⟩)

/-- One step of a walk. In a list a component is a position, or else names a field of the document
type inside the list. -/
def step (schema : Schema) (place : Place) (component : String) :
    Except ResolutionCause (Segment × Place) :=
  match place.kind with
  | .embedded document => schema.enter document component
  | .list item =>
      if isPosition component then .ok (.raw component, ⟨place.field, item⟩)
      else match item.embeddedDocument? with
        | some document => schema.enter document component
        | none => .error (.notTraversable place.field)
  | .scalar .any => .ok (.raw component, place)
  | .scalar _ => .error (.notTraversable place.field)

/-- The segments of a row of components from a place on. -/
def walk (schema : Schema) (place : Place) : List String → Except ResolutionCause (List Segment)
  | [] => .ok []
  | component :: rest =>
      match schema.step place component with
      | .error cause => .error cause
      | .ok (segment, next) =>
          match schema.walk next rest with
          | .error cause => .error cause
          | .ok segments => .ok (segment :: segments)

end Schema

def pathComponents (path : String) : List String :=
  (Text.pieces '.' path.toList).map String.ofList

namespace Schema

def resolve (schema : Schema) (document path : String) :
    Except ResolutionError (List Segment) :=
  if path.isEmpty then .error ⟨path, .emptyPath⟩
  else match schema.walk ⟨document, .embedded document⟩ (pathComponents path) with
    | .error cause => .error ⟨path, cause⟩
    | .ok segments => .ok segments

def resolver (schema : Schema) (document : String) : Resolver :=
  ⟨schema.resolve document⟩

end Schema

structure UnknownDocument where
  name : String
  known : List String
  deriving DecidableEq

def UnknownDocument.message (error : UnknownDocument) : String :=
  "Unknown document '" ++ error.name ++ "'. Known documents: " ++
    if error.known.isEmpty then "(none)" else ", ".intercalate error.known

def Schema.resolver? (schema : Schema) (document : String) : Except UnknownDocument Resolver :=
  match schema.document? document with
  | some _ => .ok (schema.resolver document)
  | none => .error ⟨document, schema.documentNames⟩

end DocFilter
