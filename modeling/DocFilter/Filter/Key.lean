import DocFilter.Filter.Operator
import DocFilter.Text.Pieces

set_option autoImplicit false

namespace DocFilter

structure FilterKey where
  /-- The field path with dots. -/
  path : String
  /-- The operator that the key names, if it names one. -/
  operator? : Option Operator
  deriving DecidableEq

namespace FilterKey

/-- The parts of a key between double underscores, matched from the left without overlap. -/
def parts : List Char → List (List Char)
  | [] => [[]]
  | '_' :: '_' :: rest => [] :: parts rest
  | c :: rest =>
      match parts rest with
      | [] => [[c]]
      | part :: others => (c :: part) :: others

/-- Reads a key. Its last part is an operator if it is a token and not the only part. -/
def parse (key : String) : FilterKey :=
  let parts := FilterKey.parts key.toList
  match parts.dropLast, Operator.ofToken? (String.ofList (parts.getLast?.getD [])) with
  | first :: others, some operator => ⟨Text.dotted (first :: others), some operator⟩
  | _, _ => ⟨Text.dotted parts, none⟩

def operator (key : FilterKey) : Operator :=
  key.operator?.getD .equals

def isExplicit (key : FilterKey) : Bool :=
  key.operator?.isSome

def isNested (key : FilterKey) : Bool :=
  key.path.toList.contains '.'

end FilterKey

end DocFilter
