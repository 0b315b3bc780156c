import DocFilter.Filter.Validation
import DocFilter.Value.Merge
import DocFilter.Value.Printer

set_option autoImplicit false

namespace DocFilter

inductive CompileError where
  | unresolvable (error : ResolutionError)
  | invalid (error : InvalidFilter)
  | rawNotMapping (value : Value)

def CompileError.message : CompileError → String
  | unresolvable error => error.message
  | invalid error => error.message
  | rawNotMapping value => "Raw filter must be a mapping, got: " ++ value.compactText

namespace Resolver

/-- The fragment of a single filter. The last segment of its path decides how the value is
encoded. -/
def compileFilter (resolver : Resolver) (key : String) (value : Value) :
    Except ResolutionError (List (String × Value)) :=
  let parsed := FilterKey.parse key
  match resolver.segments parsed.path with
  | .error error => .error error
  | .ok segments =>
      match segments.getLast? with
      | none => .error ⟨parsed.path, .emptyPath⟩
      | some leaf =>
          let operand := parsed.operator.transform leaf.field? value
          .ok (parsed.operator.fragment (wireName segments) operand)

/-- What an entry of a filter set contributes to the query. -/
def contribution (resolver : Resolver) (key : String) (value : Value) :
    Except CompileError (List (String × Value)) :=
  if key = rawKey then
    match value with
    | .mapping entries => .ok entries
    | value => .error (.rawNotMapping value)
  else match resolver.compileFilter key value with
    | .error error => .error (.unresolvable error)
    | .ok fragment => .ok fragment

/-- Merges the contributions of the entries into a query, one after the other. -/
def compileOnto (resolver : Resolver) (query : List (String × Value)) :
    List (String × Value) → Except CompileError (List (String × Value))
  | [] => .ok query
  | (key, value) :: rest =>
      match resolver.contribution key value with
      | .error error => .error error
      | .ok fragment => resolver.compileOnto (Value.mergeEntries query fragment) rest

def compile (resolver : Resolver) (filters : FilterSet) :
    Except CompileError (List (String × Value)) :=
  resolver.compileOnto [] filters.entries

def compileChecked (resolver : Resolver) (filters : FilterSet) :
    Except CompileError (List (String × Value)) :=
  match resolver.validate filters with
  | .error error => .error (.invalid error)
  | .ok () => resolver.compile filters

end Resolver

end DocFilter
