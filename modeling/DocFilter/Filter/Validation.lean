import DocFilter.Filter.Key
import DocFilter.Filter.Set
import DocFilter.Schema.Resolution

set_option autoImplicit false

namespace DocFilter

inductive InvalidReason where
  | unresolvable (error : ResolutionError)
  | noField (path : String)
  | ambiguousSubProperty
  deriving DecidableEq

def InvalidReason.message : InvalidReason → String
  | unresolvable error => error.message
  | noField path => "no field resolved for '" ++ path ++ "'"
  | ambiguousSubProperty =>
      "Invalid operator (if this is a sub-property, then it must be used in embedded document " ++
        "fields)."

structure InvalidFilter where
  key : String
  reason : InvalidReason
  deriving DecidableEq

def InvalidFilter.message (error : InvalidFilter) : String :=
  "Invalid filter '" ++ error.key ++ "': " ++ error.reason.message

namespace Resolver

def validateKey (resolver : Resolver) (key : String) : Except InvalidFilter Unit :=
  let parsed := FilterKey.parse key
  match resolver.segments parsed.path with
  | .error error => .error ⟨key, .unresolvable error⟩
  | .ok [] => .error ⟨key, .noField parsed.path⟩
  | .ok (first :: _) =>
      if parsed.isNested && !parsed.isExplicit && !first.isComposite then
        .error ⟨key, .ambiguousSubProperty⟩
      else .ok ()

/-- Checks one key after the other up to the first that is rejected. -/
def validateKeys (resolver : Resolver) : List String → Except InvalidFilter Unit
  | [] => .ok ()
  | key :: rest =>
      if key = rawKey then resolver.validateKeys rest
      else match resolver.validateKey key with
        | .error error => .error error
        | .ok () => resolver.validateKeys rest

def validate (resolver : Resolver) (filters : FilterSet) : Except InvalidFilter Unit :=
  resolver.validateKeys filters.keys

end Resolver

end DocFilter
