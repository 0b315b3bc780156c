import DocFilter.Filter.Set
import DocFilter.Text.Blank
import DocFilter.Value.Printer
import DocFilter.Value.Reader

set_option autoImplicit false

namespace DocFilter

inductive SourceError where
  | malformed
  | notMapping (value : Value)
  | invalidInline (argument : String)

/-- The message of an error, without what the parser says of malformed text: that is not modelled,
and would follow after a colon. -/
def SourceError.message : SourceError → String
  | malformed => "Failed to parse filters"
  | notMapping value =>
      "Filters must be an object of key/value pairs, got: " ++ value.compactText
  | invalidInline argument => "Expected 'key=value' format, got: " ++ argument

namespace FilterSet

def ofText (text : String) : Except SourceError FilterSet :=
  match Value.ofText? text with
  | none => .error .malformed
  | some (.mapping entries) => .ok (OrderedMap.ofList entries)
  | some value => .error (.notMapping value)

/-- A filter written as `KEY=VALUE`. A value that is no JSON5 is a plain text. -/
def parseInline (argument : String) : Except SourceError (String × Value) :=
  let key := Text.trim (argument.toList.takeWhile (· != '='))
  match argument.toList.dropWhile (· != '=') with
  | [] => .error (.invalidInline argument)
  | _ :: rest =>
      let text := String.ofList (Text.trim rest)
      if key.isEmpty then .error (.invalidInline argument)
      else .ok (String.ofList key, (Value.ofText? text).getD (.string text))

/-- Adds inline filters one after the other; each replaces what its key had before. -/
def withInline (filters : FilterSet) : List String → Except SourceError FilterSet
  | [] => .ok filters
  | argument :: rest =>
      match parseInline argument with
      | .error error => .error error
      | .ok (key, value) => withInline (filters.insert key value) rest

end FilterSet

end DocFilter
