import DocFilter.Schema.Field
import DocFilter.Text.Blank
import DocFilter.Text.Hex
import DocFilter.Text.LowerCase
import DocFilter.Value.Basic

set_option autoImplicit false

namespace DocFilter

/-- The integer written as an optional sign and decimal digits, if it lies between `-2 ^ 63` and
`2 ^ 63 - 1`. -/
def integerOfText? (cs : List Char) : Option Number :=
  let digits := (spanSign cs).2
  let magnitude := Int.ofNat (natOfDigits digits)
  let value := if (spanSign cs).1 then -magnitude else magnitude
  if digits.isEmpty || !digits.all isDigit then none
  else if value < 9223372036854775808 then Number.ofInt? value
  else none

def floatOfText? (cs : List Char) : Option Number :=
  match Numeral.scan? (spanSign cs).2 with
  | some (numeral, []) => (numeral.decimal.toBinary64? (spanSign cs).1).map Number.float
  | _ => none

def truthOfText? (cs : List Char) : Option Bool :=
  let word := String.ofList (Text.lowerCase cs)
  if word = "true" ∨ word = "1" ∨ word = "yes" then some true
  else if word = "false" ∨ word = "0" ∨ word = "no" then some false
  else none

/-- Object identifiers have 24 hexadecimal digits. -/
def isObjectId (cs : List Char) : Bool :=
  cs.length == 24 && cs.all Text.isHexDigit

def lowerText (text : String) : String :=
  String.ofList (Text.lowerCase text.toList)

def ScalarType.encode : ScalarType → Value → Value
  | .int, .string text =>
      match integerOfText? (Text.trim text.toList) with
      | some number => .number number
      | none => .string text
  | .float, .string text =>
      match floatOfText? (Text.trim text.toList) with
      | some number => .number number
      | none => .string text
  | .bool, .string text =>
      match truthOfText? text.toList with
      | some truth => .bool truth
      | none => .string text
  | .string, .number number => .string (String.ofList number.text)
  | .objectId, .string text =>
      if isObjectId text.toList then .mapping [("$oid", .string (lowerText text))]
      else .string text
  | .datetime, .string text => .mapping [("$date", .string text)]
  | .datetime, .number number => .mapping [("$date", .number number)]
  | .uuid, .string text => .string (lowerText text)
  | _, value => value

/-- A list encodes its items; a value that is no array is encoded as an item would be. -/
def Kind.encode : Kind → Value → Value
  | .scalar type, value => type.encode value
  | .embedded _, value => value
  | .list item, .array items => .array (items.map item.encode)
  | .list item, value => item.encode value

def Field.encode (field : Field) (value : Value) : Value :=
  field.kind.encode value

end DocFilter
