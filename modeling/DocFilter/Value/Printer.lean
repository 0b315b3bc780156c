import DocFilter.Value.Basic

set_option autoImplicit false

namespace DocFilter

namespace Text

def hexDigit (n : Nat) : Char :=
  Nat.digitChar n

/-- Quotes, backslashes and control characters are escaped; everything else stands for itself. -/
def escaped (c : Char) : List Char :=
  if c = '"' then ['\\', '"']
  else if c = '\\' then ['\\', '\\']
  else if c = '\x08' then ['\\', 'b']
  else if c = '\t' then ['\\', 't']
  else if c = '\n' then ['\\', 'n']
  else if c = '\x0c' then ['\\', 'f']
  else if c = '\r' then ['\\', 'r']
  else if c.toNat < 0x20 then
    ['\\', 'u', '0', '0', hexDigit (c.toNat / 16), hexDigit (c.toNat % 16)]
  else [c]

def quoted (text : String) : List Char :=
  '"' :: text.toList.flatMap escaped ++ ['"']

end Text

namespace Value

mutual

def compact : Value → List Char
  | .null => ['n', 'u', 'l', 'l']
  | .bool true => ['t', 'r', 'u', 'e']
  | .bool false => ['f', 'a', 'l', 's', 'e']
  | .number value => value.text
  | .string text => Text.quoted text
  | .array items => '[' :: compactItems items ++ [']']
  | .mapping entries => '{' :: compactEntries entries ++ ['}']
termination_by structural v => v

def compactItems : List Value → List Char
  | [] => []
  | item :: rest => item.compact ++ compactMoreItems rest
termination_by structural items => items

def compactMoreItems : List Value → List Char
  | [] => []
  | item :: rest => ',' :: item.compact ++ compactMoreItems rest
termination_by structural items => items

def compactEntries : List (String × Value) → List Char
  | [] => []
  | (key, value) :: rest => Text.quoted key ++ ':' :: value.compact ++ compactMoreEntries rest
termination_by structural entries => entries

def compactMoreEntries : List (String × Value) → List Char
  | [] => []
  | (key, value) :: rest =>
      ',' :: Text.quoted key ++ ':' :: value.compact ++ compactMoreEntries rest
termination_by structural entries => entries

end

/-- A line break and the indentation of a depth: two blanks for each level. -/
def lineBreak (depth : Nat) : List Char :=
  '\n' :: List.replicate (2 * depth) ' '

mutual

/-- Every item and every entry has a line of its own; empty arrays and mappings stay on one. -/
def indented (depth : Nat) : Value → List Char
  | .array [] => ['[', ']']
  | .array items => '[' :: indentedItems (depth + 1) items ++ lineBreak depth ++ [']']
  | .mapping [] => ['{', '}']
  | .mapping entries => '{' :: indentedEntries (depth + 1) entries ++ lineBreak depth ++ ['}']
  | value => value.compact
termination_by structural v => v

def indentedItems (depth : Nat) : List Value → List Char
  | [] => []
  | item :: rest => lineBreak depth ++ item.indented depth ++ indentedMoreItems depth rest
termination_by structural items => items

def indentedMoreItems (depth : Nat) : List Value → List Char
  | [] => []
  | item :: rest => ',' :: lineBreak depth ++ item.indented depth ++ indentedMoreItems depth rest
termination_by structural items => items

def indentedEntries (depth : Nat) : List (String × Value) → List Char
  | [] => []
  | (key, value) :: rest =>
      lineBreak depth ++ Text.quoted key ++ ':' :: ' ' :: value.indented depth ++
        indentedMoreEntries depth rest
termination_by structural entries => entries

def indentedMoreEntries (depth : Nat) : List (String × Value) → List Char
  | [] => []
  | (key, value) :: rest =>
      ',' :: lineBreak depth ++ Text.quoted key ++ ':' :: ' ' :: value.indented depth ++
        indentedMoreEntries depth rest
termination_by structural entries => entries

end

def compactText (value : Value) : String :=
  String.ofList value.compact

def indentedText (value : Value) : String :=
  String.ofList (value.indented 0)

end Value

end DocFilter
