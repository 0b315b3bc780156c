import DocFilter.Toml.Scalar
import DocFilter.Toml.Text

set_option autoImplicit false

namespace DocFilter.Toml

/-- Neither values within values nor keys within a path may be deeper than this. -/
def depthLimit : Nat := 79

def afterComment (cs : List Char) : List Char :=
  cs.dropWhile isPlain

/-- What follows the end of a line: spaces, a comment, and the line end or the end of the text. -/
def afterLine? (cs : List Char) : Option (List Char) :=
  let rest := match skipSpaces cs with
    | '#' :: comment => afterComment comment
    | rest => rest
  if rest.isEmpty then some [] else afterNewline? rest

def skipFiller? (cs : List Char) : Option (List Char) :=
  match skipLines cs with
  | '#' :: comment =>
      match afterNewline? (afterComment comment) with
      | some rest => if _shorter : rest.length < cs.length then skipFiller? rest else none
      | none => none
  | rest => some rest
termination_by cs.length

def isBareKey (c : Char) : Bool :=
  c.isAlphanum || c == '_' || c == '-'

def simpleKey? (cs : List Char) : Option (String × List Char) :=
  match cs with
  | '"' :: rest => (basic? rest).map fun (content, after) => (String.ofList content, after)
  | '\'' :: rest => (literal? rest).map fun (content, after) => (String.ofList content, after)
  | _ =>
      let key := cs.takeWhile isBareKey
      if key.isEmpty then none else some (String.ofList key, cs.dropWhile isBareKey)

/-- The keys of a dotted key: the ones on the way, and the last. Spaces may stand around each. -/
def dottedKey? (before : List String) (cs : List Char) :
    Option (List String × String × List Char) :=
  match simpleKey? (skipSpaces cs) with
  | none => none
  | some (key, rest) =>
      match skipSpaces rest with
      | '.' :: more =>
          if _shorter : more.length < cs.length then dottedKey? (before ++ [key]) more else none
      | rest => if depthLimit < before.length + 1 then none else some (before, key, rest)
termination_by cs.length

/-- The items of an array up to its closing bracket, each with a comma after it but the last, which
may have one. -/
def items? (item? : List Char → Option (Item × List Char)) (cs : List Char) :
    Option (List Item × List Char) :=
  match skipFiller? cs with
  | none => none
  | some (']' :: rest) => some ([], rest)
  | some start =>
      match item? start with
      | none => none
      | some (item, rest) =>
          match skipFiller? rest with
          | some (',' :: more) =>
              if _shorter : more.length < cs.length then
                (items? item? more).map fun (others, final) => (item :: others, final)
              else none
          | some (']' :: final) => some ([item], final)
          | _ => none
termination_by cs.length

def pairs? (item? : List Char → Option (Item × List Char)) (table : Table) (cs : List Char) :
    Option (Table × List Char) :=
  match dottedKey? [] cs with
  | some (path, key, '=' :: afterKey) =>
      match item? (skipSpaces afterKey) with
      | none => none
      | some (item, rest) =>
          match table.assign path key item, skipSpaces rest with
          | some table, ',' :: more =>
              if _shorter : more.length < cs.length then pairs? item? table more else none
          | some table, '}' :: final => some (table, final)
          | _, _ => none
  | _ => none
termination_by cs.length

def value? : Nat → List Char → Option (Item × List Char)
  | depth + 1, '[' :: rest =>
      (items? (value? depth) rest).map fun (items, final) => (.array items, final)
  | depth + 1, '{' :: rest =>
      match skipSpaces rest with
      | '}' :: final => some (.table .inline [], final)
      | _ =>
          (pairs? (value? depth) (Table.empty .header) rest).map fun (table, final) =>
            (.table .inline table.entries, final)
  | _, cs =>
      match cs with
      | '"' :: _ => (quoted? cs).map fun (content, rest) => (.string (String.ofList content), rest)
      | '\'' :: _ => (quoted? cs).map fun (content, rest) => (.string (String.ofList content), rest)
      | _ => scalar? cs

def statement? : List Char → Option (Statement × List Char)
  | '[' :: '[' :: rest =>
      match dottedKey? [] rest with
      | some (path, key, ']' :: ']' :: after) =>
          (afterLine? after).map fun final => (.elementHeader path key, final)
      | _ => none
  | '[' :: rest =>
      match dottedKey? [] rest with
      | some (path, key, ']' :: after) =>
          (afterLine? after).map fun final => (.header path key, final)
      | _ => none
  | cs =>
      match dottedKey? [] cs with
      | some (path, key, '=' :: after) => do
          let (item, rest) ← value? depthLimit (skipSpaces after)
          let final ← afterLine? rest
          some (.assignment path key item, final)
      | _ => none

/-- The statements of a text. Every round uses up at least one line. -/
def statements? (cs : List Char) : Option (List Statement) :=
  let start := skipSpaces cs
  if start.isEmpty then some []
  else match afterLine? start with
    | some rest => if _shorter : rest.length < cs.length then statements? rest else none
    | none =>
        match statement? start with
        | none => none
        | some (statement, rest) =>
            if _shorter : rest.length < cs.length then
              (statements? rest).map (statement :: ·)
            else none
termination_by cs.length

/-- The entries of a TOML text, if it is one. A byte order mark may stand in front. -/
def ofText? (text : String) : Option (List (String × Item)) :=
  let cs := match text.toList with
    | '\ufeff' :: rest => rest
    | cs => cs
  ((statements? cs).bind (build [] (Table.empty .header))).map Table.entries

end DocFilter.Toml
