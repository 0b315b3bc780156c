import DocFilter.Text.Hex

set_option autoImplicit false

/-
Texts of TOML, quoted in four ways. Each reader is given what follows the opening quotes and returns
the text with what follows the closing ones.
-/
namespace DocFilter.Toml

/-- Tab and everything printable; control characters are nowhere allowed but as line ends. -/
def isPlain (c : Char) : Bool :=
  c == '\t' || (' ' ≤ c && c ≤ '~') || 0x80 ≤ c.toNat

def isSpace (c : Char) : Bool :=
  c == ' ' || c == '\t'

def skipSpaces (cs : List Char) : List Char :=
  cs.dropWhile isSpace

def afterNewline? : List Char → Option (List Char)
  | '\n' :: rest => some rest
  | '\r' :: '\n' :: rest => some rest
  | _ => none

def skipLines : List Char → List Char
  | [] => []
  | c :: rest =>
      if isSpace c || c == '\n' then skipLines rest
      else if c = '\r' ∧ rest.head? = some '\n' then skipLines rest
      else c :: rest

/-- The character that an escape stands for, given what follows the backslash. -/
def escape? : List Char → Option (Char × List Char)
  | 'b' :: rest => some ('\x08', rest)
  | 't' :: rest => some ('\t', rest)
  | 'n' :: rest => some ('\n', rest)
  | 'f' :: rest => some ('\x0c', rest)
  | 'r' :: rest => some ('\r', rest)
  | '"' :: rest => some ('"', rest)
  | '\\' :: rest => some ('\\', rest)
  | 'u' :: rest => (Text.takeHex? 4 rest).bind scalar?
  | 'U' :: rest => (Text.takeHex? 8 rest).bind scalar?
  | _ => none
where
  scalar? : Nat × List Char → Option (Char × List Char)
    | (code, rest) => if code.isValidChar then some (Char.ofNat code, rest) else none

def basic? (cs : List Char) : Option (List Char × List Char) :=
  match cs with
  | [] => none
  | '"' :: rest => some ([], rest)
  | '\\' :: rest =>
      (escape? rest).bind fun (c, after) =>
        if _shorter : after.length < rest.length then
          (basic? after).map fun (content, final) => (c :: content, final)
        else none
  | c :: rest =>
      if isPlain c then (basic? rest).map fun (content, final) => (c :: content, final) else none
termination_by cs.length

def literal? : List Char → Option (List Char × List Char)
  | [] => none
  | '\'' :: rest => some ([], rest)
  | c :: rest =>
      if isPlain c then (literal? rest).map fun (content, final) => (c :: content, final) else none

/-- A text over several lines, with or without escapes. Three quotes end it, and up to two more
belong to it. A backslash at the end of a line takes away the line end and all space after it. -/
def multiline? (quote : Char) (escapes : Bool) (cs : List Char) :
    Option (List Char × List Char) :=
  let next (content rest : List Char) : Option (List Char × List Char) :=
    if _shorter : rest.length < cs.length then
      (multiline? quote escapes rest).map fun (more, final) => (content ++ more, final)
    else none
  match cs with
  | [] => none
  | c :: rest =>
      if c = quote then
        let quotes := ((c :: rest).takeWhile (· == quote)).length
        if quotes < 3 then next [c] rest
        else
          let inside := min quotes 5 - 3
          some (List.replicate inside quote, (c :: rest).drop (inside + 3))
      else if c = '\\' && escapes then
        match afterNewline? (skipSpaces rest) with
        | some after => next [] (skipLines after)
        | none => (escape? rest).bind fun (char, after) => next [char] after
      else match afterNewline? (c :: rest) with
        | some after => next ['\n'] after
        | none => if isPlain c then next [c] rest else none
termination_by cs.length

/-- The content of a text over several lines; a line end right after the opening quotes is no part
of it. -/
def multilineBody? (quote : Char) (escapes : Bool) (cs : List Char) :
    Option (List Char × List Char) :=
  multiline? quote escapes ((afterNewline? cs).getD cs)

def quoted? : List Char → Option (List Char × List Char)
  | '"' :: '"' :: '"' :: rest => multilineBody? '"' true rest
  | '\'' :: '\'' :: '\'' :: rest => multilineBody? '\'' false rest
  | '"' :: rest => basic? rest
  | '\'' :: rest => literal? rest
  | _ => none

end DocFilter.Toml
