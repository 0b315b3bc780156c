import DocFilter.Value.Token
import DocFilter.Value.Basic

set_option autoImplicit false

/-
Reading of JSON5 text. A reader is an automaton that takes one token at a time, so the depth of a
value is limited by nothing.
-/
namespace DocFilter

namespace Reader

/-- What stands around the value that is read next. Items are kept in reverse. -/
inductive Context where
  | top
  | item (before : List Value) (outer : Context)
  | entry (before : List (String × Value)) (key : String) (outer : Context)

inductive State where
  /-- A value. -/
  | value (context : Context)
  /-- An item or the end of the array. -/
  | item (before : List Value) (outer : Context)
  /-- A comma or the end of the array. -/
  | itemEnd (before : List Value) (outer : Context)
  /-- A key or the end of the mapping. -/
  | key (before : List (String × Value)) (outer : Context)
  /-- The colon after a key. -/
  | colon (before : List (String × Value)) (key : String) (outer : Context)
  /-- A comma or the end of the mapping. -/
  | entryEnd (before : List (String × Value)) (outer : Context)
  /-- Nothing. -/
  | complete (value : Value)

/-- Puts a value into its place. Of two entries with the same key the later one stays. -/
def Context.fill (value : Value) : Context → State
  | .top => .complete value
  | .item before outer => .itemEnd (value :: before) outer
  | .entry before key outer => .entryEnd (Entries.insert key value before) outer

/-- The value that an identifier stands for; names of numbers that are not finite stand for null. -/
def namedValue? (name : String) : Option Value :=
  if name = "null" ∨ name = "NaN" ∨ name = "Infinity" then some .null
  else if name = "true" then some (.bool true)
  else if name = "false" then some (.bool false)
  else none

def startValue (context : Context) : Token → Option State
  | .openBracket => some (.item [] context)
  | .openBrace => some (.key [] context)
  | .quoted text => some (context.fill (.string text))
  | .numeral (some number) => some (context.fill (.number number))
  | .numeral none => some (context.fill .null)
  | .name text true => (namedValue? text).map (context.fill ·)
  | _ => none

def State.step : State → Token → Option State
  | .value context, token => startValue context token
  | .item before outer, .closeBracket => some (outer.fill (.array before.reverse))
  | .item before outer, token => startValue (.item before outer) token
  | .itemEnd before outer, .comma => some (.item before outer)
  | .itemEnd before outer, .closeBracket => some (outer.fill (.array before.reverse))
  | .key before outer, .closeBrace => some (outer.fill (.mapping before))
  | .key before outer, .quoted text => some (.colon before text outer)
  | .key before outer, .name text _ => some (.colon before text outer)
  | .colon before label outer, .colon => some (.value (.entry before label outer))
  | .entryEnd before outer, .comma => some (.key before outer)
  | .entryEnd before outer, .closeBrace => some (outer.fill (.mapping before))
  | _, _ => none

def State.run : State → List Token → Option State
  | state, [] => some state
  | state, token :: rest =>
      match state.step token with
      | some next => next.run rest
      | none => none

end Reader

def Value.ofTokens? (tokens : List Token) : Option Value :=
  match (Reader.State.value .top).run tokens with
  | some (.complete value) => some value
  | _ => none

/-- The value of a JSON5 text, if it is one. -/
def Value.ofText? (text : String) : Option Value :=
  (Token.ofChars? text.toList).bind Value.ofTokens?

end DocFilter
