import DocFilter.Schema.Encoding

set_option autoImplicit false

namespace DocFilter

inductive Operator where
  /-- The operator of a key without a token. -/
  | equals
  | existence
  | greater
  | greaterOrEqual
  | less
  | lessOrEqual
  | oneOf
  | isNull
  | negation
  | notEqual
  deriving DecidableEq

namespace Operator

def all : List Operator :=
  [equals, existence, greater, greaterOrEqual, less, lessOrEqual, oneOf, isNull, negation, notEqual]

/-- What follows the last separator of a key that names the operator. -/
def token : Operator → String
  | equals => ""
  | existence => "exists"
  | greater => "gt"
  | greaterOrEqual => "gte"
  | less => "lt"
  | lessOrEqual => "lte"
  | oneOf => "in"
  | isNull => "is_null"
  | negation => "not"
  | notEqual => "ne"

def name : Operator → String
  | equals => "equals"
  | operator => operator.token

def ofToken? : String → Option Operator
  | "exists" => some existence
  | "gt" => some greater
  | "gte" => some greaterOrEqual
  | "lt" => some less
  | "lte" => some lessOrEqual
  | "in" => some oneOf
  | "is_null" => some isNull
  | "not" => some negation
  | "ne" => some notEqual
  | _ => none

def queryName? : Operator → Option String
  | equals => none
  | isNull => none
  | existence => some "$exists"
  | greater => some "$gt"
  | greaterOrEqual => some "$gte"
  | less => some "$lt"
  | lessOrEqual => some "$lte"
  | oneOf => some "$in"
  | negation => some "$not"
  | notEqual => some "$ne"

/-- The value as the addressed field stores it; undeclared parts of a document store it as given. -/
def encodeFor (field : Option Field) (value : Value) : Value :=
  match field with
  | some field => field.encode value
  | none => value

def transform (operator : Operator) (field : Option Field) (value : Value) : Value :=
  match operator, value with
  | existence, value => .bool value.isTruthy
  | isNull, value => .bool value.isTruthy
  | oneOf, .array items => .array (items.map (encodeFor field))
  | oneOf, value => .array [encodeFor field value]
  | negation, .mapping entries => .mapping entries
  | _, value => encodeFor field value

/-- What a query holds under the name of the addressed field. -/
def shape (operator : Operator) (operand : Value) : Value :=
  match operator, operator.queryName? with
  | isNull, _ => if operand.isTruthy then .null else .mapping [("$ne", .null)]
  | _, some name => .mapping [(name, operand)]
  | _, none => operand

def fragment (operator : Operator) (wireName : String) (operand : Value) : List (String × Value) :=
  [(wireName, operator.shape operand)]

end Operator

end DocFilter
