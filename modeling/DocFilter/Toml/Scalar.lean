import DocFilter.Number.Decimal
import DocFilter.Text.Hex
import DocFilter.Toml.Item

set_option autoImplicit false

/-
Numbers, dates and times of TOML. Each reader returns what it reads with what follows it; that the
rest starts with something that may follow is left to the caller.
-/
namespace DocFilter.Toml

def digits? (count : Nat) (cs : List Char) : Option (Nat × List Char) :=
  let digits := cs.take count
  if digits.length = count ∧ digits.all isDigit then some (natOfDigits digits, cs.drop count)
  else none

def mark? (mark : Char) : List Char → Option (List Char)
  | c :: rest => if c = mark then some rest else none
  | [] => none

def isLeapYear (year : Nat) : Bool :=
  year % 4 == 0 && (year % 100 != 0 || year % 400 == 0)

def daysInMonth (year month : Nat) : Nat :=
  if month = 2 then (if isLeapYear year then 29 else 28)
  else if month = 4 ∨ month = 6 ∨ month = 9 ∨ month = 11 then 30
  else 31

def afterDate? (cs : List Char) : Option (List Char) := do
  let (year, rest) ← digits? 4 cs
  let rest ← mark? '-' rest
  let (month, rest) ← digits? 2 rest
  let rest ← mark? '-' rest
  let (day, rest) ← digits? 2 rest
  if 1 ≤ month ∧ month ≤ 12 ∧ 1 ≤ day ∧ day ≤ daysInMonth year month then some rest else none

def afterMinutes? (cs : List Char) : Option (List Char) := do
  let (hour, rest) ← digits? 2 cs
  let rest ← mark? ':' rest
  let (minute, rest) ← digits? 2 rest
  if hour ≤ 23 ∧ minute ≤ 59 then some rest else none

/-- What follows a time of day. A minute may have a leap second. -/
def afterTime? (cs : List Char) : Option (List Char) := do
  let rest ← afterMinutes? cs
  let rest ← mark? ':' rest
  let (second, rest) ← digits? 2 rest
  if 60 < second then none
  else match rest with
    | '.' :: fraction =>
        if (fraction.head?.map isDigit).getD false then some (fraction.dropWhile isDigit)
        else some rest
    | _ => some rest

def afterOffset : List Char → List Char
  | [] => []
  | sign :: rest =>
      if sign = 'Z' ∨ sign = 'z' then rest
      else if sign = '+' ∨ sign = '-' then (afterMinutes? rest).getD (sign :: rest)
      else sign :: rest

def afterDatetime? (cs : List Char) : Option (List Char) :=
  match afterDate? cs with
  | none => afterTime? cs
  | some [] => some []
  | some (separator :: rest) =>
      if separator = 'T' ∨ separator = 't' ∨ separator = ' ' then
        match afterTime? rest with
        | some after => some (afterOffset after)
        | none => some (separator :: rest)
      else some (separator :: rest)

def moreDigits? (allowed : Char → Bool) : List Char → Option (List Char × List Char)
  | [] => some ([], [])
  | c :: rest =>
      if allowed c then (moreDigits? allowed rest).map fun (more, final) => (c :: more, final)
      else if c = '_' then
        if (rest.head?.map allowed).getD false then moreDigits? allowed rest else none
      else some ([], c :: rest)

/-- Digits with single underscores between them. -/
def grouped? (allowed : Char → Bool) (cs : List Char) : Option (List Char × List Char) :=
  if (cs.head?.map allowed).getD false then moreDigits? allowed cs else none

/-- The integer part of a decimal number: a zero stands alone. -/
def whole? (cs : List Char) : Option (List Char × List Char) :=
  match cs with
  | '0' :: rest => some (['0'], rest)
  | _ => grouped? isDigit cs

/-- The exponent of a decimal number, zero if there is none. -/
def exponent? : List Char → Option (Option Int × List Char)
  | [] => some (none, [])
  | mark :: rest =>
      if mark = 'e' ∨ mark = 'E' then
        (grouped? isDigit (spanSign rest).2).map fun (digits, after) =>
          let size := Int.ofNat (natOfDigits digits)
          (some (if (spanSign rest).1 then -size else size), after)
      else some (none, mark :: rest)

def fraction? : List Char → Option (Option (List Char) × List Char)
  | '.' :: rest => (grouped? isDigit rest).map fun (digits, after) => (some digits, after)
  | cs => some (none, cs)

/-- Integers have 64 bits and a sign. -/
def integer? (value : Int) : Option Item :=
  if -9223372036854775808 ≤ value ∧ value < 9223372036854775808 then some (.integer value)
  else none

/-- A decimal integer or a number with a fraction or an exponent. A number that is too great is
refused. -/
def decimal? (negative : Bool) (cs : List Char) : Option (Item × List Char) := do
  let (whole, rest) ← whole? cs
  let (fraction, rest) ← fraction? rest
  let (exponent, rest) ← exponent? rest
  let parts : Numeral := ⟨whole, fraction, exponent⟩
  if parts.isInteger then
    let magnitude := Int.ofNat (natOfDigits whole)
    (integer? (if negative then -magnitude else magnitude)).map fun item => (item, rest)
  else if (parts.decimal.toBinary64? false).isNone && !negative then none
  else some (.float, rest)

def isOctalDigit (c : Char) : Bool :=
  '0' ≤ c && c ≤ '7'

def isBinaryDigit (c : Char) : Bool :=
  c == '0' || c == '1'

def natOfBase (base : Nat) (digits : List Char) : Nat :=
  digits.foldl (fun value c => base * value + (Text.hexDigit? c).getD 0) 0

def based? (base : Nat) (allowed : Char → Bool) (cs : List Char) : Option (Item × List Char) := do
  let (digits, rest) ← grouped? allowed cs
  let item ← integer? (Int.ofNat (natOfBase base digits))
  some (item, rest)

/-- What follows a number that is not finite. -/
def afterNonFinite? : List Char → Option (List Char)
  | 'i' :: 'n' :: 'f' :: rest => some rest
  | 'n' :: 'a' :: 'n' :: rest => some rest
  | _ => none

def number? : List Char → Option (Item × List Char)
  | '0' :: 'x' :: rest => based? 16 Text.isHexDigit rest
  | '0' :: 'o' :: rest => based? 8 isOctalDigit rest
  | '0' :: 'b' :: rest => based? 2 isBinaryDigit rest
  | cs =>
      match afterNonFinite? (spanSign cs).2 with
      | some rest => some (.float, rest)
      | none => decimal? (spanSign cs).1 (spanSign cs).2

def scalar? : List Char → Option (Item × List Char)
  | 't' :: 'r' :: 'u' :: 'e' :: rest => some (.bool true, rest)
  | 'f' :: 'a' :: 'l' :: 's' :: 'e' :: rest => some (.bool false, rest)
  | cs =>
      match afterDatetime? cs with
      | some rest => some (.datetime, rest)
      | none => number? cs

end DocFilter.Toml
