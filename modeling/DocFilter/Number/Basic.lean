import DocFilter.Number.Shortest

set_option autoImplicit false

namespace DocFilter

/-- Integers reach from `-2 ^ 63` to below `2 ^ 64`. An integer never equals a binary64 number,
whatever their values: they are stored, and written, differently. -/
inductive Number where
  | integer (value : Int) (lower : -9223372036854775808 ≤ value)
      (upper : value < 18446744073709551616)
  | float (value : Binary64)
  deriving DecidableEq

namespace Number

/-- The integer, if it fits. -/
def ofInt? (value : Int) : Option Number :=
  if fits : -9223372036854775808 ≤ value ∧ value < 18446744073709551616 then
    some (.integer value fits.1 fits.2)
  else none

def isZero : Number → Bool
  | .integer value _ _ => value == 0
  | .float value => value.isZero

end Number

def intText (value : Int) : List Char :=
  match value with
  | .ofNat n => digitsOfNat n
  | .negSucc n => '-' :: digitsOfNat (n + 1)

/-- How a numeral is laid out. From `1e-5` to below `1e16` it is written plainly, with at least one
digit after the point; outside of that with an exponent, which always has a sign. -/
def Decimal.text (x : Decimal) : List Char :=
  let digits := digitsOfNat x.digits
  let exponent := x.exponent + digits.length - 1
  if -5 ≤ exponent ∧ exponent ≤ 15 then
    if exponent < 0 then
      '0' :: '.' :: List.replicate (-exponent - 1).toNat '0' ++ digits
    else
      let whole := exponent.toNat + 1
      let padded := digits ++ List.replicate (whole - digits.length) '0'
      let fraction := padded.drop whole
      padded.take whole ++ '.' :: (if fraction.isEmpty then ['0'] else fraction)
  else
    let fraction := digits.drop 1
    let sign := if exponent < 0 then '-' else '+'
    digits.take 1 ++ (if fraction.isEmpty then [] else '.' :: fraction) ++
      'e' :: sign :: digitsOfNat exponent.natAbs

def Binary64.text (x : Binary64) : List Char :=
  let magnitude := if x.isZero then ['0', '.', '0'] else x.shortest.text
  if x.negative then '-' :: magnitude else magnitude

def Number.text : Number → List Char
  | .integer value _ _ => intText value
  | .float value => value.text

end DocFilter
