set_option autoImplicit false

namespace DocFilter

def twoTo (exponent : Nat) : Nat := Nat.pow 2 exponent

def tenTo (exponent : Nat) : Nat := Nat.pow 10 exponent

/-- The number `significand * 2 ^ scale / 2 ^ 1074`, or its negation. The significand has all of its
53 bits unless the scale is the least one, so a number has one representation for each sign. -/
structure Binary64 where
  negative : Bool
  significand : Nat
  scale : Nat
  significand_lt : significand < twoTo 53
  scale_le : scale ≤ 2045
  normal : scale = 0 ∨ twoTo 52 ≤ significand
  deriving DecidableEq

/-- The nearest whole number to a quotient; a half goes to the even neighbour. -/
def roundQuotient (numerator denominator : Nat) : Nat :=
  let floor := numerator / denominator
  let rest := numerator % denominator
  if 2 * rest < denominator then floor
  else if denominator < 2 * rest then floor + 1
  else floor + floor % 2

namespace Binary64

def zero (negative : Bool) : Binary64 :=
  ⟨negative, 0, 0, by decide, by decide, .inl rfl⟩

def isZero (x : Binary64) : Bool :=
  x.significand == 0

def ofParts? (negative : Bool) (significand scale : Nat) : Option Binary64 :=
  if fits : significand < twoTo 53 ∧ scale ≤ 2045 ∧ (scale = 0 ∨ twoTo 52 ≤ significand) then
    some ⟨negative, significand, scale, fits.1, fits.2.1, fits.2.2⟩
  else none

/-- The number nearest to `numerator / denominator`, a tie going to the even significand. There is
none when the quotient is so large that it rounds past the greatest number. -/
def ofQuotient? (negative : Bool) (numerator denominator : Nat) : Option Binary64 :=
  let scaled := numerator * twoTo 1074
  let scale := (scaled / denominator).log2 - 52
  let significand := roundQuotient scaled (denominator * twoTo scale)
  if significand < twoTo 53 then ofParts? negative significand scale
  else ofParts? negative (twoTo 52) (scale + 1)

end Binary64

end DocFilter
