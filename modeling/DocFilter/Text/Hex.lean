set_option autoImplicit false

namespace DocFilter.Text

def hexDigit? (c : Char) : Option Nat :=
  if '0' ≤ c ∧ c ≤ '9' then some (c.toNat - '0'.toNat)
  else if 'a' ≤ c ∧ c ≤ 'f' then some (c.toNat - 'a'.toNat + 10)
  else if 'A' ≤ c ∧ c ≤ 'F' then some (c.toNat - 'A'.toNat + 10)
  else none

def isHexDigit (c : Char) : Bool :=
  (hexDigit? c).isSome

def natOfHex (digits : List Char) : Nat :=
  digits.foldl (fun value c => 16 * value + (hexDigit? c).getD 0) 0

/-- The first `count` characters as a hexadecimal number, and what follows them. -/
def takeHex? (count : Nat) (cs : List Char) : Option (Nat × List Char) :=
  let digits := cs.take count
  if digits.length = count ∧ digits.all isHexDigit then some (natOfHex digits, cs.drop count)
  else none

theorem takeHex?_length {count : Nat} {cs rest : List Char} {value : Nat}
    (taken : takeHex? count cs = some (value, rest)) : rest.length ≤ cs.length := by
  simp only [takeHex?] at taken
  split at taken
  · injection taken with taken
    injection taken with _ restEq
    rw [← restEq, List.length_drop]
    omega
  · contradiction

def isHighSurrogate (code : Nat) : Bool :=
  0xD800 ≤ code && code < 0xDC00

def isLowSurrogate (code : Nat) : Bool :=
  0xDC00 ≤ code && code < 0xE000

/-- The character that a pair of surrogates stands for. -/
def surrogatePair (high low : Nat) : Char :=
  Char.ofNat (0x10000 + (high - 0xD800) * 0x400 + (low - 0xDC00))

end DocFilter.Text
