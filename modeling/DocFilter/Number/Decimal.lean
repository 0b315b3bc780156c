import DocFilter.Number.Binary64

set_option autoImplicit false

namespace DocFilter

def isDigit (c : Char) : Bool :=
  '0' ≤ c && c ≤ '9'

def natOfDigits (digits : List Char) : Nat :=
  digits.foldl (fun value c => 10 * value + (c.toNat - '0'.toNat)) 0

def digitsOfNat (n : Nat) : List Char :=
  Nat.toDigits 10 n

/-- The number `digits * 10 ^ exponent`. -/
structure Decimal where
  digits : Nat
  exponent : Int
  deriving DecidableEq

namespace Decimal

def ofParts (whole fraction : List Char) (exponent : Int) : Decimal :=
  ⟨natOfDigits (whole ++ fraction), exponent - fraction.length⟩

/-- The nearest binary64 number, if it is finite. Exponents far outside the range are decided
without computing the power. -/
def toBinary64? (x : Decimal) (negative : Bool) : Option Binary64 :=
  let magnitude := x.exponent + (digitsOfNat x.digits).length
  if x.digits = 0 ∨ magnitude < -330 then some (Binary64.zero negative)
  else if 310 < magnitude then none
  else match x.exponent with
    | .ofNat e => Binary64.ofQuotient? negative (x.digits * tenTo e) 1
    | .negSucc e => Binary64.ofQuotient? negative x.digits (tenTo (e + 1))

end Decimal

/-- An optional sign at the front of a text: whether it is a minus, and what follows. -/
def spanSign : List Char → Bool × List Char
  | '-' :: rest => (true, rest)
  | '+' :: rest => (false, rest)
  | cs => (false, cs)

structure Numeral where
  whole : List Char
  /-- The digits after the point, if there is a point. -/
  fraction : Option (List Char)
  exponent : Option Int

namespace Numeral

def decimal (numeral : Numeral) : Decimal :=
  Decimal.ofParts numeral.whole (numeral.fraction.getD []) (numeral.exponent.getD 0)

/-- Neither a point nor an exponent makes a numeral an integer. -/
def isInteger (numeral : Numeral) : Bool :=
  numeral.fraction.isNone && numeral.exponent.isNone

def spanFraction : List Char → Option (List Char) × List Char
  | '.' :: rest => (some (rest.takeWhile isDigit), rest.dropWhile isDigit)
  | cs => (none, cs)

/-- An exponent at the front of a text; its mark must have a digit after it. -/
def spanExponent? : List Char → Option (Option Int × List Char)
  | [] => some (none, [])
  | mark :: rest =>
      if mark = 'e' ∨ mark = 'E' then
        let unsigned := (spanSign rest).2
        let digits := unsigned.takeWhile isDigit
        let size := Int.ofNat (natOfDigits digits)
        if digits.isEmpty then none
        else some (some (if (spanSign rest).1 then -size else size), unsigned.dropWhile isDigit)
      else some (none, mark :: rest)

/-- The numeral at the front of a text, and what follows it. It has a digit before or after the
point. -/
def scan? (cs : List Char) : Option (Numeral × List Char) :=
  let whole := cs.takeWhile isDigit
  let fraction := spanFraction (cs.dropWhile isDigit)
  if whole.isEmpty && (fraction.1.getD []).isEmpty then none
  else (spanExponent? fraction.2).map fun (exponent, rest) => (⟨whole, fraction.1, exponent⟩, rest)

theorem length_span (p : Char → Bool) (cs : List Char) :
    (cs.takeWhile p).length + (cs.dropWhile p).length = cs.length := by
  rw [← List.length_append, List.takeWhile_append_dropWhile]

theorem spanSign_length (cs : List Char) : (spanSign cs).2.length ≤ cs.length := by
  unfold spanSign
  split <;> simp

theorem spanFraction_length (cs : List Char) :
    ((spanFraction cs).1.getD []).length + (spanFraction cs).2.length ≤ cs.length := by
  unfold spanFraction
  split
  · next rest =>
      have parts := length_span isDigit rest
      simp only [Option.getD_some, List.length_cons]
      omega
  · simp

theorem spanExponent?_length {cs rest : List Char} {exponent : Option Int}
    (found : spanExponent? cs = some (exponent, rest)) : rest.length ≤ cs.length := by
  cases cs with
  | nil =>
      simp only [spanExponent?, Option.some.injEq, Prod.mk.injEq] at found
      simp [← found.2]
  | cons mark tail =>
      simp only [spanExponent?] at found
      split at found
      · split at found
        · contradiction
        · injection found with found
          injection found with _ restEq
          have parts := length_span isDigit (spanSign tail).2
          have sign := spanSign_length tail
          rw [← restEq, List.length_cons]
          omega
      · injection found with found
        injection found with _ restEq
        exact Nat.le_of_eq (congrArg List.length restEq.symm)

theorem scan?_length {cs rest : List Char} {numeral : Numeral}
    (found : scan? cs = some (numeral, rest)) : rest.length < cs.length := by
  simp only [scan?] at found
  have parts := length_span isDigit cs
  have fraction := spanFraction_length (cs.dropWhile isDigit)
  split at found
  · contradiction
  · next digits =>
      obtain ⟨pair, spanned, eq⟩ := Option.map_eq_some_iff.1 found
      injection eq with _ restEq
      have exponent := spanExponent?_length spanned
      have some_digit : 0 < (cs.takeWhile isDigit).length +
          ((spanFraction (cs.dropWhile isDigit)).1.getD []).length := by
        simp only [Bool.and_eq_true, List.isEmpty_iff, not_and] at digits
        by_cases empty : cs.takeWhile isDigit = []
        · have nonempty := List.length_pos_iff.2 (digits empty)
          omega
        · have nonempty := List.length_pos_iff.2 empty
          omega
      rw [← restEq]
      omega

end Numeral

end DocFilter
