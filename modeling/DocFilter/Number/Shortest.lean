import DocFilter.Number.Decimal

set_option autoImplicit false

namespace DocFilter.Binary64

/-- Numerals are sought among the multiples of powers of ten from `10 ^ -gridDepth` on; no binary64
number needs a finer grid for its seventeen digits. -/
def gridDepth : Nat := 341

structure Interval where
  lower : Nat
  middle : Nat
  upper : Nat
  /-- Whether the two ends round to the number as well. -/
  closed : Bool

/-- The neighbour below is nearer where the scale changes. -/
def interval (x : Binary64) : Interval :=
  let unit := twoTo x.scale
  let below := if x.significand = twoTo 52 ∧ 0 < x.scale then 1 else 2
  ⟨(4 * x.significand - below) * unit, 4 * x.significand * unit, (4 * x.significand + 2) * unit,
    x.significand % 2 = 0⟩

def Interval.holds (i : Interval) (point : Nat) : Bool :=
  let scaled := point * twoTo 1076
  let lower := i.lower * tenTo gridDepth
  let upper := i.upper * tenTo gridDepth
  if i.closed then lower ≤ scaled && scaled ≤ upper else lower < scaled && scaled < upper

/-- The neighbour of the middle on the grid with step `10 ^ place / 10 ^ gridDepth` that lies in the
interval; of two the nearer, and of two equally near the even one. -/
def Interval.onGrid? (i : Interval) (place : Nat) : Option Nat :=
  let step := tenTo place
  let floor := i.middle * tenTo gridDepth / (step * twoTo 1076)
  let low := floor * step
  let high := (floor + 1) * step
  let nearest := roundQuotient (i.middle * tenTo gridDepth) (step * twoTo 1076) * step
  if i.holds low && i.holds high then some nearest
  else if i.holds low then some low
  else if i.holds high then some high
  else none

def Interval.search (i : Interval) : Nat → Option Nat
  | 0 => i.onGrid? 0
  | place + 1 =>
      match i.onGrid? (place + 1) with
      | some point => some point
      | none => i.search place

/-- The numeral with the fewest digits that reads back as the number, and of those the nearest to
it. The digits have no trailing zero. -/
def shortest (x : Binary64) : Decimal :=
  let i := x.interval
  let start := (digitsOfNat (i.middle * tenTo gridDepth / twoTo 1076)).length - 1
  let point := (i.search start).getD 0
  let digits := digitsOfNat point
  let zeros := (digits.reverse.takeWhile (· == '0')).length
  ⟨natOfDigits (digits.take (digits.length - zeros)), Int.ofNat zeros - gridDepth⟩

end DocFilter.Binary64
