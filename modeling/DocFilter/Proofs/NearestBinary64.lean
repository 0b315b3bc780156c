import DocFilter.Number.Decimal
import Mathlib.Algebra.Group.Nat.Defs

set_option autoImplicit false

/-
Whole numbers rounded to binary64 numbers. A whole number becomes the nearest of these numbers, and
of two equally near ones the one with an even significand, as long as it does not round past the
greatest one. Magnitudes are compared in steps of `1 / 2 ^ 1074`, which all of them are made of.
-/
namespace DocFilter

theorem twoTo_pos (exponent : Nat) : 0 < twoTo exponent :=
  Nat.pow_pos (by decide)

theorem twoTo_add (first second : Nat) : twoTo (first + second) = twoTo first * twoTo second :=
  Nat.pow_add 2 first second

theorem twoTo_mul (exponent times : Nat) : twoTo (exponent * times) = twoTo exponent ^ times :=
  Nat.pow_mul 2 exponent times

theorem twoTo_succ (exponent : Nat) : twoTo (exponent + 1) = 2 * twoTo exponent := by
  rw [Nat.add_comm, twoTo_add]
  rfl

theorem twoTo_le {first second : Nat} (below : first ≤ second) : twoTo first ≤ twoTo second :=
  Nat.pow_le_pow_right (by decide) below

theorem twoTo_le_iff_le_log2 {n : Nat} (positive : 0 < n) (exponent : Nat) :
    twoTo exponent ≤ n ↔ exponent ≤ n.log2 :=
  (Nat.le_log2 (Nat.ne_of_gt positive)).symm

/-- No multiple of the denominator is nearer, and only an even one has another just as near. -/
theorem roundQuotient_nearest (numerator : Nat) {denominator : Nat} (positive : 0 < denominator)
    (other : Nat) :
    let rounded := roundQuotient numerator denominator
    ((rounded * denominator : Nat) - numerator : Int).natAbs ≤
        ((other * denominator : Nat) - numerator : Int).natAbs ∧
      (other ≠ rounded → ((rounded * denominator : Nat) - numerator : Int).natAbs =
        ((other * denominator : Nat) - numerator : Int).natAbs → rounded % 2 = 0) := by
  have split := Nat.div_add_mod' numerator denominator
  have small := Nat.mod_lt numerator positive
  simp only [roundQuotient]
  generalize numerator / denominator = floor at split ⊢
  generalize numerator % denominator = rest at split small ⊢
  have next : (floor + 1) * denominator = floor * denominator + denominator := by
    rw [Nat.add_mul, Nat.one_mul]
  -- All multiples but the two neighbours are further away by a whole step.
  have outside : other = floor ∨ other = floor + 1 ∨
      other * denominator + denominator ≤ floor * denominator ∨
      (floor + 1) * denominator + denominator ≤ other * denominator := by
    by_cases below : other < floor
    · have fewer := Nat.mul_le_mul_right denominator below
      rw [Nat.succ_eq_add_one, Nat.add_mul, Nat.one_mul] at fewer
      omega
    · by_cases above : floor + 1 < other
      · have more := Nat.mul_le_mul_right denominator above
        rw [Nat.succ_eq_add_one, Nat.add_mul, Nat.one_mul] at more
        omega
      · omega
  split
  · rcases outside with rfl | rfl | outside | outside <;> omega
  · split
    · rcases outside with rfl | rfl | outside | outside <;> omega
    · have half : 2 * rest = denominator := by omega
      rcases Nat.mod_two_eq_zero_or_one floor with even | odd
      · rw [even, Nat.add_zero]
        rcases outside with rfl | rfl | outside | outside <;> omega
      · rw [odd]
        rcases outside with rfl | rfl | outside | outside <;> omega

theorem roundQuotient_bounds (numerator denominator : Nat) :
    numerator / denominator ≤ roundQuotient numerator denominator ∧
      roundQuotient numerator denominator ≤ numerator / denominator + 1 := by
  simp only [roundQuotient]
  split
  · omega
  · split
    · omega
    · omega

theorem roundQuotient_lt_iff (numerator : Nat) {denominator bound : Nat}
    (positive : 0 < denominator) (even : bound % 2 = 0) :
    roundQuotient numerator denominator < bound ↔
      2 * numerator + denominator < 2 * (bound * denominator) := by
  have split := Nat.div_add_mod' numerator denominator
  have small := Nat.mod_lt numerator positive
  simp only [roundQuotient]
  generalize numerator / denominator = floor at split ⊢
  generalize numerator % denominator = rest at split small ⊢
  rcases Nat.lt_trichotomy (floor + 1) bound with below | rfl | above
  · have fewer := Nat.mul_le_mul_right denominator below
    rw [Nat.succ_eq_add_one, Nat.add_mul, Nat.add_mul, Nat.one_mul] at fewer
    refine iff_of_true ?_ (by omega)
    split <;> (try split) <;> omega
  · rw [Nat.add_mul, Nat.one_mul]
    have odd : floor % 2 = 1 := by omega
    split
    · omega
    · split <;> omega
  · have more := Nat.mul_le_mul_right denominator (Nat.le_of_lt_succ above)
    refine iff_of_false ?_ (by omega)
    split <;> (try split) <;> omega

namespace Binary64

/-- The magnitude of the number in steps of `1 / 2 ^ 1074`. -/
def units (x : Binary64) : Nat :=
  x.significand * twoTo x.scale

def distance (target : Nat) (x : Binary64) : Nat :=
  ((x.units : Int) - target).natAbs

/-- No number has a magnitude nearer to the target, and if another one is just as near the
significand is even. -/
structure IsNearest (target : Nat) (x : Binary64) : Prop where
  nearest : ∀ y : Binary64, distance target x ≤ distance target y
  even : ∀ y : Binary64, y.units ≠ x.units → distance target x = distance target y →
    x.significand % 2 = 0

theorem ofParts?_of_fits {significand scale : Nat} (small : significand < twoTo 53)
    (fits : scale ≤ 2045) (normal : twoTo 52 ≤ significand) (negative : Bool) :
    ofParts? negative significand scale =
      some ⟨negative, significand, scale, small, fits, Or.inr normal⟩ := by
  rw [ofParts?, dif_pos ⟨small, fits, Or.inr normal⟩]

theorem ofParts?_of_large {scale : Nat} (large : 2045 < scale) (negative : Bool)
    (significand : Nat) : ofParts? negative significand scale = none := by
  rw [ofParts?, dif_neg]
  intro fits
  omega

section Rounding

variable {target scale : Nat}

/-- A number lies on a grid, or has so few bits there that it is below all numbers that need 53. -/
theorem onGrid_or_below (y : Binary64) (scale : Nat) :
    (∃ multiple, y.units = multiple * twoTo scale) ∨ y.units < twoTo 52 * twoTo scale := by
  rcases Nat.lt_or_ge y.scale scale with finer | coarser
  · right
    calc y.units < twoTo 53 * twoTo y.scale :=
          Nat.mul_lt_mul_of_pos_right y.significand_lt (twoTo_pos y.scale)
      _ = twoTo 52 * twoTo (y.scale + 1) := by
          rw [← twoTo_add, ← twoTo_add]
          exact congrArg twoTo (by omega)
      _ ≤ twoTo 52 * twoTo scale := Nat.mul_le_mul_left _ (twoTo_le finer)
  · left
    refine ⟨y.significand * twoTo (y.scale - scale), ?_⟩
    rw [units, Nat.mul_assoc, ← twoTo_add, Nat.sub_add_cancel coarser]

/-- Where all 53 bits are needed, the numbers on the grid are the only ones that matter. -/
theorem isNearest_of_units (lower : twoTo 52 * twoTo scale ≤ target) {x : Binary64}
    (rounded : x.units = roundQuotient target (twoTo scale) * twoTo scale)
    (even : roundQuotient target (twoTo scale) % 2 = 0 → x.significand % 2 = 0) :
    x.IsNearest target := by
  have either (y : Binary64) : distance target x < distance target y ∨
      ∃ multiple, y.units = multiple * twoTo scale := by
    rcases y.onGrid_or_below scale with onGrid | below
    · exact Or.inr onGrid
    · left
      have near := (roundQuotient_nearest target (twoTo_pos scale) (twoTo 52)).1
      rw [distance, distance, rounded]
      omega
  constructor
  · intro y
    rcases either y with further | ⟨multiple, onGrid⟩
    · exact Nat.le_of_lt further
    · rw [distance, distance, rounded, onGrid]
      exact (roundQuotient_nearest target (twoTo_pos scale) multiple).1
  · intro y apart same
    rcases either y with further | ⟨multiple, onGrid⟩
    · omega
    · apply even
      apply (roundQuotient_nearest target (twoTo_pos scale) multiple).2
      · rintro rfl
        exact apart (onGrid.trans rounded.symm)
      · rw [distance, distance, rounded, onGrid] at same
        exact same

theorem ofParts?_rounded (fits : scale ≤ 2045) (lower : twoTo 52 * twoTo scale ≤ target)
    (least : twoTo 52 ≤ roundQuotient target (twoTo scale))
    (small : roundQuotient target (twoTo scale) < twoTo 53) (negative : Bool) :
    ∃ x, ofParts? negative (roundQuotient target (twoTo scale)) scale = some x ∧
      x.negative = negative ∧ x.IsNearest target := by
  refine ⟨_, ofParts?_of_fits small fits least negative, rfl, ?_⟩
  exact isNearest_of_units lower rfl id

/-- With 54 bits the rounded significand is a power of two. -/
theorem ofParts?_carried (fits : scale + 1 ≤ 2045) (lower : twoTo 52 * twoTo scale ≤ target)
    (carried : roundQuotient target (twoTo scale) = twoTo 53) (negative : Bool) :
    ∃ x, ofParts? negative (twoTo 52) (scale + 1) = some x ∧
      x.negative = negative ∧ x.IsNearest target := by
  refine ⟨_, ofParts?_of_fits (by decide) fits (Nat.le_refl _) negative, rfl, ?_⟩
  apply isNearest_of_units lower
  · rw [carried]
    show twoTo 52 * twoTo (scale + 1) = twoTo 53 * twoTo scale
    rw [← twoTo_add, ← twoTo_add]
    congr 1
    omega
  · intro even
    show twoTo 52 % 2 = 0
    decide

end Rounding

/-- From this number on whole numbers are nearer to `2 ^ 1024` than to the greatest binary64 number,
or just as near. -/
def overflowLimit : Nat :=
  twoTo 1024 - twoTo 970

theorem overflowLimit_pos : 0 < overflowLimit := by
  have less : twoTo 970 < twoTo 971 := by
    rw [twoTo_succ 970]
    have positive := twoTo_pos 970
    omega
  exact Nat.sub_pos_of_lt (Nat.lt_of_lt_of_le less (twoTo_le (by decide)))

theorem overflowLimit_units : overflowLimit * twoTo 1074 + twoTo 2044 = twoTo 54 * twoTo 2044 := by
  rw [overflowLimit, Nat.sub_mul, ← twoTo_add, ← twoTo_add, ← twoTo_add]
  apply Nat.sub_add_cancel
  exact twoTo_le (by decide)

section Whole

variable {n : Nat}

/-- The scale at which a whole number has all 53 bits. -/
def wholeScale (n : Nat) : Nat :=
  (n * twoTo 1074).log2 - 52

theorem wholeScale_bounds (positive : 0 < n) :
    twoTo 52 * twoTo (wholeScale n) ≤ n * twoTo 1074 ∧
      n * twoTo 1074 < twoTo 53 * twoTo (wholeScale n) := by
  have steps : 0 < n * twoTo 1074 := Nat.mul_pos positive (twoTo_pos 1074)
  have large : 1074 ≤ (n * twoTo 1074).log2 :=
    (twoTo_le_iff_le_log2 steps 1074).mp (Nat.le_mul_of_pos_left _ positive)
  rw [← twoTo_add, ← twoTo_add, wholeScale, twoTo_le_iff_le_log2 steps, ← Nat.not_le,
    twoTo_le_iff_le_log2 steps]
  omega

theorem rounded_bounds (positive : 0 < n) :
    let rounded := roundQuotient (n * twoTo 1074) (twoTo (wholeScale n))
    twoTo 52 ≤ rounded ∧ rounded ≤ twoTo 53 := by
  obtain ⟨lower, upper⟩ := wholeScale_bounds positive
  obtain ⟨least, most⟩ := roundQuotient_bounds (n * twoTo 1074) (twoTo (wholeScale n))
  have floorLower := (Nat.le_div_iff_mul_le (twoTo_pos (wholeScale n))).mpr lower
  have floorUpper := (Nat.div_lt_iff_lt_mul (twoTo_pos (wholeScale n))).mpr upper
  exact ⟨Nat.le_trans floorLower least, Nat.le_trans most floorUpper⟩

theorem ofQuotient?_whole (negative : Bool) (n : Nat) :
    ofQuotient? negative n 1 =
      let rounded := roundQuotient (n * twoTo 1074) (twoTo (wholeScale n))
      if rounded < twoTo 53 then ofParts? negative rounded (wholeScale n)
      else ofParts? negative (twoTo 52) (wholeScale n + 1) := by
  rw [ofQuotient?, Nat.div_one, Nat.one_mul]
  rfl

/-- Rounding carries past 53 bits from half a step below on. -/
theorem rounded_lt_iff (n : Nat) :
    roundQuotient (n * twoTo 1074) (twoTo (wholeScale n)) < twoTo 53 ↔
      2 * (n * twoTo 1074) + twoTo (wholeScale n) < twoTo 54 * twoTo (wholeScale n) := by
  have double : twoTo 54 = 2 * twoTo 53 := twoTo_succ 53
  rw [roundQuotient_lt_iff _ (twoTo_pos _) (by decide), double, Nat.mul_assoc]

theorem lt_overflowLimit_iff (n : Nat) :
    n < overflowLimit ↔ n * twoTo 1074 + twoTo 2044 < twoTo 54 * twoTo 2044 := by
  have limit := overflowLimit_units
  have steps := Nat.mul_lt_mul_right (b := n) (c := overflowLimit) (twoTo_pos 1074)
  omega

/-- Whether the rounded significand still has an exponent. -/
theorem wholeScale_fits_iff (positive : 0 < n) :
    n < overflowLimit ↔ wholeScale n ≤ 2044 ∨ wholeScale n = 2045 ∧
      roundQuotient (n * twoTo 1074) (twoTo (wholeScale n)) < twoTo 53 := by
  obtain ⟨lower, upper⟩ := wholeScale_bounds positive
  rw [lt_overflowLimit_iff, rounded_lt_iff]
  generalize n * twoTo 1074 = target at lower upper ⊢
  have bits : twoTo 52 = 4503599627370496 ∧ twoTo 53 = 9007199254740992 ∧
      twoTo 54 = 18014398509481984 := by decide
  simp only [bits] at lower upper ⊢
  -- Only at the greatest scale does it depend on the rounding.
  rcases Nat.lt_trichotomy (wholeScale n) 2045 with below | same | above
  · have step := twoTo_le (Nat.le_of_lt_succ below)
    have positive := twoTo_pos 2044
    omega
  · have step : twoTo 2045 = 2 * twoTo 2044 := twoTo_succ 2044
    rw [same, step] at lower upper ⊢
    omega
  · have step := twoTo_le (show 2046 ≤ wholeScale n from above)
    have double : twoTo 2045 = 2 * twoTo 2044 := twoTo_succ 2044
    have again : twoTo 2046 = 2 * twoTo 2045 := twoTo_succ 2045
    omega

/-- A whole number below the limit is rounded to the nearest binary64 number. -/
theorem ofQuotient?_below (positive : 0 < n) (below : n < overflowLimit) (negative : Bool) :
    ∃ x, ofQuotient? negative n 1 = some x ∧ x.negative = negative ∧
      x.IsNearest (n * twoTo 1074) := by
  have lower := (wholeScale_bounds positive).1
  obtain ⟨least, most⟩ := rounded_bounds positive
  rw [wholeScale_fits_iff positive] at below
  rw [ofQuotient?_whole]
  dsimp only
  split
  · next small => exact ofParts?_rounded (by omega) lower least small negative
  · next carried =>
      have whole := Nat.le_antisymm most (Nat.le_of_not_lt carried)
      exact ofParts?_carried (by omega) lower whole negative

theorem ofQuotient?_above (positive : 0 < n) (above : overflowLimit ≤ n) (negative : Bool) :
    ofQuotient? negative n 1 = none := by
  rw [← Nat.not_lt, wholeScale_fits_iff positive] at above
  rw [ofQuotient?_whole]
  dsimp only
  split
  · exact ofParts?_of_large (by omega) negative _
  · exact ofParts?_of_large (by omega) negative _

end Whole

theorem isNearest_zero (negative : Bool) : (zero negative).IsNearest 0 := by
  have none_between : distance 0 (zero negative) = 0 := by
    simp [distance, units, zero]
  constructor
  · intro y
    rw [none_between]
    exact Nat.zero_le _
  · intro y apart same
    rfl

end Binary64

namespace Decimal

open Binary64 (overflowLimit overflowLimit_pos)

theorem length_digitsOfNat_le {n : Nat} (below : n < overflowLimit) :
    (digitsOfNat n).length ≤ 310 := by
  have limit : overflowLimit ≤ (10 ^ 62) ^ 5 := by
    calc overflowLimit ≤ twoTo 1024 := Nat.sub_le _ _
      _ ≤ twoTo 1025 := twoTo_le (by decide)
      _ = twoTo 205 ^ 5 := twoTo_mul 205 5
      _ ≤ (10 ^ 62) ^ 5 := Nat.pow_le_pow_left (by decide) 5
  have small := Nat.lt_of_lt_of_le below limit
  rw [← Nat.pow_mul] at small
  exact (Nat.length_toDigits_le_iff (k := 62 * 5) (by decide) (by decide)).mpr small

theorem toBinary64?_whole {n : Nat} (positive : 0 < n) (negative : Bool) :
    (Decimal.mk n 0).toBinary64? negative =
      if 310 < (digitsOfNat n).length then none else Binary64.ofQuotient? negative n 1 := by
  have nonzero : ¬ (n = 0 ∨ (0 : Int) + (digitsOfNat n).length < -330) := by omega
  have large : (310 < (0 : Int) + (digitsOfNat n).length) ↔ 310 < (digitsOfNat n).length := by
    omega
  simp only [toBinary64?, if_neg nonzero, large]
  split
  · rfl
  · show Binary64.ofQuotient? negative (n * tenTo 0) 1 = _
    rw [tenTo, Nat.pow_eq, Nat.pow_zero, Nat.mul_one]

theorem toBinary64?_below {n : Nat} (below : n < overflowLimit) (negative : Bool) :
    ∃ x, (Decimal.mk n 0).toBinary64? negative = some x ∧ x.negative = negative ∧
      x.IsNearest (n * twoTo 1074) := by
  rcases Nat.eq_zero_or_pos n with rfl | positive
  · refine ⟨Binary64.zero negative, rfl, rfl, ?_⟩
    rw [Nat.zero_mul]
    exact Binary64.isNearest_zero negative
  · rw [toBinary64?_whole positive, if_neg (Nat.not_lt.mpr (length_digitsOfNat_le below))]
    exact Binary64.ofQuotient?_below positive below negative

theorem toBinary64?_above {n : Nat} (above : overflowLimit ≤ n) (negative : Bool) :
    (Decimal.mk n 0).toBinary64? negative = none := by
  have positive : 0 < n := Nat.lt_of_lt_of_le overflowLimit_pos above
  rw [toBinary64?_whole positive, Binary64.ofQuotient?_above positive above, ite_self]

end Decimal

end DocFilter
