import Mathlib.Algebra.Group.Nat.Defs
import Mathlib.Tactic.SplitIfs

set_option autoImplicit false

/-
Texts in the order of their bytes. In UTF-8 a character is a leading byte and up to three bytes of
six bits each. The leading bytes ascend with the code of the character, and characters with the same
one have the same number of bytes, so the bytes are in the order of the codes.
-/
namespace DocFilter

def utf8 (text : String) : List UInt8 :=
  text.toUTF8.data.toList

namespace Utf8

def tailLength (code : Nat) : Nat :=
  if code ≤ 0x7f then 0 else if code ≤ 0x7ff then 1 else if code ≤ 0xffff then 2 else 3

def leading (code : Nat) : Nat :=
  if code ≤ 0x7f then code
  else if code ≤ 0x7ff then code / 64 + 0xc0
  else if code ≤ 0xffff then code / 4096 + 0xe0
  else code / 262144 + 0xf0

/-- The last bytes, with six bits of the code each. -/
def tail (code : Nat) : Nat → List UInt8
  | 0 => []
  | length + 1 => UInt8.ofNat (code / 64 ^ length % 64 + 0x80) :: tail code length

def bytes (code : Nat) : List UInt8 :=
  UInt8.ofNat (leading code) :: tail code (tailLength code)

theorem code_lt (c : Char) : c.toNat < 0x110000 := by
  have valid := c.valid
  simp only [UInt32.isValidChar, Nat.isValidChar] at valid
  rw [Char.toNat]
  omega

theorem encodeChar_eq (c : Char) : String.utf8EncodeChar c = bytes c.toNat := by
  have bound := code_lt c
  simp only [String.utf8EncodeChar, Char.toNat_val, bytes, leading, tailLength]
  split
  · rfl
  · split
    · have bits : c.toNat / 64 % 32 = c.toNat / 64 := by omega
      simp [tail, bits]
    · split
      · have bits : c.toNat / 4096 % 16 = c.toNat / 4096 := by omega
        simp [tail, bits]
      · have bits : c.toNat / 262144 % 8 = c.toNat / 262144 := by omega
        simp [tail, bits]

theorem cons_lt_cons {m n : Nat} (small : n < 256) (below : m ≤ n) {rest others : List UInt8}
    (tie : m = n → rest < others) : UInt8.ofNat m :: rest < UInt8.ofNat n :: others := by
  rw [List.cons_lt_cons_iff]
  rcases Nat.lt_or_eq_of_le below with less | same
  · left
    rw [UInt8.lt_iff_toNat_lt, UInt8.toNat_ofNat_of_lt' (Nat.lt_trans less small),
      UInt8.toNat_ofNat_of_lt' small]
    exact less
  · exact Or.inr ⟨congrArg UInt8.ofNat same, tie same⟩

/-- Of two codes that agree before their last bits the greater one has the greater last bytes. -/
theorem tail_append_lt {code other : Nat} (less : code < other) {length : Nat}
    (agree : code / 64 ^ length = other / 64 ^ length) (rest others : List UInt8) :
    tail code length ++ rest < tail other length ++ others := by
  -- Either the first of these bytes differs, or the codes agree in six more bits.
  induction length with
  | zero =>
      rw [Nat.pow_zero, Nat.div_one, Nat.div_one] at agree
      omega
  | succ length ih =>
      have ordered : code / 64 ^ length ≤ other / 64 ^ length :=
        Nat.div_le_div_right (Nat.le_of_lt less)
      rw [Nat.pow_succ, ← Nat.div_div_eq_div_mul, ← Nat.div_div_eq_div_mul] at agree
      apply cons_lt_cons
      · omega
      · omega
      · intro same
        apply ih
        omega

/-- The leading bytes ascend with the codes. Equal ones leave the same number of bytes to compare,
and they hold what the codes begin with. -/
theorem leading_ascends {code other : Nat} (less : code < other) (bound : other < 0x110000) :
    leading code ≤ leading other ∧ leading other < 256 ∧
      (leading code = leading other → tailLength code = tailLength other ∧
        code / 64 ^ tailLength code = other / 64 ^ tailLength code) := by
  simp only [leading, tailLength]
  split_ifs <;> omega

theorem bytes_append_lt {code other : Nat} (less : code < other) (bound : other < 0x110000)
    (rest others : List UInt8) : bytes code ++ rest < bytes other ++ others := by
  obtain ⟨ordered, small, tie⟩ := leading_ascends less bound
  apply cons_lt_cons small ordered
  intro same
  obtain ⟨lengths, agree⟩ := tie same
  rw [← lengths]
  exact tail_append_lt less agree rest others

end Utf8

theorem utf8_eq (text : String) : utf8 text = text.toList.flatMap String.utf8EncodeChar := by
  have bytes : text.toUTF8 = text.toList.utf8Encode := by
    rw [String.toUTF8, ← String.toByteArray_ofList, String.ofList_toList]
  rw [utf8, bytes, List.utf8Encode]
  exact List.toList_data_toByteArray

theorem flatMap_encodeChar_lt {first second : List Char} (less : first < second) :
    first.flatMap String.utf8EncodeChar < second.flatMap String.utf8EncodeChar := by
  induction first generalizing second with
  | nil =>
      cases second with
      | nil => exact absurd less (List.not_lt_nil _)
      | cons d others =>
          rw [List.flatMap_nil, List.flatMap_cons, Utf8.encodeChar_eq]
          exact List.nil_lt_cons _ _
  | cons c rest ih =>
      cases second with
      | nil => exact absurd less (List.not_lt_nil _)
      | cons d others =>
          rw [List.flatMap_cons, List.flatMap_cons]
          rcases List.cons_lt_cons_iff.mp less with before | ⟨rfl, behind⟩
          · rw [Utf8.encodeChar_eq, Utf8.encodeChar_eq]
            exact Utf8.bytes_append_lt before (Utf8.code_lt d) _ _
          · exact List.append_left_lt (ih behind)

/-- Texts are in the order of their characters exactly if they are in the order of their bytes. -/
theorem utf8_lt_iff (first second : String) : utf8 first < utf8 second ↔ first < second := by
  have ascends {a b : String} (less : a < b) : utf8 a < utf8 b := by
    rw [utf8_eq, utf8_eq]
    exact flatMap_encodeChar_lt less
  constructor
  · intro less
    rcases Std.lt_trichotomy first second with before | rfl | behind
    · exact before
    · exact absurd less (List.lt_irrefl _)
    · exact absurd less (List.lt_asymm (ascends behind))
  · exact ascends

end DocFilter
