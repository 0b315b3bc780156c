import DocFilter.Proofs.WrittenNumerals
import Mathlib.Data.List.Induction
import Mathlib.Data.Nat.Digits.Defs

set_option autoImplicit false

namespace DocFilter

/-- What may stand in front of the digits of an integer. -/
inductive Sign where
  | absent
  | plus
  | minus
  deriving DecidableEq

namespace Sign

def text : Sign → List Char
  | absent => []
  | plus => ['+']
  | minus => ['-']

def isMinus : Sign → Bool
  | minus => true
  | _ => false

def apply (sign : Sign) (magnitude : Nat) : Int :=
  if sign.isMinus then -Int.ofNat magnitude else Int.ofNat magnitude

end Sign

/-- An optional sign, and one or more digits. -/
structure SignedDigits where
  sign : Sign
  digits : List Char
  nonempty : digits ≠ []
  isDigits : ∀ c ∈ digits, isDigit c = true

def digitValue (c : Char) : Nat :=
  c.toNat - '0'.toNat

namespace SignedDigits

def chars (numeral : SignedDigits) : List Char :=
  numeral.sign.text ++ numeral.digits

def text (numeral : SignedDigits) : String :=
  String.ofList numeral.chars

/-- The digits by their places: the last one counts as it is, the one before it tenfold, and so
on. -/
def magnitude (numeral : SignedDigits) : Nat :=
  Nat.ofDigits 10 (numeral.digits.reverse.map digitValue)

def value (numeral : SignedDigits) : Int :=
  numeral.sign.apply numeral.magnitude

end SignedDigits

theorem natOfDigits_append_singleton (digits : List Char) (c : Char) :
    natOfDigits (digits ++ [c]) = 10 * natOfDigits digits + digitValue c := by
  simp [natOfDigits, digitValue]

/-- Reading digits from the left adds them up by their places. -/
theorem natOfDigits_eq_ofDigits (digits : List Char) :
    natOfDigits digits = Nat.ofDigits 10 (digits.reverse.map digitValue) := by
  induction digits using List.reverseRecOn with
  | nil => rfl
  | append_singleton digits c ih =>
      rw [natOfDigits_append_singleton, ih, List.reverse_append, List.reverse_singleton,
        List.singleton_append, List.map_cons, Nat.ofDigits_cons]
      omega

theorem digitChar_digitValue {c : Char} (digit : isDigit c = true) :
    (digitValue c).digitChar = c ∧ digitValue c < 10 := by
  have bounds := digit_bounds digit
  have zero : '0'.toNat = 48 := rfl
  have small : digitValue c < 10 := by
    rw [digitValue, zero]
    omega
  refine ⟨Char.toNat_inj.mp ?_, small⟩
  rw [Nat.toNat_digitChar_of_lt_ten small, digitValue, zero]
  omega

/-- A row of digits that starts with a zero only if it is all there is, is written for the number
that it denotes. -/
theorem digitsOfNat_natOfDigits {digits : List Char} (nonempty : digits ≠ [])
    (isDigits : ∀ c ∈ digits, isDigit c = true)
    (unpadded : digits.head? = some '0' → digits.length = 1) :
    digitsOfNat (natOfDigits digits) = digits := by
  induction digits using List.reverseRecOn with
  | nil => exact absurd rfl nonempty
  | append_singleton before c ih =>
      obtain ⟨written, small⟩ := digitChar_digitValue (isDigits c (by simp))
      have last : digitsOfNat (digitValue c) = [c] := by
        rw [digitsOfNat, Nat.toDigits_of_lt_base small, written]
      cases before with
      | nil => simpa [natOfDigits, digitValue] using last
      | cons first rest =>
          have noZero : first ≠ '0' := by
            rintro rfl
            simpa using unpadded rfl
          have start : digitsOfNat (natOfDigits (first :: rest)) = first :: rest := by
            apply ih (List.cons_ne_nil _ _)
            · exact fun d member => isDigits d (List.mem_append_left _ member)
            · simp [noZero]
          have positive : 0 < natOfDigits (first :: rest) := by
            apply Nat.pos_of_ne_zero
            intro zero
            rw [zero] at start
            exact noZero (List.cons.inj start).1.symm
          rw [natOfDigits_append_singleton, digitsOfNat,
            ← Nat.toDigits_append_toDigits (by decide) positive small]
          exact congrArg₂ (· ++ ·) start last

namespace Sign

/-- A sign in front of digits is split off. -/
theorem spanSign_text (sign : Sign) {digits : List Char}
    (isDigits : ∀ c ∈ digits, isDigit c = true) :
    spanSign (sign.text ++ digits) = (sign.isMinus, digits) := by
  cases sign with
  | plus => rfl
  | minus => rfl
  | absent =>
      cases digits with
      | nil => rfl
      | cons c rest =>
          exact spanSign_of_digit (isDigits c (by simp)) rest

theorem exists_spanSign (cs : List Char) :
    ∃ sign : Sign, sign.text ++ (spanSign cs).2 = cs ∧ sign.isMinus = (spanSign cs).1 := by
  unfold spanSign
  split
  · exact ⟨minus, rfl, rfl⟩
  · exact ⟨plus, rfl, rfl⟩
  · exact ⟨absent, rfl, rfl⟩

end Sign

namespace SignedDigits

variable (numeral : SignedDigits)

theorem magnitude_eq : numeral.magnitude = natOfDigits numeral.digits :=
  (natOfDigits_eq_ofDigits numeral.digits).symm

theorem spanSign_chars : spanSign numeral.chars = (numeral.sign.isMinus, numeral.digits) :=
  numeral.sign.spanSign_text numeral.isDigits

theorem toList_text : numeral.text.toList = numeral.chars :=
  String.toList_ofList

theorem isNumeric_of_mem_chars : ∀ c ∈ numeral.chars, IsNumeric c := by
  rw [chars, List.forall_mem_append]
  refine ⟨?_, fun c member => Or.inl (numeral.isDigits c member)⟩
  cases numeral.sign with
  | absent => simp [Sign.text]
  | plus => simp [Sign.text, IsNumeric]
  | minus => simp [Sign.text, IsNumeric]

theorem trimmed : Text.Trimmed numeral.chars :=
  Text.trimmed_of_solid fun c member => (numeral.isNumeric_of_mem_chars c member).notBlank

/-- An integer as it is written: without a plus, and without leading zeros. -/
def ofInt (value : Int) : SignedDigits where
  sign := if value < 0 then .minus else .absent
  digits := digitsOfNat value.natAbs
  nonempty := digitsOfNat_ne_nil _
  isDigits _ := isDigit_of_mem_digitsOfNat

theorem chars_ofInt (value : Int) : (ofInt value).chars = intText value := by
  cases value with
  | ofNat n =>
      have nonnegative : ¬ Int.ofNat n < 0 := by simp
      simp only [chars, ofInt, nonnegative, ↓reduceIte]
      rfl
  | negSucc n =>
      have negative : Int.negSucc n < 0 := Int.negSucc_lt_zero n
      simp only [chars, ofInt, negative, ↓reduceIte]
      rfl

theorem value_ofInt (value : Int) : (ofInt value).value = value := by
  have magnitude : (ofInt value).magnitude = value.natAbs := by
    rw [magnitude_eq]
    exact natOfDigits_digitsOfNat _
  by_cases negative : value < 0
  · have sign : (ofInt value).sign.isMinus = true := by simp [ofInt, negative, Sign.isMinus]
    simp only [SignedDigits.value, Sign.apply, sign, magnitude, ↓reduceIte, Int.ofNat_eq_natCast]
    omega
  · have sign : (ofInt value).sign.isMinus = false := by simp [ofInt, negative, Sign.isMinus]
    simp only [SignedDigits.value, Sign.apply, sign, magnitude, Bool.false_eq_true, ↓reduceIte,
      Int.ofNat_eq_natCast]
    omega

end SignedDigits

/-- Integers are written in decimal, with a minus if they are negative. -/
theorem ofList_intText (value : Int) : String.ofList (intText value) = toString value := by
  cases value with
  | ofNat n => exact Nat.repr_eq_ofList_toDigits.symm
  | negSucc n =>
      have repr : toString (Int.negSucc n) = "-" ++ (n + 1).repr := rfl
      rw [repr, Nat.repr_eq_ofList_toDigits, intText, ← String.toList_inj]
      simp [digitsOfNat]

end DocFilter
