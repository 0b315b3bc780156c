import DocFilter.Proofs.SignedDigits
import DocFilter.Schema.Encoding

set_option autoImplicit false

namespace DocFilter

def Value.IsInteger (value : Value) (n : Int) : Prop :=
  ∃ lower upper, value = .number (.integer n lower upper)

theorem Number.ofInt?_eq_some_iff (n : Int) (number : Number) :
    ofInt? n = some number ↔ ∃ lower upper, number = .integer n lower upper := by
  unfold ofInt?
  split
  · next fits => simp [fits.1, fits.2, eq_comm]
  · next outside =>
      simp only [reduceCtorEq, false_iff, not_exists]
      exact fun lower upper _ => outside ⟨lower, upper⟩

/-- Signed digits are read as the integer of their value, if that is within the limits. -/
theorem integerOfText?_chars (numeral : SignedDigits) :
    integerOfText? numeral.chars =
      if numeral.value < 9223372036854775808 then Number.ofInt? numeral.value else none := by
  have someDigits : numeral.digits.isEmpty = false := by simp [numeral.nonempty]
  have allDigits : numeral.digits.all isDigit = true := List.all_eq_true.mpr numeral.isDigits
  have value : (if numeral.sign.isMinus then -Int.ofNat (natOfDigits numeral.digits)
      else Int.ofNat (natOfDigits numeral.digits)) = numeral.value := by
    rw [SignedDigits.value, numeral.magnitude_eq, Sign.apply]
  simp only [integerOfText?, numeral.spanSign_chars, value, someDigits, allDigits, Bool.not_true,
    Bool.or_self, Bool.false_eq_true, ↓reduceIte]

/-- Nothing but signed digits is read as an integer. -/
theorem exists_signedDigits {cs : List Char} {number : Number}
    (read : integerOfText? cs = some number) : ∃ numeral : SignedDigits, numeral.chars = cs := by
  obtain ⟨sign, split, -⟩ := Sign.exists_spanSign cs
  simp only [integerOfText?, Bool.or_eq_true, Bool.not_eq_true', List.isEmpty_iff] at read
  split at read
  · cases read
  · next digits =>
      simp only [not_or, Bool.not_eq_false, List.all_eq_true] at digits
      exact ⟨⟨sign, (spanSign cs).2, digits.1, digits.2⟩, split⟩

theorem integerOfText?_eq_some_iff (cs : List Char) (number : Number) :
    integerOfText? cs = some number ↔ ∃ numeral : SignedDigits, numeral.chars = cs ∧
      numeral.value < 9223372036854775808 ∧
        ∃ lower upper, number = .integer numeral.value lower upper := by
  constructor
  · intro read
    obtain ⟨numeral, rfl⟩ := exists_signedDigits read
    rw [integerOfText?_chars] at read
    split at read
    · next below =>
        exact ⟨numeral, rfl, below, (Number.ofInt?_eq_some_iff _ _).mp read⟩
    · cases read
  · intro written
    obtain ⟨numeral, rfl, below, integer⟩ := written
    rw [integerOfText?_chars, if_pos below, Number.ofInt?_eq_some_iff]
    exact integer

namespace Kind

section Text

variable {text : String}

theorem encode_int_of_read {number : Number}
    (read : integerOfText? (Text.trim text.toList) = some number) :
    (scalar .int).encode (.string text) = .number number := by
  simp only [Kind.encode, ScalarType.encode, read]

theorem encode_int_of_unread (unread : integerOfText? (Text.trim text.toList) = none) :
    (scalar .int).encode (.string text) = .string text := by
  simp only [Kind.encode, ScalarType.encode, unread]

end Text

theorem isInteger_encode_iff (text : String) (n : Int) :
    ((scalar .int).encode (.string text)).IsInteger n ↔
      ∃ numeral : SignedDigits, Text.IsPadded text.toList numeral.chars ∧ numeral.value = n ∧
        -9223372036854775808 ≤ n ∧ n ≤ 9223372036854775807 := by
  constructor
  · intro integer
    obtain ⟨lower, upper, encoded⟩ := integer
    cases read : integerOfText? (Text.trim text.toList) with
    | none =>
        rw [encode_int_of_unread read] at encoded
        cases encoded
    | some number =>
        rw [encode_int_of_read read] at encoded
        cases encoded
        obtain ⟨numeral, chars, below, lower, upper, same⟩ :=
          (integerOfText?_eq_some_iff _ _).mp read
        cases same
        refine ⟨numeral, ?_, rfl, lower, by omega⟩
        rw [chars]
        exact Text.isPadded_trim _
  · intro written
    obtain ⟨numeral, padded, rfl, lower, atMost⟩ := written
    have upper : numeral.value < 18446744073709551616 := by omega
    have read : integerOfText? (Text.trim text.toList) =
        some (.integer numeral.value lower upper) := by
      rw [padded.trim_eq numeral.trimmed, integerOfText?_eq_some_iff]
      exact ⟨numeral, rfl, by omega, lower, upper, rfl⟩
    exact ⟨lower, upper, encode_int_of_read read⟩

theorem encode_string_integer {value : Value} {n : Int} (integer : value.IsInteger n) :
    (scalar .string).encode value = .string (toString n) := by
  obtain ⟨lower, upper, rfl⟩ := integer
  exact congrArg Value.string (ofList_intText n)

/-- The decimal text of an integer becomes the integer again unless it is too great. -/
theorem encode_int_toString {value : Value} {n : Int} (integer : value.IsInteger n) :
    (scalar .int).encode (.string (toString n)) =
      if n ≤ 9223372036854775807 then value else .string (toString n) := by
  obtain ⟨lower, upper, rfl⟩ := integer
  have read : integerOfText? (Text.trim (toString n).toList) =
      if n < 9223372036854775808 then some (.integer n lower upper) else none := by
    have chars : (toString n).toList = (SignedDigits.ofInt n).chars := by
      rw [← ofList_intText, String.toList_ofList, SignedDigits.chars_ofInt]
    have fits := (Number.ofInt?_eq_some_iff n (.integer n lower upper)).mpr ⟨lower, upper, rfl⟩
    rw [chars, (SignedDigits.trimmed _).trim_eq, integerOfText?_chars, SignedDigits.value_ofInt,
      fits]
  by_cases atMost : n ≤ 9223372036854775807
  · rw [if_pos (by omega)] at read
    rw [if_pos atMost, encode_int_of_read read]
  · rw [if_neg (by omega)] at read
    rw [if_neg atMost, encode_int_of_unread read]

/-- A text becomes an integer exactly if, within white space, it is one with an optional sign that
has 64 bits, and then it becomes that integer; any other text stays, white space included. So an
integer of up to 64 bits that was stored as a text is restored from it, and from the first one on
that needs all 64 bits for its magnitude the decimal text stays. -/
theorem integers_stored_exactly :
    (∀ (text : String) (n : Int),
      ((scalar .int).encode (.string text)).IsInteger n ↔
        ∃ numeral : SignedDigits, Text.IsPadded text.toList numeral.chars ∧ numeral.value = n ∧
          -2 ^ 63 ≤ n ∧ n ≤ 2 ^ 63 - 1) ∧
    (∀ text : String, (¬ ∃ n, ((scalar .int).encode (.string text)).IsInteger n) →
      (scalar .int).encode (.string text) = .string text) ∧
    ∀ n : Int, -2 ^ 63 ≤ n → n ≤ 2 ^ 64 - 1 → ∃ value : Value, value.IsInteger n ∧
      (scalar .string).encode value = .string (toString n) ∧
      (scalar .int).encode ((scalar .string).encode value) =
        if n ≤ 2 ^ 63 - 1 then value else .string (toString n) := by
  refine ⟨?_, ?_, ?_⟩
  · intro text n
    exact isInteger_encode_iff text n
  · intro text noInteger
    cases read : integerOfText? (Text.trim text.toList) with
    | none => exact encode_int_of_unread read
    | some number =>
        obtain ⟨numeral, -, -, lower, upper, rfl⟩ := (integerOfText?_eq_some_iff _ _).mp read
        exact absurd ⟨numeral.value, lower, upper, encode_int_of_read read⟩ noInteger
  · intro n lower atMost
    have integer : (Value.number (.integer n (by omega) (by omega))).IsInteger n := ⟨_, _, rfl⟩
    refine ⟨_, integer, encode_string_integer integer, ?_⟩
    rw [encode_string_integer integer]
    exact encode_int_toString integer

/-- The least integer, with leading zeros. -/
def paddedMinimum : SignedDigits :=
  ⟨.minus, ['0', '0', '9', '2', '2', '3', '3', '7', '2', '0', '3', '6', '8', '5', '4', '7', '7',
    '5', '8', '0', '8'], by decide, List.all_eq_true.mp rfl⟩

theorem integers_stored_exactly_extremes :
    ((scalar .int).encode (.string "\u2003 -009223372036854775808\n")).IsInteger (-2 ^ 63) ∧
    (scalar .int).encode (.string " 9223372036854775808") = .string " 9223372036854775808" ∧
    ∃ value : Value, value.IsInteger (2 ^ 64 - 1) ∧
      (scalar .int).encode ((scalar .string).encode value) = .string "18446744073709551615" := by
  obtain ⟨read, other, restored⟩ := integers_stored_exactly
  refine ⟨?_, ?_, ?_⟩
  · rw [read]
    refine ⟨paddedMinimum, ⟨['\u2003', ' '], ['\n'], by decide, ?_, ?_⟩, by decide, by decide,
      by decide⟩
    · exact List.all_eq_true.mp rfl
    · exact List.all_eq_true.mp rfl
  · apply other
    intro integer
    obtain ⟨n, integer⟩ := integer
    obtain ⟨lower, upper, encoded⟩ := integer
    have stored : (scalar .int).encode (.string " 9223372036854775808") =
        .string " 9223372036854775808" := by decide
    rw [stored] at encoded
    cases encoded
  · obtain ⟨value, integer, -, again⟩ := restored (2 ^ 64 - 1) (by decide) (by decide)
    exact ⟨value, integer, again⟩

end Kind

end DocFilter
