import DocFilter.Proofs.Trimming
import DocFilter.Value.Token

set_option autoImplicit false

namespace DocFilter

theorem natOfDigits_digitsOfNat (n : Nat) : natOfDigits (digitsOfNat n) = n := by
  have asFold : Nat.ofDigitChars 10 (digitsOfNat n) 0 = natOfDigits (digitsOfNat n) :=
    Nat.ofDigitChars_eq_foldl
  rw [← asFold]
  exact Nat.ofDigitChars_ten_toDigits

theorem isDigit_of_mem_digitsOfNat {n : Nat} {c : Char} (member : c ∈ digitsOfNat n) :
    isDigit c = true :=
  Nat.isDigit_of_mem_toDigits (by decide) (by decide) member

theorem digitsOfNat_ne_nil (n : Nat) : digitsOfNat n ≠ [] :=
  Nat.toDigits_ne_nil

theorem digitsOfNat_eq_cons (n : Nat) :
    ∃ c more, digitsOfNat n = c :: more ∧ isDigit c = true := by
  obtain ⟨c, more, digits⟩ := List.exists_cons_of_ne_nil (digitsOfNat_ne_nil n)
  have first : c ∈ digitsOfNat n := by simp [digits]
  exact ⟨c, more, digits, isDigit_of_mem_digitsOfNat first⟩

theorem head?_digitsOfNat {n : Nat} (large : 10 ≤ n) :
    (digitsOfNat n).head? = (digitsOfNat (n / 10)).head? := by
  have split : digitsOfNat n = digitsOfNat (n / 10) ++ [(n % 10).digitChar] :=
    Nat.toDigits_of_base_le (by decide) large
  obtain ⟨c, more, digits, -⟩ := digitsOfNat_eq_cons (n / 10)
  rw [split, digits, List.cons_append, List.head?_cons, List.head?_cons]

theorem head?_digitsOfNat_ne_zero {n : Nat} (positive : 0 < n) :
    (digitsOfNat n).head? ≠ some '0' := by
  induction n using Nat.strongRecOn with
  | ind n ih =>
      by_cases large : 10 ≤ n
      · rw [head?_digitsOfNat large]
        exact ih (n / 10) (by omega) (by omega)
      · have single : digitsOfNat n = [n.digitChar] := Nat.toDigits_of_lt_base (by omega)
        have noZero : n.digitChar ≠ '0' := by
          rw [ne_eq, Nat.digitChar_eq_zero]
          omega
        simpa [single] using noZero

/-- Only the single zero starts with a zero. -/
theorem digitsOfNat_of_head? {n : Nat} (zero : (digitsOfNat n).head? = some '0') :
    digitsOfNat n = ['0'] := by
  rcases Nat.eq_zero_or_pos n with rfl | positive
  · rfl
  · exact absurd zero (head?_digitsOfNat_ne_zero positive)

/-- The characters that numbers are written with. -/
def IsNumeric (c : Char) : Prop :=
  isDigit c = true ∨ c ∈ ['.', '-', '+', 'e']

theorem isNumeric_of_mem_digitsOfNat {n : Nat} {c : Char} (member : c ∈ digitsOfNat n) :
    IsNumeric c :=
  Or.inl (isDigit_of_mem_digitsOfNat member)

theorem digit_bounds {c : Char} (digit : isDigit c = true) : 48 ≤ c.toNat ∧ c.toNat ≤ 57 := by
  simp only [isDigit, Bool.and_eq_true, decide_eq_true_eq] at digit
  exact digit

theorem spanSign_of_digit {c : Char} (digit : isDigit c = true) (rest : List Char) :
    spanSign (c :: rest) = (false, c :: rest) := by
  have bounds := digit_bounds digit
  unfold spanSign
  split
  · next same =>
      obtain ⟨rfl, -⟩ := List.cons.inj same
      exact absurd bounds.1 (by decide)
  · next same =>
      obtain ⟨rfl, -⟩ := List.cons.inj same
      exact absurd bounds.1 (by decide)
  · rfl

theorem IsNumeric.notBlank {c : Char} (numeric : IsNumeric c) : Text.isBlank c = false := by
  rcases numeric with digit | mark
  · have bounds := digit_bounds digit
    exact Text.isBlank_of_visible (by omega) (by omega)
  · simp only [List.mem_cons, List.not_mem_nil, or_false] at mark
    rcases mark with rfl | rfl | rfl | rfl <;> decide

theorem IsNumeric.noQuote {c : Char} (numeric : IsNumeric c) : c ≠ '"' := by
  rintro rfl
  rcases numeric with digit | mark
  · exact absurd digit (by decide)
  · exact absurd mark (by decide)

theorem isNumeric_of_mem_intText {value : Int} : ∀ c ∈ intText value, IsNumeric c := by
  cases value with
  | ofNat n => exact fun c => isNumeric_of_mem_digitsOfNat
  | negSucc n =>
      rw [intText, List.forall_mem_cons]
      exact ⟨Or.inr (by decide), fun c => isNumeric_of_mem_digitsOfNat⟩

theorem isNumeric_of_mem_replicate {n : Nat} {c : Char} (member : c ∈ List.replicate n '0') :
    IsNumeric c := by
  obtain rfl := List.eq_of_mem_replicate member
  exact Or.inl (by decide)

theorem isNumeric_of_mem_decimalText (x : Decimal) : ∀ c ∈ x.text, IsNumeric c := by
  have zero : IsNumeric '0' := Or.inl (by decide)
  have point : IsNumeric '.' := Or.inr (by decide)
  have mark : IsNumeric 'e' := Or.inr (by decide)
  have digits : ∀ n, ∀ c ∈ digitsOfNat n, IsNumeric c := fun n c => isNumeric_of_mem_digitsOfNat
  have padded : ∀ n, ∀ c ∈ digitsOfNat x.digits ++ List.replicate n '0', IsNumeric c := by
    intro n
    rw [List.forall_mem_append]
    exact ⟨digits _, fun c => isNumeric_of_mem_replicate⟩
  unfold Decimal.text
  dsimp only
  split
  · split
    · simp only [List.forall_mem_cons, List.cons_append, List.forall_mem_append]
      exact ⟨zero, point, fun c => isNumeric_of_mem_replicate, digits _⟩
    · simp only [List.forall_mem_cons, List.forall_mem_append]
      refine ⟨fun c member => padded _ c (List.mem_of_mem_take member), point, ?_⟩
      split
      · simpa using zero
      · exact fun c member => padded _ c (List.mem_of_mem_drop member)
  · simp only [List.forall_mem_cons, List.forall_mem_append]
    refine ⟨⟨fun c member => digits _ c (List.mem_of_mem_take member), ?_⟩, mark, ?_, digits _⟩
    · split
      · simp
      · rw [List.forall_mem_cons]
        exact ⟨point, fun c member => digits _ c (List.mem_of_mem_drop member)⟩
    · split
      · exact Or.inr (by decide)
      · exact Or.inr (by decide)

theorem isNumeric_of_mem_binary64Text (x : Binary64) : ∀ c ∈ x.text, IsNumeric c := by
  have zero : ∀ c ∈ ['0', '.', '0'], IsNumeric c := by simp [IsNumeric, isDigit]
  have magnitude : ∀ c ∈ if x.isZero then ['0', '.', '0'] else x.shortest.text, IsNumeric c := by
    split
    · exact zero
    · exact isNumeric_of_mem_decimalText _
  unfold Binary64.text
  dsimp only
  split
  · rw [List.forall_mem_cons]
    exact ⟨Or.inr (by decide), magnitude⟩
  · exact magnitude

theorem isNumeric_of_mem_text (number : Number) : ∀ c ∈ number.text, IsNumeric c := by
  cases number with
  | integer value lower upper => exact isNumeric_of_mem_intText
  | float value => exact isNumeric_of_mem_binary64Text value

namespace Token

/-- After a value the text ends, or goes on with a comma or a closing bracket. -/
def Closes (rest : List Char) : Prop :=
  ∀ c ∈ rest.head?, c = ',' ∨ c = ']' ∨ c = '}'

theorem closes_nil : Closes [] := by
  simp [Closes]

theorem closes_cons {c : Char} {tail : List Char} :
    Closes (c :: tail) ↔ c = ',' ∨ c = ']' ∨ c = '}' := by
  simp [Closes]

theorem Closes.noDigit {rest : List Char} (closes : Closes rest) :
    rest.takeWhile isDigit = [] ∧ rest.dropWhile isDigit = rest := by
  cases rest with
  | nil => exact ⟨rfl, rfl⟩
  | cons c tail =>
      have outside : isDigit c = false := by
        rcases closes_cons.mp closes with rfl | rfl | rfl <;> rfl
      simp [outside]

section Digits

variable {digits rest : List Char}

/-- Nothing that closes a value goes on with a numeral. -/
theorem scan?_digits (nonempty : digits ≠ []) (isDigits : ∀ c ∈ digits, isDigit c = true)
    (closes : Closes rest) :
    Numeral.scan? (digits ++ rest) = some (⟨digits, none, none⟩, rest) := by
  have whole : (digits ++ rest).takeWhile isDigit = digits := by
    rw [List.takeWhile_append_of_pos isDigits, closes.noDigit.1, List.append_nil]
  have after : (digits ++ rest).dropWhile isDigit = rest := by
    rw [List.dropWhile_append_of_pos isDigits, closes.noDigit.2]
  have noFraction : Numeral.spanFraction rest = (none, rest) := by
    cases rest with
    | nil => rfl
    | cons c tail => rcases closes_cons.mp closes with rfl | rfl | rfl <;> rfl
  have noExponent : Numeral.spanExponent? rest = some (none, rest) := by
    cases rest with
    | nil => rfl
    | cons c tail => rcases closes_cons.mp closes with rfl | rfl | rfl <;> rfl
  simp [Numeral.scan?, whole, after, noFraction, noExponent, nonempty]

/-- Digits are an integer unless a zero is put in front of others. -/
theorem decimalNumeral?_digits (nonempty : digits ≠ [])
    (isDigits : ∀ c ∈ digits, isDigit c = true) (closes : Closes rest) (negative : Bool) :
    decimalNumeral? negative (digits ++ rest) =
      if digits.head? = some '0' ∧ 1 < digits.length then none
      else some (ofInteger negative (natOfDigits digits), rest) := by
  simp [decimalNumeral?, scan?_digits nonempty isDigits closes, Numeral.isInteger]

end Digits

theorem decimalNumeral?_digitsOfNat (negative : Bool) (n : Nat) {rest : List Char}
    (closes : Closes rest) :
    decimalNumeral? negative (digitsOfNat n ++ rest) = some (ofInteger negative n, rest) := by
  have lone : ¬ ((digitsOfNat n).head? = some '0' ∧ 1 < (digitsOfNat n).length) := by
    intro padded
    have single := digitsOfNat_of_head? padded.1
    rw [single] at padded
    exact absurd padded.2 (by decide)
  have isDigits : ∀ c ∈ digitsOfNat n, isDigit c = true := fun _ => isDigit_of_mem_digitsOfNat
  rw [decimalNumeral?_digits (digitsOfNat_ne_nil n) isDigits closes, if_neg lone,
    natOfDigits_digitsOfNat]

/-- A decimal numeral is read as one unless it looks hexadecimal. -/
theorem unsignedNumeral?_of_digit (negative : Bool) {c : Char} {tail : List Char}
    (digit : isDigit c = true) (decimal : c = '0' → ∀ next ∈ tail.head?, next ≠ 'x' ∧ next ≠ 'X') :
    unsignedNumeral? negative (c :: tail) = decimalNumeral? negative (c :: tail) := by
  have bounds := digit_bounds digit
  have noInfinity : 'I' ≠ c := by
    rintro rfl
    exact absurd bounds.2 (by decide)
  have noNaN : 'N' ≠ c := by
    rintro rfl
    exact absurd bounds.2 (by decide)
  unfold unsignedNumeral?
  simp only [afterWord?, noInfinity, noNaN, ↓reduceIte]
  split
  · next more same =>
      obtain ⟨rfl, rfl⟩ := List.cons.inj same
      exact absurd rfl (decimal rfl 'x' rfl).1
  · next more same =>
      obtain ⟨rfl, rfl⟩ := List.cons.inj same
      exact absurd rfl (decimal rfl 'X' rfl).2
  · rfl

theorem unsignedNumeral?_digitsOfNat (negative : Bool) (n : Nat) {rest : List Char}
    (closes : Closes rest) :
    unsignedNumeral? negative (digitsOfNat n ++ rest) = some (ofInteger negative n, rest) := by
  rw [← decimalNumeral?_digitsOfNat negative n closes]
  obtain ⟨c, more, digits, digit⟩ := digitsOfNat_eq_cons n
  rw [digits, List.cons_append]
  apply unsignedNumeral?_of_digit negative digit
  intro zero next follows
  have single : c :: more = ['0'] := by
    rw [← digits]
    exact digitsOfNat_of_head? (by simp [digits, zero])
  obtain ⟨-, rfl⟩ := List.cons.inj single
  rcases closes next follows with rfl | rfl | rfl <;> decide

theorem spanSign_digitsOfNat (n : Nat) (rest : List Char) :
    spanSign (digitsOfNat n ++ rest) = (false, digitsOfNat n ++ rest) := by
  obtain ⟨c, more, digits, digit⟩ := digitsOfNat_eq_cons n
  rw [digits, List.cons_append, spanSign_of_digit digit]

theorem numeral?_intText (value : Int) {rest : List Char} (closes : Closes rest) :
    numeral? (intText value ++ rest) =
      some (ofInteger (decide (value < 0)) value.natAbs, rest) := by
  cases value with
  | ofNat n =>
      have sign : decide (Int.ofNat n < 0) = false := by simp
      rw [numeral?, intText, spanSign_digitsOfNat, unsignedNumeral?_digitsOfNat _ n closes, sign,
        Int.natAbs_ofNat']
  | negSucc n =>
      have sign : decide (Int.negSucc n < 0) = true := by simp [Int.negSucc_lt_zero]
      rw [numeral?, intText, List.cons_append, spanSign, unsignedNumeral?_digitsOfNat _ _ closes,
        sign, Int.natAbs_negSucc]

/-- Within the limits of integers the text of an integer denotes that integer. -/
theorem ofInteger_natAbs {value : Int} (lower : -9223372036854775808 ≤ value)
    (upper : value < 18446744073709551616) :
    ofInteger (decide (value < 0)) value.natAbs = some (.integer value lower upper) := by
  have restored : (if decide (value < 0) = true then -Int.ofNat value.natAbs
      else Int.ofNat value.natAbs) = value := by
    by_cases negative : value < 0
    · simp only [negative, decide_true, ↓reduceIte, Int.ofNat_eq_natCast]
      omega
    · simp only [negative, decide_false, Bool.false_eq_true, ↓reduceIte, Int.ofNat_eq_natCast]
      omega
  have fits : Number.ofInt? value = some (.integer value lower upper) := by
    simp [Number.ofInt?, lower, upper]
  simp only [ofInteger, restored, fits]

theorem punctuation?_eq_none {c : Char} (plain : c ∉ ['[', ']', '{', '}', ':', ',']) :
    punctuation? c = none := by
  unfold punctuation?
  split <;> simp_all

/-- A text that starts as a numeral does starts with one, or has no tokens at all. -/
theorem ofChars?_of_startsNumeral {c : Char} (starts : startsNumeral c = true)
    (tail : List Char) :
    ofChars? (c :: tail) = (numeral? (c :: tail)).bind fun (value, after) =>
      (ofChars? after).map (numeral value :: ·) := by
  have numeric : IsNumeric c := by
    simp only [startsNumeral, Bool.or_eq_true, beq_iff_eq] at starts
    rcases starts with ((digit | rfl) | rfl) | rfl
    · exact Or.inl digit
    · exact Or.inr (by decide)
    · exact Or.inr (by decide)
    · exact Or.inr (by decide)
  have absent : ∀ marks : List Char,
      (marks.all fun mark => !startsNumeral mark) = true → c ∉ marks := by
    intro marks others member
    have other := List.all_eq_true.mp others c member
    simp [starts] at other
  have noPunctuation := punctuation?_eq_none (absent _ rfl)
  have noSpace : isSpace c = false := by
    have noByteOrderMark : c ≠ '\ufeff' := by simpa using absent ['\ufeff'] rfl
    simp [isSpace, numeric.notBlank, noByteOrderMark]
  have noSlash : c ≠ '/' := by simpa using absent ['/'] rfl
  have noQuotes : ¬ (c = '"' ∨ c = '\'') := by simpa using absent ['"', '\''] rfl
  simp only [ofChars?_cons, noPunctuation, noSpace, noSlash, noQuotes, starts,
    Bool.false_eq_true, ↓reduceIte]

theorem ofChars?_integer {value : Int} (lower : -9223372036854775808 ≤ value)
    (upper : value < 18446744073709551616) {rest : List Char} (closes : Closes rest) :
    ofChars? (intText value ++ rest) =
      (ofChars? rest).map (numeral (some (.integer value lower upper)) :: ·) := by
  have read := numeral?_intText value closes
  rw [ofInteger_natAbs lower upper] at read
  have first : ∃ c tail, intText value = c :: tail ∧ startsNumeral c = true := by
    cases value with
    | ofNat n =>
        obtain ⟨c, more, digits, digit⟩ := digitsOfNat_eq_cons n
        exact ⟨c, more, digits, by simp [startsNumeral, digit]⟩
    | negSucc n => exact ⟨'-', digitsOfNat (n + 1), rfl, rfl⟩
  obtain ⟨c, tail, text, starts⟩ := first
  rw [text, List.cons_append] at read ⊢
  rw [ofChars?_of_startsNumeral starts, read, Option.bind_some]

end Token

end DocFilter
