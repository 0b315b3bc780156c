import DocFilter.Proofs.CanonicalKeys
import DocFilter.Proofs.FilterSources
import DocFilter.Proofs.IntegerFields
import DocFilter.Proofs.NearestBinary64
import DocFilter.Proofs.PathGrammar

set_option autoImplicit false

namespace DocFilter

/-- A binary64 number is never written with digits alone. -/
theorem Binary64.point_or_mark_mem_text (x : Binary64) : ∃ c ∈ x.text, c = '.' ∨ c = 'e' := by
  have decimal (y : Decimal) : ∃ c ∈ y.text, c = '.' ∨ c = 'e' := by
    simp only [Decimal.text]
    split
    · refine ⟨'.', ?_, Or.inl rfl⟩
      split <;> simp
    · exact ⟨'e', by simp, Or.inr rfl⟩
  have magnitude : ∃ c ∈ if x.isZero then ['0', '.', '0'] else x.shortest.text,
      c = '.' ∨ c = 'e' := by
    split
    · exact ⟨'.', by simp, Or.inl rfl⟩
    · exact decimal x.shortest
  obtain ⟨c, member, mark⟩ := magnitude
  refine ⟨c, ?_, mark⟩
  simp only [Binary64.text]
  split
  · exact List.mem_cons_of_mem _ member
  · exact member

namespace SignedDigits

variable (numeral : SignedDigits)

/-- A zero in front of another digit. -/
def Padded : Prop :=
  numeral.digits.head? = some '0' ∧ 1 < numeral.digits.length

instance : Decidable numeral.Padded :=
  inferInstanceAs (Decidable (_ ∧ _))

/-- Within the limits of integers of 64 bits, those with a sign and those without. -/
def Fits : Prop :=
  -9223372036854775808 ≤ numeral.value ∧ numeral.value < 18446744073709551616

instance : Decidable numeral.Fits :=
  inferInstanceAs (Decidable (_ ∧ _))

/-- No numeral because of a zero in front, or an integer as it is written: without a plus, and
without a minus in front of zero. -/
def StaysAsTyped : Prop :=
  numeral.Padded ∨
    numeral.Fits ∧ numeral.sign ≠ .plus ∧ ¬ (numeral.sign = .minus ∧ numeral.magnitude = 0)

instance : Decidable numeral.StaysAsTyped :=
  inferInstanceAs (Decidable (_ ∨ _))

/-- What becomes of digits that are read as a number: the integer, or beyond the integers the
nearest binary64 number, or null where that is not finite. -/
inductive Respelled : Value → Prop where
  | integer (fits : numeral.Fits) : Respelled (.string (toString numeral.value))
  | binary64 {x : Binary64} (beyond : ¬ numeral.Fits)
      (finite : numeral.magnitude < Binary64.overflowLimit)
      (sign : x.negative = numeral.sign.isMinus)
      (nearest : x.IsNearest (numeral.magnitude * twoTo 1074)) :
      Respelled (.string (String.ofList x.text))
  | null (beyond : ¬ numeral.Fits) (infinite : Binary64.overflowLimit ≤ numeral.magnitude) :
      Respelled .null

theorem exists_cons_chars :
    ∃ c tail, numeral.chars = c :: tail ∧ Token.startsNumeral c = true := by
  obtain ⟨sign, digits, nonempty, isDigits⟩ := numeral
  cases sign with
  | plus => exact ⟨'+', digits, rfl, rfl⟩
  | minus => exact ⟨'-', digits, rfl, rfl⟩
  | absent =>
      obtain ⟨c, tail, rfl⟩ := List.exists_cons_of_ne_nil nonempty
      exact ⟨c, tail, rfl, by simp [Token.startsNumeral, isDigits c (by simp)]⟩

theorem numeral?_chars :
    Token.numeral? numeral.chars = if numeral.Padded then none
      else some (Token.ofInteger numeral.sign.isMinus numeral.magnitude, []) := by
  have read : Token.decimalNumeral? numeral.sign.isMinus numeral.digits =
      if numeral.Padded then none
      else some (Token.ofInteger numeral.sign.isMinus numeral.magnitude, []) := by
    have digits := Token.decimalNumeral?_digits numeral.nonempty numeral.isDigits
      Token.closes_nil numeral.sign.isMinus
    rwa [List.append_nil, ← numeral.magnitude_eq] at digits
  rw [Token.numeral?, numeral.spanSign_chars, ← read]
  -- A zero with a digit behind it does not start a hexadecimal numeral.
  obtain ⟨c, tail, split⟩ := List.exists_cons_of_ne_nil numeral.nonempty
  have isDigits := numeral.isDigits
  rw [split, List.forall_mem_cons] at isDigits
  simp only [split]
  apply Token.unsignedNumeral?_of_digit _ isDigits.1
  intro zero next follows
  have digit := isDigits.2 next (List.mem_of_mem_head? follows)
  constructor
  · rintro rfl
    exact absurd digit (by decide)
  · rintro rfl
    exact absurd digit (by decide)

theorem ofText?_text :
    Value.ofText? numeral.text = if numeral.Padded then none
      else some ((Token.ofInteger numeral.sign.isMinus numeral.magnitude).elim .null .number) := by
  obtain ⟨c, tail, chars, starts⟩ := numeral.exists_cons_chars
  have tokens := Token.ofChars?_of_startsNumeral starts tail
  rw [← chars, numeral.numeral?_chars] at tokens
  rw [Value.ofText?, numeral.toList_text, tokens]
  split
  · rfl
  · have none_left : Token.ofChars? [] = some [] := by rw [Token.ofChars?]
    simp only [Option.bind_some, none_left, Option.map_some]
    cases Token.ofInteger numeral.sign.isMinus numeral.magnitude <;> rfl

theorem ofInteger_eq :
    Token.ofInteger numeral.sign.isMinus numeral.magnitude =
      match Number.ofInt? numeral.value with
      | some number => some number
      | none =>
          ((Decimal.mk numeral.magnitude 0).toBinary64? numeral.sign.isMinus).map Number.float :=
  rfl

theorem ofInteger_of_fits (fits : numeral.Fits) :
    Token.ofInteger numeral.sign.isMinus numeral.magnitude =
      some (.integer numeral.value fits.1 fits.2) := by
  rw [ofInteger_eq, (Number.ofInt?_eq_some_iff numeral.value _).mpr ⟨fits.1, fits.2, rfl⟩]

theorem ofInteger_of_beyond (beyond : ¬ numeral.Fits) :
    Token.ofInteger numeral.sign.isMinus numeral.magnitude =
      ((Decimal.mk numeral.magnitude 0).toBinary64? numeral.sign.isMinus).map Number.float := by
  have unread : Number.ofInt? numeral.value = none := dif_neg beyond
  rw [ofInteger_eq, unread]

/-- Without a zero in front digits are those of their number, so only the sign can differ. -/
theorem intText_value_eq_chars_iff (unpadded : ¬ numeral.Padded) :
    intText numeral.value = numeral.chars ↔
      numeral.sign ≠ .plus ∧ ¬ (numeral.sign = .minus ∧ numeral.magnitude = 0) := by
  have written : digitsOfNat numeral.magnitude = numeral.digits := by
    rw [numeral.magnitude_eq]
    apply digitsOfNat_natOfDigits numeral.nonempty numeral.isDigits
    intro zero
    have some_digit := List.length_pos_iff.mpr numeral.nonempty
    have alone : ¬ 1 < numeral.digits.length := fun more => unpadded ⟨zero, more⟩
    omega
  rw [value, chars, ← written]
  cases numeral.sign with
  | absent => simp [Sign.apply, Sign.isMinus, Sign.text, intText]
  | plus => simp [Sign.apply, Sign.isMinus, Sign.text, intText]
  | minus =>
      cases numeral.magnitude with
      | zero => simp [Sign.apply, Sign.isMinus, Sign.text, intText]
      | succ m =>
          have negative : Sign.minus.apply (m + 1) = Int.negSucc m := rfl
          simp [negative, Sign.text, intText]

def reading : Value :=
  (Value.ofText? numeral.text).getD (.string numeral.text)

def stored : Value :=
  (Kind.scalar .string).encode numeral.reading

theorem stored_of_padded (padded : numeral.Padded) : numeral.stored = .string numeral.text := by
  rw [stored, reading, ofText?_text, if_pos padded]
  rfl

section Unpadded

variable {numeral} (unpadded : ¬ numeral.Padded)

include unpadded

theorem stored_of_fits (fits : numeral.Fits) :
    numeral.stored = .string (String.ofList (intText numeral.value)) := by
  rw [stored, reading, ofText?_text, if_neg unpadded, numeral.ofInteger_of_fits fits]
  rfl

theorem stored_of_beyond (beyond : ¬ numeral.Fits) :
    numeral.stored =
      (((Decimal.mk numeral.magnitude 0).toBinary64? numeral.sign.isMinus).map
        fun x => Value.string (String.ofList x.text)).getD .null := by
  rw [stored, reading, ofText?_text, if_neg unpadded, numeral.ofInteger_of_beyond beyond]
  cases (Decimal.mk numeral.magnitude 0).toBinary64? numeral.sign.isMinus <;> rfl

end Unpadded

theorem not_mark_of_mem_chars : ∀ c ∈ numeral.chars, ¬ (c = '.' ∨ c = 'e') := by
  rw [chars, List.forall_mem_append]
  constructor
  · cases numeral.sign <;> simp [Sign.text]
  · intro c member mark
    have digit := numeral.isDigits c member
    rcases mark with rfl | rfl
    · exact absurd digit (by decide)
    · exact absurd digit (by decide)

/-- No text of digits is that of a binary64 number. -/
theorem stored_ne_text_of_beyond (unpadded : ¬ numeral.Padded) (beyond : ¬ numeral.Fits) :
    numeral.stored ≠ .string numeral.text := by
  rw [stored_of_beyond unpadded beyond]
  cases (Decimal.mk numeral.magnitude 0).toBinary64? numeral.sign.isMinus with
  | none => simp
  | some x =>
      intro same
      have chars : x.text = numeral.chars := String.ofList_injective (Value.string.inj same)
      obtain ⟨c, member, mark⟩ := x.point_or_mark_mem_text
      rw [chars] at member
      exact numeral.not_mark_of_mem_chars c member mark

theorem stored_eq_text_iff : numeral.stored = .string numeral.text ↔ numeral.StaysAsTyped := by
  by_cases padded : numeral.Padded
  · exact iff_of_true (numeral.stored_of_padded padded) (Or.inl padded)
  · rw [StaysAsTyped, or_iff_right padded]
    by_cases fits : numeral.Fits
    · rw [stored_of_fits padded fits, and_iff_right fits,
        ← numeral.intText_value_eq_chars_iff padded, Value.string.injEq, text]
      exact String.ofList_inj
    · exact iff_of_false (numeral.stored_ne_text_of_beyond padded fits) fun stays => fits stays.1

theorem respelled_stored (unpadded : ¬ numeral.Padded) : numeral.Respelled numeral.stored := by
  by_cases fits : numeral.Fits
  · rw [stored_of_fits unpadded fits, ofList_intText]
    exact .integer fits
  · rw [stored_of_beyond unpadded fits]
    rcases Nat.lt_or_ge numeral.magnitude Binary64.overflowLimit with below | above
    · obtain ⟨x, rounded, sign, nearest⟩ :=
        Decimal.toBinary64?_below below numeral.sign.isMinus
      rw [rounded]
      exact .binary64 fits below sign nearest
    · rw [Decimal.toBinary64?_above above]
      exact .null fits above

end SignedDigits

/-- A name that can stand before an equals sign, and is a path of one component. -/
structure IsPlainName (name : String) : Prop where
  nonempty : name ≠ ""
  noBlank : ∀ c ∈ name.toList, Text.isBlank c = false
  noEquals : '=' ∉ name.toList
  noDot : '.' ∉ name.toList
  noSeparator : ¬ FilterKey.HasSeparator name

namespace IsPlainName

variable {name : String} (plain : IsPlainName name)

include plain

theorem inline : FilterSet.IsInlineKey name :=
  ⟨plain.nonempty, plain.noEquals, Text.trimmed_of_solid plain.noBlank⟩

theorem parseInline_numeral (numeral : SignedDigits) :
    FilterSet.parseInline (name ++ "=" ++ numeral.text) = .ok (name, numeral.reading) := by
  apply FilterSet.parseInline_of_trimmed plain.inline
  rw [numeral.toList_text]
  exact numeral.trimmed

theorem compileFilter_declared {schema : Schema} {document : String} {field : Field}
    (declared : schema.Declares document name field) (value : Value) :
    (schema.resolver document).compileFilter name value =
      .ok [(field.wireName, field.encode value)] := by
  have parsed := FilterKey.parse_of_plain plain.noSeparator
  have resolved : schema.resolve document name = .ok [.field field] := by
    rw [Schema.resolve_ok_iff, pathComponents_of_dotFree plain.noDot]
    exact ⟨plain.nonempty, _, .cons (.field declared) .nil⟩
  rw [Resolver.compileFilter, parsed]
  simp only [Schema.resolver, resolved]
  show Except.ok [(wireName [.field field], field.encode value)] = _
  rw [wireName_singleton]
  rfl

end IsPlainName

/-- Digits typed without quotes for a field of texts are compared as they were typed if they stay as
they are, and else as the number that they are read as is written. -/
theorem digits_typed_for_text {schema : Schema} {document : String} {resolver : Resolver}
    (bound : schema.resolver? document = .ok resolver) {field : Field}
    (declared : schema.Declares document field.name field) (textual : field.kind = .scalar .string)
    (plain : IsPlainName field.name) (numeral : SignedDigits) :
    ∃ value stored,
      FilterSet.parseInline (field.name ++ "=" ++ numeral.text) = .ok (field.name, value) ∧
      resolver.compileFilter field.name value = .ok [(field.wireName, stored)] ∧
      (stored = .string numeral.text ↔ numeral.StaysAsTyped) ∧
      (¬ numeral.StaysAsTyped → numeral.Respelled stored) := by
  obtain ⟨-, rfl⟩ := Schema.resolver?_ok_iff.mp bound
  have stored : field.encode numeral.reading = numeral.stored := by
    rw [Field.encode, textual, SignedDigits.stored]
  refine ⟨numeral.reading, numeral.stored, plain.parseInline_numeral numeral, ?_,
    numeral.stored_eq_text_iff, ?_⟩
  · rw [plain.compileFilter_declared declared, stored]
  · intro changed
    exact numeral.respelled_stored fun padded => changed (Or.inl padded)

def directory : Schema :=
  Schema.empty.withDocument "Person"
    ⟨[⟨"phone", some "p", .scalar .string⟩, ⟨"phone", none, .scalar .int⟩]⟩

def phoneField : Field :=
  ⟨"phone", some "p", .scalar .string⟩

theorem directory_declares_phone : directory.Declares "Person" "phone" phoneField := by
  refine ⟨_, [], _, rfl, rfl, rfl, ?_⟩
  simp

theorem phone_plain : IsPlainName "phone" := by
  refine ⟨by decide, List.all_iff_forall_prop.mp rfl, by decide, by decide, ?_⟩
  unfold FilterKey.HasSeparator
  decide

/-- A telephone number with the country code behind a plus. -/
def plusNumber : SignedDigits :=
  ⟨.plus, "49301234567".toList, by decide, List.all_eq_true.mp rfl⟩

/-- The same with the country code behind two zeros. -/
def zerosNumber : SignedDigits :=
  ⟨.absent, "0049301234567".toList, by decide, List.all_eq_true.mp rfl⟩

theorem phone_numbers_typed :
    (∃ value, FilterSet.parseInline "phone=0049301234567" = .ok ("phone", value) ∧
      (directory.resolver "Person").compileFilter "phone" value =
        .ok [("p", .string "0049301234567")]) ∧
    ∃ value, FilterSet.parseInline "phone=+49301234567" = .ok ("phone", value) ∧
      (directory.resolver "Person").compileFilter "phone" value =
        .ok [("p", .string "49301234567")] := by
  have bound : directory.resolver? "Person" = .ok (directory.resolver "Person") := rfl
  have typed := digits_typed_for_text bound directory_declares_phone rfl phone_plain
  constructor
  · obtain ⟨value, stored, parsed, compiled, stays, -⟩ := typed zerosNumber
    rw [stays.mpr (by decide)] at compiled
    exact ⟨value, parsed, compiled⟩
  · obtain ⟨value, stored, parsed, compiled, -, respelled⟩ := typed plusNumber
    refine ⟨value, parsed, ?_⟩
    cases respelled (by decide) with
    | integer fits => exact compiled
    | binary64 beyond finite sign nearest => exact absurd (by decide) beyond
    | null beyond infinite => exact absurd (by decide) beyond

/-- Digits do not always stay as they were typed. -/
theorem plus_is_dropped :
    directory.resolver? "Person" = .ok (directory.resolver "Person") ∧
    directory.Declares "Person" "phone" phoneField ∧ phoneField.kind = .scalar .string ∧
    IsPlainName "phone" ∧
    FilterSet.parseInline ("phone" ++ "=" ++ plusNumber.text) =
      .ok ("phone", plusNumber.reading) ∧
    (directory.resolver "Person").compileFilter "phone" plusNumber.reading =
      .ok [(phoneField.wireName, .string "49301234567")] ∧
    "49301234567" ≠ plusNumber.text := by
  have stored : phoneField.encode plusNumber.reading = .string "49301234567" :=
    SignedDigits.stored_of_fits (by decide) (by decide)
  refine ⟨rfl, directory_declares_phone, rfl, phone_plain,
    phone_plain.parseInline_numeral plusNumber, ?_, by decide⟩
  rw [phone_plain.compileFilter_declared directory_declares_phone, stored]

end DocFilter
