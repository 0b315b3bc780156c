import DocFilter.Value.Printer
import DocFilter.Value.Token

set_option autoImplicit false

namespace DocFilter

open Text (escaped hexDigit quoted)

namespace Text

theorem hexDigit?_hexDigit {n : Nat} (small : n < 16) : hexDigit? (hexDigit n) = some n := by
  have all : ∀ m < 16, hexDigit? (hexDigit m) = some m := by decide
  exact all n small

theorem takeHex?_control {n : Nat} (control : n < 0x20) (rest : List Char) :
    takeHex? 4 ('0' :: '0' :: hexDigit (n / 16) :: hexDigit (n % 16) :: rest) =
      some (n, rest) := by
  have high := hexDigit?_hexDigit (show n / 16 < 16 by omega)
  have low := hexDigit?_hexDigit (show n % 16 < 16 by omega)
  have zero : hexDigit? '0' = some 0 := by decide
  have value : 16 * (n / 16) + n % 16 = n := Nat.div_add_mod n 16
  simp [takeHex?, isHexDigit, natOfHex, high, low, zero, value]

end Text

namespace Token

theorem unicodeEscape?_control {c : Char} (control : c.toNat < 0x20) (rest : List Char) :
    unicodeEscape? ('0' :: '0' :: hexDigit (c.toNat / 16) :: hexDigit (c.toNat % 16) :: rest) =
      some (c, rest) := by
  have noHigh : Text.isHighSurrogate c.toNat = false := by
    simp only [Text.isHighSurrogate, Bool.and_eq_false_iff, decide_eq_false_iff_not]
    omega
  have noLow : Text.isLowSurrogate c.toNat = false := by
    simp only [Text.isLowSurrogate, Bool.and_eq_false_iff, decide_eq_false_iff_not]
    omega
  simp [unicodeEscape?, Text.takeHex?_control control, noHigh, noLow]

theorem escape?_control {c : Char} (control : c.toNat < 0x20) (rest : List Char) :
    escape? ('u' :: '0' :: '0' :: hexDigit (c.toNat / 16) :: hexDigit (c.toNat % 16) :: rest) =
      some ([c], rest) := by
  simp [escape?, unicodeEscape?_control control]

theorem hexDigit_plain {n : Nat} (small : n < 16) : hexDigit n ≠ '"' ∧ hexDigit n ≠ '\\' := by
  have all : ∀ m < 16, hexDigit m ≠ '"' ∧ hexDigit m ≠ '\\' := by decide
  exact all n small

/-- A character is written as itself, or as a backslash with an escape that is read as it. No quote
and no backslash stands in an escape behind its first character. -/
theorem escaped_cases (c : Char) :
    (escaped c = [c] ∧ c ≠ '"' ∧ c ≠ '\\' ∧ c ≠ '\n' ∧ c ≠ '\r') ∨
      ∃ mark digits, escaped c = '\\' :: mark :: digits ∧ (∀ d ∈ digits, d ≠ '"' ∧ d ≠ '\\') ∧
        ∀ rest, escape? (mark :: digits ++ rest) = some ([c], rest) := by
  by_cases named : c ∈ ['"', '\\', '\x08', '\t', '\n', '\x0c', '\r']
  · right
    simp only [List.mem_cons, List.not_mem_nil, or_false] at named
    rcases named with rfl | rfl | rfl | rfl | rfl | rfl | rfl
    · exact ⟨'"', [], rfl, by simp, fun _ => rfl⟩
    · exact ⟨'\\', [], rfl, by simp, fun _ => rfl⟩
    · exact ⟨'b', [], rfl, by simp, fun _ => rfl⟩
    · exact ⟨'t', [], rfl, by simp, fun _ => rfl⟩
    · exact ⟨'n', [], rfl, by simp, fun _ => rfl⟩
    · exact ⟨'f', [], rfl, by simp, fun _ => rfl⟩
    · exact ⟨'r', [], rfl, by simp, fun _ => rfl⟩
  · simp only [List.mem_cons, List.not_mem_nil, or_false, not_or] at named
    obtain ⟨noQuote, noBackslash, noBackspace, noTab, noLineFeed, noFormFeed, noReturn⟩ := named
    by_cases control : c.toNat < 0x20
    · right
      have high := hexDigit_plain (show c.toNat / 16 < 16 by omega)
      have low := hexDigit_plain (show c.toNat % 16 < 16 by omega)
      refine ⟨'u', ['0', '0', hexDigit (c.toNat / 16), hexDigit (c.toNat % 16)], ?_, ?_, ?_⟩
      · simp [escaped, noQuote, noBackslash, noBackspace, noTab, noLineFeed, noFormFeed, noReturn,
          control]
      · simp [high, low]
      · exact escape?_control control
    · left
      refine ⟨?_, noQuote, noBackslash, noLineFeed, noReturn⟩
      simp [escaped, noQuote, noBackslash, noBackspace, noTab, noLineFeed, noFormFeed, noReturn,
        control]

/-- Whatever stands for a character inside quotes is read as that character. -/
theorem quotedBody?_escaped (c : Char) (rest : List Char) :
    quotedBody? '"' (escaped c ++ rest) =
      (quotedBody? '"' rest).map fun (more, final) => (c :: more, final) := by
  rcases escaped_cases c with ⟨itself, noQuote, noBackslash, noLineFeed, noReturn⟩ |
    ⟨mark, digits, written, -, read⟩
  · simp [itself, quotedBody?_cons, noQuote, noBackslash, noLineFeed, noReturn]
  · simp only [List.cons_append] at read
    simp [written, quotedBody?_cons, read]

theorem quotedBody?_quoted (cs rest : List Char) :
    quotedBody? '"' (cs.flatMap escaped ++ '"' :: rest) = some (cs, rest) := by
  induction cs with
  | nil => simp [quotedBody?_cons]
  | cons c more ih =>
      rw [List.flatMap_cons, List.append_assoc, quotedBody?_escaped, ih, Option.map_some]

/-- A quoted text is one token, whatever follows it. -/
theorem ofChars?_quoted (text : String) (rest : List Char) :
    ofChars? (Text.quoted text ++ rest) = (ofChars? rest).map (.quoted text :: ·) := by
  have noPunctuation : punctuation? '"' = none := rfl
  have noSpace : isSpace '"' = false := by decide
  have body : text.toList.flatMap escaped ++ ['"'] ++ rest =
      text.toList.flatMap escaped ++ '"' :: rest := by simp
  rw [Text.quoted, List.cons_append, List.cons_append, body, ofChars?_cons, noPunctuation]
  simp [noSpace, quotedBody?_quoted]

end Token

end DocFilter
