import DocFilter.Number.Basic
import DocFilter.Text.Blank
import DocFilter.Text.Hex
import DocFilter.Text.Identifier

set_option autoImplicit false

namespace DocFilter

inductive Token where
  | openBracket
  | closeBracket
  | openBrace
  | closeBrace
  | colon
  | comma
  | quoted (text : String)
  /-- An identifier; `literal` if it is written without escapes. -/
  | name (text : String) (literal : Bool)
  /-- A numeral; `none` if it denotes no finite number. -/
  | numeral (value : Option Number)
  deriving DecidableEq

namespace Token

def isSpace (c : Char) : Bool :=
  c == '\ufeff' || (Text.isBlank c && c != '\u0085')

def endsLine (c : Char) : Bool :=
  c == '\n' || c == '\r' || c == '\u2028' || c == '\u2029'

def punctuation? (c : Char) : Option Token :=
  match c with
  | '[' => some openBracket
  | ']' => some closeBracket
  | '{' => some openBrace
  | '}' => some closeBrace
  | ':' => some colon
  | ',' => some comma
  | _ => none

def afterBlock? : List Char → Option (List Char)
  | [] => none
  | c :: rest =>
      if c = '*' ∧ rest.head? = some '/' then some (rest.drop 1) else afterBlock? rest

def afterComment? : List Char → Option (List Char)
  | '/' :: rest => some (rest.dropWhile (!endsLine ·))
  | '*' :: rest => afterBlock? rest
  | _ => none

theorem afterBlock?_length {cs rest : List Char} (read : afterBlock? cs = some rest) :
    rest.length ≤ cs.length := by
  induction cs with
  | nil => contradiction
  | cons c tail ih =>
      rw [afterBlock?] at read
      rw [List.length_cons]
      split at read
      · injection read with read
        rw [← read, List.length_drop]
        omega
      · exact Nat.le_succ_of_le (ih read)

theorem afterComment?_length {cs rest : List Char} (read : afterComment? cs = some rest) :
    rest.length ≤ cs.length := by
  unfold afterComment? at read
  split at read
  · next tail =>
      injection read with read
      have parts := Numeral.length_span (!endsLine ·) tail
      rw [← read, List.length_cons]
      omega
  · exact Nat.le_succ_of_le (afterBlock?_length read)
  · contradiction

def letterEscape (c : Char) : Char :=
  if c = 'b' then '\x08'
  else if c = 't' then '\t'
  else if c = 'n' then '\n'
  else if c = 'v' then '\x0b'
  else if c = 'f' then '\x0c'
  else if c = 'r' then '\r'
  else c

/-- The character of a `\u` escape, given what follows the `u`. A character beyond the basic plane
is written as a pair of escapes. -/
def unicodeEscape? (cs : List Char) : Option (Char × List Char) :=
  match Text.takeHex? 4 cs with
  | none => none
  | some (code, rest) =>
      if Text.isHighSurrogate code then
        match rest with
        | '\\' :: 'u' :: more =>
            match Text.takeHex? 4 more with
            | none => none
            | some (low, after) =>
                if Text.isLowSurrogate low then some (Text.surrogatePair code low, after) else none
        | _ => none
      else if Text.isLowSurrogate code then none
      else some (Char.ofNat code, rest)

/-- What an escape stands for, given what follows the backslash. An escaped line end stands for
nothing, and a character without a meaning of its own for itself. -/
def escape? : List Char → Option (List Char × List Char)
  | [] => none
  | c :: rest =>
      if c = 'u' then (unicodeEscape? rest).map fun (char, after) => ([char], after)
      else if c = 'x' then
        (Text.takeHex? 2 rest).map fun (code, after) => ([Char.ofNat code], after)
      else if c = '0' then
        if (rest.head?.map isDigit).getD false then none else some (['\x00'], rest)
      else if isDigit c then none
      else if c = '\r' then some ([], if rest.head? = some '\n' then rest.drop 1 else rest)
      else if endsLine c then some ([], rest)
      else some ([letterEscape c], rest)

theorem unicodeEscape?_length {cs rest : List Char} {c : Char}
    (read : unicodeEscape? cs = some (c, rest)) : rest.length ≤ cs.length := by
  simp only [unicodeEscape?] at read
  split at read
  · contradiction
  · next code after taken =>
      have first := Text.takeHex?_length taken
      split at read
      · split at read
        · next more =>
            split at read
            · contradiction
            · next low final takenLow =>
                have second := Text.takeHex?_length takenLow
                split at read
                · injection read with read
                  injection read with _ restEq
                  subst restEq
                  simp only [List.length_cons] at first
                  omega
                · contradiction
        · contradiction
      · split at read
        · contradiction
        · injection read with read
          injection read with _ restEq
          exact restEq ▸ first

theorem escape?_length {cs rest content : List Char}
    (read : escape? cs = some (content, rest)) : rest.length < cs.length := by
  cases cs with
  | nil => contradiction
  | cons c tail =>
      simp only [escape?] at read
      rw [List.length_cons]
      apply Nat.lt_succ_of_le
      split at read
      · obtain ⟨pair, found, eq⟩ := Option.map_eq_some_iff.1 read
        injection eq with _ restEq
        exact restEq ▸ unicodeEscape?_length found
      · split at read
        · obtain ⟨pair, found, eq⟩ := Option.map_eq_some_iff.1 read
          injection eq with _ restEq
          exact restEq ▸ Text.takeHex?_length found
        · split at read
          · split at read
            · contradiction
            · injection read with read
              injection read with _ restEq
              exact Nat.le_of_eq (congrArg List.length restEq.symm)
          · split at read
            · contradiction
            · split at read
              · injection read with read
                injection read with _ restEq
                rw [← restEq]
                split
                · rw [List.length_drop]
                  omega
                · exact Nat.le_refl _
              · split at read
                · injection read with read
                  injection read with _ restEq
                  exact Nat.le_of_eq (congrArg List.length restEq.symm)
                · injection read with read
                  injection read with _ restEq
                  exact Nat.le_of_eq (congrArg List.length restEq.symm)

/-- The content of a quoted text, given what follows the opening quote. A line feed or a carriage
return inside must be escaped. -/
def quotedBody? (quote : Char) (cs : List Char) : Option (List Char × List Char) :=
  match cs with
  | [] => none
  | c :: rest =>
      if c = quote then some ([], rest)
      else if c = '\\' then
        match _read : escape? rest with
        | none => none
        | some (content, after) =>
            (quotedBody? quote after).map fun (more, final) => (content ++ more, final)
      else if c = '\n' ∨ c = '\r' then none
      else (quotedBody? quote rest).map fun (more, final) => (c :: more, final)
termination_by cs.length
decreasing_by
  · have shorter := escape?_length _read
    rw [List.length_cons]
    omega
  · rw [List.length_cons]
    omega

theorem quotedBody?_cons (quote c : Char) (rest : List Char) :
    quotedBody? quote (c :: rest) =
      if c = quote then some ([], rest)
      else if c = '\\' then
        (escape? rest).bind fun (content, after) =>
          (quotedBody? quote after).map fun (more, final) => (content ++ more, final)
      else if c = '\n' ∨ c = '\r' then none
      else (quotedBody? quote rest).map fun (more, final) => (c :: more, final) := by
  rw [quotedBody?]
  split
  · rfl
  · split
    · split <;> simp_all
    · rfl

/-- The characters of an identifier as far as it reaches, whether none of them is escaped, and what
follows. Escapes are those of quoted texts, pairs included, and must stand for a character that is
allowed at its place. -/
def nameBody? (allowed : Char → Bool) (cs : List Char) :
    Option (List Char × Bool × List Char) :=
  match cs with
  | [] => some ([], true, [])
  | '\\' :: rest =>
      match rest with
      | 'u' :: digits =>
          match _read : unicodeEscape? digits with
          | none => none
          | some (c, after) =>
              if allowed c then
                (nameBody? Text.continuesIdentifier after).map fun (more, _, final) =>
                  (c :: more, false, final)
              else none
      | _ => none
  | c :: rest =>
      if allowed c then
        (nameBody? Text.continuesIdentifier rest).map fun (more, literal, final) =>
          (c :: more, literal, final)
      else some ([], true, c :: rest)
termination_by cs.length
decreasing_by
  · have shorter := unicodeEscape?_length _read
    simp only [List.length_cons]
    omega
  · rw [List.length_cons]
    omega

/-- The number that an integer literal denotes: an integer while it fits, a binary64 number beyond
that, which may be infinite. -/
def ofInteger (negative : Bool) (magnitude : Nat) : Option Number :=
  let value := if negative then -Int.ofNat magnitude else Int.ofNat magnitude
  match Number.ofInt? value with
  | some number => some number
  | none => ((Decimal.mk magnitude 0).toBinary64? negative).map Number.float

def hexLimit (negative : Bool) : Nat :=
  if negative then twoTo 127 else twoTo 128 - 1

def hexNumeral? (negative : Bool) (cs : List Char) : Option (Option Number × List Char) :=
  let digits := cs.takeWhile Text.isHexDigit
  let magnitude := Text.natOfHex digits
  if digits.isEmpty then none
  else if hexLimit negative < magnitude then none
  else some (ofInteger negative magnitude, cs.dropWhile Text.isHexDigit)

/-- A decimal numeral. Unless it is a single zero its integer part does not start with one. -/
def decimalNumeral? (negative : Bool) (cs : List Char) : Option (Option Number × List Char) :=
  match Numeral.scan? cs with
  | none => none
  | some (parts, rest) =>
      if parts.whole.head? = some '0' ∧ 1 < parts.whole.length then none
      else if parts.isInteger then some (ofInteger negative (natOfDigits parts.whole), rest)
      else some ((parts.decimal.toBinary64? negative).map Number.float, rest)

def afterWord? : List Char → List Char → Option (List Char)
  | [], cs => some cs
  | w :: word, c :: cs => if w = c then afterWord? word cs else none
  | _ :: _, [] => none

/-- A numeral without its sign: a decimal or hexadecimal one, or a name of no finite number. -/
def unsignedNumeral? (negative : Bool) (cs : List Char) : Option (Option Number × List Char) :=
  match afterWord? ['I', 'n', 'f', 'i', 'n', 'i', 't', 'y'] cs with
  | some rest => some (none, rest)
  | none =>
      match afterWord? ['N', 'a', 'N'] cs with
      | some rest => some (none, rest)
      | none =>
          match cs with
          | '0' :: 'x' :: rest => hexNumeral? negative rest
          | '0' :: 'X' :: rest => hexNumeral? negative rest
          | _ => decimalNumeral? negative cs

def numeral? (cs : List Char) : Option (Option Number × List Char) :=
  unsignedNumeral? (spanSign cs).1 (spanSign cs).2

def startsNumeral (c : Char) : Bool :=
  isDigit c || c == '+' || c == '-' || c == '.'

def identifier? (cs : List Char) : Option (List Char × Bool × List Char) :=
  match nameBody? Text.startsIdentifier cs with
  | some (c :: content, literal, rest) => some (c :: content, literal, rest)
  | _ => none

theorem quotedBody?_length {quote : Char} {cs content rest : List Char}
    (read : quotedBody? quote cs = some (content, rest)) : rest.length < cs.length := by
  fun_induction quotedBody? quote cs generalizing content rest with
  | case1 => contradiction
  | case2 tail =>
      injection read with read
      injection read with _ restEq
      rw [restEq, List.length_cons]
      omega
  | case3 => contradiction
  | case4 tail _ after escaped _ ih =>
      obtain ⟨pair, found, eq⟩ := Option.map_eq_some_iff.1 read
      injection eq with _ restEq
      have inner := ih found
      have outer := escape?_length escaped
      rw [← restEq, List.length_cons]
      omega
  | case5 => contradiction
  | case6 c tail _ _ _ ih =>
      obtain ⟨pair, found, eq⟩ := Option.map_eq_some_iff.1 read
      injection eq with _ restEq
      have inner := ih found
      rw [← restEq, List.length_cons]
      omega

theorem nameBody?_length {allowed : Char → Bool} {cs content rest : List Char} {literal : Bool}
    (read : nameBody? allowed cs = some (content, literal, rest)) :
    content.length + rest.length ≤ cs.length := by
  fun_induction nameBody? allowed cs generalizing content literal rest with
  | case1 =>
      injection read with read
      injection read with contentEq more
      injection more with _ restEq
      simp [← contentEq, ← restEq]
  | case2 => contradiction
  | case3 allowed digits c after escaped _ ih =>
      obtain ⟨triple, found, eq⟩ := Option.map_eq_some_iff.1 read
      injection eq with contentEq more
      injection more with _ restEq
      have inner := ih found
      have outer := unicodeEscape?_length escaped
      simp only [← restEq, ← contentEq, List.length_cons]
      omega
  | case4 => contradiction
  | case5 => contradiction
  | case6 allowed c tail _ _ ih =>
      obtain ⟨triple, found, eq⟩ := Option.map_eq_some_iff.1 read
      injection eq with contentEq more
      injection more with _ restEq
      have inner := ih found
      simp only [← restEq, ← contentEq, List.length_cons]
      omega
  | case7 =>
      injection read with read
      injection read with contentEq more
      injection more with _ restEq
      simp [← contentEq, ← restEq]

theorem identifier?_length {cs content rest : List Char} {literal : Bool}
    (read : identifier? cs = some (content, literal, rest)) : rest.length < cs.length := by
  unfold identifier? at read
  split at read
  · next c tail _ _ found =>
      have consumed := nameBody?_length found
      injection read with read
      injection read with _ more
      injection more with _ restEq
      subst restEq
      rw [List.length_cons] at consumed
      omega
  · contradiction

theorem afterWord?_length {word cs rest : List Char} (read : afterWord? word cs = some rest) :
    word.length + rest.length = cs.length := by
  induction word generalizing cs with
  | nil =>
      rw [afterWord?] at read
      injection read with read
      simp [read]
  | cons w word ih =>
      cases cs with
      | nil => contradiction
      | cons c tail =>
          rw [afterWord?] at read
          split at read
          · have inner := ih read
            simp only [List.length_cons]
            omega
          · contradiction

theorem hexNumeral?_length {negative : Bool} {cs rest : List Char} {value : Option Number}
    (read : hexNumeral? negative cs = some (value, rest)) : rest.length ≤ cs.length := by
  simp only [hexNumeral?] at read
  have parts := Numeral.length_span Text.isHexDigit cs
  split at read
  · contradiction
  · split at read
    · contradiction
    · injection read with read
      injection read with _ restEq
      rw [← restEq]
      omega

theorem decimalNumeral?_length {negative : Bool} {cs rest : List Char} {value : Option Number}
    (read : decimalNumeral? negative cs = some (value, rest)) : rest.length < cs.length := by
  unfold decimalNumeral? at read
  split at read
  · contradiction
  · next scanned =>
      have shorter := Numeral.scan?_length scanned
      split at read
      · contradiction
      · split at read
        · injection read with read
          injection read with _ restEq
          exact restEq ▸ shorter
        · injection read with read
          injection read with _ restEq
          exact restEq ▸ shorter

theorem unsignedNumeral?_length {negative : Bool} {cs rest : List Char} {value : Option Number}
    (read : unsignedNumeral? negative cs = some (value, rest)) : rest.length < cs.length := by
  unfold unsignedNumeral? at read
  split at read
  · next found =>
      have word := afterWord?_length found
      injection read with read
      injection read with _ restEq
      subst restEq
      simp only [List.length_cons] at word
      omega
  · split at read
    · next found =>
        have word := afterWord?_length found
        injection read with read
        injection read with _ restEq
        subst restEq
        simp only [List.length_cons] at word
        omega
    · split at read
      · have digits := hexNumeral?_length read
        simp only [List.length_cons]
        omega
      · have digits := hexNumeral?_length read
        simp only [List.length_cons]
        omega
      · exact decimalNumeral?_length read

theorem numeral?_length {cs rest : List Char} {value : Option Number}
    (read : numeral? cs = some (value, rest)) : rest.length < cs.length :=
  Nat.lt_of_lt_of_le (unsignedNumeral?_length read) (Numeral.spanSign_length cs)

/-- The tokens of a text; none if some part of it is no token. -/
def ofChars? (cs : List Char) : Option (List Token) :=
  match cs with
  | [] => some []
  | c :: rest =>
      match punctuation? c with
      | some token => (ofChars? rest).map (token :: ·)
      | none =>
          if isSpace c then ofChars? rest
          else if c = '/' then
            match _read : afterComment? rest with
            | none => none
            | some after => ofChars? after
          else if c = '"' ∨ c = '\'' then
            match _read : quotedBody? c rest with
            | none => none
            | some (content, after) =>
                (ofChars? after).map (quoted (String.ofList content) :: ·)
          else if startsNumeral c then
            match _read : numeral? (c :: rest) with
            | none => none
            | some (value, after) => (ofChars? after).map (numeral value :: ·)
          else
            match _read : identifier? (c :: rest) with
            | none => none
            | some (content, literal, after) =>
                (ofChars? after).map (name (String.ofList content) literal :: ·)
termination_by cs.length
decreasing_by
  · simp
  · simp
  · exact Nat.lt_succ_of_le (afterComment?_length _read)
  · exact Nat.lt_succ_of_lt (quotedBody?_length _read)
  · exact numeral?_length _read
  · exact identifier?_length _read

/-- The tokens of a text, from what stands at its front. -/
theorem ofChars?_cons (c : Char) (rest : List Char) :
    ofChars? (c :: rest) =
      match punctuation? c with
      | some token => (ofChars? rest).map (token :: ·)
      | none =>
          if isSpace c then ofChars? rest
          else if c = '/' then (afterComment? rest).bind ofChars?
          else if c = '"' ∨ c = '\'' then
            (quotedBody? c rest).bind fun (content, after) =>
              (ofChars? after).map (quoted (String.ofList content) :: ·)
          else if startsNumeral c then
            (numeral? (c :: rest)).bind fun (value, after) =>
              (ofChars? after).map (numeral value :: ·)
          else
            (identifier? (c :: rest)).bind fun (content, literal, after) =>
              (ofChars? after).map (name (String.ofList content) literal :: ·) := by
  rw [ofChars?]
  split
  · rfl
  · split
    · rfl
    · split
      · split <;> simp_all
      · split
        · split <;> simp_all
        · split
          · split <;> simp_all
          · split <;> simp_all

end Token

end DocFilter
