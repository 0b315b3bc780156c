import DocFilter.Proofs.QuotedTexts
import DocFilter.Proofs.SortedValues
import DocFilter.Proofs.WrittenNumerals
import DocFilter.Value.Reader
import Mathlib.Data.Bool.AllAny

set_option autoImplicit false

namespace DocFilter

namespace Token

theorem ofChars?_punctuation {c : Char} {token : Token} (mark : punctuation? c = some token)
    (rest : List Char) : ofChars? (c :: rest) = (ofChars? rest).map (token :: ·) := by
  rw [ofChars?_cons, mark]

theorem nameBody?_letter {allowed : Char → Bool} {c : Char} (noEscape : c ≠ '\\')
    (allows : allowed c = true) (rest : List Char) :
    nameBody? allowed (c :: rest) =
      (nameBody? Text.continuesIdentifier rest).map fun (more, literal, final) =>
        (c :: more, literal, final) := by
  rw [nameBody?.eq_def]
  simp [allows]

theorem nameBody?_closed {rest : List Char} (closes : Closes rest) :
    nameBody? Text.continuesIdentifier rest = some ([], true, rest) := by
  cases rest with
  | nil => rw [nameBody?]
  | cons c tail =>
      have noEscape : c ≠ '\\' := by
        rcases closes_cons.mp closes with rfl | rfl | rfl <;> decide
      have ends : Text.continuesIdentifier c = false := by
        rcases closes_cons.mp closes with rfl | rfl | rfl <;> decide +kernel
      rw [nameBody?.eq_def]
      simp [ends]

theorem nameBody?_word {word rest : List Char} (closes : Closes rest)
    (letters : ∀ c ∈ word, c ≠ '\\' ∧ Text.continuesIdentifier c = true) :
    nameBody? Text.continuesIdentifier (word ++ rest) = some (word, true, rest) := by
  induction word with
  | nil => exact nameBody?_closed closes
  | cons c more ih =>
      rw [List.forall_mem_cons] at letters
      rw [List.cons_append, nameBody?_letter letters.1.1 letters.1.2, ih letters.2, Option.map_some]

/-- The words of a printed value start with one of three letters. -/
theorem ofChars?_word {c : Char} {word rest : List Char} (first : c ∈ ['n', 't', 'f'])
    (letters : ∀ letter ∈ word, letter ≠ '\\' ∧ Text.continuesIdentifier letter = true)
    (closes : Closes rest) :
    ofChars? (c :: word ++ rest) =
      (ofChars? rest).map (.name (String.ofList (c :: word)) true :: ·) := by
  have plain : punctuation? c = none ∧ isSpace c = false ∧ c ≠ '/' ∧ ¬ (c = '"' ∨ c = '\'') ∧
      startsNumeral c = false ∧ c ≠ '\\' ∧ Text.startsIdentifier c = true := by
    simp only [List.mem_cons, List.not_mem_nil, or_false] at first
    rcases first with rfl | rfl | rfl <;> decide
  obtain ⟨noPunctuation, noSpace, noSlash, noQuotes, noNumeral, noEscape, starts⟩ := plain
  have read : identifier? (c :: (word ++ rest)) = some (c :: word, true, rest) := by
    rw [identifier?, nameBody?_letter noEscape starts, nameBody?_word closes letters]
    rfl
  rw [List.cons_append, ofChars?_cons, noPunctuation]
  simp [noSpace, noSlash, noQuotes, noNumeral, read]

theorem ofChars?_null {rest : List Char} (closes : Closes rest) :
    ofChars? (['n', 'u', 'l', 'l'] ++ rest) = (ofChars? rest).map (.name "null" true :: ·) :=
  ofChars?_word (c := 'n') (by decide) (List.all_iff_forall_prop.mp rfl) closes

theorem ofChars?_true {rest : List Char} (closes : Closes rest) :
    ofChars? (['t', 'r', 'u', 'e'] ++ rest) = (ofChars? rest).map (.name "true" true :: ·) :=
  ofChars?_word (c := 't') (by decide) (List.all_iff_forall_prop.mp rfl) closes

theorem ofChars?_false {rest : List Char} (closes : Closes rest) :
    ofChars? (['f', 'a', 'l', 's', 'e'] ++ rest) = (ofChars? rest).map (.name "false" true :: ·) :=
  ofChars?_word (c := 'f') (by decide) (List.all_iff_forall_prop.mp rfl) closes

end Token

namespace Reader

/-- The state after all tokens of a text. -/
def State.after? (state : State) (cs : List Char) : Option State :=
  (Token.ofChars? cs).bind state.run

theorem State.after?_token {cs rest : List Char} {token : Token}
    (read : Token.ofChars? cs = (Token.ofChars? rest).map (token :: ·)) (state : State) :
    state.after? cs = (state.step token).bind fun next => next.after? rest := by
  rw [after?, read]
  cases found : Token.ofChars? rest with
  | none => cases state.step token <;> simp [after?, found]
  | some tokens => cases stepped : state.step token <;> simp [after?, run, stepped, found]

/-- A state in which a value may start, with the place that the value will have. -/
inductive Awaits : State → Context → Prop where
  | value (context : Context) : Awaits (.value context) context
  | item (before : List Value) (outer : Context) :
      Awaits (.item before outer) (.item before outer)

theorem Awaits.step {state : State} {context : Context} (awaits : Awaits state context)
    {token : Token} (opens : token ≠ .closeBracket) :
    state.step token = startValue context token := by
  cases awaits with
  | value => rfl
  | item before outer =>
      cases token with
      | closeBracket => exact absurd rfl opens
      | _ => rfl

/-- Wherever a value may start, the printed value is taken in as that value. -/
def ReadsBack (value : Value) : Prop :=
  ∀ {state : State} {context : Context} {rest : List Char}, Awaits state context →
    Token.Closes rest → state.after? (value.compact ++ rest) =
      (context.fill value.sorted).after? rest

theorem after?_single {state : State} {context : Context} {cs rest : List Char} {token : Token}
    {value : Value} (awaits : Awaits state context)
    (read : Token.ofChars? cs = (Token.ofChars? rest).map (token :: ·))
    (denotes : startValue context token = some (context.fill value))
    (opens : token ≠ .closeBracket) : state.after? cs = (context.fill value).after? rest := by
  rw [State.after?_token read, awaits.step opens, denotes, Option.bind_some]

theorem closes_moreItems (items : List Value) (rest : List Char) :
    Token.Closes (Value.compactMoreItems items ++ ']' :: rest) := by
  cases items with
  | nil => exact Token.closes_cons.mpr (by decide)
  | cons item more => exact Token.closes_cons.mpr (by decide)

theorem closes_moreEntries (entries : List (String × Value)) (rest : List Char) :
    Token.Closes (Value.compactMoreEntries entries ++ '}' :: rest) := by
  cases entries with
  | nil => exact Token.closes_cons.mpr (by decide)
  | cons entry more => exact Token.closes_cons.mpr (by decide)

/-- From the end of an item on, the items that follow are added to those before. -/
theorem after?_moreItems {items : List Value} (each : ∀ item ∈ items, ReadsBack item)
    (before : List Value) (outer : Context) (rest : List Char) :
    (State.itemEnd before outer).after? (Value.compactMoreItems items ++ ']' :: rest) =
      (outer.fill (.array (before.reverse ++ Value.sortedItems items))).after? rest := by
  induction items generalizing before with
  | nil =>
      have closing := Token.ofChars?_punctuation (show Token.punctuation? ']' = _ from rfl) rest
      rw [Value.compactMoreItems, List.nil_append, State.after?_token closing, State.step,
        Option.bind_some, Value.sortedItems, List.append_nil]
  | cons item more ih =>
      rw [List.forall_mem_cons] at each
      have comma := Token.ofChars?_punctuation (show Token.punctuation? ',' = _ from rfl)
        (item.compact ++ (Value.compactMoreItems more ++ ']' :: rest))
      have taken := each.1 (Awaits.item before outer) (closes_moreItems more rest)
      rw [Value.compactMoreItems, List.cons_append, List.cons_append, List.append_assoc,
        State.after?_token comma, State.step, Option.bind_some, taken, Context.fill, ih each.2,
        Value.sortedItems, List.reverse_cons, List.append_assoc, List.singleton_append]

theorem after?_items {items : List Value} (each : ∀ item ∈ items, ReadsBack item)
    (outer : Context) (rest : List Char) :
    (State.item [] outer).after? (Value.compactItems items ++ ']' :: rest) =
      (outer.fill (.array (Value.sortedItems items))).after? rest := by
  cases items with
  | nil =>
      have closing := Token.ofChars?_punctuation (show Token.punctuation? ']' = _ from rfl) rest
      rw [Value.compactItems, List.nil_append, State.after?_token closing, State.step,
        Option.bind_some, Value.sortedItems, List.reverse_nil]
  | cons item more =>
      rw [List.forall_mem_cons] at each
      have taken := each.1 (Awaits.item [] outer) (closes_moreItems more rest)
      rw [Value.compactItems, List.append_assoc, taken, Context.fill, after?_moreItems each.2,
        Value.sortedItems, List.reverse_singleton, List.singleton_append]

/-- A key with its value is put in among the entries before. -/
theorem after?_entry {value : Value} (readsBack : ReadsBack value) (key : String)
    (before : List (String × Value)) (outer : Context) {rest : List Char}
    (closes : Token.Closes rest) :
    (State.key before outer).after? (Text.quoted key ++ ':' :: (value.compact ++ rest)) =
      (State.entryEnd (Entries.insert key value.sorted before) outer).after? rest := by
  have label := Token.ofChars?_quoted key (':' :: (value.compact ++ rest))
  have colon := Token.ofChars?_punctuation (show Token.punctuation? ':' = _ from rfl)
    (value.compact ++ rest)
  rw [State.after?_token label, State.step, Option.bind_some, State.after?_token colon, State.step,
    Option.bind_some, readsBack (Awaits.value _) closes, Context.fill]

theorem after?_moreEntries {entries : List (String × Value)}
    (each : ∀ entry ∈ entries, ReadsBack entry.2) (before : List (String × Value))
    (outer : Context) (rest : List Char) :
    (State.entryEnd before outer).after? (Value.compactMoreEntries entries ++ '}' :: rest) =
      (outer.fill (.mapping ((Value.sortedEntries entries).foldl
        (fun entries pair => Entries.insert pair.1 pair.2 entries) before))).after? rest := by
  induction entries generalizing before with
  | nil =>
      have closing := Token.ofChars?_punctuation (show Token.punctuation? '}' = _ from rfl) rest
      rw [Value.compactMoreEntries, List.nil_append, State.after?_token closing, State.step,
        Option.bind_some, Value.sortedEntries, List.foldl_nil]
  | cons entry more ih =>
      obtain ⟨key, value⟩ := entry
      rw [List.forall_mem_cons] at each
      have comma := Token.ofChars?_punctuation (show Token.punctuation? ',' = _ from rfl)
        (Text.quoted key ++
          ':' :: (value.compact ++ (Value.compactMoreEntries more ++ '}' :: rest)))
      have taken := after?_entry each.1 key before outer (closes_moreEntries more rest)
      simp only [Value.compactMoreEntries, List.cons_append, List.append_assoc]
      rw [State.after?_token comma, State.step, Option.bind_some, taken, ih each.2,
        Value.sortedEntries, List.foldl_cons]

theorem after?_entries {entries : List (String × Value)}
    (each : ∀ entry ∈ entries, ReadsBack entry.2) (outer : Context) (rest : List Char) :
    (State.key [] outer).after? (Value.compactEntries entries ++ '}' :: rest) =
      (outer.fill (.mapping (Entries.ofList (Value.sortedEntries entries)))).after? rest := by
  cases entries with
  | nil =>
      have closing := Token.ofChars?_punctuation (show Token.punctuation? '}' = _ from rfl) rest
      rw [Value.compactEntries, List.nil_append, State.after?_token closing, State.step,
        Option.bind_some, Value.sortedEntries]
      rfl
  | cons entry more =>
      obtain ⟨key, value⟩ := entry
      rw [List.forall_mem_cons] at each
      have taken := after?_entry each.1 key [] outer (closes_moreEntries more rest)
      simp only [Value.compactEntries, List.cons_append, List.append_assoc]
      rw [taken, after?_moreEntries each.2, Value.sortedEntries, Entries.ofList, List.foldl_cons]

theorem readsBack_of_floatFree {value : Value} (free : value.FloatFree) : ReadsBack value := by
  induction free with
  | null =>
      intro state context rest awaits closes
      exact after?_single awaits (Token.ofChars?_null closes) rfl (by decide)
  | bool truth =>
      intro state context rest awaits closes
      cases truth with
      | true => exact after?_single awaits (Token.ofChars?_true closes) rfl (by decide)
      | false => exact after?_single awaits (Token.ofChars?_false closes) rfl (by decide)
  | integer value lower upper =>
      intro state context rest awaits closes
      exact after?_single awaits (Token.ofChars?_integer lower upper closes) rfl (by simp)
  | string text =>
      intro state context rest awaits closes
      exact after?_single awaits (Token.ofChars?_quoted text rest) rfl (by simp)
  | array items each ih =>
      intro state context rest awaits closes
      have opening := Token.ofChars?_punctuation (show Token.punctuation? '[' = _ from rfl)
        (Value.compactItems items ++ ']' :: rest)
      rw [Value.compact, List.cons_append, List.cons_append, List.append_assoc,
        List.singleton_append, State.after?_token opening, awaits.step (by decide), startValue,
        Option.bind_some, after?_items ih, Value.sorted]
  | mapping entries each ih =>
      intro state context rest awaits closes
      have opening := Token.ofChars?_punctuation (show Token.punctuation? '{' = _ from rfl)
        (Value.compactEntries entries ++ '}' :: rest)
      rw [Value.compact, List.cons_append, List.cons_append, List.append_assoc,
        List.singleton_append, State.after?_token opening, awaits.step (by decide), startValue,
        Option.bind_some, after?_entries ih, Value.sorted]

end Reader

namespace Value

/-- The text of a value denotes the value, its entries in order. -/
theorem ofText?_compactText {value : Value} (free : value.FloatFree) :
    ofText? value.compactText = some value.sorted := by
  have taken := Reader.readsBack_of_floatFree free (Reader.Awaits.value .top) Token.closes_nil
  rw [List.append_nil, Reader.State.after?] at taken
  rw [ofText?, compactText, String.toList_ofList]
  cases tokens : Token.ofChars? value.compact with
  | none =>
      rw [tokens] at taken
      simp [Reader.State.after?, Token.ofChars?, Reader.State.run] at taken
  | some tokens' =>
      rw [tokens] at taken
      simp only [Option.bind_some] at taken
      simp [ofTokens?, taken, Reader.State.after?, Token.ofChars?, Reader.State.run,
        Reader.Context.fill]

theorem Canonical.ofText?_compactText {value : Value} (canonical : value.Canonical)
    (free : value.FloatFree) : ofText? value.compactText = some value := by
  rw [Value.ofText?_compactText free, canonical.sorted_eq]

end Value

end DocFilter
