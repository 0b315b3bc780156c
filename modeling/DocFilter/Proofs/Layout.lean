import DocFilter.Proofs.QuotedTexts
import DocFilter.Proofs.SortedValues
import DocFilter.Proofs.WrittenNumerals
import DocFilter.Value.Printer

set_option autoImplicit false

namespace DocFilter

namespace Text

/-- Where a character of a JSON text stands. -/
inductive Place where
  | outside
  /-- In a string literal. -/
  | quoted
  /-- In a string literal, right behind a backslash. -/
  | escape

namespace Place

def after : Place → Char → Place
  | outside, c => if c = '"' then quoted else outside
  | quoted, c => if c = '"' then outside else if c = '\\' then escape else quoted
  | escape, _ => quoted

def behind (place : Place) (cs : List Char) : Place :=
  cs.foldl after place

def isLayout : Place → Char → Bool
  | outside, c => isBlank c
  | _, _ => false

theorem behind_cons (place : Place) (c : Char) (rest : List Char) :
    place.behind (c :: rest) = (place.after c).behind rest := rfl

theorem behind_append (place : Place) (first second : List Char) :
    place.behind (first ++ second) = (place.behind first).behind second := by
  rw [behind, behind, behind, List.foldl_append]

/-- White space outside of string literals does not start one. -/
theorem after_of_isLayout {place : Place} {c : Char} (layout : place.isLayout c = true) :
    place.after c = place := by
  cases place with
  | outside =>
      have noQuote : c ≠ '"' := by
        rintro rfl
        exact absurd layout (by decide)
      rw [after, if_neg noQuote]
  | quoted => cases layout
  | escape => cases layout

end Place

/-- What is left of a text that starts at a place, the white space outside of string literals being
dropped. -/
def withoutLayout (place : Place) : List Char → List Char
  | [] => []
  | c :: rest =>
      if place.isLayout c then withoutLayout (place.after c) rest
      else c :: withoutLayout (place.after c) rest

theorem withoutLayout_append (place : Place) (first second : List Char) :
    withoutLayout place (first ++ second) =
      withoutLayout place first ++ withoutLayout (place.behind first) second := by
  induction first generalizing place with
  | nil => rfl
  | cons c rest ih =>
      rw [List.cons_append, withoutLayout, withoutLayout, ih, Place.behind_cons]
      split <;> rfl

/-- Nothing is dropped twice, and nothing that is dropped decides where the rest stands. -/
theorem withoutLayout_idempotent (place : Place) (cs : List Char) :
    withoutLayout place (withoutLayout place cs) = withoutLayout place cs ∧
      place.behind (withoutLayout place cs) = place.behind cs := by
  induction cs generalizing place with
  | nil => exact ⟨rfl, rfl⟩
  | cons c rest ih =>
      by_cases layout : place.isLayout c = true
      · rw [withoutLayout, if_pos layout, Place.behind_cons, Place.after_of_isLayout layout]
        exact ih place
      · obtain ⟨again, behind⟩ := ih (place.after c)
        rw [withoutLayout, if_neg layout, withoutLayout, if_neg layout, again, Place.behind_cons,
          Place.behind_cons, behind]
        exact ⟨rfl, rfl⟩

/-- A text behind which one stands as before it, and what is left of it without its layout. -/
structure LaidOut (place : Place) (cs bare : List Char) : Prop where
  ends : place.behind cs = place
  left : withoutLayout place cs = bare

namespace LaidOut

variable {place : Place} {c : Char} {cs bare : List Char}

theorem nil : LaidOut place [] [] := ⟨rfl, rfl⟩

theorem append {first second bareFirst bareSecond : List Char}
    (left : LaidOut place first bareFirst) (right : LaidOut place second bareSecond) :
    LaidOut place (first ++ second) (bareFirst ++ bareSecond) where
  ends := by rw [Place.behind_append, left.ends, right.ends]
  left := by rw [withoutLayout_append, left.ends, left.left, right.left]

theorem cons (stays : place.after c = place) (kept : place.isLayout c = false)
    (rest : LaidOut place cs bare) : LaidOut place (c :: cs) (c :: bare) where
  ends := by rw [Place.behind_cons, stays, rest.ends]
  left := by
    have visible : ¬ place.isLayout c = true := by simp [kept]
    rw [withoutLayout, if_neg visible, stays, rest.left]

theorem cons_layout (layout : place.isLayout c = true) (rest : LaidOut place cs bare) :
    LaidOut place (c :: cs) bare where
  ends := by rw [Place.behind_cons, Place.after_of_isLayout layout, rest.ends]
  left := by rw [withoutLayout, if_pos layout, Place.after_of_isLayout layout, rest.left]

theorem of_plain (stays : ∀ c ∈ cs, place.after c = place)
    (kept : ∀ c ∈ cs, place.isLayout c = false) : LaidOut place cs cs := by
  induction cs with
  | nil => exact nil
  | cons c rest ih =>
      rw [List.forall_mem_cons] at stays kept
      exact cons stays.1 kept.1 (ih stays.2 kept.2)

theorem of_layout (layout : ∀ c ∈ cs, place.isLayout c = true) : LaidOut place cs [] := by
  induction cs with
  | nil => exact nil
  | cons c rest ih =>
      rw [List.forall_mem_cons] at layout
      exact cons_layout layout.1 (ih layout.2)

/-- Dropping the layout once is enough. -/
theorem bare_self (laidOut : LaidOut place cs bare) : LaidOut place bare bare := by
  obtain ⟨again, behind⟩ := withoutLayout_idempotent place cs
  rw [laidOut.left] at again behind
  exact ⟨behind.trans laidOut.ends, again⟩

end LaidOut

/-- What stands for a character in a string literal does not leave the literal. -/
theorem laidOut_escaped (c : Char) : LaidOut .quoted (escaped c) (escaped c) := by
  have stays : ∀ d, d ≠ '"' ∧ d ≠ '\\' → Place.quoted.after d = .quoted := by
    intro d plain
    rw [Place.after, if_neg plain.1, if_neg plain.2]
  rcases Token.escaped_cases c with ⟨itself, noQuote, noBackslash, -, -⟩ |
    ⟨mark, digits, written, plain, -⟩
  · rw [itself]
    exact .cons (stays c ⟨noQuote, noBackslash⟩) rfl .nil
  · have rest : LaidOut .quoted digits digits :=
      .of_plain (fun d member => stays d (plain d member)) fun _ _ => rfl
    rw [written]
    exact ⟨rest.ends, congrArg (fun tail => '\\' :: mark :: tail) rest.left⟩

theorem laidOut_escapedText (cs : List Char) :
    LaidOut .quoted (cs.flatMap escaped) (cs.flatMap escaped) := by
  induction cs with
  | nil => exact .nil
  | cons c rest ih =>
      rw [List.flatMap_cons]
      exact (laidOut_escaped c).append ih

/-- Nothing is dropped from a string literal, and behind it one is outside again. -/
theorem laidOut_quoted (text : String) : LaidOut .outside (quoted text) (quoted text) := by
  have body := laidOut_escapedText text.toList
  constructor
  · show Place.quoted.behind (text.toList.flatMap escaped ++ ['"']) = .outside
    rw [Place.behind_append, body.ends]
    rfl
  · show '"' :: withoutLayout .quoted (text.toList.flatMap escaped ++ ['"']) = quoted text
    rw [withoutLayout_append, body.left, body.ends]
    rfl

theorem laidOut_number (number : Number) : LaidOut .outside number.text number.text := by
  have numeric := isNumeric_of_mem_text number
  apply LaidOut.of_plain
  · intro c member
    rw [Place.after, if_neg (numeric c member).noQuote]
  · intro c member
    exact (numeric c member).notBlank

/-- The text without the white space outside of its string literals. -/
def unformatted (text : String) : String :=
  String.ofList (withoutLayout .outside text.toList)

end Text

namespace Value

open Text (LaidOut laidOut_quoted laidOut_number)

theorem laidOut_lineBreak (depth : Nat) : LaidOut .outside (lineBreak depth) [] := by
  apply LaidOut.of_layout
  rw [lineBreak, List.forall_mem_cons]
  refine ⟨by decide, ?_⟩
  intro c member
  obtain rfl := List.eq_of_mem_replicate member
  decide

variable {depth : Nat}

theorem laidOut_moreItems {items : List Value}
    (each : ∀ item ∈ items, LaidOut .outside (item.indented depth) item.compact) :
    LaidOut .outside (indentedMoreItems depth items) (compactMoreItems items) := by
  induction items with
  | nil => exact .nil
  | cons item rest ih =>
      rw [List.forall_mem_cons] at each
      exact .cons rfl (by decide) (((laidOut_lineBreak depth).append each.1).append (ih each.2))

theorem laidOut_items {items : List Value}
    (each : ∀ item ∈ items, LaidOut .outside (item.indented depth) item.compact) :
    LaidOut .outside (indentedItems depth items) (compactItems items) := by
  cases items with
  | nil => exact .nil
  | cons item rest =>
      rw [List.forall_mem_cons] at each
      exact ((laidOut_lineBreak depth).append each.1).append (laidOut_moreItems each.2)

theorem laidOut_entry (key : String) {value : Value}
    (inner : LaidOut .outside (value.indented depth) value.compact) :
    LaidOut .outside (lineBreak depth ++ Text.quoted key ++ ':' :: ' ' :: value.indented depth)
      (Text.quoted key ++ ':' :: value.compact) := by
  have colon : LaidOut .outside (':' :: ' ' :: value.indented depth) (':' :: value.compact) :=
    .cons rfl (by decide) (.cons_layout (by decide) inner)
  exact ((laidOut_lineBreak depth).append (laidOut_quoted key)).append colon

theorem laidOut_moreEntries {entries : List (String × Value)}
    (each : ∀ entry ∈ entries, LaidOut .outside (entry.2.indented depth) entry.2.compact) :
    LaidOut .outside (indentedMoreEntries depth entries) (compactMoreEntries entries) := by
  induction entries with
  | nil => exact .nil
  | cons entry rest ih =>
      obtain ⟨key, value⟩ := entry
      rw [List.forall_mem_cons] at each
      have line := (laidOut_entry key each.1).append (ih each.2)
      exact .cons rfl (by decide) line

theorem laidOut_entries {entries : List (String × Value)}
    (each : ∀ entry ∈ entries, LaidOut .outside (entry.2.indented depth) entry.2.compact) :
    LaidOut .outside (indentedEntries depth entries) (compactEntries entries) := by
  cases entries with
  | nil => exact .nil
  | cons entry rest =>
      obtain ⟨key, value⟩ := entry
      rw [List.forall_mem_cons] at each
      exact (laidOut_entry key each.1).append (laidOut_moreEntries each.2)

/-- Indentation is layout, whatever the value and the depth at which it stands. -/
theorem laidOut_indented (value : Value) (depth : Nat) :
    LaidOut .outside (value.indented depth) value.compact := by
  induction value generalizing depth with
  | null => exact ⟨rfl, rfl⟩
  | bool truth =>
      cases truth with
      | true => exact ⟨rfl, rfl⟩
      | false => exact ⟨rfl, rfl⟩
  | number value => exact laidOut_number value
  | string text => exact laidOut_quoted text
  | array items ih =>
      cases items with
      | nil => exact ⟨rfl, rfl⟩
      | cons item rest =>
          have body := laidOut_items fun other member => ih other member (depth + 1)
          have close : LaidOut .outside [']'] [']'] := .cons rfl (by decide) .nil
          have whole := (body.append (laidOut_lineBreak depth)).append close
          rw [List.append_nil] at whole
          exact .cons rfl (by decide) whole
  | mapping entries ih =>
      cases entries with
      | nil => exact ⟨rfl, rfl⟩
      | cons entry rest =>
          have body := laidOut_entries fun other member => ih other member (depth + 1)
          have close : LaidOut .outside ['}'] ['}'] := .cons rfl (by decide) .nil
          have whole := (body.append (laidOut_lineBreak depth)).append close
          rw [List.append_nil] at whole
          exact .cons rfl (by decide) whole

theorem unformatted_indentedText (value : Value) :
    Text.unformatted value.indentedText = value.compactText := by
  rw [Text.unformatted, indentedText, String.toList_ofList, (laidOut_indented value 0).left,
    compactText]

theorem unformatted_compactText (value : Value) :
    Text.unformatted value.compactText = value.compactText := by
  have laidOut := (laidOut_indented value 0).bare_self
  rw [Text.unformatted, compactText, String.toList_ofList, laidOut.left]

end Value

end DocFilter
