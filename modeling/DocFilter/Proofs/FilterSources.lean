import DocFilter.Cli.Run
import DocFilter.Proofs.PrintedValues

set_option autoImplicit false

namespace DocFilter

open Text (Trimmed)

theorem Value.FloatFree.trimmed {value : Value} (free : value.FloatFree) :
    Trimmed value.compact := by
  cases free with
  | null => exact Text.trimmed_of_solid (List.all_iff_forall_prop.mp rfl)
  | bool truth =>
      cases truth with
      | true => exact Text.trimmed_of_solid (List.all_iff_forall_prop.mp rfl)
      | false => exact Text.trimmed_of_solid (List.all_iff_forall_prop.mp rfl)
  | integer value lower upper => exact Text.trimmed_of_solid fun c member =>
      (isNumeric_of_mem_intText c member).notBlank
  | string text => exact Text.trimmed_enclosed (by decide) (by decide) _
  | array items each => exact Text.trimmed_enclosed (by decide) (by decide) _
  | mapping entries each => exact Text.trimmed_enclosed (by decide) (by decide) _

namespace FilterSet

/-- A key that can stand before the equals sign of an argument and is read as it is written. -/
structure IsInlineKey (key : String) : Prop where
  nonempty : key ≠ ""
  noEquals : '=' ∉ key.toList
  trimmed : Trimmed key.toList

def inlineArgument (entry : String × Value) : String :=
  entry.1 ++ "=" ++ entry.2.compactText

theorem takeWhile_cut {front : List Char} (noEquals : '=' ∉ front) (rest : List Char) :
    (front ++ '=' :: rest).takeWhile (· != '=') = front ∧
      (front ++ '=' :: rest).dropWhile (· != '=') = '=' :: rest := by
  have before : ∀ c ∈ front, (c != '=') = true := by
    intro c member
    rw [bne_iff_ne]
    rintro rfl
    exact noEquals member
  rw [List.takeWhile_append_of_pos before, List.dropWhile_append_of_pos before]
  simp

theorem toList_cut (front text : String) :
    (front ++ "=" ++ text).toList = front.toList ++ '=' :: text.toList := by
  simp

/-- A key and a text without white space around them are read as they are. -/
theorem parseInline_of_trimmed {key text : String} (inline : IsInlineKey key)
    (trimmed : Trimmed text.toList) :
    parseInline (key ++ "=" ++ text) = .ok (key, (Value.ofText? text).getD (.string text)) := by
  obtain ⟨front, back⟩ := takeWhile_cut inline.noEquals text.toList
  have named : key.toList.isEmpty = false := by
    simpa [List.isEmpty_iff] using inline.nonempty
  simp only [parseInline, toList_cut, front, back, inline.trimmed.trim_eq, trimmed.trim_eq, named,
    String.ofList_toList, Bool.false_eq_true, ↓reduceIte]

theorem parseInline_inlineArgument {key : String} {value : Value} (inline : IsInlineKey key)
    (canonical : value.Canonical) (free : value.FloatFree) :
    parseInline (inlineArgument (key, value)) = .ok (key, value) := by
  have trimmed : Trimmed value.compactText.toList := by
    simpa [Value.compactText] using free.trimmed
  rw [inlineArgument, parseInline_of_trimmed inline trimmed, canonical.ofText?_compactText free,
    Option.getD_some]

theorem withInline_map {α : Type} {argument : α → String} {pair : α → String × Value}
    {items : List α} (each : ∀ item ∈ items, parseInline (argument item) = .ok (pair item))
    (filters : FilterSet) :
    withInline filters (items.map argument) =
      .ok ((items.map pair).foldl (fun filled pair => filled.insert pair.1 pair.2) filters) := by
  induction items generalizing filters with
  | nil => rfl
  | cons item rest ih =>
      rw [List.forall_mem_cons] at each
      rw [List.map_cons, withInline, each.1]
      exact ih each.2 (filters.insert (pair item).1 (pair item).2)

/-- Arguments that are read as the pairs they were written for put these pairs into the set. -/
theorem withInline_inlineArguments {pairs : List (String × Value)}
    (each : ∀ pair ∈ pairs, parseInline (inlineArgument pair) = .ok pair) (filters : FilterSet) :
    withInline filters (pairs.map inlineArgument) =
      .ok (pairs.foldl (fun filled pair => filled.insert pair.1 pair.2) filters) := by
  have read : withInline filters (pairs.map inlineArgument) =
      .ok ((pairs.map id).foldl _ filters) := withInline_map each filters
  rwa [List.map_id] at read

theorem ofText_compactText {filters : FilterSet}
    (canonical : (Value.mapping filters.entries).Canonical)
    (free : (Value.mapping filters.entries).FloatFree) :
    ofText (Value.mapping filters.entries).compactText = .ok filters := by
  rw [ofText, canonical.ofText?_compactText free]
  exact congrArg Except.ok filters.ofList_entries

end FilterSet

namespace Cli

theorem readText_of_utf8 {read : Reader} {path text : String}
    (content : read path = .ok text.toUTF8) : readText read path = .ok text := by
  have decoded : String.fromUTF8? text.toUTF8 = some text := by
    rw [String.fromUTF8?, dif_pos (show text.toUTF8.IsValidUTF8 from text.isValidUTF8)]
    rfl
  rw [readText, content]
  simp only [decoded]

theorem readFilters_file {read : Reader} {filters : FilterSet} (nonempty : filters.entries ≠ [])
    {document path text : String} (content : read path = .ok text.toUTF8)
    (parsed : FilterSet.ofText text = .ok filters) :
    readFilters read ⟨document, some path, []⟩ = .ok filters := by
  have loaded : loadFile read (some path) = .ok filters := by
    rw [loadFile, readText_of_utf8 content]
    simp only [parsed]
  simp [readFilters, loaded, FilterSet.withInline, nonempty]

theorem readFilters_inline (read : Reader) {filters : FilterSet}
    (nonempty : filters.entries ≠ []) (document : String) {arguments : List String}
    (parsed : FilterSet.withInline .empty arguments = .ok filters) :
    readFilters read ⟨document, none, arguments⟩ = .ok filters := by
  simp [readFilters, loadFile, parsed, nonempty]

/-- A filter set without binary64 numbers is read back from a file that holds its text, and from
arguments that give its filters one by one in any order. -/
theorem readFilters_file_or_inline {filters : FilterSet} (nonempty : filters.entries ≠ [])
    (keys : ∀ key ∈ filters.keys, FilterSet.IsInlineKey key)
    (values : ∀ entry ∈ filters.entries, entry.2.Canonical ∧ entry.2.FloatFree)
    (document : String) :
    (∀ (read : Reader) (path : String),
      read path = .ok (Value.mapping filters.entries).compactText.toUTF8 →
        readFilters read ⟨document, some path, []⟩ = .ok filters) ∧
    ∀ (read : Reader) (order : List (String × Value)), order.Perm filters.entries →
      readFilters read ⟨document, none, order.map FilterSet.inlineArgument⟩ = .ok filters := by
  constructor
  · intro read path content
    have canonical : (Value.mapping filters.entries).Canonical :=
      ⟨filters.ascending, (Value.canonicalEntries_iff _).mpr fun entry member =>
        (values entry member).1⟩
    have free : (Value.mapping filters.entries).FloatFree :=
      .mapping _ fun entry member => (values entry member).2
    exact readFilters_file nonempty content (FilterSet.ofText_compactText canonical free)
  · intro read order perm
    have each : ∀ pair ∈ order,
        FilterSet.parseInline (FilterSet.inlineArgument pair) = .ok pair := by
      intro pair member
      have present : pair ∈ filters.entries := perm.mem_iff.mp member
      have key := keys pair.1 (List.mem_map_of_mem present)
      obtain ⟨canonical, free⟩ := values pair present
      exact FilterSet.parseInline_inlineArgument key canonical free
    apply readFilters_inline read nonempty
    rw [FilterSet.withInline_inlineArguments each, OrderedMap.foldl_insert_of_perm perm]

/-- Both limits of the integers, and a text with quotes, a line feed and a line separator, which is
not escaped, as a key inside. -/
def extremeFilters : FilterSet :=
  OrderedMap.ofList [
    ("size__in", .array [.number (.integer 18446744073709551615 (by decide) (by decide)),
      .number (.integer (-9223372036854775808) (by decide) (by decide)), .null]),
    ("profile", .mapping [("\"a\n\u2028=", .mapping [("", .bool false)])])]

theorem readFilters_extremeFilters :
    readFilters (fun _ => .ok (Value.mapping extremeFilters.entries).compactText.toUTF8)
      ⟨"User", some "filters.json", []⟩ = .ok extremeFilters ∧
    readFilters (fun _ => .error .notFound)
      ⟨"User", none, extremeFilters.entries.reverse.map FilterSet.inlineArgument⟩ =
        .ok extremeFilters := by
  have nonempty : extremeFilters.entries ≠ [] := by decide
  have keys : ∀ key ∈ extremeFilters.keys, FilterSet.IsInlineKey key := by
    have all : extremeFilters.keys = ["profile", "size__in"] := rfl
    rw [all, List.forall_mem_cons, List.forall_mem_singleton]
    exact ⟨⟨by decide, by decide, Text.trimmed_of_solid (List.all_iff_forall_prop.mp rfl)⟩,
      by decide, by decide, Text.trimmed_of_solid (List.all_iff_forall_prop.mp rfl)⟩
  have values : ∀ entry ∈ extremeFilters.entries, entry.2.Canonical ∧ entry.2.FloatFree := by
    have all : extremeFilters.entries = [
        ("profile", .mapping [("\"a\n\u2028=", .mapping [("", .bool false)])]),
        ("size__in", .array [.number (.integer 18446744073709551615 (by decide) (by decide)),
          .number (.integer (-9223372036854775808) (by decide) (by decide)), .null])] := rfl
    rw [all]
    simp [Value.Canonical, Value.CanonicalItems, Value.CanonicalEntries, Entries.Ascending,
      Value.floatFree_array_iff, Value.floatFree_mapping_iff]
  obtain ⟨fromFile, fromArguments⟩ := readFilters_file_or_inline nonempty keys values "User"
  exact ⟨fromFile _ _ rfl, fromArguments _ _ (List.reverse_perm _)⟩

end Cli

end DocFilter
