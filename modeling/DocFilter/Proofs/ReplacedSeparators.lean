import DocFilter.Proofs.CanonicalKeys

set_option autoImplicit false

namespace DocFilter

namespace FilterKey

open String.Slice.Pattern String.Slice.Pattern.Model

instance separator_strict : StrictPatternModel "__" :=
  ForwardStringSearcher.strictPatternModel (by decide)

instance separator_lawful : LawfulToForwardSearcherModel "__" :=
  ForwardStringSearcher.lawfulToForwardSearcherModel (by decide)

section Search

variable {text : String.Slice} {first position stop : text.Pos}

def remaining (position : text.Pos) : List Char :=
  (text.sliceFrom position).copy.toList

def between (le : first ≤ position) : List Char :=
  (text.slice first position le).copy.toList

theorem remaining_startPos (key : String) : remaining key.toSlice.startPos = key.toList := by
  simp [remaining]

theorem remaining_endPos : remaining text.endPos = [] := by
  simp [remaining]

theorem modifyHead_between_self (row : List (List Char)) :
    row.modifyHead (between (Std.le_refl position) ++ ·) = row := by
  cases row <;> simp [between]

theorem remaining_next (inside : position ≠ text.endPos) :
    remaining position = position.get inside :: remaining (position.next inside) := by
  rw [remaining, position.splits.eq_right (position.splits_next_right inside),
    String.toList_append, String.toList_singleton]
  rfl

theorem between_next (le : first ≤ position) (inside : position ≠ text.endPos)
    (le_next : first ≤ position.next inside) :
    between le_next = between le ++ [position.get inside] := by
  have whole := String.Slice.copy_eq_copy_slice (h := le)
  rw [String.Slice.copy_eq_copy_slice (h := le_next), String.append_assoc, String.append_assoc,
    String.append_right_inj, ← String.toList_inj, String.toList_append,
    String.toList_append] at whole
  change between le_next ++ remaining (position.next inside) =
    between le ++ remaining position at whole
  rw [remaining_next inside, ← List.singleton_append, ← List.append_assoc] at whole
  exact List.append_cancel_right whole

theorem remaining_of_match (found : IsLongestMatchAt "__" position stop) :
    remaining position = '_' :: '_' :: remaining stop := by
  obtain ⟨before, rest, atStart, atStop⟩ :=
    ForwardStringSearcher.isLongestMatchAt_iff_splits.mp found
  rw [remaining, remaining, atStart.copy_sliceFrom_eq, atStop.copy_sliceFrom_eq,
    String.toList_append]
  rfl

theorem noPair_of_noMatch (clear : ¬ MatchesAt "__" position) :
    ¬ ['_', '_'] <+: remaining position := by
  intro pair
  obtain ⟨rest, same⟩ := pair
  have cut : (text.sliceFrom position).copy = "__" ++ String.ofList rest := by
    rw [← String.toList_inj, ← remaining, ← same, String.toList_append, String.toList_ofList,
      String.toList_ofList]
  apply clear
  rw [ForwardStringSearcher.matchesAt_iff_splits]
  exact ⟨_, _, position.splits.of_eq rfl cut⟩

/-- The library cuts what is left at a position into its parts. What it has passed since it last cut
belongs to the first of them. -/
theorem modelSplit_eq (le : first ≤ position) :
    (Model.split "__" first position le).map (·.toSlice.copy.toList) =
      (parts (remaining position)).modifyHead (between le ++ ·) := by
  induction first, position, le using Model.split.induct "__" with
  | case1 first le => simp [remaining_endPos, parts, between]
  | case2 first position le inside stop found lt ih =>
      rw [matchAt?_eq_some_iff] at found
      rw [modifyHead_between_self] at ih
      rw [split_eq_of_isLongestMatchAt found, List.map_cons, ih, remaining_of_match found,
        parts_separator, List.modifyHead_cons, List.append_nil]
      rfl
  | case3 first position le inside clear ih =>
      rw [matchAt?_eq_none_iff] at clear
      have noPair := noPair_of_noMatch clear
      rw [remaining_next inside] at noPair
      rw [split_eq_next_of_not_matchesAt inside clear, ih, remaining_next inside,
        parts_cons noPair, List.modifyHead_modifyHead, between_next le]
      simp only [List.append_assoc, List.singleton_append, Function.comp_def]

/-- Text in which no separator starts belongs to the first part of what follows. -/
theorem parts_remaining_of_clear (le : position ≤ stop)
    (clear : ∀ other : text.Pos, position ≤ other → other < stop → ¬ MatchesAt "__" other) :
    parts (remaining position) = (parts (remaining stop)).modifyHead (between le ++ ·) := by
  have whole := modelSplit_eq (Std.le_refl position)
  rw [modifyHead_between_self, split_eq_of_not_matchesAt stop le clear, modelSplit_eq le] at whole
  exact whole.symm

theorem dotted_cons_nil {row : List (List Char)} (nonempty : row ≠ []) :
    Text.dotted ([] :: row) = "." ++ Text.dotted row := by
  rw [Text.dotted, List.intercalate_cons_of_ne_nil nonempty, String.ofList_append]
  rfl

theorem dotted_modifyHead {row : List (List Char)} (nonempty : row ≠ []) (start : List Char) :
    Text.dotted (row.modifyHead (start ++ ·)) = String.ofList start ++ Text.dotted row := by
  obtain ⟨part, others, rfl⟩ := List.exists_cons_of_ne_nil nonempty
  rw [List.modifyHead_cons, Text.dotted, Text.dotted, ← String.ofList_append]
  cases others <;> simp [List.intercalate_cons_cons]

/-- What the library writes for a step of the search: a dot for a separator, all else as it is. -/
def writeStep (written : String) : SearchStep text → String
  | .matched _ _ => written ++ "."
  | .rejected start stop => written ++ text.slice! start stop

/-- From any position on, the search writes the parts of what is left with dots between them. -/
theorem foldl_writeStep {steps : List (SearchStep text)}
    (valid : IsValidSearchFrom "__" position steps) (written : String) :
    steps.foldl writeStep written = written ++ Text.dotted (parts (remaining position)) := by
  induction valid generalizing written with
  | endPos =>
      rw [remaining_endPos]
      exact String.append_empty.symm
  | matched found later ih =>
      rw [List.foldl_cons, ih, remaining_of_match found, parts_separator,
        dotted_cons_nil (parts_ne_nil _), ← String.append_assoc]
      rfl
  | mismatched lt clear later ih =>
      have le := Std.le_of_lt lt
      rw [List.foldl_cons, ih, parts_remaining_of_clear le clear,
        dotted_modifyHead (parts_ne_nil _), ← String.append_assoc, between, String.ofList_toList,
        writeStep, String.appendSlice_eq, ← String.Slice.slice_eq_slice! (h := le)]

end Search

theorem replace_eq_intercalate (key : String) :
    key.replace "__" "." = ".".intercalate (components key) := by
  have search := foldl_writeStep (separator_lawful.isValidSearchFrom_toList key.toSlice) ""
  rw [Std.Iter.foldl_toList, remaining_startPos, String.empty_append, ← map_toList_components,
    Text.dotted_map_toList] at search
  rw [← search, String.replace, String.Slice.replace]
  apply congrArg fun write =>
    Std.Iter.fold write "" (ToForwardSearcher.toSearcher "__" key.toSlice)
  funext written step
  cases step with
  | matched start stop => exact String.appendSlice_eq
  | rejected start stop => rfl

theorem split_eq_components (key : String) :
    (key.split "__").toList.map String.Slice.copy = components key := by
  have cut := modelSplit_eq (Std.le_refl key.toSlice.startPos)
  rw [modifyHead_between_self, remaining_startPos] at cut
  rw [String.split, String.Slice.toList_split_eq_splitToSubslice,
    toList_splitToSubslice_eq_modelSplit, components, ← cut]
  simp

/-- What follows the last separator that the search finds; the whole key if it finds none. -/
def lastPart (key : String) : String :=
  ((key.split "__").toList.map String.Slice.copy).getLastD key

theorem lastPart_eq {key last : String} {initial : List String}
    (split : components key = initial ++ [last]) : lastPart key = last := by
  rw [lastPart, split_eq_components, split, List.getLastD_concat]

/-- A key has a separator exactly if it has components before its last one. -/
theorem hasSeparator_iff {key last : String} {initial : List String}
    (split : components key = initial ++ [last]) : HasSeparator key ↔ initial ≠ [] := by
  have text := written_components key
  rw [split] at text
  constructor
  · intro separated single
    have plain := components_plain key
    rw [single, List.nil_append] at split text
    rw [written, String.intercalate_singleton] at text
    rw [split, List.forall_mem_singleton, text] at plain
    exact plain separated
  · intro several
    rw [← text, written, String.intercalate_append_of_ne_nil several (List.cons_ne_nil _ _),
      HasSeparator, String.toList_append, String.toList_append]
    exact ⟨_, _, rfl⟩

theorem operator?_eq_some_iff (key : String) (operator : Operator) :
    (parse key).operator? = some operator ↔
      HasSeparator key ∧ Operator.ofToken? (lastPart key) = some operator := by
  constructor
  · intro explicit
    obtain ⟨initial, token, split, nonempty, -, named⟩ := path_of_operator explicit
    rw [hasSeparator_iff split, lastPart_eq split]
    exact ⟨nonempty, named⟩
  · intro conditions
    obtain ⟨initial, last, split⟩ := exists_components_eq_append key
    rw [hasSeparator_iff split, lastPart_eq split] at conditions
    obtain ⟨several, named⟩ := conditions
    rw [parse_of_token (parts_eq_append split) (by simpa using several) named]

/-- The path, and after one more dot the token of the operator if there is one. -/
def dotted (key : FilterKey) : String :=
  match key.operator? with
  | none => key.path
  | some operator => key.path ++ "." ++ operator.token

theorem replace_eq_dotted (key : String) : key.replace "__" "." = (parse key).dotted := by
  rw [replace_eq_intercalate, dotted]
  cases found : (parse key).operator? with
  | none =>
      have implicit : (parse key).isExplicit = false := by
        rw [isExplicit, found]
        rfl
      exact (path_of_implicit implicit).symm
  | some operator =>
      obtain ⟨initial, token, split, nonempty, path, named⟩ := path_of_operator found
      obtain ⟨-, rfl⟩ := (Operator.ofToken?_eq_some_iff token operator).mp named
      rw [path, split, String.intercalate_append_of_ne_nil nonempty (List.cons_ne_nil _ _),
        String.intercalate_singleton]

/-- To read a key is to replace its separators by dots, matched from the left without overlap. What
comes of it is the path alone or the path, a dot and the token of the operator; the path has no
separator; and an operator is read exactly if there is a separator and its token follows the last
one that is matched. -/
theorem parse_replaces_separators (key : String) :
    key.replace "__" "." = (parse key).dotted ∧
    ¬ HasSeparator (parse key).path ∧
    ∀ operator, (parse key).operator? = some operator ↔
      HasSeparator key ∧ Operator.ofToken? (lastPart key) = some operator := by
  refine ⟨replace_eq_dotted key, plain_path key, ?_⟩
  intro operator
  exact operator?_eq_some_iff key operator

/-- Of three underscores the first two are the separator, so the token is not the last part. -/
example : parse "a____b___in" = ⟨"a..b._in", none⟩ := by
  decide

end FilterKey

end DocFilter
