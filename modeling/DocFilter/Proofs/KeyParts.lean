import DocFilter.Proofs.DottedPaths
import DocFilter.Proofs.KeySpelling

set_option autoImplicit false

namespace DocFilter

theorem exists_intercalate_append (separator : String) (initial : List String) :
    ∃ start, ∀ rest ≠ [],
      separator.intercalate (initial ++ rest) = start ++ separator.intercalate rest := by
  by_cases empty : initial = []
  · refine ⟨"", ?_⟩
    intro rest _
    rw [empty, List.nil_append, String.empty_append]
  · refine ⟨separator.intercalate initial ++ separator, ?_⟩
    intro rest nonempty
    exact String.intercalate_append_of_ne_nil empty nonempty

namespace FilterKey

theorem noPair_of_clear {c : Char} {rest : List Char}
    (clear : ∀ after, c = '_' → rest = '_' :: after → False) : ¬ ['_', '_'] <+: c :: rest := by
  intro pair
  obtain ⟨after, same⟩ := pair
  obtain ⟨rfl, rfl⟩ := List.cons.inj same
  exact clear after rfl rfl

theorem intercalate_parts (cs : List Char) : ['_', '_'].intercalate (parts cs) = cs := by
  induction cs using parts.induct with
  | case1 => rfl
  | case2 rest ih =>
      rw [parts_separator, List.intercalate_cons_of_ne_nil (parts_ne_nil rest), ih]
      rfl
  | case3 c rest clear nothing _ => exact absurd nothing (parts_ne_nil rest)
  | case4 c rest clear part others cut ih =>
      rw [parts_cons (noPair_of_clear clear), cut, List.modifyHead_cons,
        List.intercalate_cons_cons_left, ← cut, ih]

/-- Parts hold no separator, and none but the last ends in an underscore: the separator after it
would have been matched one character earlier. -/
theorem parts_plain_and_closed (cs : List Char) :
    (∀ part ∈ parts cs, ¬ ['_', '_'] <:+: part) ∧
      ∀ part ∈ (parts cs).dropLast, ¬ ['_'] <:+ part := by
  induction cs using parts.induct with
  | case1 => simp [parts]
  | case2 rest ih =>
      rw [parts_separator, List.dropLast_cons_of_ne_nil (parts_ne_nil rest), List.forall_mem_cons,
        List.forall_mem_cons]
      exact ⟨⟨by simp, ih.1⟩, by simp, ih.2⟩
  | case3 c rest clear nothing _ => exact absurd nothing (parts_ne_nil rest)
  | case4 c rest clear part others cut ih =>
      have noPair := noPair_of_clear clear
      have text := intercalate_parts rest
      rw [cut] at ih text
      obtain ⟨plain, closed⟩ := ih
      rw [List.forall_mem_cons] at plain
      rw [parts_cons noPair, cut, List.modifyHead_cons, List.forall_mem_cons]
      refine ⟨⟨?_, plain.2⟩, ?_⟩
      · rw [List.infix_cons_iff, not_or]
        refine ⟨?_, plain.1⟩
        intro pair
        have start : part <+: rest := by
          rw [← text]
          cases others <;> simp [List.intercalate_cons_cons]
        exact noPair (pair.trans (List.cons_prefix_cons.mpr ⟨rfl, start⟩))
      · cases others with
        | nil => simp
        | cons next more =>
            rw [List.dropLast_cons_of_ne_nil (List.cons_ne_nil _ _),
              List.forall_mem_cons] at closed ⊢
            refine ⟨?_, closed.2⟩
            rw [List.suffix_cons_iff, not_or]
            refine ⟨?_, closed.1⟩
            intro only
            obtain ⟨rfl, rfl⟩ := List.cons.inj only
            rw [List.intercalate_cons_cons] at text
            exact clear _ rfl text.symm

/-- The components that a key is written from. -/
def components (key : String) : List String :=
  (parts key.toList).map String.ofList

theorem map_toList_components (key : String) :
    (components key).map String.toList = parts key.toList := by
  simp [components, Function.comp_def]

theorem components_ne_nil (key : String) : components key ≠ [] := by
  rw [components, ne_eq, List.map_eq_nil_iff]
  exact parts_ne_nil key.toList

theorem written_components (key : String) : written (components key) = key := by
  rw [← String.toList_inj, toList_written, map_toList_components, intercalate_parts]

theorem components_plain (key : String) :
    ∀ component ∈ components key, ¬ HasSeparator component := by
  have plain := (parts_plain_and_closed key.toList).1
  rw [← map_toList_components, List.forall_mem_map] at plain
  exact plain

theorem components_closed (key : String) :
    ∀ component ∈ (components key).dropLast, ¬ EndsOpen component := by
  have closed := (parts_plain_and_closed key.toList).2
  rw [← map_toList_components, ← List.map_dropLast, List.forall_mem_map] at closed
  exact closed

/-- Without an operator the path of a key has all its components. -/
theorem path_of_implicit {key : String} (implicit : (parse key).isExplicit = false) :
    (parse key).path = ".".intercalate (components key) := by
  rw [← Text.dotted_map_toList, map_toList_components]
  revert implicit
  unfold parse
  dsimp only
  split
  · intro implicit
    cases implicit
  · intro _
    rfl

theorem exists_components_eq_append (key : String) :
    ∃ initial last, components key = initial ++ [last] :=
  ⟨_, _, (List.dropLast_append_getLast (components_ne_nil key)).symm⟩

theorem parts_eq_append {key last : String} {initial : List String}
    (split : components key = initial ++ [last]) :
    parts key.toList = initial.map String.toList ++ [last.toList] := by
  rw [← map_toList_components, split, List.map_append, List.map_singleton]

theorem endsOpen_append_dot (start last : String) :
    EndsOpen (start ++ "." ++ last) ↔ EndsOpen last := by
  have dot : ".".toList = ['.'] := rfl
  unfold EndsOpen
  simp only [String.toList_append, List.singleton_suffix_iff_getLast?_eq_some,
    List.getLast?_append, dot]
  cases last.toList.getLast? <;> simp

theorem endsOpen_intercalate_append (initial : List String) (last : String) :
    EndsOpen (".".intercalate (initial ++ [last])) ↔ EndsOpen last := by
  by_cases empty : initial = []
  · rw [empty, List.nil_append, String.intercalate_singleton]
  · rw [String.intercalate_append_of_ne_nil empty (List.cons_ne_nil _ _),
      String.intercalate_singleton]
    exact endsOpen_append_dot _ _

theorem endsOpen_path_iff {key last : String} {initial : List String}
    (implicit : (parse key).isExplicit = false) (split : components key = initial ++ [last]) :
    EndsOpen (parse key).path ↔ EndsOpen last := by
  rw [path_of_implicit implicit, split]
  exact endsOpen_intercalate_append initial last

/-- A token after a key without an operator is read as its operator, unless the path of the key
ends in an underscore. -/
theorem parse_append_token {key : String} (implicit : (parse key).isExplicit = false)
    (closed : ¬ EndsOpen (parse key).path) {operator : Operator} (explicit : operator ≠ .equals) :
    parse (key ++ "__" ++ operator.token) = ⟨(parse key).path, some operator⟩ := by
  have allClosed : ∀ component ∈ components key, ¬ EndsOpen component := by
    obtain ⟨initial, last, split⟩ := exists_components_eq_append key
    have initialClosed := components_closed key
    rw [endsOpen_path_iff implicit split] at closed
    rw [split, List.dropLast_concat] at initialClosed
    rw [split, List.forall_mem_append, List.forall_mem_singleton]
    exact ⟨initialClosed, closed⟩
  have read := (parse_written_token_iff (components_ne_nil key) (components_plain key)
    explicit).mpr allClosed
  rw [written_components, Text.dotted_map_toList, ← path_of_implicit implicit] at read
  exact read

theorem underscored_token (operator : Operator) :
    ¬ HasSeparator ("_" ++ operator.token) ∧
      Operator.ofToken? ("_" ++ operator.token) = none := by
  unfold HasSeparator
  cases operator <;> decide

/-- Where the last component of a key ends in an underscore, the key with a token after it is
written from other components: the underscore goes to the last one. -/
theorem append_token_eq_written {key stem : String} {initial : List String}
    (split : components key = initial ++ [stem ++ "_"]) (token : String) :
    key ++ "__" ++ token = written (initial ++ [stem, "_" ++ token]) := by
  obtain ⟨start, starts⟩ := exists_intercalate_append "__" initial
  have text : key = start ++ (stem ++ "_") := by
    have whole := written_components key
    rw [written, split, starts _ (List.cons_ne_nil _ _), String.intercalate_singleton] at whole
    exact whole.symm
  have moved : start ++ (stem ++ "_") ++ "__" ++ token =
      start ++ (stem ++ "__" ++ ("_" ++ token)) := by
    rw [← String.toList_inj]
    simp
  rw [written, starts _ (List.cons_ne_nil _ _), String.intercalate_cons_cons,
    String.intercalate_singleton, ← moved, ← text]

/-- An underscore before the separator goes behind it, so what follows is a token no more. -/
theorem parse_append_token_of_open {key : String} (implicit : (parse key).isExplicit = false)
    (opened : EndsOpen (parse key).path) (operator : Operator) :
    ∃ stem, (parse key).path = stem ++ "_" ∧
      parse (key ++ "__" ++ operator.token) = ⟨stem ++ "._" ++ operator.token, none⟩ := by
  obtain ⟨initial, last, split⟩ := exists_components_eq_append key
  rw [endsOpen_path_iff implicit split] at opened
  obtain ⟨chars, same⟩ := opened
  obtain ⟨stem, rfl⟩ : ∃ stem, last = stem ++ "_" := by
    refine ⟨String.ofList chars, ?_⟩
    rw [← String.toList_inj, String.toList_append, String.toList_ofList, ← same]
    rfl
  have plain := components_plain key
  have closed := components_closed key
  rw [split, List.forall_mem_append, List.forall_mem_singleton] at plain
  rw [split, List.dropLast_concat] at closed
  have stemFits : ¬ HasSeparator stem ∧ ¬ EndsOpen stem := by
    apply (closed_iff stem.toList).mp
    simpa [HasSeparator] using plain.2
  obtain ⟨tokenPlain, noToken⟩ := underscored_token operator
  have moved : initial ++ [stem, "_" ++ operator.token] =
      (initial ++ [stem]) ++ ["_" ++ operator.token] := by simp
  have movedPlain : ∀ component ∈ initial ++ [stem, "_" ++ operator.token],
      ¬ HasSeparator component := by
    simp only [moved, List.forall_mem_append, List.forall_mem_singleton]
    exact ⟨⟨plain.1, stemFits.1⟩, tokenPlain⟩
  have movedClosed : ∀ component ∈ (initial ++ [stem, "_" ++ operator.token]).dropLast,
      ¬ EndsOpen component := by
    simp only [moved, List.dropLast_concat, List.forall_mem_append, List.forall_mem_singleton]
    exact ⟨closed, stemFits.2⟩
  have nonempty : initial ++ [stem, "_" ++ operator.token] ≠ [] := by simp
  have read := (parse_written_path_iff nonempty movedPlain).mpr
    ⟨movedClosed, Or.inr (by simpa using noToken)⟩
  obtain ⟨start, starts⟩ := exists_intercalate_append "." initial
  rw [← append_token_eq_written split, Text.dotted_map_toList, starts _ (List.cons_ne_nil _ _),
    String.intercalate_cons_cons, String.intercalate_singleton] at read
  refine ⟨start ++ stem, ?_, ?_⟩
  · rw [path_of_implicit implicit, split, starts _ (List.cons_ne_nil _ _),
      String.intercalate_singleton, String.append_assoc]
  · rw [read]
    congr 1
    rw [← String.toList_inj]
    simp

end FilterKey

end DocFilter
