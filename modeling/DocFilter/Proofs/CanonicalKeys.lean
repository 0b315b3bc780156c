import DocFilter.Filter.Compilation
import DocFilter.Proofs.KeyParts

set_option autoImplicit false

namespace DocFilter

namespace FilterKey

/-- The path as it is, and the token of the operator after it if there is one. -/
def spelling (key : FilterKey) : String :=
  match key.operator? with
  | none => key.path
  | some operator => key.path ++ "__" ++ operator.token

/-- A dot is no part of a separator, so it makes none and breaks none. -/
theorem hasSeparator_append_dot (first second : String) :
    HasSeparator (first ++ "." ++ second) ↔ HasSeparator first ∨ HasSeparator second := by
  have text : (first ++ "." ++ second).toList = first.toList ++ '.' :: second.toList := by simp
  rw [HasSeparator, HasSeparator, HasSeparator, text, List.infix_append_iff_ne_nil]
  constructor
  · intro within
    rcases within with inFirst | behind | ⟨start, rest, _, nonempty, split, -, restFirst⟩
    · exact Or.inl inFirst
    · right
      simpa [List.infix_cons_iff] using behind
    · -- A separator across the border would hold the dot.
      obtain ⟨c, others, rfl⟩ := List.exists_cons_of_ne_nil nonempty
      obtain ⟨rfl, -⟩ := List.cons_prefix_cons.mp restFirst
      have member : '.' ∈ ['_', '_'] := by simp [split]
      simp at member
  · intro either
    rcases either with inFirst | inSecond
    · exact Or.inl inFirst
    · exact Or.inr (Or.inl (List.infix_cons inSecond))

theorem plain_intercalate {components : List String}
    (plain : ∀ component ∈ components, ¬ HasSeparator component) :
    ¬ HasSeparator (".".intercalate components) := by
  induction components with
  | nil =>
      unfold HasSeparator
      decide
  | cons component rest ih =>
      rw [List.forall_mem_cons] at plain
      cases rest with
      | nil =>
          rw [String.intercalate_singleton]
          exact plain.1
      | cons next rest =>
          rw [String.intercalate_cons_cons, hasSeparator_append_dot, not_or]
          exact ⟨plain.1, ih plain.2⟩

theorem plain_path (key : String) : ¬ HasSeparator (parse key).path := by
  have plain := components_plain key
  rcases path_parse key with whole | initialPart
  · rw [whole, ← map_toList_components, Text.dotted_map_toList]
    exact plain_intercalate plain
  · rw [initialPart, ← map_toList_components, ← List.map_dropLast, Text.dotted_map_toList]
    apply plain_intercalate
    intro component member
    exact plain component (List.mem_of_mem_dropLast member)

theorem path_of_operator {key : String} {operator : Operator}
    (explicit : (parse key).operator? = some operator) :
    ∃ initial token, components key = initial ++ [token] ∧ initial ≠ [] ∧
      (parse key).path = ".".intercalate initial ∧ Operator.ofToken? token = some operator := by
  obtain ⟨initial, token, split⟩ := exists_components_eq_append key
  have cut := parts_eq_append split
  refine ⟨initial, token, split, ?_⟩
  by_cases read : initial ≠ [] ∧ ∃ other, Operator.ofToken? token = some other
  · obtain ⟨nonempty, other, named⟩ := read
    have parsed := parse_of_token cut (by simpa using nonempty) named
    rw [parsed] at explicit ⊢
    cases explicit
    exact ⟨nonempty, Text.dotted_map_toList initial, named⟩
  · have implicit : parse key = ⟨Text.dotted (parts key.toList), none⟩ := by
      apply parse_of_noToken
      rw [cut]
      by_cases single : initial = []
      · exact Or.inl (by simp [single])
      · right
        simpa [single, Option.eq_none_iff_forall_ne_some] using read
    rw [implicit] at explicit
    cases explicit

theorem closed_path {key : String} {operator : Operator}
    (explicit : (parse key).operator? = some operator) :
    operator ≠ .equals ∧ ¬ EndsOpen (parse key).path := by
  obtain ⟨initial, token, split, nonempty, path, named⟩ := path_of_operator explicit
  have closed := components_closed key
  rw [split, List.dropLast_concat] at closed
  refine ⟨((Operator.ofToken?_eq_some_iff token operator).mp named).1, ?_⟩
  obtain ⟨before, last, rfl⟩ : ∃ before last, initial = before ++ [last] :=
    ⟨_, _, (List.dropLast_append_getLast nonempty).symm⟩
  rw [path, endsOpen_intercalate_append]
  exact closed last (by simp)

theorem parse_of_plain {path : String} (plain : ¬ HasSeparator path) :
    parse path = ⟨path, none⟩ := by
  have read := (parse_written_path_iff (List.cons_ne_nil path []) (by simpa using plain)).mpr
    ⟨by simp, Or.inl rfl⟩
  rw [Text.dotted_map_toList, written, String.intercalate_singleton,
    String.intercalate_singleton] at read
  exact read

theorem parse_of_plain_token {path : String} (plain : ¬ HasSeparator path)
    (closed : ¬ EndsOpen path) {operator : Operator} (explicit : operator ≠ .equals) :
    parse (path ++ "__" ++ operator.token) = ⟨path, some operator⟩ := by
  have alone := parse_of_plain plain
  have implicit : (parse path).isExplicit = false := by
    rw [alone]
    rfl
  have pathClosed : ¬ EndsOpen (parse path).path := by rwa [alone]
  have read := parse_append_token implicit pathClosed explicit
  rwa [alone] at read

theorem parse_spelling {key : FilterKey} (plain : ¬ HasSeparator key.path)
    (closed : ∀ operator, key.operator? = some operator →
      operator ≠ .equals ∧ ¬ EndsOpen key.path) :
    parse key.spelling = key := by
  obtain ⟨path, operator?⟩ := key
  cases operator? with
  | none => exact parse_of_plain plain
  | some operator =>
      obtain ⟨explicit, pathClosed⟩ := closed operator rfl
      exact parse_of_plain_token plain pathClosed explicit

theorem exists_parse_eq_iff (key : FilterKey) :
    (∃ text, parse text = key) ↔ ¬ HasSeparator key.path ∧
      ∀ operator, key.operator? = some operator → operator ≠ .equals ∧ ¬ EndsOpen key.path := by
  constructor
  · intro read
    obtain ⟨text, rfl⟩ := read
    exact ⟨plain_path text, fun _ => closed_path⟩
  · intro conditions
    exact ⟨key.spelling, parse_spelling conditions.1 conditions.2⟩

theorem parse_spelling_parse (text : String) : parse (parse text).spelling = parse text :=
  parse_spelling (plain_path text) fun _ => closed_path

end FilterKey

namespace Resolver

variable {key other : String}

theorem compileFilter_of_same_parse (same : FilterKey.parse key = FilterKey.parse other)
    (resolver : Resolver) (value : Value) :
    resolver.compileFilter key value = resolver.compileFilter other value := by
  simp only [compileFilter, same]

/-- The verdict on a key is about what is read from it; only the report names the key itself. -/
theorem validateKey_of_same_parse (same : FilterKey.parse key = FilterKey.parse other)
    (resolver : Resolver) :
    (resolver.validateKey key).mapError InvalidFilter.reason =
      (resolver.validateKey other).mapError InvalidFilter.reason := by
  simp only [validateKey, same]
  split
  · rfl
  · rfl
  · split <;> rfl

end Resolver

namespace FilterKey

/-- Every key has a canonical spelling: its path as it is, and the token of its operator if it has
one. The same is read from it, so filters under it compile alike, and validation gives the same
verdict for the same reason. What is read from keys are the paths without a separator, alone or
with an operator that has a token, and then they do not end in an underscore. -/
theorem canonical_spelling :
    (∀ key : String, parse (parse key).spelling = parse key ∧
      ∀ resolver : Resolver,
        (∀ value, resolver.compileFilter (parse key).spelling value =
          resolver.compileFilter key value) ∧
        (resolver.validateKey (parse key).spelling).mapError InvalidFilter.reason =
          (resolver.validateKey key).mapError InvalidFilter.reason) ∧
    ∀ path operator?, (∃ key, parse key = ⟨path, operator?⟩) ↔
      ¬ HasSeparator path ∧
        ∀ operator, operator? = some operator → operator ≠ .equals ∧ ¬ EndsOpen path := by
  constructor
  · intro key
    have same := parse_spelling_parse key
    refine ⟨same, ?_⟩
    intro resolver
    exact ⟨fun value => Resolver.compileFilter_of_same_parse same resolver value,
      Resolver.validateKey_of_same_parse same resolver⟩
  · intro path operator?
    exact exists_parse_eq_iff ⟨path, operator?⟩

/-- Equality has no token: after a separator nothing is read as an empty component. So no key names
it, though the path has no separator and does not end in an underscore. -/
theorem equality_is_not_named :
    ¬ HasSeparator "a" ∧ ¬ EndsOpen "a" ∧
    (⟨"a", some .equals⟩ : FilterKey).spelling = "a__" ∧ parse "a__" = ⟨"a.", none⟩ ∧
    ¬ ∃ key, parse key = ⟨"a", some .equals⟩ := by
  refine ⟨?_, ?_, rfl, rfl, ?_⟩
  · unfold HasSeparator
    decide
  · unfold EndsOpen
    decide
  · intro named
    exact (((exists_parse_eq_iff _).mp named).2 .equals rfl).1 rfl

end FilterKey

end DocFilter
