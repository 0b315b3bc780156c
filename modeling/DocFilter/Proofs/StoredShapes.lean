import DocFilter.Filter.Operator
import DocFilter.Proofs.ValuePaths

set_option autoImplicit false

namespace DocFilter

namespace Value

theorem canonicalEntries_iff (entries : List (String × Value)) :
    CanonicalEntries entries ↔ ∀ entry ∈ entries, entry.2.Canonical := by
  induction entries with
  | nil => simp [CanonicalEntries]
  | cons entry rest ih =>
      obtain ⟨key, value⟩ := entry
      simp [CanonicalEntries, ih]

theorem Canonical.lookup {entries : List (String × Value)} {key : String} {value : Value}
    (canonical : (mapping entries).Canonical) (found : Entries.lookup key entries = some value) :
    value.Canonical := by
  rw [Canonical, canonicalEntries_iff] at canonical
  exact canonical.2 _ (Entries.mem_of_lookup found)

theorem Canonical.at? {value held : Value} {path : List String} (canonical : value.Canonical)
    (found : value.at? path = some held) : held.Canonical := by
  induction path generalizing value with
  | nil =>
      cases found
      exact canonical
  | cons key rest ih =>
      rw [at?_cons, Option.bind_eq_some_iff] at found
      obtain ⟨inner, stands, further⟩ := found
      cases value with
      | mapping entries => exact ih (canonical.lookup stands) further
      | _ => cases stands

theorem Canonical.ordered {entries : List (String × Value)}
    (canonical : (mapping entries).Canonical) : Ordered entries := by
  intro path inner found
  have innerCanonical := canonical.at? found
  rw [Canonical] at innerCanonical
  exact innerCanonical.1

theorem ordered_singleton (key : String) {value : Value}
    (ordered : ∀ inner, value = mapping inner → Ordered inner) : Ordered [(key, value)] := by
  intro path inner found
  cases path with
  | nil =>
      cases found
      exact List.pairwise_singleton _ _
  | cons next rest =>
      rw [at?_cons, Value.entries, Entries.lookup_cons] at found
      split at found
      · rw [Option.bind_some] at found
        cases value with
        | mapping entries => exact ordered entries rfl rest inner found
        | _ =>
            cases rest with
            | nil => cases found
            | cons _ _ => cases found
      · cases found

theorem ordered_leaf (key : String) {leaf : Value} (noMapping : leaf.isMapping = false) :
    Ordered [(key, leaf)] := by
  apply ordered_singleton
  intro inner same
  rw [same] at noMapping
  cases noMapping

end Value

/-- Encoding passes a mapping through, or wraps a single leaf. -/
theorem ScalarType.encode_mapping {type : ScalarType} {value : Value}
    {inner : List (String × Value)} (encoded : type.encode value = .mapping inner) :
    value = .mapping inner ∨ ∃ tag leaf, inner = [(tag, leaf)] ∧ leaf.isMapping = false := by
  unfold encode at encoded
  split at encoded
  · split at encoded <;> cases encoded
  · split at encoded <;> cases encoded
  · split at encoded <;> cases encoded
  · cases encoded
  · split at encoded
    · cases encoded
      exact Or.inr ⟨_, _, rfl, rfl⟩
    · cases encoded
  · cases encoded
    exact Or.inr ⟨_, _, rfl, rfl⟩
  · cases encoded
    exact Or.inr ⟨_, _, rfl, rfl⟩
  · cases encoded
  · exact Or.inl encoded

theorem Kind.encode_mapping {kind : Kind} {value : Value} {inner : List (String × Value)}
    (encoded : kind.encode value = .mapping inner) :
    value = .mapping inner ∨ ∃ tag leaf, inner = [(tag, leaf)] ∧ leaf.isMapping = false := by
  induction kind with
  | scalar type => exact ScalarType.encode_mapping encoded
  | embedded document => exact Or.inl encoded
  | list item ih =>
      cases value with
      | array items => cases encoded
      | _ => exact ih encoded

namespace Operator

theorem encodeFor_mapping {field : Option Field} {value : Value} {inner : List (String × Value)}
    (encoded : encodeFor field value = .mapping inner) :
    value = .mapping inner ∨ ∃ tag leaf, inner = [(tag, leaf)] ∧ leaf.isMapping = false := by
  cases field with
  | none => exact Or.inl encoded
  | some field => exact Kind.encode_mapping encoded

theorem transform_mapping {operator : Operator} {field : Option Field} {value : Value}
    {inner : List (String × Value)}
    (transformed : operator.transform field value = .mapping inner) :
    value = .mapping inner ∨ ∃ tag leaf, inner = [(tag, leaf)] ∧ leaf.isMapping = false := by
  unfold transform at transformed
  split at transformed
  · cases transformed
  · cases transformed
  · cases transformed
  · cases transformed
  · exact Or.inl transformed
  · exact encodeFor_mapping transformed

theorem shape_of_queryName {operator : Operator} {name : String}
    (named : operator.queryName? = some name) (operand : Value) :
    operator.shape operand = .mapping [(name, operand)] := by
  cases operator <;> cases named <;> rfl

theorem shape_isNull_mapping {operand : Value} {inner : List (String × Value)}
    (shaped : isNull.shape operand = .mapping inner) : inner = [("$ne", .null)] := by
  simp only [shape] at shaped
  split at shaped <;> cases shaped
  rfl

theorem ordered_transform {operator : Operator} {field : Option Field} {value : Value}
    {inner : List (String × Value)} (canonical : value.Canonical)
    (transformed : operator.transform field value = .mapping inner) : Value.Ordered inner := by
  rcases transform_mapping transformed with rfl | ⟨tag, leaf, rfl, noMapping⟩
  · exact canonical.ordered
  · exact Value.ordered_leaf tag noMapping

theorem ordered_shape {operator : Operator} {operand : Value} {inner : List (String × Value)}
    (ordered : ∀ entries, operand = .mapping entries → Value.Ordered entries)
    (shaped : operator.shape operand = .mapping inner) : Value.Ordered inner := by
  cases named : operator.queryName? with
  | some name =>
      rw [shape_of_queryName named] at shaped
      cases shaped
      exact Value.ordered_singleton name ordered
  | none =>
      cases operator with
      | equals => exact ordered inner shaped
      | isNull =>
          rw [shape_isNull_mapping shaped]
          exact Value.ordered_leaf "$ne" rfl
      | _ => cases named

end Operator

end DocFilter
