import DocFilter.Proofs.ValuePaths
import DocFilter.Value.Merge

set_option autoImplicit false

namespace DocFilter.Value

theorem mergedOver_leaf {value : Value} (leaf : value.isMapping = false) (old : Option Value) :
    value.mergedOver old = value := by
  cases value with
  | mapping entries => cases leaf
  | _ => rfl

@[simp] theorem outline_mergedOver (value : Value) (old : Option Value) :
    (value.mergedOver old).outline = value.outline := by
  cases value <;> rfl

theorem mergeEntries_nil (target : List (String × Value)) : mergeEntries target [] = target := rfl

theorem mergeEntries_cons (target : List (String × Value)) (key : String) (value : Value)
    (rest : List (String × Value)) :
    mergeEntries target ((key, value) :: rest) =
      Entries.insert key (value.mergedOver (Entries.lookup key target))
        (mergeEntries target rest) := rfl

def mergeEntry (target : List (String × Value)) (entry : String × Value) :
    List (String × Value) :=
  Entries.insert entry.1 (entry.2.mergedOver (Entries.lookup entry.1 target)) target

/-- An entry whose key the rest of the source does not have may be merged before the rest. -/
theorem mergeEntries_mergeEntry {target rest : List (String × Value)} {entry : String × Value}
    (ascending : Entries.Ascending target) (absent : Entries.lookup entry.1 rest = none) :
    mergeEntries (mergeEntry target entry) rest = mergeEntries target (entry :: rest) := by
  obtain ⟨key, value⟩ := entry
  rw [mergeEntries_cons, mergeEntry]
  have first : Entries.Ascending (Entries.insert key
      (value.mergedOver (Entries.lookup key target)) target) := ascending.insert _ _
  have last : Entries.Ascending (Entries.insert key
      (value.mergedOver (Entries.lookup key target)) (mergeEntries target rest)) :=
    (ascending_mergeEntries ascending rest).insert _ _
  apply (ascending_mergeEntries first rest).ext last
  intro other
  rw [lookup_mergeEntries, Entries.lookup_insert, Entries.lookup_insert, lookup_mergeEntries]
  by_cases same : key = other
  · subst same
    rw [absent]
  · simp only [same, ↓reduceIte]

/-- Merging is the loop that takes the entries of the source one after the other. -/
theorem mergeEntries_eq_foldl {target source : List (String × Value)}
    (ascending : Entries.Ascending target) (ascendingSource : Entries.Ascending source) :
    mergeEntries target source = source.foldl mergeEntry target := by
  induction source generalizing target with
  | nil => rfl
  | cons entry rest ih =>
      rw [Entries.ascending_cons] at ascendingSource
      have absent := Entries.lookup_head_lt ascendingSource.1
      have ascendingNext : Entries.Ascending (mergeEntry target entry) := ascending.insert _ _
      rw [List.foldl_cons, ← ih ascendingNext ascendingSource.2,
        mergeEntries_mergeEntry ascending absent]

theorem lookup_of_holdsLeaf {key : String} {entries : List (String × Value)} {leaf : Value}
    (stands : HoldsLeaf entries [key] leaf) : Entries.lookup key entries = some leaf := by
  rw [← at?_singleton, stands.1]

theorem inside_mergeEntries_leaf {key : String} {source : List (String × Value)} {leaf : Value}
    (stands : HoldsLeaf source [key] leaf) (target : List (String × Value)) :
    inside key (mergeEntries target source) = [] := by
  rw [inside, lookup_mergeEntries, lookup_of_holdsLeaf stands]
  have noMapping := stands.2
  cases leaf with
  | mapping entries => cases noMapping
  | _ => rfl

/-- Where the source holds no leaf, the merge goes on inside the two mappings. -/
theorem inside_mergeEntries {key : String} {source : List (String × Value)}
    (noLeaf : ∀ leaf, ¬ HoldsLeaf source [key] leaf) (target : List (String × Value)) :
    inside key (mergeEntries target source) =
      mergeEntries (inside key target) (inside key source) := by
  rw [inside, lookup_mergeEntries]
  cases stands : Entries.lookup key source with
  | none => simp only [inside, stands, Option.map_none, Option.getD_none, mergeEntries_nil]
  | some value =>
      rcases value.leaf_or_mapping with noMapping | ⟨inner, rfl⟩
      · exact absurd ⟨(at?_singleton source key).trans stands, noMapping⟩ (noLeaf value)
      · simp only [mergedOver, Option.map_some, Option.getD_some, Value.entries, inside, stands]

theorem LeafBefore.cons {entries : List (String × Value)} {key : String} {path : List String}
    (blocked : LeafBefore (inside key entries) path) : LeafBefore entries (key :: path) := by
  obtain ⟨start, leaf, before, proper, held⟩ := blocked
  refine ⟨key :: start, leaf, List.cons_prefix_cons.mpr ⟨rfl, before⟩, ?_, ?_⟩
  · intro whole
    exact proper (List.cons.inj whole).2
  · cases start with
    | nil => exact absurd ⟨_, rfl⟩ held.not_holdsMapping
    | cons next rest => rwa [HoldsLeaf, at?_inside]

/-- Whatever the source holds at a path, the merged mapping holds there. -/
theorem outlineAt_merge_of_source {source : List (String × Value)} {path : List String}
    {shape : Value} (held : outlineAt source path = some shape)
    (target : List (String × Value)) :
    outlineAt (mergeEntries target source) path = some shape := by
  induction path generalizing target source with
  | nil => exact held
  | cons key rest ih =>
      cases rest with
      | nil =>
          rw [outlineAt_singleton, Option.map_eq_some_iff] at held
          obtain ⟨value, stands, rfl⟩ := held
          rw [outlineAt_singleton, lookup_mergeEntries, stands, Option.map_some,
            outline_mergedOver]
      | cons next rest =>
          have noLeaf : ∀ leaf, ¬ HoldsLeaf source [key] leaf := by
            intro leaf stands
            have before : [key] <+: key :: next :: rest := ⟨next :: rest, rfl⟩
            rw [outlineAt, Option.map_eq_some_iff] at held
            obtain ⟨value, found, -⟩ := held
            exact stands.not_holdsMapping (holdsMapping_before before (by simp) found)
          rw [outlineAt_inside] at held ⊢
          rw [inside_mergeEntries noLeaf]
          exact ih held (inside key target)

/-- Where the source holds nothing and cuts nothing off, the target stays as it is. -/
theorem outlineAt_merge_of_target {source : List (String × Value)} {path : List String}
    (nothing : outlineAt source path = none) (free : ¬ LeafBefore source path)
    (target : List (String × Value)) :
    outlineAt (mergeEntries target source) path = outlineAt target path := by
  induction path generalizing target source with
  | nil => rfl
  | cons key rest ih =>
      cases rest with
      | nil =>
          rw [outlineAt_singleton, Option.map_eq_none_iff] at nothing
          rw [outlineAt_singleton, outlineAt_singleton, lookup_mergeEntries, nothing]
      | cons next rest =>
          have noLeaf : ∀ leaf, ¬ HoldsLeaf source [key] leaf := by
            intro leaf stands
            exact free ⟨[key], leaf, ⟨next :: rest, rfl⟩, by simp, stands⟩
          have freeInside : ¬ LeafBefore (inside key source) (next :: rest) := by
            intro blocked
            exact free blocked.cons
          rw [outlineAt_inside] at nothing ⊢
          rw [inside_mergeEntries noLeaf, outlineAt_inside]
          exact ih nothing freeInside (inside key target)

theorem merge_contains_source (target source : List (String × Value)) :
    Contains (mergeEntries target source) source := by
  intro path shape held
  exact outlineAt_merge_of_source held target

/-- A leaf of the source cuts off whatever the target holds beyond it. -/
theorem outlineAt_merge_of_leafBefore {source : List (String × Value)} {path : List String}
    (blocked : LeafBefore source path) (target : List (String × Value)) :
    outlineAt (mergeEntries target source) path = none := by
  rw [← holdsNothing_iff]
  exact holdsNothing_of_leafBefore ((merge_contains_source target source).leafBefore blocked)

theorem outlineAt_merge_iff (target source : List (String × Value)) (path : List String)
    (shape : Value) :
    outlineAt (mergeEntries target source) path = some shape ↔
      outlineAt source path = some shape ∨
        (outlineAt target path = some shape ∧ HoldsNothing source path ∧
          ¬ LeafBefore source path) := by
  rw [holdsNothing_iff]
  constructor
  · intro held
    cases decided : outlineAt source path with
    | some value =>
        rw [outlineAt_merge_of_source decided] at held
        exact Or.inl held
    | none =>
        by_cases blocked : LeafBefore source path
        · rw [outlineAt_merge_of_leafBefore blocked] at held
          cases held
        · rw [outlineAt_merge_of_target decided blocked] at held
          exact Or.inr ⟨held, rfl, blocked⟩
  · intro held
    rcases held with decided | ⟨held, nothing, free⟩
    · exact outlineAt_merge_of_source decided target
    · rw [outlineAt_merge_of_target nothing free, held]

theorem Ordered.merge {target : List (String × Value)} (ordered : Ordered target)
    (source : List (String × Value)) : Ordered (mergeEntries target source) := by
  intro path inner found
  induction path generalizing target source with
  | nil =>
      simp only [at?_nil, Option.some.injEq, mapping.injEq] at found
      exact found ▸ ascending_mergeEntries ordered.ascending source
  | cons key rest ih =>
      have foundInside := at?_inside_of_mapping found
      by_cases leafThere : ∃ leaf, HoldsLeaf source [key] leaf
      · obtain ⟨leaf, stands⟩ := leafThere
        rw [inside_mergeEntries_leaf stands] at foundInside
        exact ordered_nil rest inner foundInside
      · rw [inside_mergeEntries (not_exists.mp leafThere)] at foundInside
        exact ih (ordered.descend key) (inside key source) foundInside

theorem mergeEntries_empty {source : List (String × Value)} (ordered : Ordered source) :
    mergeEntries [] source = source := by
  apply (ordered_nil.merge source).ext ordered
  intro path
  apply Option.ext
  intro shape
  rw [outlineAt_merge_iff]
  constructor
  · intro held
    rcases held with decided | ⟨held, -⟩
    · exact decided
    · cases path with
      | nil => exact held
      | cons key rest => cases held
  · exact Or.inl

theorem holdsLeaf_merge_iff (target source : List (String × Value)) (path : List String)
    (leaf : Value) :
    HoldsLeaf (mergeEntries target source) path leaf ↔
      HoldsLeaf source path leaf ∨
        (HoldsLeaf target path leaf ∧ HoldsNothing source path ∧ ¬ LeafBefore source path) := by
  simp only [holdsLeaf_iff, outlineAt_merge_iff, or_and_right, and_right_comm]

theorem holdsMapping_merge_iff (target source : List (String × Value)) (path : List String) :
    HoldsMapping (mergeEntries target source) path ↔
      HoldsMapping source path ∨
        (HoldsMapping target path ∧ (∀ leaf, ¬ HoldsLeaf source path leaf) ∧
          ¬ LeafBefore source path) := by
  rw [holdsMapping_iff, outlineAt_merge_iff, ← holdsMapping_iff, ← holdsMapping_iff]
  constructor
  · intro held
    rcases held with decided | ⟨held, nothing, free⟩
    · exact Or.inl decided
    · refine Or.inr ⟨held, ?_, free⟩
      intro leaf stands
      rw [HoldsLeaf, nothing] at stands
      cases stands.1
  · intro held
    rcases held with decided | ⟨held, noLeaf, free⟩
    · exact Or.inl decided
    · rcases holds_cases source path with nothing | decided | ⟨leaf, stands⟩
      · exact Or.inr ⟨held, nothing, free⟩
      · exact Or.inl decided
      · exact absurd stands (noLeaf leaf)

/-- The merged mapping holds a leaf exactly where the source holds it, or where the target does and
the source has neither a value nor a leaf before it. It holds a mapping exactly where the source
does, or where the target does and the source has no leaf there or before. -/
theorem merge_at_path (target source : List (String × Value)) (path : List String) :
    (∀ leaf, HoldsLeaf (mergeEntries target source) path leaf ↔
      HoldsLeaf source path leaf ∨
        (HoldsLeaf target path leaf ∧ HoldsNothing source path ∧ ¬ LeafBefore source path)) ∧
    (HoldsMapping (mergeEntries target source) path ↔
      HoldsMapping source path ∨
        (HoldsMapping target path ∧ (∀ leaf, ¬ HoldsLeaf source path leaf) ∧
          ¬ LeafBefore source path)) := by
  constructor
  · intro leaf
    exact holdsLeaf_merge_iff target source path leaf
  · exact holdsMapping_merge_iff target source path

end DocFilter.Value
