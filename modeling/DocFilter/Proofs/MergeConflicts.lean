import DocFilter.Proofs.MergePaths

set_option autoImplicit false

namespace DocFilter.Value

/-- At some path both mappings hold something, but not two mappings, and not the same value. -/
def Conflicting (first second : List (String × Value)) : Prop :=
  ∃ path value other, (mapping first).at? path = some value ∧
    (mapping second).at? path = some other ∧
    ¬ (value.isMapping = true ∧ other.isMapping = true) ∧ value ≠ other

def mergeAll (fragments : List (List (String × Value))) : List (String × Value) :=
  fragments.foldl mergeEntries []

theorem mergeAll_append_singleton (fragments : List (List (String × Value)))
    (fragment : List (String × Value)) :
    mergeAll (fragments ++ [fragment]) = mergeEntries (mergeAll fragments) fragment := by
  rw [mergeAll, mergeAll, List.foldl_append, List.foldl_cons, List.foldl_nil]

theorem outline_ne_iff (value other : Value) :
    value.outline ≠ other.outline ↔
      ¬ (value.isMapping = true ∧ other.isMapping = true) ∧ value ≠ other := by
  constructor
  · intro differ
    constructor
    · intro bothMap
      obtain ⟨entries, rfl⟩ := (isMapping_iff value).mp bothMap.1
      obtain ⟨others, rfl⟩ := (isMapping_iff other).mp bothMap.2
      exact differ rfl
    · intro same
      exact differ (congrArg outline same)
  · intro distinct same
    rcases eq_or_mappings_of_outline same with equal | ⟨entries, others, rfl, rfl⟩
    · exact distinct.2 equal
    · exact distinct.1 ⟨rfl, rfl⟩

theorem conflicting_iff (first second : List (String × Value)) :
    Conflicting first second ↔
      ∃ path shape other, outlineAt first path = some shape ∧
        outlineAt second path = some other ∧ shape ≠ other := by
  constructor
  · intro conflict
    obtain ⟨path, value, other, heldFirst, heldSecond, differ⟩ := conflict
    refine ⟨path, value.outline, other.outline, ?_, ?_, (outline_ne_iff value other).mpr differ⟩
    · rw [outlineAt, heldFirst, Option.map_some]
    · rw [outlineAt, heldSecond, Option.map_some]
  · intro conflict
    obtain ⟨path, shape, others, heldFirst, heldSecond, differ⟩ := conflict
    rw [outlineAt, Option.map_eq_some_iff] at heldFirst heldSecond
    obtain ⟨value, heldFirst, rfl⟩ := heldFirst
    obtain ⟨other, heldSecond, rfl⟩ := heldSecond
    exact ⟨path, value, other, heldFirst, heldSecond, (outline_ne_iff value other).mp differ⟩

theorem Conflicting.symm {first second : List (String × Value)}
    (conflict : Conflicting first second) : Conflicting second first := by
  rw [conflicting_iff] at conflict ⊢
  obtain ⟨path, shape, other, heldFirst, heldSecond, differ⟩ := conflict
  exact ⟨path, other, shape, heldSecond, heldFirst, differ.symm⟩

theorem outlines_agree {first second : List (String × Value)}
    (compatible : ¬ Conflicting first second) {path : List String} {shape other : Value}
    (heldFirst : outlineAt first path = some shape)
    (heldSecond : outlineAt second path = some other) : shape = other := by
  by_cases same : shape = other
  · exact same
  · apply absurd _ compatible
    rw [conflicting_iff]
    exact ⟨path, shape, other, heldFirst, heldSecond, same⟩

theorem nil_compatible (fragment : List (String × Value)) : ¬ Conflicting [] fragment := by
  rw [conflicting_iff]
  intro conflict
  obtain ⟨path, shape, other, heldFirst, heldSecond, differ⟩ := conflict
  cases path with
  | nil => exact differ (Option.some.inj (heldFirst.symm.trans heldSecond))
  | cons key rest => cases heldFirst

/-- Mappings inside one third mapping agree wherever both hold something. -/
theorem Contains.compatible {outer first second : List (String × Value)}
    (containsFirst : Contains outer first) (containsSecond : Contains outer second) :
    ¬ Conflicting first second := by
  rw [conflicting_iff]
  intro conflict
  obtain ⟨path, shape, other, heldFirst, heldSecond, differ⟩ := conflict
  have heldOuter := containsFirst path shape heldFirst
  rw [containsSecond path other heldSecond, Option.some.injEq] at heldOuter
  exact differ heldOuter.symm

theorem merge_eq_self_iff {outer : List (String × Value)} (ordered : Ordered outer)
    (inner : List (String × Value)) : mergeEntries outer inner = outer ↔ Contains outer inner := by
  constructor
  · intro unchanged
    rw [← unchanged]
    exact merge_contains_source outer inner
  · intro contained
    apply (ordered.merge inner).ext ordered
    intro path
    cases decided : outlineAt inner path with
    | some shape => rw [outlineAt_merge_of_source decided, contained path shape decided]
    | none =>
        by_cases blocked : LeafBefore inner path
        · have nothing := holdsNothing_of_leafBefore (contained.leafBefore blocked)
          rw [outlineAt_merge_of_leafBefore blocked, (holdsNothing_iff outer path).mp nothing]
        · exact outlineAt_merge_of_target decided blocked outer

/-- What the target holds at a path stands inside mappings, where a compatible source has no
leaf. -/
theorem not_leafBefore_of_compatible {target source : List (String × Value)}
    (compatible : ¬ Conflicting target source) {path : List String} {shape : Value}
    (held : outlineAt target path = some shape) : ¬ LeafBefore source path := by
  intro blocked
  obtain ⟨start, leaf, before, proper, stands⟩ := blocked
  rw [outlineAt, Option.map_eq_some_iff] at held
  obtain ⟨value, found, -⟩ := held
  have maps := holdsMapping_before before proper found
  rw [holdsMapping_iff] at maps
  rw [holdsLeaf_iff] at stands
  obtain ⟨heldLeaf, notMapping⟩ := stands
  rw [← outlines_agree compatible maps heldLeaf] at notMapping
  cases notMapping

/-- Compatible mappings merge into the union of what they hold. -/
theorem outlineAt_merge_of_compatible {target source : List (String × Value)}
    (compatible : ¬ Conflicting target source) (path : List String) (shape : Value) :
    outlineAt (mergeEntries target source) path = some shape ↔
      outlineAt target path = some shape ∨ outlineAt source path = some shape := by
  rw [outlineAt_merge_iff, holdsNothing_iff]
  constructor
  · intro held
    rcases held with decided | ⟨held, -⟩
    · exact Or.inr decided
    · exact Or.inl held
  · intro held
    rcases held with held | decided
    · cases decided : outlineAt source path with
      | none => exact Or.inr ⟨held, rfl, not_leafBefore_of_compatible compatible held⟩
      | some other => exact Or.inl (congrArg some (outlines_agree compatible held decided).symm)
    · exact Or.inl decided

theorem Conflicting.of_merge {target source other : List (String × Value)}
    (conflict : Conflicting (mergeEntries target source) other) :
    Conflicting target other ∨ Conflicting source other := by
  simp only [conflicting_iff] at conflict ⊢
  obtain ⟨path, shape, others, held, heldOther, differ⟩ := conflict
  rw [outlineAt_merge_iff] at held
  rcases held with decided | ⟨held, -⟩
  · exact Or.inr ⟨path, shape, others, decided, heldOther, differ⟩
  · exact Or.inl ⟨path, shape, others, held, heldOther, differ⟩

theorem Ordered.foldl {base : List (String × Value)} (ordered : Ordered base)
    (fragments : List (List (String × Value))) : Ordered (fragments.foldl mergeEntries base) := by
  induction fragments generalizing base with
  | nil => exact ordered
  | cons fragment rest ih => exact ih (ordered.merge fragment)

theorem ordered_mergeAll (fragments : List (List (String × Value))) :
    Ordered (mergeAll fragments) := ordered_nil.foldl fragments

/-- Fragments that conflict neither with each other nor with the base merge into the union. -/
theorem outlineAt_foldl_of_compatible {base : List (String × Value)}
    {fragments : List (List (String × Value))}
    (apart : ∀ fragment ∈ fragments, ¬ Conflicting base fragment)
    (pairwise : fragments.Pairwise fun first second => ¬ Conflicting first second)
    (path : List String) (shape : Value) :
    outlineAt (fragments.foldl mergeEntries base) path = some shape ↔
      outlineAt base path = some shape ∨
        ∃ fragment ∈ fragments, outlineAt fragment path = some shape := by
  induction fragments generalizing base with
  | nil => simp
  | cons fragment rest ih =>
      rw [List.pairwise_cons] at pairwise
      have apartRest : ∀ other ∈ rest, ¬ Conflicting (mergeEntries base fragment) other := by
        intro other member conflict
        rcases conflict.of_merge with fromBase | fromFragment
        · exact apart other (List.mem_cons_of_mem _ member) fromBase
        · exact pairwise.1 other member fromFragment
      rw [List.foldl_cons, ih apartRest pairwise.2,
        outlineAt_merge_of_compatible (apart fragment List.mem_cons_self)]
      simp only [List.mem_cons, exists_eq_or_imp, or_assoc]

theorem outlineAt_mergeAll_of_compatible {fragments : List (List (String × Value))}
    (pairwise : fragments.Pairwise fun first second => ¬ Conflicting first second)
    (path : List String) (shape : Value) :
    outlineAt (mergeAll fragments) path = some shape ↔
      outlineAt [] path = some shape ∨
        ∃ fragment ∈ fragments, outlineAt fragment path = some shape := by
  apply outlineAt_foldl_of_compatible _ pairwise
  intro fragment _
  exact nil_compatible fragment

/-- Fragments that do not conflict give one mapping in every order. -/
theorem mergeAll_perm {fragments order : List (List (String × Value))}
    (pairwise : fragments.Pairwise fun first second => ¬ Conflicting first second)
    (perm : order.Perm fragments) : mergeAll order = mergeAll fragments := by
  have pairwiseOrder : order.Pairwise fun first second => ¬ Conflicting first second := by
    apply perm.symm.pairwise pairwise
    intro first second compatible conflict
    exact compatible conflict.symm
  apply (ordered_mergeAll order).ext (ordered_mergeAll fragments)
  intro path
  apply Option.ext
  intro shape
  rw [outlineAt_mergeAll_of_compatible pairwiseOrder, outlineAt_mergeAll_of_compatible pairwise]
  simp only [perm.mem_iff]

end DocFilter.Value
