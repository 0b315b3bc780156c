import DocFilter.Proofs.CompileFragments
import DocFilter.Proofs.StoredShapes

set_option autoImplicit false

/-
Laws of merging. Repeating a merge changes nothing, and an empty target takes the source as it is.
Merges may be regrouped unless a leaf in the middle stands between two mappings: merged from the
left, the leaf drops what the first mapping holds; merged from the right, the last mapping has
replaced the leaf before the first one is met.
-/
namespace DocFilter

namespace Value

/-- A merge leaves at the path what the target holds: the source has nothing there and no leaf
before. -/
def Spares (source : List (String × Value)) (path : List String) : Prop :=
  HoldsNothing source path ∧ ¬ LeafBefore source path

/-- A leaf of the target stands before the path, and the source has a mapping in its place. -/
def Bridged (target source : List (String × Value)) (path : List String) : Prop :=
  ∃ start leaf, start <+: path ∧ start ≠ path ∧ HoldsLeaf target start leaf ∧
    HoldsMapping source start

section Paths

variable {entries inner target source : List (String × Value)} {path start : List String}

theorem HoldsNothing.outlineAt_ne (nothing : HoldsNothing entries path) (shape : Value) :
    outlineAt entries path ≠ some shape := by
  rw [(holdsNothing_iff entries path).mp nothing]
  exact (Option.some_ne_none shape).symm

theorem LeafBefore.extend (blocked : LeafBefore entries start) (before : start <+: path) :
    LeafBefore entries path := by
  obtain ⟨inner, leaf, within, proper, held⟩ := blocked
  refine ⟨inner, leaf, within.trans before, ?_, held⟩
  intro same
  rw [same] at within proper
  exact proper (within.eq_of_length_le before.length_le)

theorem HoldsLeaf.start_unique {other : List String} {leaf shape : Value}
    (held : HoldsLeaf entries start leaf) (heldOther : HoldsLeaf entries other shape)
    (before : start <+: path) (otherBefore : other <+: path) : start = other := by
  by_cases same : start = other
  · exact same
  · rcases List.prefix_or_prefix_of_prefix before otherBefore with within | within
    · have maps := holdsMapping_before within same heldOther.1
      exact absurd maps held.not_holdsMapping
    · have maps := holdsMapping_before within (Ne.symm same) held.1
      exact absurd maps heldOther.not_holdsMapping

theorem Bridged.leafBefore (bridged : Bridged target source path) : LeafBefore target path := by
  obtain ⟨start, leaf, before, proper, held, -⟩ := bridged
  exact ⟨start, leaf, before, proper, held⟩

theorem Spares.outlineAt_merge (spared : Spares source path) (target : List (String × Value)) :
    outlineAt (mergeEntries target source) path = outlineAt target path :=
  outlineAt_merge_of_target ((holdsNothing_iff source path).mp spared.1) spared.2 target

theorem Spares.holdsNothing_merge_iff (spared : Spares source path)
    (target : List (String × Value)) :
    HoldsNothing (mergeEntries target source) path ↔ HoldsNothing target path := by
  rw [holdsNothing_iff, spared.outlineAt_merge, ← holdsNothing_iff]

theorem Spares.of_merge (spared : Spares (mergeEntries target source) path) :
    Spares source path := by
  constructor
  · rw [holdsNothing_iff, Option.eq_none_iff_forall_ne_some]
    intro shape held
    exact spared.1.outlineAt_ne shape (outlineAt_merge_of_source held target)
  · intro blocked
    exact spared.2 ((merge_contains_source target source).leafBefore blocked)

theorem Spares.merge (sparedTarget : Spares target path) (sparedSource : Spares source path) :
    Spares (mergeEntries target source) path := by
  constructor
  · rw [sparedSource.holdsNothing_merge_iff]
    exact sparedTarget.1
  · intro blocked
    obtain ⟨start, leaf, before, proper, held⟩ := blocked
    rcases (holdsLeaf_merge_iff target source start leaf).mp held with inSource | ⟨inTarget, -⟩
    · exact sparedSource.2 ⟨start, leaf, before, proper, inSource⟩
    · exact sparedTarget.2 ⟨start, leaf, before, proper, inTarget⟩

theorem Bridged.spares (bridged : Bridged target source path) (spared : Spares source path) :
    Spares (mergeEntries target source) path := by
  constructor
  · rw [spared.holdsNothing_merge_iff]
    exact holdsNothing_of_leafBefore bridged.leafBefore
  · intro blocked
    obtain ⟨start, leaf, before, -, stands, maps⟩ := bridged
    obtain ⟨other, shape, otherBefore, otherProper, held⟩ := blocked
    rcases (holdsLeaf_merge_iff target source other shape).mp held with
      inSource | ⟨inTarget, nothing, -⟩
    · exact spared.2 ⟨other, shape, otherBefore, otherProper, inSource⟩
    · -- Both leaves of the target are one, and the source has a mapping there.
      obtain ⟨inner, found⟩ := maps
      rw [stands.start_unique inTarget before otherBefore, nothing] at found
      cases found

theorem Spares.target_or_bridged (spared : Spares (mergeEntries target source) path) :
    Spares target path ∨ Bridged target source path := by
  by_cases blocked : LeafBefore target path
  · obtain ⟨start, leaf, before, proper, stands⟩ := blocked
    rcases holds_cases source start with nothing | maps | ⟨other, inSource⟩
    · have free : ¬ LeafBefore source start := fun cut => spared.of_merge.2 (cut.extend before)
      have kept := (holdsLeaf_merge_iff target source start leaf).mpr
        (Or.inr ⟨stands, nothing, free⟩)
      exact absurd ⟨start, leaf, before, proper, kept⟩ spared.2
    · exact Or.inr ⟨start, leaf, before, proper, stands, maps⟩
    · exact absurd ⟨start, other, before, proper, inSource⟩ spared.of_merge.2
  · refine Or.inl ⟨?_, blocked⟩
    rw [← spared.of_merge.holdsNothing_merge_iff target]
    exact spared.1

/-- Two mappings merged spare a path if both do, and also where the source has replaced the leaf of
the target that cuts the path off. -/
theorem spares_merge_iff (target source : List (String × Value)) (path : List String) :
    Spares (mergeEntries target source) path ↔
      Spares source path ∧ (Spares target path ∨ Bridged target source path) := by
  constructor
  · intro spared
    exact ⟨spared.of_merge, spared.target_or_bridged⟩
  · intro spared
    obtain ⟨sparedSource, sparedTarget | bridged⟩ := spared
    · exact sparedTarget.merge sparedSource
    · exact bridged.spares sparedSource

theorem Ordered.at? (ordered : Ordered entries)
    (held : (mapping entries).at? path = some (mapping inner)) : Ordered inner := by
  intro further deeper found
  apply ordered (path ++ further) deeper
  rw [at?_append, held, Option.bind_some, found]

theorem holdsNothing_append_iff (held : (mapping entries).at? start = some (mapping inner))
    (rest : List String) : HoldsNothing entries (start ++ rest) ↔ HoldsNothing inner rest := by
  rw [HoldsNothing, at?_append, held, Option.bind_some, HoldsNothing]

theorem holdsLeaf_append_iff (held : (mapping entries).at? start = some (mapping inner))
    (rest : List String) (leaf : Value) :
    HoldsLeaf entries (start ++ rest) leaf ↔ HoldsLeaf inner rest leaf := by
  rw [HoldsLeaf, at?_append, held, Option.bind_some, HoldsLeaf]

theorem leafBefore_append_iff (held : (mapping entries).at? start = some (mapping inner))
    (rest : List String) : LeafBefore entries (start ++ rest) ↔ LeafBefore inner rest := by
  constructor
  · intro blocked
    obtain ⟨other, leaf, before, proper, stands⟩ := blocked
    rcases List.prefix_or_prefix_of_prefix before (List.prefix_append start rest) with
      within | ⟨more, rfl⟩
    · -- The leaf cannot stand on the way to the inner mapping.
      by_cases whole : other = start
      · exact absurd ⟨inner, whole ▸ held⟩ stands.not_holdsMapping
      · exact absurd (holdsMapping_before within whole held) stands.not_holdsMapping
    · refine ⟨more, leaf, (List.prefix_append_right_inj start).mp before, ?_, ?_⟩
      · intro same
        exact proper (same ▸ rfl)
      · rwa [holdsLeaf_append_iff held] at stands
  · intro blocked
    obtain ⟨more, leaf, before, proper, stands⟩ := blocked
    refine ⟨start ++ more, leaf, (List.prefix_append_right_inj start).mpr before, ?_, ?_⟩
    · intro same
      exact proper (List.append_cancel_left same)
    · rwa [holdsLeaf_append_iff held]

theorem spares_append_iff (held : (mapping entries).at? start = some (mapping inner))
    (rest : List String) : Spares entries (start ++ rest) ↔ Spares inner rest := by
  rw [Spares, holdsNothing_append_iff held, leafBefore_append_iff held, Spares]

/-- The source takes the target in exactly if it spares nothing that the target holds. -/
theorem merge_eq_source_iff (orderedTarget : Ordered target) (orderedSource : Ordered source) :
    mergeEntries target source = source ↔
      ∀ path, Spares source path → HoldsNothing target path := by
  constructor
  · intro same path spared
    rw [← spared.holdsNothing_merge_iff target, same]
    exact spared.1
  · intro nothing
    apply (orderedTarget.merge source).ext orderedSource
    intro path
    apply Option.ext
    intro shape
    rw [outlineAt_merge_iff]
    constructor
    · intro held
      rcases held with decided | ⟨held, spared⟩
      · exact decided
      · exact absurd held ((nothing path spared).outlineAt_ne shape)
    · exact Or.inl

end Paths

section Regrouping

variable {first second third : List (String × Value)}

/-- Regrouping makes a difference only at paths that the third mapping has opened again. -/
theorem regrouped_iff_nothing_bridged (ordered : Ordered first) :
    mergeEntries (mergeEntries first second) third =
        mergeEntries first (mergeEntries second third) ↔
      ∀ path, Bridged second third path → Spares third path → HoldsNothing first path := by
  constructor
  · intro same path bridged spared
    have fromLeft : HoldsNothing (mergeEntries (mergeEntries first second) third) path := by
      rw [spared.holdsNothing_merge_iff, holdsNothing_iff]
      exact outlineAt_merge_of_leafBefore bridged.leafBefore first
    rwa [same, (bridged.spares spared).holdsNothing_merge_iff] at fromLeft
  · intro nothing
    apply ((ordered.merge second).merge third).ext (ordered.merge (mergeEntries second third))
    intro path
    apply Option.ext
    intro shape
    have merged (target source : List (String × Value)) :
        outlineAt (mergeEntries target source) path = some shape ↔
          outlineAt source path = some shape ∨
            outlineAt target path = some shape ∧ Spares source path :=
      outlineAt_merge_iff target source path shape
    -- The sides differ only in where the second and third mapping spare what the first one holds.
    rw [merged, merged, merged, merged, spares_merge_iff]
    constructor
    · intro held
      rcases held with inThird | ⟨inSecond | ⟨inFirst, sparedSecond⟩, sparedThird⟩
      · exact Or.inl (Or.inl inThird)
      · exact Or.inl (Or.inr ⟨inSecond, sparedThird⟩)
      · exact Or.inr ⟨inFirst, sparedThird, Or.inl sparedSecond⟩
    · intro held
      rcases held with (inThird | ⟨inSecond, sparedThird⟩) |
        ⟨inFirst, sparedThird, sparedSecond | bridged⟩
      · exact Or.inl inThird
      · exact Or.inr ⟨Or.inl inSecond, sparedThird⟩
      · exact Or.inr ⟨Or.inr ⟨inFirst, sparedSecond⟩, sparedThird⟩
      · exact absurd inFirst ((nothing path bridged sparedThird).outlineAt_ne shape)

/-- What the paths below the replaced leaves say, said at the leaves. -/
theorem nothing_bridged_iff (second : List (String × Value)) (orderedFirst : Ordered first)
    (orderedThird : Ordered third) :
    (∀ path, Bridged second third path → Spares third path → HoldsNothing first path) ↔
      ∀ path inner leaf last, (mapping first).at? path = some (mapping inner) →
        HoldsLeaf second path leaf → (mapping third).at? path = some (mapping last) →
        mergeEntries inner last = last := by
  constructor
  · intro nothing path inner leaf last heldFirst stands heldThird
    rw [merge_eq_source_iff (orderedFirst.at? heldFirst) (orderedThird.at? heldThird)]
    intro rest spared
    have proper : path ≠ path ++ rest := by
      intro whole
      rw [List.self_eq_append_right] at whole
      rw [whole] at spared
      cases spared.1
    have nothingThere := nothing (path ++ rest)
      ⟨path, leaf, List.prefix_append path rest, proper, stands, last, heldThird⟩
      ((spares_append_iff heldThird rest).mpr spared)
    rwa [holdsNothing_append_iff heldFirst] at nothingThere
  · intro covered path bridged spared
    obtain ⟨start, leaf, ⟨rest, rfl⟩, proper, stands, last, heldThird⟩ := bridged
    rcases holds_cases first start with nothing | ⟨inner, heldFirst⟩ | ⟨other, inFirst⟩
    · rw [HoldsNothing] at nothing ⊢
      rw [at?_append, nothing, Option.bind_none]
    · have same := covered start inner leaf last heldFirst stands heldThird
      rw [merge_eq_source_iff (orderedFirst.at? heldFirst) (orderedThird.at? heldThird)] at same
      rw [holdsNothing_append_iff heldFirst]
      exact same rest ((spares_append_iff heldThird rest).mp spared)
    · exact holdsNothing_of_leafBefore
        ⟨start, other, List.prefix_append start rest, proper, inFirst⟩

end Regrouping

/-- Merges may be regrouped exactly if the last mapping takes the first one in wherever a leaf of
the middle one stands between them; and so always where no leaf stands between two mappings. -/
theorem regrouping_keeps_merge_iff {first second third : List (String × Value)}
    (orderedFirst : Ordered first) (orderedThird : Ordered third) :
    (mergeEntries (mergeEntries first second) third =
        mergeEntries first (mergeEntries second third) ↔
      ∀ path inner leaf last, (mapping first).at? path = some (mapping inner) →
        HoldsLeaf second path leaf → (mapping third).at? path = some (mapping last) →
        mergeEntries inner last = last) ∧
    ((∀ path, ¬ (HoldsMapping first path ∧ (∃ leaf, HoldsLeaf second path leaf) ∧
        HoldsMapping third path)) →
      mergeEntries (mergeEntries first second) third =
        mergeEntries first (mergeEntries second third)) := by
  have regrouped := (regrouped_iff_nothing_bridged orderedFirst).trans
    (nothing_bridged_iff second orderedFirst orderedThird)
  refine ⟨regrouped, ?_⟩
  intro apart
  rw [regrouped]
  intro path inner leaf last heldFirst stands heldThird
  exact absurd ⟨⟨inner, heldFirst⟩, ⟨leaf, stands⟩, ⟨last, heldThird⟩⟩ (apart path)

def lowerBound : List (String × Value) :=
  [("born", mapping [("at", mapping [("$gt", string "1970")])])]

def noBound : List (String × Value) :=
  [("born", mapping [("at", null)])]

def upperBound : List (String × Value) :=
  [("born", mapping [("at", mapping [("$lt", string "1980")])])]

theorem ordered_lowerBound : Ordered lowerBound := by
  apply Canonical.ordered
  exact ⟨List.pairwise_singleton _ _, ⟨List.pairwise_singleton _ _,
    ⟨List.pairwise_singleton _ _, trivial, trivial⟩, trivial⟩, trivial⟩

theorem ordered_upperBound : Ordered upperBound := by
  apply Canonical.ordered
  exact ⟨List.pairwise_singleton _ _, ⟨List.pairwise_singleton _ _,
    ⟨List.pairwise_singleton _ _, trivial, trivial⟩, trivial⟩, trivial⟩

/-- Two bounds around a leaf, two levels down: from the left the lower bound is lost, so it is not
from the right, for the upper one does not take it in. -/
theorem bounds_not_regrouped :
    Ordered lowerBound ∧ Ordered upperBound ∧
    (mapping lowerBound).at? ["born", "at"] = some (mapping [("$gt", string "1970")]) ∧
    HoldsLeaf noBound ["born", "at"] null ∧
    (mapping upperBound).at? ["born", "at"] = some (mapping [("$lt", string "1980")]) ∧
    mergeEntries (mergeEntries lowerBound noBound) upperBound ≠
      mergeEntries lowerBound (mergeEntries noBound upperBound) := by
  refine ⟨ordered_lowerBound, ordered_upperBound, rfl, ⟨rfl, rfl⟩, rfl, ?_⟩
  intro same
  have condition := (regrouping_keeps_merge_iff ordered_lowerBound ordered_upperBound).1.mp same
  have taken := condition ["born", "at"] _ _ _ rfl ⟨rfl, rfl⟩ rfl
  exact absurd taken (by decide)

theorem contains_iff (outer inner : List (String × Value)) :
    Contains outer inner ↔
      (∀ path leaf, HoldsLeaf inner path leaf → HoldsLeaf outer path leaf) ∧
        ∀ path, HoldsMapping inner path → HoldsMapping outer path := by
  constructor
  · intro contained
    constructor
    · intro path leaf held
      rw [holdsLeaf_iff] at held ⊢
      exact ⟨contained path leaf held.1, held.2⟩
    · intro path maps
      rw [holdsMapping_iff] at maps ⊢
      exact contained path _ maps
  · intro found path shape held
    obtain ⟨leaves, mappings⟩ := found
    obtain ⟨value, -, rfl⟩ := Option.map_eq_some_iff.mp held
    rcases outline_cases value with empty | leaf
    · rw [empty, ← holdsMapping_iff] at held ⊢
      exact mappings path held
    · have stands := leaves path value.outline ((holdsLeaf_iff inner path _).mpr ⟨held, leaf⟩)
      rw [holdsLeaf_iff] at stands
      exact stands.1

theorem compile_raw (resolver : Resolver) (source : List (String × Value)) :
    resolver.compile (OrderedMap.ofList [(rawKey, mapping source)]) =
      .ok (mergeEntries [] source) := rfl

/-- A mapping merged a second time changes nothing; merged into an empty mapping, or compiled as the
raw entry that stands alone, it comes out as it is; and a target stays as it is exactly if it has
all leaves and all mappings of the source. -/
theorem repeated_merge_changes_nothing {target source : List (String × Value)}
    (orderedTarget : Ordered target) (orderedSource : Ordered source) :
    mergeEntries (mergeEntries target source) source = mergeEntries target source ∧
    mergeEntries [] source = source ∧
    (∀ resolver : Resolver,
      resolver.compile (OrderedMap.ofList [(rawKey, mapping source)]) = .ok source) ∧
    (mergeEntries target source = target ↔
      (∀ path leaf, HoldsLeaf source path leaf → HoldsLeaf target path leaf) ∧
        ∀ path, HoldsMapping source path → HoldsMapping target path) := by
  refine ⟨?_, mergeEntries_empty orderedSource, ?_, ?_⟩
  · rw [merge_eq_self_iff (orderedTarget.merge source)]
    exact merge_contains_source target source
  · intro resolver
    rw [compile_raw, mergeEntries_empty orderedSource]
  · rw [merge_eq_self_iff orderedTarget, contains_iff]

/-- Both bounds stand side by side, however often the upper one is merged; the lower one alone does
not contain it. -/
theorem bounds_repeated :
    Ordered lowerBound ∧ Ordered upperBound ∧
    mergeEntries (mergeEntries lowerBound upperBound) upperBound =
      [("born", mapping [("at", mapping [("$gt", string "1970"), ("$lt", string "1980")])])] ∧
    Resolver.people.compile (OrderedMap.ofList [(rawKey, mapping upperBound)]) = .ok upperBound ∧
    ¬ ((∀ path leaf, HoldsLeaf upperBound path leaf → HoldsLeaf lowerBound path leaf) ∧
      ∀ path, HoldsMapping upperBound path → HoldsMapping lowerBound path) := by
  obtain ⟨again, -, verbatim, contained⟩ :=
    repeated_merge_changes_nothing ordered_lowerBound ordered_upperBound
  refine ⟨ordered_lowerBound, ordered_upperBound, again.trans rfl, verbatim Resolver.people, ?_⟩
  intro found
  exact absurd (contained.mpr found) (by decide)

end Value

end DocFilter
