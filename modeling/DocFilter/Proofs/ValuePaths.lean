import DocFilter.Value.Basic

set_option autoImplicit false

namespace DocFilter.Value

/-- What a value holds at a path of keys, walked through mappings only. -/
def at? (value : Value) : List String → Option Value
  | [] => some value
  | key :: rest => (Entries.lookup key value.entries).bind fun inner => inner.at? rest

/-- The mapping holds a value that is no mapping at the path. -/
def HoldsLeaf (entries : List (String × Value)) (path : List String) (leaf : Value) : Prop :=
  (mapping entries).at? path = some leaf ∧ leaf.isMapping = false

def HoldsMapping (entries : List (String × Value)) (path : List String) : Prop :=
  ∃ inner, (mapping entries).at? path = some (mapping inner)

def HoldsNothing (entries : List (String × Value)) (path : List String) : Prop :=
  (mapping entries).at? path = none

/-- A value that is no mapping stands at a proper prefix of the path. -/
def LeafBefore (entries : List (String × Value)) (path : List String) : Prop :=
  ∃ start leaf, start <+: path ∧ start ≠ path ∧ HoldsLeaf entries start leaf

/-- The value without the entries that are reached by longer paths. -/
def outline : Value → Value
  | mapping _ => mapping []
  | leaf => leaf

def outlineAt (entries : List (String × Value)) (path : List String) : Option Value :=
  ((mapping entries).at? path).map outline

/-- The entries of the mapping under a key; there are none where no mapping stands. -/
def inside (key : String) (entries : List (String × Value)) : List (String × Value) :=
  ((Entries.lookup key entries).map Value.entries).getD []

theorem inside_cases (key : String) (entries : List (String × Value)) :
    inside key entries = [] ∨ Entries.lookup key entries = some (mapping (inside key entries)) := by
  cases found : Entries.lookup key entries with
  | none => simp [inside, found]
  | some value => cases value <;> simp [inside, found, Value.entries]

theorem inside_of_lookup {key : String} {entries inner : List (String × Value)}
    (stands : Entries.lookup key entries = some (mapping inner)) : inside key entries = inner := by
  rw [inside, stands, Option.map_some, Option.getD_some, Value.entries]

theorem isMapping_iff (value : Value) :
    value.isMapping = true ↔ ∃ entries, value = mapping entries := by
  cases value <;> simp [isMapping]

theorem leaf_or_mapping (value : Value) :
    value.isMapping = false ∨ ∃ entries, value = mapping entries := by
  cases value <;> simp [isMapping]

theorem outline_of_leaf {value : Value} (leaf : value.isMapping = false) :
    value.outline = value := by
  cases value with
  | mapping entries => cases leaf
  | _ => rfl

@[simp] theorem isMapping_outline (value : Value) : value.outline.isMapping = value.isMapping := by
  cases value <;> rfl

/-- An outline is the empty mapping or a leaf. -/
theorem outline_cases (value : Value) :
    value.outline = mapping [] ∨ value.outline.isMapping = false := by
  cases value <;> simp [outline, isMapping]

theorem outline_eq_leaf_iff (value leaf : Value) (noMapping : leaf.isMapping = false) :
    value.outline = leaf ↔ value = leaf := by
  constructor
  · intro same
    have valueLeaf : value.isMapping = false := by rw [← isMapping_outline, same, noMapping]
    rwa [outline_of_leaf valueLeaf] at same
  · intro same
    rw [same]
    exact outline_of_leaf noMapping

theorem outline_eq_mapping_iff (value : Value) :
    value.outline = mapping [] ↔ ∃ entries, value = mapping entries := by
  rw [← isMapping_iff, ← isMapping_outline]
  constructor
  · intro empty
    rw [empty]
    rfl
  · intro maps
    rcases outline_cases value with empty | leaf
    · exact empty
    · rw [leaf] at maps
      cases maps

@[simp] theorem at?_nil (value : Value) : value.at? [] = some value := rfl

theorem at?_cons (value : Value) (key : String) (rest : List String) :
    value.at? (key :: rest) =
      (Entries.lookup key value.entries).bind fun inner => inner.at? rest := rfl

theorem at?_singleton (entries : List (String × Value)) (key : String) :
    (mapping entries).at? [key] = Entries.lookup key entries := by
  rw [at?_cons]
  exact Option.bind_fun_some _

theorem at?_inside (entries : List (String × Value)) (key next : String) (rest : List String) :
    (mapping entries).at? (key :: next :: rest) =
      (mapping (inside key entries)).at? (next :: rest) := by
  rw [at?_cons]
  cases found : Entries.lookup key entries with
  | none => simp [Value.entries, found, inside, at?_cons]
  | some inner => simp [Value.entries, found, inside, at?_cons]

theorem at?_inside_of_mapping {entries inner : List (String × Value)} {key : String}
    {rest : List String} (held : (mapping entries).at? (key :: rest) = some (mapping inner)) :
    (mapping (inside key entries)).at? rest = some (mapping inner) := by
  cases rest with
  | nil =>
      rw [at?_singleton] at held
      rw [at?_nil, inside_of_lookup held]
  | cons next rest => rwa [← at?_inside]

@[simp] theorem outlineAt_nil (entries : List (String × Value)) :
    outlineAt entries [] = some (mapping []) := rfl

theorem outlineAt_singleton (entries : List (String × Value)) (key : String) :
    outlineAt entries [key] = (Entries.lookup key entries).map outline := by
  rw [outlineAt, at?_singleton]

theorem outlineAt_inside (entries : List (String × Value)) (key next : String)
    (rest : List String) :
    outlineAt entries (key :: next :: rest) = outlineAt (inside key entries) (next :: rest) := by
  rw [outlineAt, at?_inside, outlineAt]

theorem holdsLeaf_iff (entries : List (String × Value)) (path : List String) (leaf : Value) :
    HoldsLeaf entries path leaf ↔
      outlineAt entries path = some leaf ∧ leaf.isMapping = false := by
  apply and_congr_left
  intro noMapping
  simp only [outlineAt, Option.map_eq_some_iff, outline_eq_leaf_iff _ _ noMapping,
    exists_eq_right]

theorem holdsMapping_iff (entries : List (String × Value)) (path : List String) :
    HoldsMapping entries path ↔ outlineAt entries path = some (mapping []) := by
  rw [outlineAt, Option.map_eq_some_iff]
  constructor
  · intro held
    obtain ⟨inner, found⟩ := held
    exact ⟨mapping inner, found, rfl⟩
  · intro held
    obtain ⟨value, found, empty⟩ := held
    obtain ⟨inner, rfl⟩ := (outline_eq_mapping_iff value).mp empty
    exact ⟨inner, found⟩

theorem holdsNothing_iff (entries : List (String × Value)) (path : List String) :
    HoldsNothing entries path ↔ outlineAt entries path = none := by
  rw [HoldsNothing, outlineAt, Option.map_eq_none_iff]

/-- At a path a mapping holds one of three things. -/
theorem holds_cases (entries : List (String × Value)) (path : List String) :
    HoldsNothing entries path ∨ HoldsMapping entries path ∨
      ∃ leaf, HoldsLeaf entries path leaf := by
  cases found : (mapping entries).at? path with
  | none => exact Or.inl found
  | some value =>
      rcases value.leaf_or_mapping with noMapping | ⟨inner, rfl⟩
      · exact Or.inr (Or.inr ⟨value, found, noMapping⟩)
      · exact Or.inr (Or.inl ⟨inner, found⟩)

theorem at?_append (value : Value) (start rest : List String) :
    value.at? (start ++ rest) = (value.at? start).bind fun inner => inner.at? rest := by
  induction start generalizing value with
  | nil => rfl
  | cons key start ih =>
      rw [List.cons_append, at?_cons, at?_cons]
      cases Entries.lookup key value.entries with
      | none => rfl
      | some inner => exact ih inner

/-- Whatever is held at a path stands inside mappings only. -/
theorem holdsMapping_before {entries : List (String × Value)} {start path : List String}
    (before : start <+: path) (proper : start ≠ path) {value : Value}
    (held : (mapping entries).at? path = some value) : HoldsMapping entries start := by
  obtain ⟨tail, rfl⟩ := before
  rw [at?_append, Option.bind_eq_some_iff] at held
  obtain ⟨outer, reached, further⟩ := held
  cases tail with
  | nil => exact absurd (List.append_nil start).symm proper
  | cons next rest =>
      cases outer with
      | mapping inner => exact ⟨inner, reached⟩
      | _ => cases further

theorem HoldsLeaf.not_holdsMapping {entries : List (String × Value)} {path : List String}
    {leaf : Value} (held : HoldsLeaf entries path leaf) : ¬ HoldsMapping entries path := by
  intro maps
  obtain ⟨inner, found⟩ := maps
  rw [HoldsLeaf, found, Option.some.injEq] at held
  obtain ⟨rfl, noMapping⟩ := held
  cases noMapping

theorem holdsNothing_of_leafBefore {entries : List (String × Value)} {path : List String}
    (blocked : LeafBefore entries path) : HoldsNothing entries path := by
  obtain ⟨start, leaf, before, proper, held⟩ := blocked
  rw [HoldsNothing, Option.eq_none_iff_forall_ne_some]
  intro value found
  exact held.not_holdsMapping (holdsMapping_before before proper found)

/-- Whatever the inner mapping holds at a path, the outer one holds there too. -/
def Contains (outer inner : List (String × Value)) : Prop :=
  ∀ path shape, outlineAt inner path = some shape → outlineAt outer path = some shape

theorem Contains.leafBefore {outer inner : List (String × Value)}
    (contained : Contains outer inner) {path : List String}
    (blocked : LeafBefore inner path) : LeafBefore outer path := by
  obtain ⟨start, leaf, before, proper, held⟩ := blocked
  refine ⟨start, leaf, before, proper, ?_⟩
  rw [holdsLeaf_iff] at held ⊢
  exact ⟨contained start leaf held.1, held.2⟩

/-- The keys ascend in every mapping that is reached through mappings; values inside arrays are
left as they are. -/
def Ordered (entries : List (String × Value)) : Prop :=
  ∀ path inner, (mapping entries).at? path = some (mapping inner) → Entries.Ascending inner

theorem Ordered.ascending {entries : List (String × Value)} (ordered : Ordered entries) :
    Entries.Ascending entries := ordered [] entries rfl

theorem ordered_nil : Ordered [] := by
  intro path inner found
  cases path with
  | nil =>
      simp only [at?_nil, Option.some.injEq, mapping.injEq] at found
      exact found ▸ Entries.ascending_nil
  | cons key rest => cases found

theorem Ordered.descend {entries : List (String × Value)} (ordered : Ordered entries)
    (key : String) : Ordered (inside key entries) := by
  intro path inner found
  cases path with
  | cons next rest => exact ordered (key :: next :: rest) inner (by rw [at?_inside, found])
  | nil =>
      simp only [at?_nil, Option.some.injEq, mapping.injEq] at found
      subst found
      rcases inside_cases key entries with empty | stands
      · rw [empty]
        exact Entries.ascending_nil
      · exact ordered [key] _ (by rw [at?_singleton, stands])

theorem sizeOf_of_lookup {key : String} {entries inner : List (String × Value)}
    (stands : Entries.lookup key entries = some (mapping inner)) :
    sizeOf inner < sizeOf entries := by
  have member := List.sizeOf_lt_of_mem (Entries.mem_of_lookup stands)
  simp only [Prod.mk.sizeOf_spec, mapping.sizeOf_spec] at member
  omega

/-- Two values of one outline are equal leaves, or both are mappings. -/
theorem eq_or_mappings_of_outline {first second : Value} (same : first.outline = second.outline) :
    first = second ∨ ∃ inner other, first = mapping inner ∧ second = mapping other := by
  rcases outline_cases first with empty | leaf
  · obtain ⟨inner, rfl⟩ := (outline_eq_mapping_iff first).mp empty
    obtain ⟨other, rfl⟩ := (outline_eq_mapping_iff second).mp (same ▸ empty)
    exact Or.inr ⟨inner, other, rfl, rfl⟩
  · rw [isMapping_outline] at leaf
    rw [outline_of_leaf leaf] at same
    exact Or.inl ((outline_eq_leaf_iff second first leaf).mp same.symm).symm

theorem outlineAt_of_lookup {key : String} {entries inner : List (String × Value)}
    (stands : Entries.lookup key entries = some (mapping inner)) (path : List String) :
    outlineAt inner path = outlineAt entries (key :: path) := by
  cases path with
  | nil => rw [outlineAt_singleton, stands, outlineAt_nil, Option.map_some, outline]
  | cons next rest => rw [outlineAt_inside, inside_of_lookup stands]

/-- Mappings that are ordered at every depth are known by their outlines. -/
theorem Ordered.ext {first second : List (String × Value)} (orderedFirst : Ordered first)
    (orderedSecond : Ordered second)
    (same : ∀ path, outlineAt first path = outlineAt second path) : first = second := by
  apply orderedFirst.ascending.ext orderedSecond.ascending
  intro key
  have single := same [key]
  rw [outlineAt_singleton, outlineAt_singleton] at single
  cases standsFirst : Entries.lookup key first with
  | none =>
      rw [standsFirst, Option.map_none, eq_comm, Option.map_eq_none_iff] at single
      rw [single]
  | some value =>
      rw [standsFirst, Option.map_some, eq_comm, Option.map_eq_some_iff] at single
      obtain ⟨other, standsSecond, shapes⟩ := single
      rw [standsSecond]
      rcases eq_or_mappings_of_outline shapes with equal | ⟨others, inner, rfl, rfl⟩
      · rw [equal]
      · -- Two mappings under one key are equal by induction on the size of the first.
        have smaller := sizeOf_of_lookup standsFirst
        have orderedInner := inside_of_lookup standsFirst ▸ orderedFirst.descend key
        have orderedOthers := inside_of_lookup standsSecond ▸ orderedSecond.descend key
        have equal : inner = others := by
          apply Ordered.ext orderedInner orderedOthers
          intro path
          rw [outlineAt_of_lookup standsFirst, outlineAt_of_lookup standsSecond, same]
        rw [equal]
termination_by sizeOf first

end DocFilter.Value
