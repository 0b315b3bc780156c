import DocFilter.Proofs.CompileFragments

set_option autoImplicit false

namespace DocFilter.Resolver

/-- A key is accepted if its path resolves and it is not ambiguous below its first field. -/
theorem validateKey_ok_iff (resolver : Resolver) (key : String) :
    resolver.validateKey key = .ok () ↔
      ∃ first rest, resolver.segments (FilterKey.parse key).path = .ok (first :: rest) ∧
        ((FilterKey.parse key).isNested = true → (FilterKey.parse key).isExplicit = false →
          first.isComposite = true) := by
  unfold validateKey
  dsimp only
  cases resolver.segments (FilterKey.parse key).path with
  | error error => simp
  | ok segments =>
      cases segments with
      | nil => simp
      | cons first rest => simp [and_assoc]

theorem validateKey_ok {resolver : Resolver} {key : String}
    (valid : resolver.validateKey key = .ok ()) :
    ∃ first rest, resolver.segments (FilterKey.parse key).path = .ok (first :: rest) := by
  obtain ⟨first, rest, resolved, -⟩ := (validateKey_ok_iff resolver key).mp valid
  exact ⟨first, rest, resolved⟩

theorem validateKeys_ok_iff (resolver : Resolver) (keys : List String) :
    resolver.validateKeys keys = .ok () ↔
      ∀ key ∈ keys, key ≠ rawKey → resolver.validateKey key = .ok () := by
  induction keys with
  | nil => simp [validateKeys]
  | cons key rest ih =>
      rw [validateKeys, List.forall_mem_cons]
      by_cases isRaw : key = rawKey
      · simp [isRaw, ih]
      · cases resolver.validateKey key with
        | error error => simp [isRaw]
        | ok accepted => simp [isRaw, ih]

theorem compileFilter_of_validateKey {resolver : Resolver} {key : String}
    (valid : resolver.validateKey key = .ok ()) (value : Value) :
    ∃ fragment, resolver.compileFilter key value = .ok fragment := by
  obtain ⟨first, rest, resolved⟩ := validateKey_ok valid
  have last : (first :: rest).getLast? = some ((first :: rest).getLast (List.cons_ne_nil _ _)) :=
    List.getLast?_eq_some_getLast _
  exact ⟨_, (compileFilter_ok_iff _ _ _ _).mpr ⟨first :: rest, _, resolved, last, rfl⟩⟩

/-- An entry of a validated filter set contributes, unless it is a raw entry with no mapping. -/
theorem contribution_of_validate {resolver : Resolver} {filters : FilterSet}
    (valid : resolver.validate filters = .ok ()) {key : String} {value : Value}
    (present : filters.get? key = some value) :
    (∃ fragment, resolver.contribution key value = .ok fragment) ∨
      (key = rawKey ∧ value.isMapping = false) := by
  by_cases isRaw : key = rawKey
  · rcases value.leaf_or_mapping with noMapping | ⟨entries, rfl⟩
    · exact Or.inr ⟨isRaw, noMapping⟩
    · exact Or.inl ⟨entries, (contribution_ok_iff _ _ _ _).mpr (Or.inl ⟨isRaw, rfl⟩)⟩
  · have member : key ∈ filters.keys :=
      (filters.mem_keys_iff key).mpr ⟨value, present⟩
    have accepted := (validateKeys_ok_iff _ _).mp valid key member isRaw
    obtain ⟨fragment, compiled⟩ := compileFilter_of_validateKey accepted value
    exact Or.inl ⟨fragment, (contribution_ok_iff _ _ _ _).mpr (Or.inr ⟨isRaw, compiled⟩)⟩

theorem contribution_raw_error (resolver : Resolver) {value : Value}
    (noMapping : value.isMapping = false) :
    resolver.contribution rawKey value = .error (.rawNotMapping value) := by
  unfold contribution
  cases value with
  | mapping entries => cases noMapping
  | _ => rfl

theorem compileOnto_ok_of_contributions (resolver : Resolver)
    {entries : List (String × Value)}
    (contributes : ∀ entry ∈ entries, ∃ fragment,
      resolver.contribution entry.1 entry.2 = .ok fragment) (base : List (String × Value)) :
    ∃ query, resolver.compileOnto base entries = .ok query := by
  induction entries generalizing base with
  | nil => exact ⟨base, rfl⟩
  | cons entry rest ih =>
      rw [List.forall_mem_cons] at contributes
      obtain ⟨fragment, contributed⟩ := contributes.1
      rw [compileOnto, contributed]
      exact ih contributes.2 (Value.mergeEntries base fragment)

/-- A failing compilation fails with the error of one of its entries. -/
theorem contribution_of_compileOnto_error {resolver : Resolver}
    {base entries : List (String × Value)} {error : CompileError}
    (failed : resolver.compileOnto base entries = .error error) :
    ∃ entry ∈ entries, resolver.contribution entry.1 entry.2 = .error error := by
  induction entries generalizing base with
  | nil => cases failed
  | cons entry rest ih =>
      rw [compileOnto] at failed
      cases contributed : resolver.contribution entry.1 entry.2 with
      | error other =>
          rw [contributed] at failed
          cases failed
          exact ⟨entry, List.mem_cons_self, contributed⟩
      | ok fragment =>
          rw [contributed] at failed
          obtain ⟨later, member, gives⟩ := ih failed
          exact ⟨later, List.mem_cons_of_mem _ member, gives⟩

theorem raw_isMapping_of_compile {resolver : Resolver} {filters : FilterSet}
    {query : List (String × Value)} (compiled : resolver.compile filters = .ok query)
    {value : Value} (present : filters.get? rawKey = some value) : value.isMapping = true := by
  rw [compile_ok_iff] at compiled
  obtain ⟨collected, complete, -⟩ := compiled
  have key : rawKey ∈ Entries.keys collected := by
    rw [keys_fragments complete]
    exact (filters.mem_keys_iff rawKey).mpr ⟨value, present⟩
  obtain ⟨⟨_, fragment⟩, member, rfl⟩ := List.mem_map.mp key
  obtain ⟨other, presentOther, raw | ⟨notRaw, -⟩⟩ := entry_of_fragment complete member
  · rw [present, Option.some.injEq] at presentOther
    rw [presentOther, raw.2]
    rfl
  · exact absurd rfl notRaw

theorem compile_of_validate {resolver : Resolver} {filters : FilterSet}
    (valid : resolver.validate filters = .ok ())
    (rawMaps : ∀ value, filters.get? rawKey = some value → value.isMapping = true) :
    ∃ query, resolver.compile filters = .ok query := by
  apply compileOnto_ok_of_contributions
  intro entry member
  have present := (filters.get?_eq_some_iff entry.1 entry.2).mpr member
  rcases contribution_of_validate valid present with contributes | ⟨isRaw, noMapping⟩
  · exact contributes
  · rw [isRaw] at present
    rw [rawMaps entry.2 present] at noMapping
    cases noMapping

theorem compile_error_of_validate {resolver : Resolver} {filters : FilterSet}
    (valid : resolver.validate filters = .ok ()) {error : CompileError}
    (failed : resolver.compile filters = .error error) :
    ∃ value, filters.get? rawKey = some value ∧ value.isMapping = false ∧
      error = .rawNotMapping value := by
  obtain ⟨⟨key, value⟩, member, gives⟩ := contribution_of_compileOnto_error failed
  have present := (filters.get?_eq_some_iff key value).mpr member
  rcases contribution_of_validate valid present with ⟨fragment, contributed⟩ | ⟨isRaw, noMapping⟩
  · rw [contributed] at gives
    cases gives
  · dsimp only at gives
    rw [isRaw] at present gives
    rw [contribution_raw_error resolver noMapping, Except.error.injEq] at gives
    exact ⟨value, present, noMapping, gives.symm⟩

theorem compile_of_validate_raw {resolver : Resolver} {filters : FilterSet}
    (valid : resolver.validate filters = .ok ()) {value : Value}
    (present : filters.get? rawKey = some value) (noMapping : value.isMapping = false) :
    resolver.compile filters = .error (.rawNotMapping value) := by
  cases outcome : resolver.compile filters with
  | ok query =>
      rw [raw_isMapping_of_compile outcome present] at noMapping
      cases noMapping
  | error error =>
      obtain ⟨other, presentOther, -, rfl⟩ := compile_error_of_validate valid outcome
      rw [present, Option.some.injEq] at presentOther
      rw [presentOther]

theorem compileChecked_of_validate {resolver : Resolver} {filters : FilterSet}
    (valid : resolver.validate filters = .ok ()) :
    resolver.compileChecked filters = resolver.compile filters := by
  rw [compileChecked, valid]

theorem compileChecked_of_invalid {resolver : Resolver} {filters : FilterSet}
    {error : InvalidFilter} (invalid : resolver.validate filters = .error error) :
    resolver.compileChecked filters = .error (.invalid error) := by
  rw [compileChecked, invalid]

theorem compileChecked_ok_iff (resolver : Resolver) (filters : FilterSet)
    (query : List (String × Value)) :
    resolver.compileChecked filters = .ok query ↔
      resolver.validate filters = .ok () ∧ resolver.compile filters = .ok query := by
  cases verdict : resolver.validate filters with
  | error error => simp [compileChecked_of_invalid verdict]
  | ok accepted => simp [compileChecked_of_validate verdict]

/-- A checked compilation fails as validation does, or for a raw entry that is no mapping. -/
theorem compileChecked_error {resolver : Resolver} {filters : FilterSet} {error : CompileError}
    (failed : resolver.compileChecked filters = .error error) :
    (∃ invalid, resolver.validate filters = .error invalid ∧ error = .invalid invalid) ∨
      ∃ value, error = .rawNotMapping value := by
  cases verdict : resolver.validate filters with
  | error invalid =>
      rw [compileChecked_of_invalid verdict, Except.error.injEq] at failed
      exact Or.inl ⟨invalid, rfl, failed.symm⟩
  | ok accepted =>
      rw [compileChecked_of_validate verdict] at failed
      obtain ⟨value, -, -, reason⟩ := compile_error_of_validate verdict failed
      exact Or.inr ⟨value, reason⟩

/-- A validated filter set compiles, unless its raw entry is no mapping, and then it fails for that
reason. So a checked compilation reports no unresolved field, reports an invalid filter exactly if
validation does, and is plain compilation otherwise. -/
theorem compileChecked_agrees (resolver : Resolver) (filters : FilterSet) :
    (resolver.validate filters = .ok () →
      ((∀ value, filters.get? rawKey = some value → value.isMapping = true) →
        ∃ query, resolver.compile filters = .ok query) ∧
      ∀ value, filters.get? rawKey = some value → value.isMapping = false →
        resolver.compile filters = .error (.rawNotMapping value)) ∧
    (∀ error, resolver.compileChecked filters ≠ .error (.unresolvable error)) ∧
    (∀ error, resolver.compileChecked filters = .error (.invalid error) ↔
      resolver.validate filters = .error error) ∧
    ((∀ error, resolver.validate filters ≠ .error error) →
      resolver.compileChecked filters = resolver.compile filters) := by
  refine ⟨?_, ?_, ?_, ?_⟩
  · intro valid
    exact ⟨compile_of_validate valid, fun _ => compile_of_validate_raw valid⟩
  · intro error failed
    rcases compileChecked_error failed with ⟨invalid, -, other⟩ | ⟨value, other⟩
    · cases other
    · cases other
  · intro error
    constructor
    · intro failed
      rcases compileChecked_error failed with ⟨invalid, verdict, same⟩ | ⟨value, other⟩
      · cases same
        exact verdict
      · cases other
    · exact compileChecked_of_invalid
  · intro accepted
    cases verdict : resolver.validate filters with
    | error invalid => exact absurd verdict (accepted invalid)
    | ok _ => exact compileChecked_of_validate verdict

/-- A valid key beside a raw entry that is no mapping. -/
def rawTruth : FilterSet :=
  OrderedMap.ofList [("age__gte", .string "18"), (rawKey, .bool true)]

theorem compileChecked_agrees_rawTruth :
    people.validate rawTruth = .ok () ∧
    people.compile rawTruth = .error (.rawNotMapping (.bool true)) ∧
    people.compileChecked rawTruth = people.compile rawTruth := by
  have valid : people.validate rawTruth = .ok () := rfl
  obtain ⟨outcome, -, -, agrees⟩ := compileChecked_agrees people rawTruth
  refine ⟨valid, (outcome valid).2 (.bool true) rfl rfl, agrees ?_⟩
  intro error invalid
  rw [valid] at invalid
  cases invalid

end DocFilter.Resolver
