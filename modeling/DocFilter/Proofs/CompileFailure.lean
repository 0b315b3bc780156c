import DocFilter.Proofs.ValidateCompile

set_option autoImplicit false

namespace DocFilter

namespace Entries

/-- The failure of the first entry that has one. -/
inductive FirstFailure {α ε : Type} (fails : String × α → ε → Prop) :
    List (String × α) → ε → Prop where
  | here {entry : String × α} {rest : List (String × α)} {error : ε}
      (failed : fails entry error) : FirstFailure fails (entry :: rest) error
  | later {entry : String × α} {rest : List (String × α)} {error : ε}
      (passes : ∀ other, ¬ fails entry other) (onward : FirstFailure fails rest error) :
      FirstFailure fails (entry :: rest) error

variable {α ε : Type} {fails : String × α → ε → Prop}

theorem not_firstFailure_nil (error : ε) : ¬ FirstFailure fails [] error := by
  intro failure
  cases failure

theorem firstFailure_cons_of_fails {entry : String × α} {error : ε} (failed : fails entry error)
    (single : ∀ other, fails entry other → other = error) (rest : List (String × α))
    (other : ε) : FirstFailure fails (entry :: rest) other ↔ other = error := by
  constructor
  · intro failure
    cases failure with
    | here failedOther => exact single other failedOther
    | later passes onward => exact absurd failed (passes error)
  · intro same
    exact .here (same ▸ failed)

theorem firstFailure_cons_of_passes {entry : String × α} (passes : ∀ other, ¬ fails entry other)
    (rest : List (String × α)) (error : ε) :
    FirstFailure fails (entry :: rest) error ↔ FirstFailure fails rest error := by
  constructor
  · intro failure
    cases failure with
    | here failed => exact absurd failed (passes error)
    | later _ onward => exact onward
  · exact .later passes

theorem exists_firstFailure_iff (entries : List (String × α)) :
    (∃ error, FirstFailure fails entries error) ↔
      ∃ entry ∈ entries, ∃ error, fails entry error := by
  induction entries with
  | nil => simp [not_firstFailure_nil]
  | cons head rest ih =>
      simp only [List.mem_cons, exists_eq_or_imp]
      by_cases failing : ∃ error, fails head error
      · obtain ⟨error, failed⟩ := failing
        exact ⟨fun _ => Or.inl ⟨error, failed⟩, fun _ => ⟨error, .here failed⟩⟩
      · have passes : ∀ other, ¬ fails head other := not_exists.mp failing
        simp only [firstFailure_cons_of_passes passes, failing, false_or, ih]

/-- In ascending order the first entry that fails is the one with the least key. -/
theorem Ascending.firstFailure_iff {entries : List (String × α)} (ascending : Ascending entries)
    (error : ε) :
    FirstFailure fails entries error ↔
      ∃ entry ∈ entries, fails entry error ∧
        ∀ other ∈ entries, ∀ otherError, fails other otherError → entry.1 ≤ other.1 := by
  induction entries with
  | nil => simp [not_firstFailure_nil]
  | cons head rest ih =>
      obtain ⟨below, ascendingRest⟩ := (ascending_cons head rest).mp ascending
      have before : ∀ other ∈ rest, head.1 < other.1 := by
        intro other member
        exact below other.1 (List.mem_map_of_mem member)
      constructor
      · intro failure
        cases failure with
        | here failed =>
            refine ⟨head, List.mem_cons_self, failed, ?_⟩
            intro other member otherError _
            rcases List.mem_cons.mp member with rfl | later
            · exact String.le_refl _
            · exact Std.le_of_lt (before other later)
        | later passes onward =>
            obtain ⟨entry, member, failed, least⟩ := (ih ascendingRest).mp onward
            refine ⟨entry, List.mem_cons_of_mem _ member, failed, ?_⟩
            intro other otherMember otherError failedOther
            rcases List.mem_cons.mp otherMember with rfl | later
            · exact absurd failedOther (passes otherError)
            · exact least other later otherError failedOther
      · intro leastFailure
        obtain ⟨entry, member, failed, least⟩ := leastFailure
        rcases List.mem_cons.mp member with rfl | later
        · exact .here failed
        · -- A failing head would have the least key.
          have passes : ∀ other, ¬ fails head other := by
            intro other failedHead
            have notBefore := least head List.mem_cons_self other failedHead
            exact String.not_lt.mpr notBefore (before entry later)
          refine .later passes ((ih ascendingRest).mpr ⟨entry, later, failed, ?_⟩)
          intro other otherMember
          exact least other (List.mem_cons_of_mem _ otherMember)

end Entries

namespace Resolver

/-- The bad keys of a filter set, with their errors: a raw key whose value is no mapping, and
another key whose path does not resolve, or resolves to nothing. -/
inductive FailsAt (resolver : Resolver) (filters : FilterSet) : String → CompileError → Prop where
  | raw {value : Value} (present : filters.get? rawKey = some value)
      (noMapping : value.isMapping = false) :
      FailsAt resolver filters rawKey (.rawNotMapping value)
  | unresolved {key : String} {error : ResolutionError} (present : key ∈ filters.keys)
      (noRaw : key ≠ rawKey)
      (failed : resolver.segments (FilterKey.parse key).path = .error error) :
      FailsAt resolver filters key (.unresolvable error)
  | noSegments {key : String} (present : key ∈ filters.keys) (noRaw : key ≠ rawKey)
      (resolved : resolver.segments (FilterKey.parse key).path = .ok []) :
      FailsAt resolver filters key (.unresolvable ⟨(FilterKey.parse key).path, .emptyPath⟩)

/-- The least bad key of a filter set, with its error. -/
structure FailsFirstAt (resolver : Resolver) (filters : FilterSet) (key : String)
    (error : CompileError) : Prop where
  fails : resolver.FailsAt filters key error
  least : ∀ other otherError, resolver.FailsAt filters other otherError → key ≤ other

variable {resolver : Resolver} {filters : FilterSet}

theorem compileFilter_error_iff (resolver : Resolver) (key : String) (value : Value)
    (error : ResolutionError) :
    resolver.compileFilter key value = .error error ↔
      resolver.segments (FilterKey.parse key).path = .error error ∨
        (resolver.segments (FilterKey.parse key).path = .ok [] ∧
          error = ⟨(FilterKey.parse key).path, .emptyPath⟩) := by
  unfold compileFilter
  dsimp only
  cases resolver.segments (FilterKey.parse key).path with
  | error other => simp
  | ok segments =>
      cases segments with
      | nil => simp [eq_comm]
      | cons first rest =>
          have last : (first :: rest).getLast? =
              some ((first :: rest).getLast (List.cons_ne_nil _ _)) :=
            List.getLast?_eq_some_getLast _
          simp [last]

theorem contribution_error_iff_compileFilter {key : String} (noRaw : key ≠ rawKey) (value : Value)
    (error : CompileError) :
    resolver.contribution key value = .error error ↔
      ∃ cause, resolver.compileFilter key value = .error cause ∧ error = .unresolvable cause := by
  unfold contribution
  rw [if_neg noRaw]
  cases resolver.compileFilter key value <;> simp [eq_comm]

theorem contribution_error_iff {key : String} {value : Value}
    (present : filters.get? key = some value) (error : CompileError) :
    resolver.contribution key value = .error error ↔ resolver.FailsAt filters key error := by
  have member : key ∈ filters.keys :=
    (filters.mem_keys_iff key).mpr ⟨value, present⟩
  constructor
  · intro failed
    by_cases isRaw : key = rawKey
    · subst isRaw
      rcases value.leaf_or_mapping with noMapping | ⟨entries, rfl⟩
      · rw [contribution_raw_error resolver noMapping, Except.error.injEq] at failed
        exact failed ▸ .raw present noMapping
      · cases failed
    · obtain ⟨cause, failedFilter, rfl⟩ :=
        (contribution_error_iff_compileFilter isRaw _ _).mp failed
      rcases (compileFilter_error_iff _ _ _ _).mp failedFilter with unresolved | ⟨nothing, rfl⟩
      · exact .unresolved member isRaw unresolved
      · exact .noSegments member isRaw nothing
  · intro fails
    cases fails with
    | raw presentRaw noMapping =>
        rw [present, Option.some.injEq] at presentRaw
        subst presentRaw
        exact contribution_raw_error resolver noMapping
    | unresolved _ noRaw failed =>
        have failedFilter := (compileFilter_error_iff resolver key value _).mpr (Or.inl failed)
        exact (contribution_error_iff_compileFilter noRaw _ _).mpr ⟨_, failedFilter, rfl⟩
    | noSegments _ noRaw resolved =>
        have failedFilter :=
          (compileFilter_error_iff resolver key value _).mpr (Or.inr ⟨resolved, rfl⟩)
        exact (contribution_error_iff_compileFilter noRaw _ _).mpr ⟨_, failedFilter, rfl⟩

theorem FailsAt.present {key : String} {error : CompileError}
    (fails : resolver.FailsAt filters key error) : ∃ value, filters.get? key = some value := by
  cases fails with
  | raw present _ => exact ⟨_, present⟩
  | unresolved present _ _ => exact (filters.mem_keys_iff key).mp present
  | noSegments present _ _ => exact (filters.mem_keys_iff key).mp present

/-- The loop of compilation ends with the failure of the first entry that contributes nothing,
whatever has been merged before. -/
theorem compileOnto_error_iff (resolver : Resolver) (base entries : List (String × Value))
    (error : CompileError) :
    resolver.compileOnto base entries = .error error ↔
      Entries.FirstFailure (fun entry other => resolver.contribution entry.1 entry.2 = .error other)
        entries error := by
  induction entries generalizing base with
  | nil => simp [compileOnto, Entries.not_firstFailure_nil]
  | cons entry rest ih =>
      rw [compileOnto]
      cases contributed : resolver.contribution entry.1 entry.2 with
      | error first =>
          rw [Entries.firstFailure_cons_of_fails contributed (by simp [contributed])]
          simp [eq_comm]
      | ok fragment =>
          rw [Entries.firstFailure_cons_of_passes (by simp [contributed])]
          exact ih _

theorem compile_error_iff (resolver : Resolver) (filters : FilterSet) (error : CompileError) :
    resolver.compile filters = .error error ↔
      ∃ key, resolver.FailsFirstAt filters key error := by
  rw [compile, compileOnto_error_iff, filters.ascending.firstFailure_iff]
  constructor
  · intro failure
    obtain ⟨⟨key, value⟩, member, failed, least⟩ := failure
    have present := (filters.get?_eq_some_iff key value).mpr member
    refine ⟨key, (contribution_error_iff present error).mp failed, ?_⟩
    intro other otherError fails
    obtain ⟨otherValue, otherPresent⟩ := fails.present
    have otherFailed := (contribution_error_iff otherPresent otherError).mpr fails
    exact least _ ((filters.get?_eq_some_iff other otherValue).mp otherPresent) otherError
      otherFailed
  · intro failsFirst
    obtain ⟨key, first⟩ := failsFirst
    obtain ⟨value, present⟩ := first.fails.present
    refine ⟨(key, value), (filters.get?_eq_some_iff key value).mp present,
      (contribution_error_iff present error).mpr first.fails, ?_⟩
    intro other member otherError failed
    have otherPresent := (filters.get?_eq_some_iff other.1 other.2).mpr member
    exact first.least _ _ ((contribution_error_iff otherPresent otherError).mp failed)

theorem exists_compile_error_iff (resolver : Resolver) (filters : FilterSet) :
    (∃ error, resolver.compile filters = .error error) ↔
      ∃ key error, resolver.FailsAt filters key error := by
  simp only [compile, compileOnto_error_iff, Entries.exists_firstFailure_iff]
  constructor
  · intro failing
    obtain ⟨⟨key, value⟩, member, error, failed⟩ := failing
    have present := (filters.get?_eq_some_iff key value).mpr member
    exact ⟨key, error, (contribution_error_iff present error).mp failed⟩
  · intro bad
    obtain ⟨key, error, fails⟩ := bad
    obtain ⟨value, present⟩ := fails.present
    exact ⟨(key, value), (filters.get?_eq_some_iff key value).mp present, error,
      (contribution_error_iff present error).mpr fails⟩

theorem exists_compile_ok_iff (resolver : Resolver) (filters : FilterSet) :
    (∃ query, resolver.compile filters = .ok query) ↔
      ∀ key error, ¬ resolver.FailsAt filters key error := by
  have noBadKey : (∀ key error, ¬ resolver.FailsAt filters key error) ↔
      ¬ ∃ error, resolver.compile filters = .error error := by
    rw [exists_compile_error_iff]
    simp only [not_exists]
  rw [noBadKey]
  cases resolver.compile filters <;> simp

theorem FailsAt.transfer {others : FilterSet} {key : String} {error : CompileError}
    (fails : resolver.FailsAt filters key error) (sameKey : key ∈ filters.keys → key ∈ others.keys)
    (sameRaw : key = rawKey → others.get? rawKey = filters.get? rawKey) :
    resolver.FailsAt others key error := by
  cases fails with
  | raw present noMapping => exact .raw ((sameRaw rfl).trans present) noMapping
  | unresolved present noRaw failed => exact .unresolved (sameKey present) noRaw failed
  | noSegments present noRaw resolved => exact .noSegments (sameKey present) noRaw resolved

theorem FailsFirstAt.transfer {others : FilterSet} {key : String} {error : CompileError}
    (first : resolver.FailsFirstAt filters key error)
    (sameKeys : ∀ earlier ≤ key, earlier ∈ others.keys ↔ earlier ∈ filters.keys)
    (sameRaw : rawKey ≤ key → others.get? rawKey = filters.get? rawKey) :
    resolver.FailsFirstAt others key error := by
  have fails : resolver.FailsAt others key error := by
    apply first.fails.transfer (sameKeys key (String.le_refl key)).mpr
    intro isRaw
    exact sameRaw (isRaw ▸ String.le_refl key)
  refine ⟨fails, ?_⟩
  intro other otherError otherFails
  -- A bad key before this one was there already.
  apply String.not_lt.mp
  intro before
  have upTo : other ≤ key := Std.le_of_lt before
  have otherFailed : resolver.FailsAt filters other otherError := by
    apply otherFails.transfer (sameKeys other upTo).mp
    intro isRaw
    exact (sameRaw (isRaw ▸ upTo)).symm
  exact first.least other otherError otherFailed before

/-- A filter set compiles exactly if it has no bad key, and otherwise fails with the error of the
least one. So whether and how it fails depends neither on the values of other filters than the raw
one, nor on the keys after the least bad one. -/
theorem compile_fails_as_least_bad_key (resolver : Resolver) (filters : FilterSet) :
    ((∃ query, resolver.compile filters = .ok query) ↔
      ∀ key error, ¬ resolver.FailsAt filters key error) ∧
    (∀ error, resolver.compile filters = .error error ↔
      ∃ key, resolver.FailsFirstAt filters key error) ∧
    (∀ value, (CompileError.rawNotMapping value).message =
      "Raw filter must be a mapping, got: " ++ value.compactText) ∧
    (∀ others : FilterSet, others.keys = filters.keys →
      others.get? rawKey = filters.get? rawKey →
        ∀ error, resolver.compile others = .error error ↔
          resolver.compile filters = .error error) ∧
    (∀ key error, resolver.FailsFirstAt filters key error → ∀ others : FilterSet,
      (∀ earlier ≤ key, earlier ∈ others.keys ↔ earlier ∈ filters.keys) →
      (rawKey ≤ key → others.get? rawKey = filters.get? rawKey) →
        resolver.compile others = .error error) := by
  refine ⟨exists_compile_ok_iff resolver filters, compile_error_iff resolver filters,
    fun _ => rfl, ?_, ?_⟩
  · intro others sameKeys sameRaw error
    rw [compile_error_iff, compile_error_iff]
    constructor
    · intro failsFirst
      obtain ⟨key, first⟩ := failsFirst
      exact ⟨key, first.transfer (fun _ _ => by rw [sameKeys]) fun _ => sameRaw.symm⟩
    · intro failsFirst
      obtain ⟨key, first⟩ := failsFirst
      exact ⟨key, first.transfer (fun _ _ => by rw [sameKeys]) fun _ => sameRaw⟩
  · intro key error first others sameKeys sameRaw
    exact (compile_error_iff _ _ _).mpr ⟨key, first.transfer sameKeys sameRaw⟩

/-- A raw entry that is no mapping between a good key and a bad one. -/
def strayFilters : FilterSet :=
  OrderedMap.ofList [("age__gt", .string "1"), (rawKey, .bool true), ("shoe", .null)]

theorem strayFilters_fail_at_raw :
    people.compile strayFilters = .error (.rawNotMapping (.bool true)) ∧
    people.FailsFirstAt strayFilters rawKey (.rawNotMapping (.bool true)) ∧
    people.compile (OrderedMap.ofList [("age__gt", .null), (rawKey, .bool true),
      ("size.of.shoe", .null)]) = .error (.rawNotMapping (.bool true)) := by
  have failed : people.compile strayFilters = .error (.rawNotMapping (.bool true)) := rfl
  obtain ⟨-, failure, -, -, later⟩ := compile_fails_as_least_bad_key people strayFilters
  obtain ⟨key, first⟩ := (failure _).mp failed
  have isRaw : key = rawKey := by
    cases first.fails
    rfl
  subst isRaw
  refine ⟨failed, first, later rawKey _ first _ ?_ fun _ => rfl⟩
  intro earlier upTo
  have keys : strayFilters.keys = ["age__gt", rawKey, "shoe"] := rfl
  have otherKeys : (OrderedMap.ofList [("age__gt", Value.null), (rawKey, .bool true),
      ("size.of.shoe", .null)]).keys = ["age__gt", rawKey, "size.of.shoe"] := rfl
  have noShoe : earlier ≠ "shoe" := by
    rintro rfl
    revert upTo
    decide
  have noSize : earlier ≠ "size.of.shoe" := by
    rintro rfl
    revert upTo
    decide
  simp [keys, otherKeys, noShoe, noSize]

end Resolver

end DocFilter
