import DocFilter.Proofs.CompileFailure
import DocFilter.Proofs.WireNames

set_option autoImplicit false

namespace DocFilter.Resolver

inductive Rejects (resolver : Resolver) (key : String) : InvalidReason → Prop where
  | unresolvable {error : ResolutionError}
      (failed : resolver.segments (FilterKey.parse key).path = .error error) :
      Rejects resolver key (.unresolvable error)
  | noField (resolved : resolver.segments (FilterKey.parse key).path = .ok []) :
      Rejects resolver key (.noField (FilterKey.parse key).path)
  | ambiguous {first : Segment} {rest : List Segment}
      (resolved : resolver.segments (FilterKey.parse key).path = .ok (first :: rest))
      (nested : (FilterKey.parse key).isNested = true)
      (implicit : (FilterKey.parse key).isExplicit = false)
      (plain : first.isComposite = false) :
      Rejects resolver key .ambiguousSubProperty

/-- The report on the least key of a filter set that is rejected, the raw one not being read. -/
structure RejectsFirst (resolver : Resolver) (filters : FilterSet) (error : InvalidFilter) :
    Prop where
  present : error.key ∈ filters.keys
  noRaw : error.key ≠ rawKey
  rejected : resolver.validateKey error.key = .error error
  least : ∀ other ∈ filters.keys, other ≠ rawKey →
    ∀ otherError, resolver.validateKey other = .error otherError → error.key ≤ other

variable {resolver : Resolver} {filters : FilterSet}

theorem validateKey_error_iff (resolver : Resolver) (key : String) (error : InvalidFilter) :
    resolver.validateKey key = .error error ↔
      error.key = key ∧ resolver.Rejects key error.reason := by
  obtain ⟨blamed, reason⟩ := error
  constructor
  · intro rejected
    unfold validateKey at rejected
    dsimp only at rejected
    split at rejected
    · next cause failed =>
        cases rejected
        exact ⟨rfl, .unresolvable failed⟩
    · next resolved =>
        cases rejected
        exact ⟨rfl, .noField resolved⟩
    · next first rest resolved =>
        split at rejected
        · next unclear =>
            cases rejected
            simp only [Bool.and_eq_true, Bool.not_eq_true'] at unclear
            exact ⟨rfl, .ambiguous resolved unclear.1.1 unclear.1.2 unclear.2⟩
        · cases rejected
  · intro blames
    obtain ⟨named, rejects⟩ := blames
    dsimp only at named rejects
    subst named
    cases rejects with
    | unresolvable failed => simp only [validateKey, failed]
    | noField resolved => simp only [validateKey, resolved]
    | ambiguous resolved nested implicit plain =>
        simp [validateKey, resolved, nested, implicit, plain]

theorem validateKeys_error_iff (resolver : Resolver) (entries : List (String × Value))
    (error : InvalidFilter) :
    resolver.validateKeys (Entries.keys entries) = .error error ↔
      Entries.FirstFailure
        (fun entry other => entry.1 ≠ rawKey ∧ resolver.validateKey entry.1 = .error other)
        entries error := by
  induction entries with
  | nil => simp [Entries.keys, validateKeys, Entries.not_firstFailure_nil]
  | cons entry rest ih =>
      rw [Entries.keys, List.map_cons, validateKeys]
      by_cases isRaw : entry.1 = rawKey
      · rw [if_pos isRaw, Entries.firstFailure_cons_of_passes (by simp [isRaw])]
        exact ih
      · rw [if_neg isRaw]
        cases verdict : resolver.validateKey entry.1 with
        | error first =>
            rw [Entries.firstFailure_cons_of_fails ⟨isRaw, verdict⟩ (by simp [verdict])]
            simp [eq_comm]
        | ok _ =>
            rw [Entries.firstFailure_cons_of_passes (by simp [verdict])]
            exact ih

theorem validate_error_iff (resolver : Resolver) (filters : FilterSet) (error : InvalidFilter) :
    resolver.validate filters = .error error ↔ resolver.RejectsFirst filters error := by
  rw [validate, OrderedMap.keys, validateKeys_error_iff, filters.ascending.firstFailure_iff]
  constructor
  · intro failure
    obtain ⟨entry, member, ⟨noRaw, rejected⟩, least⟩ := failure
    obtain ⟨named, -⟩ := (validateKey_error_iff _ _ _).mp rejected
    rw [← named] at noRaw rejected least
    refine ⟨List.mem_map.mpr ⟨entry, member, named.symm⟩, noRaw, rejected, ?_⟩
    intro other present otherNoRaw otherError otherRejected
    obtain ⟨otherEntry, otherMember, rfl⟩ := List.mem_map.mp present
    exact least otherEntry otherMember otherError ⟨otherNoRaw, otherRejected⟩
  · intro first
    obtain ⟨entry, member, named⟩ := List.mem_map.mp first.present
    have noRaw := first.noRaw
    have rejected := first.rejected
    have least := first.least
    rw [← named] at noRaw rejected least
    refine ⟨entry, member, ⟨noRaw, rejected⟩, ?_⟩
    intro other otherMember otherError otherRejected
    have present : other.1 ∈ filters.keys := List.mem_map_of_mem otherMember
    exact least other.1 present otherRejected.1 otherError otherRejected.2

theorem exists_validate_error_iff (resolver : Resolver) (filters : FilterSet) :
    (∃ error, resolver.validate filters = .error error) ↔
      ∃ key ∈ filters.keys, key ≠ rawKey ∧ ∃ error, resolver.validateKey key = .error error := by
  simp only [validate, OrderedMap.keys, validateKeys_error_iff, Entries.exists_firstFailure_iff]
  constructor
  · intro failing
    obtain ⟨entry, member, error, noRaw, rejected⟩ := failing
    exact ⟨entry.1, List.mem_map_of_mem member, noRaw, error, rejected⟩
  · intro rejects
    obtain ⟨key, present, noRaw, error, rejected⟩ := rejects
    obtain ⟨entry, member, rfl⟩ := List.mem_map.mp present
    exact ⟨entry, member, error, noRaw, rejected⟩

theorem FailsAt.rejected {key : String} {error : CompileError}
    (fails : resolver.FailsAt filters key error) (noRaw : key ≠ rawKey) :
    key ∈ filters.keys ∧ ∃ invalid, resolver.validateKey key = .error invalid := by
  cases fails with
  | raw _ _ => exact absurd rfl noRaw
  | unresolved present _ failed =>
      exact ⟨present, ⟨key, _⟩, (validateKey_error_iff _ _ _).mpr ⟨rfl, .unresolvable failed⟩⟩
  | noSegments present _ resolved =>
      exact ⟨present, ⟨key, _⟩, (validateKey_error_iff _ _ _).mpr ⟨rfl, .noField resolved⟩⟩

/-- Compilation fails at no key before the one that is reported, the raw one apart. -/
theorem RejectsFirst.le_of_failsAt {invalid : InvalidFilter}
    (first : resolver.RejectsFirst filters invalid) {key : String} {error : CompileError}
    (fails : resolver.FailsAt filters key error) (noRaw : key ≠ rawKey) : invalid.key ≤ key := by
  obtain ⟨present, other, rejected⟩ := fails.rejected noRaw
  exact first.least key present noRaw other rejected

theorem RejectsFirst.failsFirstAt_raw {invalid : InvalidFilter}
    (first : resolver.RejectsFirst filters invalid) {value : Value}
    (present : filters.get? rawKey = some value) (noMapping : value.isMapping = false)
    (before : rawKey < invalid.key) :
    resolver.FailsFirstAt filters rawKey (.rawNotMapping value) := by
  refine ⟨.raw present noMapping, ?_⟩
  intro other otherError fails
  by_cases isRaw : other = rawKey
  · subst isRaw
    exact String.le_refl rawKey
  · have blamed := first.le_of_failsAt fails isRaw
    exact Std.le_of_lt (Std.lt_of_lt_of_le before blamed)

theorem RejectsFirst.failsFirstAt {invalid : InvalidFilter}
    (first : resolver.RejectsFirst filters invalid) {error : CompileError}
    (fails : resolver.FailsAt filters invalid.key error)
    (rawMaps : ∀ value, filters.get? rawKey = some value → rawKey < invalid.key →
      value.isMapping = true) :
    resolver.FailsFirstAt filters invalid.key error := by
  refine ⟨fails, ?_⟩
  intro other otherError otherFails
  by_cases isRaw : other = rawKey
  · subst isRaw
    apply String.not_lt.mp
    intro before
    cases otherFails with
    | raw present noMapping =>
        rw [rawMaps _ present before] at noMapping
        cases noMapping
    | unresolved _ noRaw _ => exact noRaw rfl
    | noSegments _ noRaw _ => exact noRaw rfl
  · exact first.le_of_failsAt otherFails isRaw

/-- Over a schema no path resolves to nothing, so a key that is not ambiguous is rejected for the
error of its path. -/
theorem Rejects.unresolvable_of_schema {schema : Schema} {document key : String}
    {reason : InvalidReason} (rejects : (schema.resolver document).Rejects key reason)
    (clear : reason ≠ .ambiguousSubProperty) :
    ∃ cause, reason = .unresolvable cause ∧
      (schema.resolver document).segments (FilterKey.parse key).path = .error cause := by
  cases rejects with
  | unresolvable failed => exact ⟨_, rfl, failed⟩
  | noField resolved =>
      obtain ⟨-, last, read⟩ := Schema.resolve_ok_iff.mp resolved
      exact absurd rfl read.ne_nil
  | ambiguous _ _ _ _ => exact absurd rfl clear

/-- Validation fails exactly if it rejects a key other than the raw one, and then reports the least
such key, whatever the values are. If that key does not resolve, compilation fails for a raw entry
that is no mapping if there is one before that key, and otherwise at that key in the same words. -/
theorem validate_and_compile_blame_alike {schema : Schema} {document : String}
    {resolver : Resolver} (bound : schema.resolver? document = .ok resolver)
    (filters : FilterSet) :
    ((∃ invalid, resolver.validate filters = .error invalid) ↔
      ∃ key ∈ filters.keys, key ≠ rawKey ∧
        ∃ invalid, resolver.validateKey key = .error invalid) ∧
    (∀ invalid, resolver.validate filters = .error invalid ↔
      resolver.RejectsFirst filters invalid) ∧
    (∀ others : FilterSet, others.keys = filters.keys →
      resolver.validate others = resolver.validate filters) ∧
    (∀ invalid, resolver.validate filters = .error invalid →
      invalid.reason ≠ .ambiguousSubProperty →
        (∀ value, filters.get? rawKey = some value → value.isMapping = false →
          rawKey < invalid.key → resolver.compile filters = .error (.rawNotMapping value)) ∧
        ((∀ value, filters.get? rawKey = some value → rawKey < invalid.key →
            value.isMapping = true) →
          ∃ cause, resolver.compile filters = .error (.unresolvable cause) ∧
            (∀ value, resolver.compileFilter invalid.key value = .error cause) ∧
            (CompileError.unresolvable cause).message = invalid.reason.message)) := by
  obtain ⟨-, rfl⟩ := Schema.resolver?_ok_iff.mp bound
  refine ⟨exists_validate_error_iff _ filters, validate_error_iff _ filters, ?_, ?_⟩
  · intro others sameKeys
    rw [validate, validate, sameKeys]
  · intro invalid failed clear
    have first := (validate_error_iff _ _ _).mp failed
    obtain ⟨-, rejects⟩ := (validateKey_error_iff _ _ _).mp first.rejected
    obtain ⟨cause, reason, unresolved⟩ := rejects.unresolvable_of_schema clear
    constructor
    · intro value present noMapping before
      exact (compile_error_iff _ _ _).mpr ⟨_, first.failsFirstAt_raw present noMapping before⟩
    · intro rawMaps
      have fails := FailsAt.unresolved first.present first.noRaw unresolved
      refine ⟨cause, ?_, ?_, ?_⟩
      · exact (compile_error_iff _ _ _).mpr ⟨_, first.failsFirstAt fails rawMaps⟩
      · intro value
        exact (compileFilter_error_iff _ _ _ _).mpr (Or.inl unresolved)
      · rw [reason]
        rfl

/-- A good key, and one that is not declared after the raw entry. -/
def votedFilters (raw : Value) : FilterSet :=
  OrderedMap.ofList [("extra__a__gt", .null), (rawKey, raw), ("votes", .null)]

theorem votedFilters_blamed :
    Schema.threads.resolver? "Post" = .ok (Schema.threads.resolver "Post") ∧
    (Schema.threads.resolver "Post").validate (votedFilters .null) =
      .error ⟨"votes", .unresolvable ⟨"votes", .fieldNotFound "Post" "votes"⟩⟩ ∧
    (Schema.threads.resolver "Post").compile (votedFilters .null) =
      .error (.rawNotMapping .null) ∧
    (Schema.threads.resolver "Post").validate (votedFilters (.mapping [])) =
      .error ⟨"votes", .unresolvable ⟨"votes", .fieldNotFound "Post" "votes"⟩⟩ ∧
    ∃ cause, (Schema.threads.resolver "Post").compile (votedFilters (.mapping [])) =
      .error (.unresolvable cause) ∧
        cause.message = "Invalid field 'votes': field 'votes' not found in 'Post'" := by
  have bound : Schema.threads.resolver? "Post" = .ok (Schema.threads.resolver "Post") := rfl
  have reported : (Schema.threads.resolver "Post").validate (votedFilters .null) =
      .error ⟨"votes", .unresolvable ⟨"votes", .fieldNotFound "Post" "votes"⟩⟩ := rfl
  obtain ⟨-, -, sameReport, blamed⟩ :=
    validate_and_compile_blame_alike bound (votedFilters .null)
  have reportedMapping := (sameReport (votedFilters (.mapping [])) rfl).trans reported
  obtain ⟨-, -, -, blamedMapping⟩ :=
    validate_and_compile_blame_alike bound (votedFilters (.mapping []))
  have rawMaps : ∀ value, (votedFilters (.mapping [])).get? rawKey = some value →
      rawKey < "votes" → value.isMapping = true := by
    intro value present _
    cases present
    rfl
  obtain ⟨cause, failed, -, words⟩ := (blamedMapping _ reportedMapping (by decide)).2 rawMaps
  exact ⟨bound, reported, (blamed _ reported (by decide)).1 .null rfl rfl (by decide),
    reportedMapping, cause, failed, words⟩

end DocFilter.Resolver
