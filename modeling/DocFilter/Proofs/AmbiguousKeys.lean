import DocFilter.Proofs.KeyParts
import DocFilter.Proofs.RejectedKeys

set_option autoImplicit false

namespace DocFilter

namespace Schema

/-- The key names no operator, and its path resolves and goes on below a field of the document type
that holds anything. -/
structure AmbiguousAt (schema : Schema) (document key : String) : Prop where
  resolves : ∃ segments, (schema.resolver document).segments (FilterKey.parse key).path =
    .ok segments
  several : 2 ≤ (pathComponents (FilterKey.parse key).path).length
  implicit : (FilterKey.parse key).operator? = none
  anything : ∃ component field,
    (pathComponents (FilterKey.parse key).path).head? = some component ∧
      schema.Declares document component field ∧ field.kind = .scalar .any

structure AmbiguousFirstAt (schema : Schema) (document : String) (filters : FilterSet)
    (key : String) : Prop where
  present : key ∈ filters.keys
  noRaw : key ≠ rawKey
  ambiguous : schema.AmbiguousAt document key
  least : ∀ other ∈ filters.keys, other ≠ rawKey → schema.AmbiguousAt document other → key ≤ other

variable {schema : Schema}

theorem Reads.anything_of_plain {last component : String} {kind : Kind} {segment : Segment}
    {next : Place} (read : schema.Reads ⟨last, kind⟩ component segment next)
    (plain : kind.isComposite = false) : kind = .scalar .any := by
  cases read with
  | field _ => cases plain
  | position _ => cases plain
  | itemField _ _ _ => cases plain
  | anything => rfl

theorem readsAll_anything (last : String) (components : List String) :
    schema.ReadsAll ⟨last, .scalar .any⟩ components (components.map .raw)
      ⟨last, .scalar .any⟩ := by
  induction components with
  | nil => exact .nil
  | cons component rest ih => exact .cons .anything ih

/-- Below a field that holds anything every path resolves, to its components as they are. -/
theorem resolve_below_anything {document path component : String} {field : Field}
    (several : 2 ≤ (pathComponents path).length)
    (first : (pathComponents path).head? = some component)
    (declared : schema.Declares document component field) (anything : field.kind = .scalar .any) :
    (schema.resolver document).segments path =
      .ok (.field field :: (pathComponents path).tail.map .raw) := by
  apply resolve_ok_iff.mpr
  constructor
  · rintro rfl
    revert several
    decide
  · obtain ⟨rest, split⟩ := List.head?_eq_some_iff.mp first
    rw [split, List.tail_cons]
    refine ⟨⟨field.name, .scalar .any⟩, .cons (.field declared) ?_⟩
    rw [anything]
    exact readsAll_anything field.name rest

theorem starts_at_anything {document path : String} {first : Segment} {rest : List Segment}
    (resolved : (schema.resolver document).segments path = .ok (first :: rest))
    (several : 2 ≤ (pathComponents path).length) (plain : first.isComposite = false) :
    ∃ component field, (pathComponents path).head? = some component ∧
      schema.Declares document component field ∧ field.kind = .scalar .any := by
  obtain ⟨-, last, read⟩ := resolve_ok_iff.mp resolved
  cases components : pathComponents path with
  | nil => exact absurd components (pathComponents_ne_nil path)
  | cons component others =>
      rw [components] at read several
      cases read with
      | cons readFirst readOthers =>
          cases readFirst with
          | @field _ _ _ declaredField declared =>
              refine ⟨component, declaredField, rfl, declared, ?_⟩
              cases readOthers with
              | nil => contradiction
              | cons second _ => exact second.anything_of_plain plain

theorem AmbiguousAt.resolved {document key : String}
    (ambiguous : schema.AmbiguousAt document key) :
    ∃ segments leaf, (schema.resolver document).segments (FilterKey.parse key).path =
      .ok segments ∧ segments.getLast? = some (.raw leaf) := by
  obtain ⟨component, field, first, declared, anything⟩ := ambiguous.anything
  have resolved := resolve_below_anything ambiguous.several first declared anything
  have several := ambiguous.several
  obtain ⟨rest, split⟩ := List.head?_eq_some_iff.mp first
  rw [split, List.tail_cons] at resolved
  rw [split] at several
  cases rest using List.reverseRecOn with
  | nil => contradiction
  | append_singleton initial leaf =>
      refine ⟨_, leaf, resolved, ?_⟩
      rw [List.map_append, List.map_singleton, ← List.cons_append, List.getLast?_concat]

/-- A key whose path starts as an ambiguous one, and goes on in another component, is ambiguous. -/
theorem AmbiguousAt.of_same_start {document key longer stem rest : String}
    (ambiguous : schema.AmbiguousAt document key)
    (path : (FilterKey.parse key).path = stem ++ "_")
    (longerPath : FilterKey.parse longer = ⟨stem ++ "._" ++ rest, none⟩) :
    schema.AmbiguousAt document longer := by
  have dot : '.' ∈ stem.toList := by
    have dotInPath := (two_le_length_pathComponents_iff _).mp ambiguous.several
    simpa [path] using dotInPath
  have several : 2 ≤ (pathComponents (FilterKey.parse longer).path).length := by
    rw [two_le_length_pathComponents_iff, longerPath]
    simp
  have sameStart : (pathComponents (FilterKey.parse longer).path).head? =
      (pathComponents (FilterKey.parse key).path).head? := by
    rw [path, longerPath, String.append_assoc, head?_pathComponents_append dot,
      head?_pathComponents_append dot]
  have anything := ambiguous.anything
  rw [← sameStart] at anything
  obtain ⟨component, field, first, declared, anyKind⟩ := anything
  exact ⟨⟨_, resolve_below_anything several first declared anyKind⟩, several,
    congrArg FilterKey.operator? longerPath, component, field, first, declared, anyKind⟩

end Schema

namespace FilterKey

theorem isNested_iff (key : FilterKey) :
    key.isNested = true ↔ 2 ≤ (pathComponents key.path).length := by
  rw [two_le_length_pathComponents_iff, isNested, List.contains_iff_mem]

theorem isExplicit_eq_false_iff (key : FilterKey) :
    key.isExplicit = false ↔ key.operator? = none := by
  rw [isExplicit, Option.isSome_eq_false_iff, Option.isNone_iff_eq_none]

end FilterKey

namespace Resolver

theorem validateKey_ambiguous_iff (schema : Schema) (document key : String) :
    (schema.resolver document).validateKey key = .error ⟨key, .ambiguousSubProperty⟩ ↔
      schema.AmbiguousAt document key := by
  rw [validateKey_error_iff]
  constructor
  · intro rejected
    cases rejected.2 with
    | ambiguous resolved nested implicit plain =>
        have several := (FilterKey.isNested_iff _).mp nested
        exact ⟨⟨_, resolved⟩, several, (FilterKey.isExplicit_eq_false_iff _).mp implicit,
          Schema.starts_at_anything resolved several plain⟩
  · intro ambiguous
    obtain ⟨component, field, first, declared, anything⟩ := ambiguous.anything
    have resolved :=
      Schema.resolve_below_anything ambiguous.several first declared anything
    have plain : (Segment.field field).isComposite = false := by
      rw [Segment.isComposite, Field.isComposite, anything, Kind.isComposite]
    exact ⟨rfl, .ambiguous resolved ((FilterKey.isNested_iff _).mpr ambiguous.several)
      ((FilterKey.isExplicit_eq_false_iff _).mpr ambiguous.implicit) plain⟩

section

variable {resolver : Resolver} {filters : FilterSet} {query : List (String × Value)}

/-- Of the keys of a filter set that compiles only ambiguous ones are rejected. -/
theorem ambiguous_of_compile (compiled : resolver.compile filters = .ok query) {key : String}
    (present : key ∈ filters.keys) (noRaw : key ≠ rawKey) {invalid : InvalidFilter}
    (rejected : resolver.validateKey key = .error invalid) :
    invalid = ⟨key, .ambiguousSubProperty⟩ := by
  have clean := (exists_compile_ok_iff _ _).mp ⟨query, compiled⟩
  obtain ⟨blamed, reason⟩ := invalid
  obtain ⟨named, rejects⟩ := (validateKey_error_iff _ _ _).mp rejected
  dsimp only at named rejects
  subst named
  cases rejects with
  | unresolvable failed => exact absurd (.unresolved present noRaw failed) (clean _ _)
  | noField resolved => exact absurd (.noSegments present noRaw resolved) (clean _ _)
  | ambiguous _ _ _ _ => rfl

theorem compileChecked_error_iff_of_compile (compiled : resolver.compile filters = .ok query)
    (error : CompileError) :
    resolver.compileChecked filters = .error error ↔
      ∃ invalid, resolver.validate filters = .error invalid ∧ error = .invalid invalid := by
  cases verdict : resolver.validate filters with
  | error invalid => simp [compileChecked_of_invalid verdict, eq_comm]
  | ok _ => simp [compileChecked_of_validate verdict, compiled]

end

section

variable {schema : Schema} {document : String} {filters : FilterSet}
  {query : List (String × Value)}

theorem rejected_iff_of_compile
    (compiled : (schema.resolver document).compile filters = .ok query) {key : String}
    (present : key ∈ filters.keys) (noRaw : key ≠ rawKey) (invalid : InvalidFilter) :
    (schema.resolver document).validateKey key = .error invalid ↔
      schema.AmbiguousAt document key ∧ invalid = ⟨key, .ambiguousSubProperty⟩ := by
  rw [← validateKey_ambiguous_iff]
  constructor
  · intro rejected
    have reason := ambiguous_of_compile compiled present noRaw rejected
    exact ⟨reason ▸ rejected, reason⟩
  · intro ambiguous
    obtain ⟨rejected, rfl⟩ := ambiguous
    exact rejected

theorem validate_error_iff_of_compile
    (compiled : (schema.resolver document).compile filters = .ok query) (invalid : InvalidFilter) :
    (schema.resolver document).validate filters = .error invalid ↔
      ∃ key, schema.AmbiguousFirstAt document filters key ∧
        invalid = ⟨key, .ambiguousSubProperty⟩ := by
  rw [validate_error_iff]
  constructor
  · intro first
    obtain ⟨ambiguous, reason⟩ :=
      (rejected_iff_of_compile compiled first.present first.noRaw _).mp first.rejected
    refine ⟨invalid.key, ⟨first.present, first.noRaw, ambiguous, ?_⟩, reason⟩
    intro other present noRaw otherAmbiguous
    have rejected := (rejected_iff_of_compile compiled present noRaw _).mpr ⟨otherAmbiguous, rfl⟩
    exact first.least other present noRaw _ rejected
  · intro least
    obtain ⟨key, first, rfl⟩ := least
    refine ⟨first.present, first.noRaw, ?_, ?_⟩
    · exact (validateKey_ambiguous_iff _ _ _).mpr first.ambiguous
    · intro other present noRaw otherInvalid rejected
      have ambiguous := (rejected_iff_of_compile compiled present noRaw _).mp rejected
      exact first.least other present noRaw ambiguous.1

theorem exists_validate_error_iff_of_compile
    (compiled : (schema.resolver document).compile filters = .ok query) :
    (∃ invalid, (schema.resolver document).validate filters = .error invalid) ↔
      ∃ key ∈ filters.keys, key ≠ rawKey ∧ schema.AmbiguousAt document key := by
  rw [exists_validate_error_iff]
  constructor
  · intro rejects
    obtain ⟨key, present, noRaw, invalid, rejected⟩ := rejects
    have ambiguous := (rejected_iff_of_compile compiled present noRaw _).mp rejected
    exact ⟨key, present, noRaw, ambiguous.1⟩
  · intro unclear
    obtain ⟨key, present, noRaw, ambiguous⟩ := unclear
    have rejected := (rejected_iff_of_compile compiled present noRaw _).mpr ⟨ambiguous, rfl⟩
    exact ⟨key, present, noRaw, _, rejected⟩

end

/-- Over a schema a key is rejected as ambiguous exactly if it has no operator and its path, of
several components, resolves and starts at a field that holds anything. So a checked compilation
refuses a filter set that compiles exactly if one of its keys has this form, and reports the least
one. -/
theorem ambiguous_exactly_below_anything {schema : Schema} {document : String}
    {resolver : Resolver} (bound : schema.resolver? document = .ok resolver) :
    (∀ key, resolver.validateKey key = .error ⟨key, .ambiguousSubProperty⟩ ↔
      schema.AmbiguousAt document key) ∧
    ∀ filters query, resolver.compile filters = .ok query →
      ((∃ error, resolver.compileChecked filters = .error error) ↔
        ∃ key ∈ filters.keys, key ≠ rawKey ∧ schema.AmbiguousAt document key) ∧
      ∀ error, resolver.compileChecked filters = .error error ↔
        ∃ key, schema.AmbiguousFirstAt document filters key ∧
          error = .invalid ⟨key, .ambiguousSubProperty⟩ := by
  obtain ⟨-, rfl⟩ := Schema.resolver?_ok_iff.mp bound
  refine ⟨validateKey_ambiguous_iff schema document, ?_⟩
  intro filters query compiled
  have refused := compileChecked_error_iff_of_compile compiled
  constructor
  · rw [← exists_validate_error_iff_of_compile compiled]
    simp [refused]
  · intro error
    simp only [refused, validate_error_iff_of_compile compiled]
    constructor
    · intro reported
      obtain ⟨invalid, ⟨key, first, rfl⟩, reason⟩ := reported
      exact ⟨key, first, reason⟩
    · intro reported
      obtain ⟨key, first, reason⟩ := reported
      exact ⟨_, ⟨key, first, rfl⟩, reason⟩

def unclearFilters : FilterSet :=
  OrderedMap.ofList [("extra.b", .null), ("extra__a", .null), ("extra__a__gt", .null)]

theorem unclearFilters_refused :
    Schema.threads.resolver? "Post" = .ok (Schema.threads.resolver "Post") ∧
    (∃ query, (Schema.threads.resolver "Post").compile unclearFilters = .ok query) ∧
    (Schema.threads.resolver "Post").compileChecked unclearFilters =
      .error (.invalid ⟨"extra.b", .ambiguousSubProperty⟩) ∧
    Schema.threads.AmbiguousFirstAt "Post" unclearFilters "extra.b" := by
  have bound : Schema.threads.resolver? "Post" = .ok (Schema.threads.resolver "Post") := rfl
  have compiles : ∃ query, (Schema.threads.resolver "Post").compile unclearFilters = .ok query :=
    ⟨_, rfl⟩
  have refused : (Schema.threads.resolver "Post").compileChecked unclearFilters =
      .error (.invalid ⟨"extra.b", .ambiguousSubProperty⟩) := rfl
  obtain ⟨query, compiled⟩ := compiles
  obtain ⟨key, first, reason⟩ :=
    (((ambiguous_exactly_below_anything bound).2 _ query compiled).2 _).mp refused
  obtain rfl : "extra.b" = key := by
    cases reason
    rfl
  exact ⟨bound, ⟨query, compiled⟩, refused, first⟩

theorem validateKey_of_operator {resolver : Resolver} {key path : String} {operator : Operator}
    (parsed : FilterKey.parse key = ⟨path, some operator⟩) {segments : List Segment}
    (resolved : resolver.segments path = .ok segments) (nonempty : segments ≠ []) :
    resolver.validateKey key = .ok () := by
  obtain ⟨first, rest, rfl⟩ := List.exists_cons_of_ne_nil nonempty
  refine (validateKey_ok_iff resolver key).mpr ⟨first, rest, ?_, ?_⟩
  · rw [parsed]
    exact resolved
  · intro _ implicit
    rw [parsed] at implicit
    cases implicit

theorem compileFilter_of_raw_leaf {resolver : Resolver} {key path : String} {operator : Operator}
    (parsed : FilterKey.parse key = ⟨path, some operator⟩) {segments : List Segment}
    {leaf : String} (resolved : resolver.segments path = .ok segments)
    (last : segments.getLast? = some (.raw leaf)) (value : Value) :
    resolver.compileFilter key value =
      .ok [(wireName segments, operator.shape (operator.transform none value))] := by
  apply (compileFilter_ok_iff _ _ _ _).mpr
  rw [parsed]
  exact ⟨segments, .raw leaf, resolved, last, rfl⟩

/-- A token after an ambiguous key clears it, unless the path of the key ends in an underscore: the
longer key is accepted, and filters under it compile to the shape of the operator under the wire
name that the key resolves to. After an underscore the token is read as part of the path, and the
longer key is ambiguous as well. -/
theorem token_clears_ambiguity {schema : Schema} {document : String} {resolver : Resolver}
    (bound : schema.resolver? document = .ok resolver) {key token : String}
    (ambiguous : resolver.validateKey key = .error ⟨key, .ambiguousSubProperty⟩)
    {operator : Operator} (named : Operator.ofToken? token = some operator) :
    (¬ FilterKey.EndsOpen (FilterKey.parse key).path →
      resolver.validateKey (key ++ "__" ++ token) = .ok () ∧
      ∃ segments, resolver.segments (FilterKey.parse key).path = .ok segments ∧
        ∀ value, resolver.compileFilter (key ++ "__" ++ token) value =
          .ok [(wireName segments, operator.shape (operator.transform none value))]) ∧
    (FilterKey.EndsOpen (FilterKey.parse key).path →
      (∃ stem, (FilterKey.parse key).path = stem ++ "_" ∧
        FilterKey.parse (key ++ "__" ++ token) = ⟨stem ++ "._" ++ token, none⟩) ∧
      resolver.validateKey (key ++ "__" ++ token) =
        .error ⟨key ++ "__" ++ token, .ambiguousSubProperty⟩) := by
  obtain ⟨-, rfl⟩ := Schema.resolver?_ok_iff.mp bound
  obtain ⟨explicit, rfl⟩ := (Operator.ofToken?_eq_some_iff token operator).mp named
  have unclear := (validateKey_ambiguous_iff schema document key).mp ambiguous
  have implicit := (FilterKey.isExplicit_eq_false_iff _).mpr unclear.implicit
  constructor
  · intro closed
    have parsed := FilterKey.parse_append_token implicit closed explicit
    obtain ⟨segments, leaf, resolved, last⟩ := unclear.resolved
    have nonempty : segments ≠ [] := by
      rintro rfl
      cases last
    exact ⟨validateKey_of_operator parsed resolved nonempty, segments, resolved,
      compileFilter_of_raw_leaf parsed resolved last⟩
  · intro opened
    obtain ⟨stem, path, longerPath⟩ :=
      FilterKey.parse_append_token_of_open implicit opened operator
    have stillUnclear := unclear.of_same_start path longerPath
    exact ⟨⟨stem, path, longerPath⟩, (validateKey_ambiguous_iff _ _ _).mpr stillUnclear⟩

/-- A token inside the key, and an empty component at its end. -/
theorem token_clears_empty_component :
    Schema.threads.resolver? "Post" = .ok (Schema.threads.resolver "Post") ∧
    (Schema.threads.resolver "Post").validateKey "extra__in__" =
      .error ⟨"extra__in__", .ambiguousSubProperty⟩ ∧
    Operator.ofToken? "not" = some .negation ∧
    ¬ FilterKey.EndsOpen (FilterKey.parse "extra__in__").path ∧
    (Schema.threads.resolver "Post").validateKey ("extra__in__" ++ "__" ++ "not") = .ok () ∧
    (Schema.threads.resolver "Post").compileFilter ("extra__in__" ++ "__" ++ "not") .null =
      .ok [("extra.in.", .mapping [("$not", .null)])] := by
  have bound : Schema.threads.resolver? "Post" = .ok (Schema.threads.resolver "Post") := rfl
  have ambiguous : (Schema.threads.resolver "Post").validateKey "extra__in__" =
      .error ⟨"extra__in__", .ambiguousSubProperty⟩ := rfl
  have named : Operator.ofToken? "not" = some .negation := rfl
  have closed : ¬ FilterKey.EndsOpen (FilterKey.parse "extra__in__").path := by
    unfold FilterKey.EndsOpen
    decide
  obtain ⟨valid, segments, resolved, compiled⟩ :=
    (token_clears_ambiguity bound ambiguous named).1 closed
  have path : (Schema.threads.resolver "Post").segments (FilterKey.parse "extra__in__").path =
      .ok [.field ⟨"extra", none, .scalar .any⟩, .raw "in", .raw ""] := rfl
  rw [path, Except.ok.injEq] at resolved
  subst resolved
  exact ⟨bound, ambiguous, named, closed, valid, compiled .null⟩

/-- After an underscore a token is not read as one: the longer key is refused like the key, and
filters under it compile to an equality under another name. -/
theorem token_after_underscore_clears_nothing :
    Schema.threads.resolver? "Post" = .ok (Schema.threads.resolver "Post") ∧
    (Schema.threads.resolver "Post").validateKey "extra__a_" =
      .error ⟨"extra__a_", .ambiguousSubProperty⟩ ∧
    Operator.ofToken? "gt" = some .greater ∧
    (Schema.threads.resolver "Post").validateKey ("extra__a_" ++ "__" ++ "gt") ≠ .ok () ∧
    (Schema.threads.resolver "Post").compileFilter "extra__a_" .null =
      .ok [("extra.a_", .null)] ∧
    (Schema.threads.resolver "Post").compileFilter ("extra__a_" ++ "__" ++ "gt") .null =
      .ok [("extra.a._gt", .null)] := by
  refine ⟨rfl, rfl, rfl, ?_, rfl, rfl⟩
  have refused : (Schema.threads.resolver "Post").validateKey ("extra__a_" ++ "__" ++ "gt") =
      .error ⟨"extra__a___gt", .ambiguousSubProperty⟩ := rfl
  rw [refused]
  simp

end Resolver

end DocFilter
