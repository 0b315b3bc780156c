import DocFilter.Proofs.FilterSources
import DocFilter.Proofs.Layout
import DocFilter.Proofs.ValidateCompile

set_option autoImplicit false

namespace DocFilter

section Outcomes

variable {ε ε' α β : Type} {outcome : Except ε α}

theorem map_eq_ok_iff {f : α → β} {result : β} :
    outcome.map f = .ok result ↔ ∃ value, outcome = .ok value ∧ f value = result := by
  cases outcome <;> simp [Except.map]

theorem map_eq_error_iff {f : α → β} {error : ε} :
    outcome.map f = .error error ↔ outcome = .error error := by
  cases outcome <;> simp [Except.map]

theorem mapError_eq_ok_iff {f : ε → ε'} {value : α} :
    outcome.mapError f = .ok value ↔ outcome = .ok value := by
  cases outcome <;> simp [Except.mapError]

theorem mapError_eq_error_iff {f : ε → ε'} {error : ε'} :
    outcome.mapError f = .error error ↔ ∃ reason, outcome = .error reason ∧ f reason = error := by
  cases outcome <;> simp [Except.mapError]

end Outcomes

namespace Cli

/-- The ways in which the document type or the filters of a command may not be had. -/
inductive Failure.OfSource : Failure → Prop where
  | unknownDocument (error : UnknownDocument) : OfSource (.unknownDocument error)
  | filterFileUnreadable (path : String) (fault : FileFault) :
      OfSource (.filterFileUnreadable path fault)
  | filterFileInvalid (path : String) (error : SourceError) :
      OfSource (.filterFileInvalid path error)
  | invalidInline (error : SourceError) : OfSource (.invalidInline error)
  | noFilters : OfSource .noFilters

theorem loadFile_error {read : Reader} {file : Option String} {failure : Failure}
    (failed : loadFile read file = .error failure) : failure.OfSource := by
  unfold loadFile at failed
  split at failed
  · cases failed
  · split at failed
    · cases failed
      exact .filterFileUnreadable _ _
    · split at failed
      · cases failed
        exact .filterFileInvalid _ _
      · cases failed

theorem readFilters_error {read : Reader} {source : Source} {failure : Failure}
    (failed : readFilters read source = .error failure) : failure.OfSource := by
  unfold readFilters at failed
  split at failed
  · next other loading =>
      cases failed
      exact loadFile_error loading
  · split at failed
    · cases failed
      exact .invalidInline _
    · split at failed
      · cases failed
        exact .noFilters
      · cases failed

theorem prepare_error {read : Reader} {config : Config} {source : Source} {failure : Failure}
    (failed : prepare read config source = .error failure) : failure.OfSource := by
  unfold prepare at failed
  split at failed
  · cases failed
    exact .unknownDocument _
  · exact readFilters_error (map_eq_error_iff.mp failed)

theorem prepare_ok {read : Reader} {config : Config} {source : Source} {resolver : Resolver}
    {filters : FilterSet} (prepared : prepare read config source = .ok (resolver, filters)) :
    readFilters read source = .ok filters := by
  unfold prepare at prepared
  split at prepared
  · cases prepared
  · obtain ⟨found, filled, same⟩ := map_eq_ok_iff.mp prepared
    cases same
    exact filled

/-- The query that a command compiles, before it is laid out. -/
def compileQuery (read : Reader) (config : Config) (source : Source) (noValidate : Bool) :
    Except Failure (List (String × Value)) :=
  match prepare read config source with
  | .error failure => .error failure
  | .ok (resolver, filters) =>
      let compiled :=
        if config.options.validate && !noValidate then resolver.compileChecked filters
        else resolver.compile filters
      compiled.mapError Failure.compilation

/-- The text of a query as the options have it. -/
def layOut (pretty compact : Bool) (query : List (String × Value)) : String :=
  if compact || !pretty then (Value.mapping query).compactText
  else (Value.mapping query).indentedText

theorem compileText_eq (read : Reader) (config : Config) (source : Source)
    (noValidate compact : Bool) :
    compileText read config source noValidate compact =
      (compileQuery read config source noValidate).map (layOut config.options.pretty compact) := by
  unfold compileText compileQuery layOut
  cases prepare read config source with
  | error failure => rfl
  | ok prepared =>
      obtain ⟨resolver, filters⟩ := prepared
      dsimp only
      split
      · next error compiled =>
          rw [compiled]
          rfl
      · next query compiled =>
          rw [compiled]
          split <;> rfl

theorem unformatted_layOut (pretty compact : Bool) (query : List (String × Value)) :
    Text.unformatted (layOut pretty compact query) = (Value.mapping query).compactText := by
  unfold layOut
  split
  · exact Value.unformatted_compactText _
  · exact Value.unformatted_indentedText _

/-- What is said of a document type and filters that are valid for it. -/
def validMessage (document : String) (filters : FilterSet) : String :=
  "OK: " ++ toString filters.size ++ " filter(s) valid for '" ++ document ++ "'"

section Prepared

variable {read : Reader} {config : Config} {source : Source} {resolver : Resolver}
  {filters : FilterSet}

theorem validateText_prepared (prepared : prepare read config source = .ok (resolver, filters)) :
    validateText read config source =
      ((resolver.validate filters).mapError fun error => Failure.compilation (.invalid error)).map
        fun _ => validMessage source.document filters := by
  simp only [validateText, prepared]
  cases resolver.validate filters <;> rfl

theorem compileQuery_checked (validated : config.options.validate = true)
    (prepared : prepare read config source = .ok (resolver, filters)) :
    compileQuery read config source false =
      (resolver.compileChecked filters).mapError Failure.compilation := by
  simp [compileQuery, prepared, validated]

theorem compileQuery_unchecked (prepared : prepare read config source = .ok (resolver, filters)) :
    compileQuery read config source true =
      (resolver.compile filters).mapError Failure.compilation := by
  simp [compileQuery, prepared]

/-- What can be validated compiles, or fails to for a raw entry that is no mapping; nothing else
compiles, or fails for that reason. -/
theorem validateText_ok_iff (validated : config.options.validate = true) :
    (∃ text, validateText read config source = .ok text) ↔
      (∃ query, compileQuery read config source false = .ok query) ∨
        ∃ value, compileQuery read config source false =
          .error (.compilation (.rawNotMapping value)) := by
  cases prepared : prepare read config source with
  | error failure =>
      have unprepared := prepare_error prepared
      have noText : ∀ text, validateText read config source ≠ .ok text := by
        simp [validateText, prepared]
      have noQuery : ∀ noValidate, compileQuery read config source noValidate = .error failure := by
        simp [compileQuery, prepared]
      have otherReason : ∀ value, failure ≠ .compilation (.rawNotMapping value) := by
        rintro value rfl
        cases unprepared
      simp [noText, noQuery, otherReason]
  | ok pair =>
      obtain ⟨resolver, filters⟩ := pair
      rw [validateText_prepared prepared, compileQuery_checked validated prepared]
      cases verdict : resolver.validate filters with
      | error invalid =>
          rw [Resolver.compileChecked_of_invalid verdict]
          simp [Except.mapError, Except.map]
      | ok _ =>
          rw [Resolver.compileChecked_of_validate verdict]
          cases compiled : resolver.compile filters with
          | ok query => simp [Except.mapError, Except.map]
          | error error =>
              obtain ⟨value, -, -, rfl⟩ := Resolver.compile_error_of_validate verdict compiled
              simp [Except.mapError, Except.map]

theorem compileQuery_of_validateText_error (validated : config.options.validate = true)
    {failure : Failure} (failed : validateText read config source = .error failure) :
    compileQuery read config source false = .error failure := by
  cases prepared : prepare read config source with
  | error other =>
      rw [validateText, prepared] at failed
      cases failed
      rw [compileQuery, prepared]
  | ok pair =>
      obtain ⟨resolver, filters⟩ := pair
      rw [validateText_prepared prepared, map_eq_error_iff, mapError_eq_error_iff] at failed
      obtain ⟨invalid, verdict, same⟩ := failed
      rw [compileQuery_checked validated prepared, Resolver.compileChecked_of_invalid verdict,
        ← same]
      rfl

theorem compileQuery_unchecked_of_checked (validated : config.options.validate = true)
    {query : List (String × Value)}
    (compiled : compileQuery read config source false = .ok query) :
    compileQuery read config source true = .ok query := by
  cases prepared : prepare read config source with
  | error failure =>
      rw [compileQuery, prepared] at compiled
      cases compiled
  | ok pair =>
      obtain ⟨resolver, filters⟩ := pair
      rw [compileQuery_checked validated prepared, mapError_eq_ok_iff,
        Resolver.compileChecked_ok_iff] at compiled
      rw [compileQuery_unchecked prepared, mapError_eq_ok_iff]
      exact compiled.2

end Prepared

def withPretty (config : Config) (pretty : Bool) : Config :=
  { config with options := { config.options with pretty } }

/-- With validation enabled, validating succeeds exactly if compiling does or fails for a raw entry
that is no mapping, and otherwise both fail alike. What compiles compiles to the same text without
validation. The layout neither makes a compilation fail nor changes how it fails: without layout
every text is the one on a single line. -/
theorem commands_agree {config : Config} (validated : config.options.validate = true)
    (read : Reader) (source : Source) :
    (∀ compact, (∃ text, validateText read config source = .ok text) ↔
      (∃ text, compileText read config source false compact = .ok text) ∨
        ∃ value, compileText read config source false compact =
          .error (.compilation (.rawNotMapping value))) ∧
    (∀ compact failure, validateText read config source = .error failure →
      compileText read config source false compact = .error failure) ∧
    (∀ compact text, compileText read config source false compact = .ok text →
      compileText read config source true compact = .ok text) ∧
    ∀ noValidate pretty compact,
      (compileText read (withPretty config pretty) source noValidate compact).map
          Text.unformatted = compileText read config source noValidate true ∧
      ((compact || !pretty) = true →
        compileText read (withPretty config pretty) source noValidate compact =
          compileText read config source noValidate true) := by
  refine ⟨?_, ?_, ?_, ?_⟩
  · intro compact
    rw [validateText_ok_iff validated, compileText_eq]
    simp only [map_eq_error_iff, map_eq_ok_iff]
    apply or_congr_left
    constructor
    · rintro ⟨query, compiled⟩
      exact ⟨_, query, compiled, rfl⟩
    · rintro ⟨text, query, compiled, -⟩
      exact ⟨query, compiled⟩
  · intro compact failure failed
    rw [compileText_eq, compileQuery_of_validateText_error validated failed]
    rfl
  · intro compact text compiled
    rw [compileText_eq, map_eq_ok_iff] at compiled
    obtain ⟨query, checked, rfl⟩ := compiled
    rw [compileText_eq, compileQuery_unchecked_of_checked validated checked]
    rfl
  · intro noValidate pretty compact
    have sameQuery : compileQuery read (withPretty config pretty) source noValidate =
        compileQuery read config source noValidate := rfl
    rw [compileText_eq, compileText_eq, sameQuery]
    cases compileQuery read config source noValidate with
    | error failure => exact ⟨rfl, fun _ => rfl⟩
    | ok query =>
        constructor
        · exact congrArg Except.ok (unformatted_layOut pretty compact query)
        · intro oneLine
          simp [Except.map, layOut, withPretty, oneLine]

/-- A schema with a single document type, validation being enabled. -/
def peopleConfig : Config :=
  ⟨.default, Schema.empty.withDocument "User"
    ⟨[⟨"name", some "n", .scalar .string⟩, ⟨"age", none, .scalar .int⟩]⟩⟩

/-- A filter on a declared field, and a raw text with quotes and blanks. -/
def spacedFilters : FilterSet :=
  OrderedMap.ofList [("age__gte", .string "18"),
    (rawKey, .mapping [("$or", .array [.string " \" ", .mapping []])])]

def spacedSource : Source :=
  ⟨"User", none, spacedFilters.entries.map FilterSet.inlineArgument⟩

def noFiles : Reader := fun _ => .error .notFound

theorem prepare_spaced (read : Reader) :
    prepare read peopleConfig spacedSource = .ok (Resolver.people, spacedFilters) := by
  have entries : spacedFilters.entries = [("age__gte", .string "18"),
      ("raw", .mapping [("$or", .array [.string " \" ", .mapping []])])] := rfl
  have inline : ∀ pair ∈ spacedFilters.entries,
      FilterSet.parseInline (FilterSet.inlineArgument pair) = .ok pair := by
    rw [entries, List.forall_mem_cons, List.forall_mem_singleton]
    constructor
    · exact FilterSet.parseInline_inlineArgument
        ⟨by decide, by decide, Text.trimmed_of_solid (List.all_iff_forall_prop.mp rfl)⟩
        trivial (.string "18")
    · apply FilterSet.parseInline_inlineArgument
        ⟨by decide, by decide, Text.trimmed_of_solid (List.all_iff_forall_prop.mp rfl)⟩
      · simp [Value.Canonical, Value.CanonicalItems, Value.CanonicalEntries, Entries.Ascending]
      · simp [Value.floatFree_array_iff, Value.floatFree_mapping_iff]
  have filled : FilterSet.withInline .empty spacedSource.filters = .ok spacedFilters :=
    FilterSet.withInline_inlineArguments inline .empty
  have nonempty : spacedFilters.entries ≠ [] := by decide
  have found : peopleConfig.schema.resolver? "User" = .ok Resolver.people := rfl
  rw [prepare, spacedSource, found]
  exact congrArg (Except.map _) (readFilters_inline read nonempty "User" filled)

theorem commands_agree_spaced :
    ∃ text message,
      compileText noFiles peopleConfig spacedSource false false = .ok text ∧
      compileText noFiles peopleConfig spacedSource true false = .ok text ∧
      compileText noFiles peopleConfig spacedSource false true = .ok (Text.unformatted text) ∧
      validateText noFiles peopleConfig spacedSource = .ok message := by
  have validated : peopleConfig.options.validate = true := rfl
  have query : Resolver.people.compileChecked spacedFilters =
      .ok [("$or", .array [.string " \" ", .mapping []]),
        ("age", .mapping [("$gte", .number (.integer 18 (by decide) (by decide)))])] := rfl
  obtain ⟨valid, -, unchecked, layouts⟩ :=
    commands_agree validated noFiles spacedSource
  have compiled : ∃ text,
      compileText noFiles peopleConfig spacedSource false false = .ok text := by
    rw [compileText_eq, compileQuery_checked validated (prepare_spaced _), query]
    exact ⟨_, rfl⟩
  obtain ⟨text, compiled⟩ := compiled
  have oneLine := (layouts false true false).1
  have same : withPretty peopleConfig true = peopleConfig := rfl
  rw [same, compiled] at oneLine
  obtain ⟨message, accepted⟩ := (valid false).mpr (Or.inl ⟨text, compiled⟩)
  exact ⟨text, message, compiled, unchecked false text compiled, oneLine.symm, accepted⟩

end Cli

end DocFilter
