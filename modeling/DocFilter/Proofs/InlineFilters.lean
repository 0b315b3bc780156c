import DocFilter.Proofs.FilterSources

set_option autoImplicit false

namespace DocFilter

namespace FilterSet

/-- What stands before the first equals sign, without white space around it. -/
def inlineKey (argument : String) : String :=
  String.ofList (Text.trim (argument.toList.takeWhile (· != '=')))

/-- The value that stands after the first equals sign, or else the text there, without white space
around it. -/
def inlineValue (argument : String) : Value :=
  let text := String.ofList (Text.trim ((argument.toList.dropWhile (· != '=')).drop 1))
  (Value.ofText? text).getD (.string text)

/-- An argument without an equals sign, or with only white space before the first one. -/
def Malformed (argument : String) : Prop :=
  '=' ∉ argument.toList ∨ ∃ blanks rest, argument.toList = blanks ++ '=' :: rest ∧
    ∀ c ∈ blanks, Text.isBlank c = true

section Cut

variable {argument : String} {front rest : List Char}

theorem inlineKey_of_cut (cut : argument.toList = front ++ '=' :: rest) (noEquals : '=' ∉ front) :
    inlineKey argument = String.ofList (Text.trim front) := by
  rw [inlineKey, cut, (takeWhile_cut noEquals rest).1]

theorem inlineValue_of_cut (cut : argument.toList = front ++ '=' :: rest)
    (noEquals : '=' ∉ front) :
    inlineValue argument = (Value.ofText? (String.ofList (Text.trim rest))).getD
      (.string (String.ofList (Text.trim rest))) := by
  rw [inlineValue, cut, (takeWhile_cut noEquals rest).2, List.drop_one, List.tail_cons]

/-- White space holds no equals sign, so what stands before the first one decides. -/
theorem malformed_of_cut_iff (cut : argument.toList = front ++ '=' :: rest)
    (noEquals : '=' ∉ front) : Malformed argument ↔ ∀ c ∈ front, Text.isBlank c = true := by
  constructor
  · intro malformed
    rcases malformed with absent | ⟨blanks, other, split, blank⟩
    · rw [cut] at absent
      exact absurd (by simp) absent
    · have noEqualsBlanks : '=' ∉ blanks := by
        intro member
        exact absurd (blank '=' member) (by decide)
      have same := (takeWhile_cut noEqualsBlanks other).1
      rw [← split, cut, (takeWhile_cut noEquals rest).1] at same
      exact same ▸ blank
  · intro blank
    exact Or.inr ⟨front, rest, cut, blank⟩

theorem malformed_iff (argument : String) :
    Malformed argument ↔ '=' ∉ argument.toList ∨ inlineKey argument = "" := by
  by_cases equals : '=' ∈ argument.toList
  · obtain ⟨front, rest, cut, noEquals⟩ := List.eq_append_cons_of_mem equals
    rw [malformed_of_cut_iff cut noEquals, inlineKey_of_cut cut noEquals,
      ← Text.trim_eq_nil_iff, String.ofList_eq_empty_iff]
    simp [equals]
  · exact iff_of_true (Or.inl equals) (Or.inl equals)

instance (argument : String) : Decidable (Malformed argument) :=
  decidable_of_iff _ (malformed_iff argument).symm

theorem parseInline_of_cut (cut : argument.toList = front ++ '=' :: rest)
    (noEquals : '=' ∉ front) :
    parseInline argument = if (Text.trim front).isEmpty then .error (.invalidInline argument)
      else .ok (inlineKey argument, inlineValue argument) := by
  obtain ⟨before, behind⟩ := takeWhile_cut noEquals rest
  rw [inlineKey_of_cut cut noEquals, inlineValue_of_cut cut noEquals]
  simp only [parseInline, cut, before, behind]

end Cut

theorem parseInline_of_malformed {argument : String} (malformed : Malformed argument) :
    parseInline argument = .error (.invalidInline argument) := by
  rcases malformed with absent | ⟨blanks, rest, cut, blank⟩
  · have all : ∀ c ∈ argument.toList, (c != '=') = true := by
      intro c member
      rw [bne_iff_ne]
      rintro rfl
      exact absent member
    simp [parseInline, List.dropWhile_eq_nil_iff.mpr all]
  · have noEquals : '=' ∉ blanks := by
      intro member
      exact absurd (blank '=' member) (by decide)
    simp [parseInline_of_cut cut noEquals, (Text.trim_eq_nil_iff blanks).mpr blank]

theorem parseInline_of_not_malformed {argument : String} (wellFormed : ¬ Malformed argument) :
    parseInline argument = .ok (inlineKey argument, inlineValue argument) := by
  rw [Malformed, not_or, not_not] at wellFormed
  obtain ⟨front, rest, cut, noEquals⟩ := List.eq_append_cons_of_mem wellFormed.1
  have someKey : Text.trim front ≠ [] := by
    rw [ne_eq, Text.trim_eq_nil_iff]
    intro blank
    exact wellFormed.2 ⟨front, rest, cut, blank⟩
  simp [parseInline_of_cut cut noEquals, someKey]

theorem withInline_of_wellFormed {arguments : List String}
    (wellFormed : ∀ argument ∈ arguments, ¬ Malformed argument) (filters : FilterSet) :
    withInline filters arguments =
      .ok ((arguments.map fun argument => (inlineKey argument, inlineValue argument)).foldl
        (fun filled pair => filled.insert pair.1 pair.2) filters) := by
  have each : ∀ argument ∈ arguments,
      parseInline (id argument) = .ok (inlineKey argument, inlineValue argument) :=
    fun argument member => parseInline_of_not_malformed (wellFormed argument member)
  have filled := withInline_map each filters
  rwa [List.map_id] at filled

theorem withInline_of_malformed {before : List String} {argument : String}
    (wellFormed : ∀ earlier ∈ before, ¬ Malformed earlier) (malformed : Malformed argument)
    (after : List String) (filters : FilterSet) :
    withInline filters (before ++ argument :: after) = .error (.invalidInline argument) := by
  induction before generalizing filters with
  | nil => rw [List.nil_append, withInline, parseInline_of_malformed malformed]
  | cons first before ih =>
      rw [List.forall_mem_cons] at wellFormed
      rw [List.cons_append, withInline, parseInline_of_not_malformed wellFormed.1]
      exact ih wellFormed.2 _

def FirstMalformed (arguments : List String) (argument : String) : Prop :=
  ∃ before after, arguments = before ++ argument :: after ∧ Malformed argument ∧
    ∀ earlier ∈ before, ¬ Malformed earlier

theorem exists_firstMalformed {arguments : List String}
    (malformed : ∃ argument ∈ arguments, Malformed argument) :
    ∃ argument, FirstMalformed arguments argument := by
  have found : (arguments.find? fun argument => Malformed argument).isSome := by
    simpa using malformed
  obtain ⟨argument, first⟩ := Option.isSome_iff_exists.mp found
  rw [List.find?_eq_some_iff_append] at first
  obtain ⟨bad, before, after, split, others⟩ := first
  exact ⟨argument, before, after, split, by simpa using bad, by simpa using others⟩

theorem withInline_ok_iff (filters : FilterSet) (arguments : List String) (result : FilterSet) :
    withInline filters arguments = .ok result ↔
      (∀ argument ∈ arguments, ¬ Malformed argument) ∧
        (arguments.map fun argument => (inlineKey argument, inlineValue argument)).foldl
          (fun filled pair => filled.insert pair.1 pair.2) filters = result := by
  by_cases malformed : ∃ argument ∈ arguments, Malformed argument
  · obtain ⟨argument, before, after, rfl, bad, others⟩ := exists_firstMalformed malformed
    rw [withInline_of_malformed others bad]
    simp only [reduceCtorEq, false_iff, not_and]
    intro wellFormed
    exact absurd bad (wellFormed argument (by simp))
  · have wellFormed : ∀ argument ∈ arguments, ¬ Malformed argument := by simpa using malformed
    rw [withInline_of_wellFormed wellFormed, Except.ok.injEq, and_iff_right wellFormed]

theorem withInline_error_iff (filters : FilterSet) (arguments : List String)
    (error : SourceError) :
    withInline filters arguments = .error error ↔
      ∃ argument, FirstMalformed arguments argument ∧ error = .invalidInline argument := by
  constructor
  · intro failed
    by_cases malformed : ∃ argument ∈ arguments, Malformed argument
    · obtain ⟨argument, first⟩ := exists_firstMalformed malformed
      refine ⟨argument, first, ?_⟩
      obtain ⟨before, after, rfl, bad, others⟩ := first
      rw [withInline_of_malformed others bad] at failed
      exact (Except.error.inj failed).symm
    · rw [withInline_of_wellFormed (by simpa using malformed)] at failed
      cases failed
  · intro first
    obtain ⟨argument, ⟨before, after, rfl, bad, others⟩, rfl⟩ := first
    exact withInline_of_malformed others bad after filters

/-- The value of the last argument with the key. -/
def lastValue? (key : String) (arguments : List String) : Option Value :=
  (arguments.filter fun argument => inlineKey argument = key).getLast?.map inlineValue

theorem last?_inline (key : String) (arguments : List String) :
    Entries.last? key (arguments.map fun argument => (inlineKey argument, inlineValue argument)) =
      lastValue? key arguments := by
  simp only [Entries.last?, lastValue?, List.filter_map, List.getLast?_map, Option.map_map,
    Function.comp_def]

theorem get?_withInline {filters result : FilterSet} {arguments : List String}
    (filled : withInline filters arguments = .ok result) (key : String) :
    result.get? key = (lastValue? key arguments).or (filters.get? key) := by
  rw [withInline_ok_iff] at filled
  rw [← filled.2, OrderedMap.get?_foldl_insert, last?_inline]

theorem lastValue?_eq_none_iff (key : String) (arguments : List String) :
    lastValue? key arguments = none ↔ ¬ ∃ argument ∈ arguments, inlineKey argument = key := by
  rw [← last?_inline, Entries.last?_eq_none_iff, Entries.keys, List.map_map]
  exact not_congr List.mem_map

theorem mem_keys_withInline {filters result : FilterSet} {arguments : List String}
    (filled : withInline filters arguments = .ok result) (key : String) :
    key ∈ result.keys ↔
      key ∈ filters.keys ∨ ∃ argument ∈ arguments, inlineKey argument = key := by
  rw [OrderedMap.mem_keys_iff, OrderedMap.mem_keys_iff, get?_withInline filled]
  have given := lastValue?_eq_none_iff key arguments
  cases last : lastValue? key arguments with
  | none => simp [given.mp last]
  | some value =>
      rw [last] at given
      have present : ∃ argument ∈ arguments, inlineKey argument = key := by simpa using given
      exact ⟨fun _ => Or.inr present, fun _ => ⟨value, rfl⟩⟩

/-- The same arguments in an order that differs only between arguments with different keys. -/
def SameOrderPerKey (first second : List String) : Prop :=
  first.Perm second ∧ ∀ key, (first.filter fun argument => inlineKey argument = key) =
    second.filter fun argument => inlineKey argument = key

theorem SameOrderPerKey.withInline_ok {first second : List String}
    (same : SameOrderPerKey first second) {filters result : FilterSet}
    (filled : withInline filters first = .ok result) : withInline filters second = .ok result := by
  have wellFormed := ((withInline_ok_iff _ _ _).mp filled).1
  have others : ∀ argument ∈ second, ¬ Malformed argument := by
    intro argument member
    exact wellFormed argument (same.1.mem_iff.mpr member)
  have reordered := withInline_of_wellFormed others filters
  rw [reordered]
  apply congrArg Except.ok
  apply OrderedMap.ext
  intro key
  rw [get?_withInline reordered, get?_withInline filled, lastValue?, lastValue?, same.2 key]

/-- Neighbours with different keys may change places. -/
theorem sameOrderPerKey_swap {first second : String} (apart : inlineKey first ≠ inlineKey second)
    (rest : List String) :
    SameOrderPerKey (first :: second :: rest) (second :: first :: rest) := by
  refine ⟨List.Perm.swap second first rest, ?_⟩
  intro key
  by_cases hasFirst : inlineKey first = key
  · have noSecond : inlineKey second ≠ key := fun hasSecond => apart (hasFirst.trans hasSecond.symm)
    simp [hasFirst, noSecond]
  · simp [List.filter_cons, hasFirst]

/-- Two arguments that differ at most behind the first equals sign. -/
def SameToEquals (first second : String) : Prop :=
  first = second ∨ ∃ front text other, '=' ∉ front.toList ∧ first = front ++ "=" ++ text ∧
    second = front ++ "=" ++ other

theorem SameToEquals.malformed_iff {first second : String} (same : SameToEquals first second) :
    Malformed first ↔ Malformed second := by
  rcases same with rfl | ⟨front, text, other, noEquals, rfl, rfl⟩
  · rfl
  · rw [malformed_of_cut_iff (toList_cut front text) noEquals,
      malformed_of_cut_iff (toList_cut front other) noEquals]

theorem exists_malformed_iff {arguments others : List String}
    (same : List.Forall₂ SameToEquals arguments others) :
    (∃ argument ∈ arguments, Malformed argument) ↔ ∃ argument ∈ others, Malformed argument := by
  induction same with
  | nil => rfl
  | cons first rest ih =>
      simp only [List.mem_cons, exists_eq_or_imp, first.malformed_iff, ih]

theorem eq_nil_iff_of_sameToEquals {arguments others : List String}
    (same : List.Forall₂ SameToEquals arguments others) : arguments = [] ↔ others = [] := by
  cases same with
  | nil => rfl
  | cons first rest => simp

end FilterSet

namespace Cli

open FilterSet (inlineKey inlineValue lastValue? Malformed FirstMalformed SameOrderPerKey
  SameToEquals)

section Loaded

variable {read : Reader} {source : Source} {fromFile : FilterSet}

theorem readFilters_of_filled (loaded : loadFile read source.file = .ok fromFile)
    {filters : FilterSet} (filled : FilterSet.withInline fromFile source.filters = .ok filters) :
    readFilters read source = if filters.entries = [] then .error .noFilters else .ok filters := by
  simp only [readFilters, loaded, filled, List.isEmpty_iff]

theorem readFilters_of_refused (loaded : loadFile read source.file = .ok fromFile)
    {error : SourceError}
    (refused : FilterSet.withInline fromFile source.filters = .error error) :
    readFilters read source = .error (.invalidInline error) := by
  simp only [readFilters, loaded, refused]

theorem loaded_of_readFilters {filters : FilterSet}
    (given : readFilters read source = .ok filters) :
    ∃ fromFile, loadFile read source.file = .ok fromFile ∧
      FilterSet.withInline fromFile source.filters = .ok filters ∧ filters.entries ≠ [] := by
  cases loading : loadFile read source.file with
  | error failure =>
      rw [readFilters, loading] at given
      cases given
  | ok fromFile =>
      cases filling : FilterSet.withInline fromFile source.filters with
      | error error =>
          rw [readFilters_of_refused loading filling] at given
          cases given
      | ok result =>
          rw [readFilters_of_filled loading filling] at given
          split at given
          · cases given
          · next nonempty =>
              cases given
              exact ⟨fromFile, rfl, filling, nonempty⟩

theorem entries_eq_nil_iff (filters : FilterSet) :
    filters.entries = [] ↔ ∀ key, key ∉ filters.keys := by
  rw [← List.eq_nil_iff_forall_not_mem, OrderedMap.keys, Entries.keys, List.map_eq_nil_iff]

/-- Nothing takes a filter out of the set again. -/
theorem withInline_empty_iff {filters : FilterSet}
    (filled : FilterSet.withInline fromFile source.filters = .ok filters) :
    filters.entries = [] ↔ fromFile.entries = [] ∧ source.filters = [] := by
  rw [entries_eq_nil_iff, entries_eq_nil_iff]
  simp only [FilterSet.mem_keys_withInline filled, not_or, forall_and]
  apply and_congr_right'
  rw [List.eq_nil_iff_forall_not_mem]
  constructor
  · intro noKey argument member
    exact noKey (inlineKey argument) ⟨argument, member, rfl⟩
  · intro noArgument key given
    obtain ⟨argument, member, -⟩ := given
    exact noArgument argument member

/-- Once the file is read, an argument is what fails, or that there are no filters at all. -/
theorem readFilters_error_iff (loaded : loadFile read source.file = .ok fromFile)
    (failure : Failure) :
    readFilters read source = .error failure ↔
      (∃ argument, FirstMalformed source.filters argument ∧
        failure = .invalidInline (.invalidInline argument)) ∨
      fromFile.entries = [] ∧ source.filters = [] ∧ failure = .noFilters := by
  cases filling : FilterSet.withInline fromFile source.filters with
  | error error =>
      rw [readFilters_of_refused loaded filling, Except.error.injEq]
      obtain ⟨argument, first, rfl⟩ := (FilterSet.withInline_error_iff _ _ _).mp filling
      constructor
      · intro same
        exact Or.inl ⟨argument, first, same.symm⟩
      · intro either
        rcases either with ⟨other, firstOther, rfl⟩ | ⟨-, none, -⟩
        · have again := (FilterSet.withInline_error_iff fromFile _ _).mpr ⟨other, firstOther, rfl⟩
          rw [filling] at again
          rw [Except.error.inj again]
        · rw [none] at filling
          cases filling
  | ok filters =>
      have noneMalformed : ¬ ∃ argument, FirstMalformed source.filters argument := by
        intro first
        obtain ⟨argument, first⟩ := first
        have refused := (FilterSet.withInline_error_iff fromFile _ _).mpr ⟨argument, first, rfl⟩
        rw [filling] at refused
        cases refused
      have empty := withInline_empty_iff filling
      rw [readFilters_of_filled loaded filling]
      constructor
      · intro failed
        split at failed
        · next noFilters =>
            obtain ⟨noFile, noArguments⟩ := empty.mp noFilters
            exact Or.inr ⟨noFile, noArguments, (Except.error.inj failed).symm⟩
        · cases failed
      · intro either
        rcases either with ⟨argument, first, -⟩ | ⟨noFile, noArguments, rfl⟩
        · exact absurd ⟨argument, first⟩ noneMalformed
        · rw [if_pos (empty.mpr ⟨noFile, noArguments⟩)]

theorem readFilters_fails_iff (loaded : loadFile read source.file = .ok fromFile) :
    (∃ failure, readFilters read source = .error failure) ↔
      (∃ argument ∈ source.filters, Malformed argument) ∨
        fromFile.entries = [] ∧ source.filters = [] := by
  simp only [readFilters_error_iff loaded, exists_or]
  apply or_congr
  · constructor
    · intro failed
      obtain ⟨-, argument, ⟨before, after, split, malformed, -⟩, -⟩ := failed
      exact ⟨argument, by simp [split], malformed⟩
    · intro malformed
      obtain ⟨argument, first⟩ := FilterSet.exists_firstMalformed malformed
      exact ⟨_, argument, first, rfl⟩
  · simp

end Loaded

def Source.withFilters (source : Source) (filters : List String) : Source :=
  { source with filters }

/-- Sources that give the same filters for the same document type are not told apart. -/
theorem output_of_sameFilters {read : Reader} {source other : Source}
    (document : source.document = other.document)
    (same : readFilters read source = readFilters read other) (config : Config) (quiet : Bool)
    (color : ColorMode) :
    (∀ noValidate compact,
      (Command.compile source noValidate compact).output read config quiet color =
        (Command.compile other noValidate compact).output read config quiet color) ∧
    (Command.validate source).output read config quiet color =
      (Command.validate other).output read config quiet color := by
  have prepared : prepare read config source = prepare read config other := by
    rw [prepare, prepare, document, same]
  constructor
  · intro noValidate compact
    simp only [Command.output, compileText, prepared]
  · simp only [Command.output, validateText, prepared, document]

/-- The filters that are read have the keys of the file and of the arguments. The last argument with
a key gives its value, and the file gives it if there is no such argument; so only the order of the
arguments with the same key matters for the filters and for what the commands leave. Once the file
is read, the first malformed argument is reported, and else that there are no filters at all; what
stands behind the first equals signs never decides whether reading fails. -/
theorem inline_filters_override (read : Reader) (source : Source) :
    (∀ filters, readFilters read source = .ok filters →
      ∃ fromFile, loadFile read source.file = .ok fromFile ∧
        (∀ key, key ∈ filters.keys ↔
          key ∈ fromFile.keys ∨ ∃ argument ∈ source.filters, inlineKey argument = key) ∧
        (∀ argument ∈ source.filters,
          FilterSet.parseInline argument = .ok (inlineKey argument, inlineValue argument)) ∧
        (∀ key, filters.get? key =
          (lastValue? key source.filters).or (fromFile.get? key)) ∧
        ∀ order, SameOrderPerKey source.filters order →
          readFilters read (source.withFilters order) = .ok filters ∧
          ∀ config quiet color,
            (∀ noValidate compact,
              (Command.compile (source.withFilters order) noValidate compact).output read config
                quiet color =
              (Command.compile source noValidate compact).output read config quiet color) ∧
            (Command.validate (source.withFilters order)).output read config quiet color =
              (Command.validate source).output read config quiet color) ∧
    ∀ fromFile, loadFile read source.file = .ok fromFile →
      (∀ failure, readFilters read source = .error failure ↔
        (∃ argument, FirstMalformed source.filters argument ∧
          failure = .invalidInline (.invalidInline argument)) ∨
        fromFile.entries = [] ∧ source.filters = [] ∧ failure = .noFilters) ∧
      ∀ others, List.Forall₂ SameToEquals source.filters others →
        ((∃ failure, readFilters read source = .error failure) ↔
          ∃ failure, readFilters read (source.withFilters others) = .error failure) := by
  constructor
  · intro filters given
    obtain ⟨fromFile, loaded, filled, nonempty⟩ := loaded_of_readFilters given
    refine ⟨fromFile, loaded, FilterSet.mem_keys_withInline filled, ?_,
      FilterSet.get?_withInline filled, ?_⟩
    · intro argument member
      have wellFormed := ((FilterSet.withInline_ok_iff _ _ _).mp filled).1 argument member
      exact FilterSet.parseInline_of_not_malformed wellFormed
    · intro order same
      have again : readFilters read (source.withFilters order) = .ok filters := by
        have loadedAgain : loadFile read (source.withFilters order).file = .ok fromFile := loaded
        rw [readFilters_of_filled loadedAgain (same.withInline_ok filled), if_neg nonempty]
      exact ⟨again, output_of_sameFilters rfl (again.trans given.symm)⟩
  · intro fromFile loaded
    refine ⟨readFilters_error_iff loaded, ?_⟩
    intro others alike
    have loadedOthers : loadFile read (source.withFilters others).file = .ok fromFile := loaded
    rw [readFilters_fails_iff loaded, readFilters_fails_iff loadedOthers]
    have arguments := FilterSet.eq_nil_iff_of_sameToEquals alike
    exact or_congr (FilterSet.exists_malformed_iff alike) (and_congr_right fun _ => arguments)

def overriddenFilters : FilterSet :=
  OrderedMap.ofList [("age", .null), ("size__in", .array [.null])]

def overriddenReader : Reader :=
  fun _ => .ok (Value.mapping overriddenFilters.entries).compactText.toUTF8

theorem loadFile_overriddenFilters (path : String) :
    loadFile overriddenReader (some path) = .ok overriddenFilters := by
  have entries : overriddenFilters.entries =
      [("age", .null), ("size__in", .array [.null])] := rfl
  have canonical : (Value.mapping overriddenFilters.entries).Canonical := by
    refine ⟨overriddenFilters.ascending, ?_⟩
    simp [entries, Value.Canonical, Value.CanonicalItems, Value.CanonicalEntries]
  have free : (Value.mapping overriddenFilters.entries).FloatFree := by
    simp [entries, Value.floatFree_array_iff, Value.floatFree_mapping_iff]
  have content : overriddenReader path =
      .ok (Value.mapping overriddenFilters.entries).compactText.toUTF8 := rfl
  simp only [loadFile, readText_of_utf8 content, FilterSet.ofText_compactText canonical free]

/-- Arguments for a new key, twice, and for a key of the file; one value is no JSON5, and one holds
an equals sign. -/
def overridingSource : Source :=
  ⟨"User", some "filters.json", ["name =first", " size__in =[", "name=\"a=b\""]⟩

theorem inline_filters_override_repeated :
    ∃ filters, readFilters overriddenReader overridingSource = .ok filters ∧
      filters.get? "name" = some (.string "a=b") ∧
      filters.get? "size__in" = some (.string "[") ∧
      filters.get? "age" = some .null ∧
      readFilters overriddenReader (overridingSource.withFilters
        [" size__in =[", "name =first", "name=\"a=b\""]) = .ok filters ∧
      readFilters overriddenReader (overridingSource.withFilters ["name=1", " =a=b", "size"]) =
        .error (.invalidInline (.invalidInline " =a=b")) := by
  have loaded := loadFile_overriddenFilters "filters.json"
  have wellFormed : ∀ argument ∈ overridingSource.filters, ¬ Malformed argument := by decide
  have filled := FilterSet.withInline_of_wellFormed wellFormed overriddenFilters
  have given : readFilters overriddenReader overridingSource = _ :=
    readFilters_of_filled loaded filled
  rw [if_neg (by decide)] at given
  obtain ⟨fromFile, loadedAgain, -, -, value, reordered⟩ :=
    (inline_filters_override overriddenReader overridingSource).1 _ given
  obtain rfl : overriddenFilters = fromFile := Except.ok.inj (loaded.symm.trans loadedAgain)
  have quoted : inlineValue "name=\"a=b\"" = .string "a=b" := by
    have inline : FilterSet.IsInlineKey "name" :=
      ⟨by decide, by decide, Text.trimmed_of_solid (List.all_iff_forall_prop.mp rfl)⟩
    have canonical : (Value.string "a=b").Canonical := by simp [Value.Canonical]
    have parsed := FilterSet.parseInline_inlineArgument inline canonical (.string "a=b")
    have same := FilterSet.parseInline_of_not_malformed (wellFormed "name=\"a=b\"" (by decide))
    exact congrArg Prod.snd (Except.ok.inj (same.symm.trans parsed))
  have unread : inlineValue " size__in =[" = .string "[" := by
    have chars : "[".toList = ['['] := rfl
    have noValue : Value.ofText? "[" = none := by
      rw [Value.ofText?, chars, Token.ofChars?_punctuation rfl, Token.ofChars?]
      rfl
    have cut : " size__in =[".toList = " size__in ".toList ++ '=' :: ['['] := rfl
    apply (FilterSet.inlineValue_of_cut cut (by decide)).trans
    exact congrArg (fun read => read.getD (.string "[")) noValue
  refine ⟨_, given, ?_, ?_, ?_, ?_, ?_⟩
  · exact (value "name").trans (congrArg some quoted)
  · exact (value "size__in").trans (congrArg some unread)
  · exact value "age"
  · exact (reordered _ (FilterSet.sameOrderPerKey_swap (by decide) _)).1
  · have others := (inline_filters_override overriddenReader
      (overridingSource.withFilters ["name=1", " =a=b", "size"])).2 overriddenFilters loaded
    refine (others.1 _).mpr (Or.inl ⟨" =a=b", ⟨["name=1"], ["size"], rfl, ?_, ?_⟩, rfl⟩)
    · decide
    · decide

end Cli

end DocFilter
