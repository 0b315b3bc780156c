import DocFilter.Proofs.EntryLists
import DocFilter.Proofs.KeySpelling
import DocFilter.Proofs.StoredShapes
import DocFilter.Proofs.WireNames
import Mathlib.Algebra.BigOperators.Group.List.Lemmas

set_option autoImplicit false

namespace DocFilter

open Value (mapping mergeAll settle trailingMappings Ordered)

namespace Value

theorem mergedOver_none {value : Value} (ordered : ∀ inner, value = mapping inner → Ordered inner) :
    value.mergedOver none = value := by
  rcases value.leaf_or_mapping with noMapping | ⟨inner, rfl⟩
  · exact mergedOver_leaf noMapping none
  · exact congrArg mapping (mergeEntries_empty (ordered inner rfl))

theorem mergeAll_singletons {pairs : List (String × Value)} (distinct : (Entries.keys pairs).Nodup)
    (ordered : ∀ pair ∈ pairs, ∀ inner, pair.2 = mapping inner → Ordered inner) :
    mergeAll (pairs.map fun pair => [pair]) = Entries.ofList pairs := by
  induction pairs using List.reverseRecOn with
  | nil => rfl
  | append_singleton pairs pair ih =>
      obtain ⟨distinctBefore, absent⟩ := (Entries.nodup_keys_append_singleton _ _).mp distinct
      have before := ih distinctBefore fun other member =>
        ordered other (List.mem_append_left _ member)
      have fresh := mergedOver_none (ordered pair (by simp))
      rw [List.map_append, List.map_singleton, mergeAll_append_singleton, before,
        mergeEntries_cons, mergeEntries_nil, Entries.lookup_ofList_eq_none distinctBefore absent,
        fresh, Entries.ofList_append_singleton]

theorem trailingMappings_map_mapping (inners : List (List (String × Value))) :
    trailingMappings (inners.map mapping) = inners := by
  have all : (inners.map mapping).rtakeWhile isMapping = inners.map mapping := by
    rw [List.rtakeWhile_eq_self_iff]
    intro value member
    obtain ⟨inner, -, rfl⟩ := List.mem_map.mp member
    rfl
  rw [trailingMappings, all, List.map_map]
  exact List.map_id inners

theorem settle_map_mapping {inners : List (List (String × Value))} (nonempty : inners ≠ []) :
    settle (inners.map mapping) = some (mapping (mergeAll inners)) := by
  have last := List.getLast?_eq_some_getLast nonempty
  rw [settle, List.getLast?_map, last, Option.map_some, trailingMappings_map_mapping]

end Value

/-- What a filter with an operator asks for: an operand, under the symbol of the operator, under a
wire name. -/
structure Condition where
  name : String
  symbol : String
  operand : Value

def Condition.fragment (condition : Condition) : List (String × Value) :=
  [(condition.name, mapping [(condition.symbol, condition.operand)])]

abbrev Conditions := List Condition

namespace Conditions

/-- The operands of the conditions on a name, each under the symbol of its operator. -/
def pairs (name : String) (conditions : Conditions) : List (String × Value) :=
  (conditions.filter fun condition => condition.name = name).map fun condition =>
    (condition.symbol, condition.operand)

/-- The document that has a mapping for each name, with an operand for each condition on it. -/
def document (conditions : Conditions) : List (String × Value) :=
  Entries.ofList (conditions.map fun condition =>
    (condition.name, mapping (Entries.ofList (conditions.pairs condition.name))))

theorem filterMap_lookup_fragments (name : String) (conditions : Conditions) :
    (conditions.map Condition.fragment).filterMap (Entries.lookup name) =
      ((conditions.pairs name).map fun pair => [pair]).map mapping := by
  induction conditions with
  | nil => rfl
  | cons condition rest ih =>
      rw [List.map_cons, List.filterMap_cons, ih, Condition.fragment, Entries.lookup_cons]
      by_cases same : condition.name = name
      · simp [pairs, same]
      · simp [pairs, same]

theorem pairs_eq_nil_iff (name : String) (conditions : Conditions) :
    conditions.pairs name = [] ↔ name ∉ conditions.map Condition.name := by
  simp [pairs]

/-- No two conditions have both the name and the symbol in common. -/
def Apart (conditions : Conditions) : Prop :=
  conditions.Pairwise fun first second => first.name = second.name → first.symbol ≠ second.symbol

theorem mem_pairs_iff (name symbol : String) (operand : Value) (conditions : Conditions) :
    (symbol, operand) ∈ conditions.pairs name ↔ ⟨name, symbol, operand⟩ ∈ conditions := by
  simp only [pairs, List.mem_map, List.mem_filter, decide_eq_true_eq, Prod.mk.injEq]
  constructor
  · intro found
    obtain ⟨condition, ⟨member, rfl⟩, rfl, rfl⟩ := found
    exact member
  · intro member
    exact ⟨_, ⟨member, rfl⟩, rfl, rfl⟩

theorem Apart.distinct {conditions : Conditions} (apart : conditions.Apart) (name : String) :
    (Entries.keys (conditions.pairs name)).Nodup := by
  rw [Entries.keys, pairs, List.map_map, List.Nodup, List.pairwise_map, List.pairwise_filter]
  apply apart.imp
  intro first second differ sameFirst sameSecond
  rw [decide_eq_true_eq] at sameFirst sameSecond
  exact differ (sameFirst.trans sameSecond.symm)

theorem lookup_document (conditions : Conditions) (name : String) :
    Entries.lookup name conditions.document =
      if name ∈ conditions.map Condition.name then
        some (mapping (Entries.ofList (conditions.pairs name)))
      else none :=
  Entries.lookup_ofList_map conditions Condition.name
    (fun name => mapping (Entries.ofList (conditions.pairs name))) name

theorem Apart.at?_document {conditions : Conditions} (apart : conditions.Apart)
    {condition : Condition} (member : condition ∈ conditions) :
    (mapping conditions.document).at? [condition.name, condition.symbol] =
      some condition.operand := by
  have inPairs := (mem_pairs_iff condition.name condition.symbol condition.operand conditions).mpr
    member
  have named : condition.name ∈ conditions.map Condition.name := List.mem_map_of_mem member
  rw [Value.at?_cons, Value.entries, lookup_document, if_pos named, Option.bind_some,
    Value.at?_singleton, Entries.lookup_ofList_of_mem (apart.distinct _) inPairs]

theorem length_pairs (name : String) (conditions : Conditions) :
    (conditions.pairs name).length = (conditions.map Condition.name).count name := by
  rw [pairs, List.length_map, ← List.countP_eq_length_filter, List.count_eq_countP,
    List.countP_map]
  rfl

theorem ascending_document (conditions : Conditions) : Entries.Ascending conditions.document :=
  Entries.ascending_ofList _

theorem eq_of_mem_document {conditions : Conditions} {entry : String × Value}
    (member : entry ∈ conditions.document) :
    entry.2 = mapping (Entries.ofList (conditions.pairs entry.1)) := by
  have stands := ((ascending_document conditions).lookup_eq_some_iff entry.1 entry.2).mpr member
  rw [lookup_document] at stands
  split at stands
  · exact (Option.some.inj stands).symm
  · cases stands

theorem keys_document_perm (conditions : Conditions) :
    (Entries.keys conditions.document).Perm (conditions.map Condition.name).dedup := by
  have distinct := (ascending_document conditions).nodup_keys
  rw [List.perm_ext_iff_of_nodup distinct (List.nodup_dedup _)]
  intro name
  rw [List.mem_dedup, ← Entries.lookup_isSome_iff, lookup_document]
  split <;> simp_all

/-- The document holds as many operands as there are conditions, by counting them name by name. -/
theorem Apart.length_operands {conditions : Conditions} (apart : conditions.Apart) :
    (conditions.document.flatMap fun entry => entry.2.entries).length = conditions.length := by
  have counts : conditions.document.map (fun entry => entry.2.entries.length) =
      (Entries.keys conditions.document).map fun name =>
        (conditions.map Condition.name).count name := by
    rw [Entries.keys, List.map_map]
    apply List.map_congr_left
    intro entry member
    rw [eq_of_mem_document member, Value.entries,
      (Entries.ofList_perm (apart.distinct _)).length_eq, length_pairs]
    rfl
  rw [List.length_flatMap, counts, ((keys_document_perm conditions).map _).sum_eq,
    List.sum_map_count_dedup_eq_length, List.length_map]

end Conditions

/-- Fragments of one condition each merge into the document of the conditions. -/
theorem Fragments.merged_eq_document {fragments : Fragments} {conditions : Conditions}
    (single : fragments.map Prod.snd = conditions.map Condition.fragment)
    (apart : conditions.Apart)
    (ordered : ∀ condition ∈ conditions, ∀ inner, condition.operand = mapping inner →
      Ordered inner) : fragments.merged = conditions.document := by
  apply fragments.ordered_merged.ascending.ext conditions.ascending_document
  intro name
  have values : fragments.valuesUnder name =
      ((conditions.pairs name).map fun pair => [pair]).map mapping := by
    rw [← Conditions.filterMap_lookup_fragments, ← single, valuesUnder, List.filterMap_map]
    rfl
  have orderedPairs : ∀ pair ∈ conditions.pairs name, ∀ inner, pair.2 = mapping inner →
      Ordered inner := by
    intro pair member
    exact ordered _ ((Conditions.mem_pairs_iff name pair.1 pair.2 conditions).mp member)
  -- The values under a name are mappings all, so no leaf drops those before it.
  rw [lookup_merged, values, Conditions.lookup_document]
  by_cases named : name ∈ conditions.map Condition.name
  · have nonempty : (conditions.pairs name).map (fun pair => [pair]) ≠ [] := by
      simpa [Conditions.pairs_eq_nil_iff] using named
    rw [if_pos named, Value.settle_map_mapping nonempty,
      Value.mergeAll_singletons (apart.distinct name) orderedPairs]
  · rw [if_neg named, (Conditions.pairs_eq_nil_iff name conditions).mpr named]
    rfl

theorem Operator.eq_of_queryName {first second : Operator} {symbol : String}
    (named : first.queryName? = some symbol) (otherNamed : second.queryName? = some symbol) :
    first = second := by
  have same := named.trans otherNamed.symm
  revert named same
  clear otherNamed
  cases first <;> cases second <;> simp [queryName?]

namespace FilterKey

theorem operator?_ne_equals (key : String) : (parse key).operator? ≠ some .equals := by
  unfold parse
  dsimp only
  split
  · rename_i named
    intro same
    cases same
    exact ((Operator.ofToken?_eq_some_iff _ _).mp named).1 rfl
  · intro same
    cases same

/-- The key names an operator, and that is not the test for null. -/
def TakesOperand (key : String) : Prop :=
  ∃ operator, (parse key).operator? = some operator ∧ operator ≠ .isNull

theorem TakesOperand.operator? {key : String} (takes : TakesOperand key) :
    (parse key).operator? = some (parse key).operator := by
  obtain ⟨operator, named, -⟩ := takes
  rw [FilterKey.operator, named, Option.getD_some]

theorem TakesOperand.exists_symbol {key : String} (takes : TakesOperand key) :
    ∃ symbol, (parse key).operator.queryName? = some symbol := by
  obtain ⟨operator, named, other⟩ := takes
  rw [FilterKey.operator, named, Option.getD_some]
  cases operator with
  | equals => exact absurd named (operator?_ne_equals key)
  | isNull => exact absurd rfl other
  | _ => exact ⟨_, rfl⟩

theorem TakesOperand.ne_rawKey {key : String} (takes : TakesOperand key) : key ≠ rawKey := by
  obtain ⟨operator, named, -⟩ := takes
  intro raw
  have none : (parse rawKey).operator? = none := by decide
  rw [raw, none] at named
  cases named

end FilterKey

namespace Resolver

/-- No two keys have both the same wire name and the same operator. -/
def Apart (resolver : Resolver) (filters : FilterSet) : Prop :=
  ∀ key ∈ filters.keys, ∀ other ∈ filters.keys, ∀ name,
    resolver.Writes key name → resolver.Writes other name →
      (FilterKey.parse key).operator? = (FilterKey.parse other).operator? → key = other

/-- The condition of a filter whose key resolves and names an operator with a symbol. -/
def condition? (resolver : Resolver) (filter : String × Value) : Option Condition :=
  let parsed := FilterKey.parse filter.1
  match resolver.segments parsed.path, parsed.operator.queryName? with
  | .ok segments, some symbol =>
      segments.getLast?.map fun leaf =>
        ⟨wireName segments, symbol, parsed.operator.transform leaf.field? filter.2⟩
  | _, _ => none

def conditions (resolver : Resolver) (filters : FilterSet) : Conditions :=
  filters.entries.filterMap resolver.condition?

theorem condition?_eq_some_iff (resolver : Resolver) (filter : String × Value)
    (condition : Condition) :
    resolver.condition? filter = some condition ↔
      ∃ segments leaf, resolver.segments (FilterKey.parse filter.1).path = .ok segments ∧
        segments.getLast? = some leaf ∧ condition.name = wireName segments ∧
        (FilterKey.parse filter.1).operator.queryName? = some condition.symbol ∧
        condition.operand =
          (FilterKey.parse filter.1).operator.transform leaf.field? filter.2 := by
  obtain ⟨name, symbol, operand⟩ := condition
  unfold condition?
  dsimp only
  cases resolver.segments (FilterKey.parse filter.1).path with
  | error error => simp
  | ok segments =>
      cases (FilterKey.parse filter.1).operator.queryName? with
      | none => simp
      | some own =>
          cases last : segments.getLast? with
          | none => simp [last]
          | some leaf => simp [last, eq_comm]

theorem compileFilter_of_condition {resolver : Resolver} {key : String} {value : Value}
    {condition : Condition} (asks : resolver.condition? (key, value) = some condition) :
    resolver.compileFilter key value = .ok condition.fragment := by
  obtain ⟨segments, leaf, resolved, last, named, symbol, operand⟩ :=
    (condition?_eq_some_iff _ _ _).mp asks
  rw [compileFilter_ok_iff]
  refine ⟨segments, leaf, resolved, last, ?_⟩
  rw [Condition.fragment, named, operand, Operator.shape_of_queryName symbol]

theorem writes_of_condition {resolver : Resolver} {filter : String × Value}
    {condition : Condition} (asks : resolver.condition? filter = some condition) :
    resolver.Writes filter.1 condition.name :=
  ⟨filter.2, _, compileFilter_of_condition asks⟩

theorem exists_condition {resolver : Resolver} {key : String} {value : Value}
    {fragment : List (String × Value)} (compiled : resolver.compileFilter key value = .ok fragment)
    {symbol : String} (named : (FilterKey.parse key).operator.queryName? = some symbol) :
    ∃ condition, resolver.condition? (key, value) = some condition ∧
      fragment = condition.fragment := by
  obtain ⟨segments, leaf, resolved, last, rfl⟩ := (compileFilter_ok_iff _ _ _ _).mp compiled
  let operand := (FilterKey.parse key).operator.transform leaf.field? value
  refine ⟨⟨wireName segments, symbol, operand⟩, ?_, ?_⟩
  · exact (condition?_eq_some_iff _ _ _).mpr ⟨segments, leaf, resolved, last, rfl, named, rfl⟩
  · rw [Operator.shape_of_queryName named]
    rfl

/-- Every entry of a compiled filter set asks for a condition, and contributes that and nothing
else. -/
theorem fragments_of_conditions {resolver : Resolver} {entries : List (String × Value)}
    {collected : Fragments} (complete : resolver.fragments entries = .ok collected)
    (explicit : ∀ key ∈ Entries.keys entries, FilterKey.TakesOperand key) :
    (∀ entry ∈ entries, ∃ condition, resolver.condition? entry = some condition) ∧
      collected.map Prod.snd = (entries.filterMap resolver.condition?).map Condition.fragment := by
  induction entries generalizing collected with
  | nil =>
      cases complete
      simp
  | cons entry rest ih =>
      obtain ⟨key, value⟩ := entry
      rw [Entries.keys, List.map_cons, List.forall_mem_cons] at explicit
      obtain ⟨own, others⟩ := explicit
      obtain ⟨fragment, collectedRest, contributed, completeRest, rfl⟩ :=
        (fragments_cons_ok_iff _ _ _ _ _).mp complete
      obtain ⟨allRest, sameRest⟩ := ih completeRest others
      obtain ⟨symbol, named⟩ := own.exists_symbol
      rcases (contribution_ok_iff _ _ _ _).mp contributed with ⟨raw, -⟩ | ⟨-, compiled⟩
      · exact absurd raw own.ne_rawKey
      · obtain ⟨condition, asks, rfl⟩ := exists_condition compiled named
        rw [List.forall_mem_cons]
        refine ⟨⟨⟨condition, asks⟩, allRest⟩, ?_⟩
        rw [List.map_cons, sameRest, List.filterMap_cons_some asks, List.map_cons]

/-- Keys that are apart ask for conditions that are: a symbol in common is an operator in
common. -/
theorem Apart.conditions {resolver : Resolver} {filters : FilterSet}
    (apart : resolver.Apart filters)
    (explicit : ∀ key ∈ filters.keys, FilterKey.TakesOperand key) :
    (resolver.conditions filters).Apart := by
  rw [Conditions.Apart, Resolver.conditions, List.pairwise_filterMap]
  apply filters.ascending.imp_of_mem
  intro filter other member otherMember less condition asks otherCondition otherAsks sameName
    sameSymbol
  have present : filter.1 ∈ filters.keys := List.mem_map_of_mem member
  have otherPresent : other.1 ∈ filters.keys := List.mem_map_of_mem otherMember
  have otherWrites := writes_of_condition otherAsks
  rw [← sameName] at otherWrites
  obtain ⟨-, -, -, -, -, symbol, -⟩ := (condition?_eq_some_iff _ _ _).mp asks
  obtain ⟨-, -, -, -, -, otherSymbol, -⟩ := (condition?_eq_some_iff _ _ _).mp otherAsks
  have sameOperator := Operator.eq_of_queryName symbol (sameSymbol ▸ otherSymbol)
  have same : filter.1 = other.1 := by
    apply apart _ present _ otherPresent _ (writes_of_condition asks) otherWrites
    rw [(explicit _ present).operator?, (explicit _ otherPresent).operator?, sameOperator]
  exact String.lt_irrefl _ (same ▸ less)

theorem ordered_operands {resolver : Resolver} {filters : FilterSet}
    (canonical : Value.CanonicalEntries filters.entries) :
    ∀ condition ∈ resolver.conditions filters, ∀ inner, condition.operand = mapping inner →
      Ordered inner := by
  intro condition member inner operand
  obtain ⟨filter, present, asks⟩ := List.mem_filterMap.mp member
  obtain ⟨segments, leaf, -, -, -, -, transformed⟩ := (condition?_eq_some_iff _ _ _).mp asks
  have canonicalValue := (Value.canonicalEntries_iff _).mp canonical filter present
  exact Operator.ordered_transform canonicalValue (transformed.symm.trans operand)

/-- Filters with operators are conjoined without loss. As the raw key names no operator, every
filter asks for a condition. The query is the document of these conditions: each filter finds its
operand in it, and there are as many operands as filters. -/
theorem compile_conjoins {resolver : Resolver} {filters : FilterSet}
    {query : List (String × Value)} (canonical : Value.CanonicalEntries filters.entries)
    (explicit : ∀ key ∈ filters.keys, FilterKey.TakesOperand key)
    (apart : resolver.Apart filters) (compiled : resolver.compile filters = .ok query) :
    query = (resolver.conditions filters).document ∧
    (∀ key value, filters.get? key = some value →
      ∃ condition, resolver.condition? (key, value) = some condition ∧
        (mapping query).at? [condition.name, condition.symbol] = some condition.operand) ∧
    (query.flatMap fun entry => entry.2.entries).length = filters.size := by
  obtain ⟨collected, complete, rfl⟩ := (compile_ok_iff _ _ _).mp compiled
  obtain ⟨asks, single⟩ := fragments_of_conditions complete explicit
  have conditionsApart := apart.conditions explicit
  have same : collected.merged = (resolver.conditions filters).document :=
    Fragments.merged_eq_document single conditionsApart (ordered_operands canonical)
  refine ⟨same, ?_, ?_⟩
  · intro key value found
    have member := (filters.get?_eq_some_iff key value).mp found
    obtain ⟨condition, asked⟩ := asks _ member
    refine ⟨condition, asked, ?_⟩
    rw [same]
    exact conditionsApart.at?_document (List.mem_filterMap.mpr ⟨_, member, asked⟩)
  · have all : (resolver.conditions filters).length = filters.entries.length := by
      rw [Resolver.conditions, List.filterMap_length_eq_length]
      intro entry member
      exact Option.isSome_iff_exists.mpr (asks entry member)
    rw [same, conditionsApart.length_operands, all, OrderedMap.size]

/-- Two spellings of one path, one operator on two fields, and operands of all forms. -/
def conjoinedFilters : FilterSet :=
  OrderedMap.ofList [("note__in", .array [.array [], .null]), ("note__gt", .null),
    ("items__name__not", .mapping [("$in", .array []), ("$lt", .mapping [])]),
    ("items.name__gt", .string "a")]

def conjoinedFragments : Fragments :=
  [("items.name__gt", [("i.i", mapping [("$gt", .string "a")])]),
    ("items__name__not", [("i.i", mapping [("$not", mapping [("$in", .array []),
      ("$lt", mapping [])])])]),
    ("note__gt", [("note", mapping [("$gt", .null)])]),
    ("note__in", [("note", mapping [("$in", .array [.array [], .null])])])]

theorem conjoinedFilters_takeOperands :
    ∀ key ∈ conjoinedFilters.keys, FilterKey.TakesOperand key := by
  have keys : conjoinedFilters.keys =
    ["items.name__gt", "items__name__not", "note__gt", "note__in"] := by decide
  have operators : ∀ key ∈ conjoinedFilters.keys, (FilterKey.parse key).operator?.isSome ∧
      (FilterKey.parse key).operator? ≠ some .isNull := by
    rw [keys]
    decide
  intro key present
  obtain ⟨named, other⟩ := operators key present
  obtain ⟨operator, names⟩ := Option.isSome_iff_exists.mp named
  exact ⟨operator, names, fun isNull => other (isNull ▸ names)⟩

/-- Only two keys have an operator in common, and they have different wire names. -/
theorem conjoinedFilters_apart : (orders.resolver "Order").Apart conjoinedFilters := by
  have keys : conjoinedFilters.keys =
    ["items.name__gt", "items__name__not", "note__gt", "note__in"] := by decide
  have itemName : (orders.resolver "Order").Writes "items.name__gt" "i.i" := ⟨.null, _, rfl⟩
  have note : (orders.resolver "Order").Writes "note__gt" "note" := ⟨.null, _, rfl⟩
  have pairs : ∀ key ∈ conjoinedFilters.keys, ∀ other ∈ conjoinedFilters.keys,
      (FilterKey.parse key).operator? = (FilterKey.parse other).operator? → key = other ∨
        (key = "items.name__gt" ∧ other = "note__gt") ∨
        (key = "note__gt" ∧ other = "items.name__gt") := by
    rw [keys]
    decide
  intro key present other otherPresent name writes otherWrites sameOperator
  rcases pairs key present other otherPresent sameOperator with same | ⟨rfl, rfl⟩ | ⟨rfl, rfl⟩
  · exact same
  · exact absurd ((itemName.unique writes).trans (note.unique otherWrites).symm) (by decide)
  · exact absurd ((note.unique writes).trans (itemName.unique otherWrites).symm) (by decide)

theorem compile_conjoins_orders :
    Value.CanonicalEntries conjoinedFilters.entries ∧
    (∀ key ∈ conjoinedFilters.keys, FilterKey.TakesOperand key) ∧
    (orders.resolver "Order").Apart conjoinedFilters ∧
    (orders.resolver "Order").compile conjoinedFilters = .ok conjoinedFragments.merged ∧
    (conjoinedFragments.merged.flatMap fun entry => entry.2.entries).length = 4 := by
  have canonical : Value.CanonicalEntries conjoinedFilters.entries := by
    have ascending : Entries.Ascending [("$in", Value.array []), ("$lt", mapping [])] :=
      List.pairwise_pair.mpr (by decide)
    exact ⟨trivial, ⟨ascending, trivial, ⟨List.Pairwise.nil, trivial⟩, trivial⟩, trivial,
      ⟨trivial, trivial, trivial⟩, trivial⟩
  have compiled : (orders.resolver "Order").compile conjoinedFilters =
      .ok conjoinedFragments.merged := (compile_ok_iff _ _ _).mpr ⟨conjoinedFragments, rfl, rfl⟩
  obtain ⟨-, -, counted⟩ := compile_conjoins canonical conjoinedFilters_takeOperands
    conjoinedFilters_apart compiled
  exact ⟨canonical, conjoinedFilters_takeOperands, conjoinedFilters_apart, compiled, counted⟩

end Resolver

end DocFilter
