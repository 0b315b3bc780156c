import DocFilter.Proofs.CompileFragments
import Mathlib.Data.List.DropRight
import Mathlib.Data.List.Induction

set_option autoImplicit false

namespace DocFilter

open Value (mergeEntries mergeAll)

def Fragments.valuesUnder (name : String) (fragments : Fragments) : List Value :=
  fragments.filterMap fun fragment => Entries.lookup name fragment.2

namespace Value

/-- The mappings at the end of the values, back to the last one that is no mapping. -/
def trailingMappings (values : List Value) : List (List (String × Value)) :=
  (values.rtakeWhile isMapping).map Value.entries

/-- What values come to when they are merged into one place: the last of them, or the merge of the
trailing mappings if that is a mapping. -/
def settle (values : List Value) : Option Value :=
  match values.getLast? with
  | some (mapping _) => some (mapping (mergeAll (trailingMappings values)))
  | last => last

theorem trailingMappings_append_leaf (values : List Value) {leaf : Value}
    (noMapping : leaf.isMapping = false) : trailingMappings (values ++ [leaf]) = [] := by
  have stops : ¬ leaf.isMapping = true := by simp [noMapping]
  rw [trailingMappings, List.rtakeWhile_concat_neg _ _ _ stops, List.map_nil]

theorem trailingMappings_append_mapping (values : List Value) (inner : List (String × Value)) :
    trailingMappings (values ++ [mapping inner]) = trailingMappings values ++ [inner] := by
  have goesOn : (mapping inner).isMapping = true := rfl
  rw [trailingMappings, List.rtakeWhile_concat_pos _ _ _ goesOn, List.map_append]
  rfl

theorem settle_append_leaf (values : List Value) {leaf : Value}
    (noMapping : leaf.isMapping = false) : settle (values ++ [leaf]) = some leaf := by
  rw [settle, List.getLast?_concat]
  cases leaf with
  | mapping inner => cases noMapping
  | _ => rfl

theorem settle_append_mapping (values : List Value) (inner : List (String × Value)) :
    settle (values ++ [mapping inner]) =
      some (mapping (mergeEntries (mergeAll (trailingMappings values)) inner)) := by
  rw [settle, List.getLast?_concat, trailingMappings_append_mapping, mergeAll_append_singleton]

theorem entries_settle (values : List Value) :
    ((settle values).map Value.entries).getD [] = mergeAll (trailingMappings values) := by
  induction values using List.reverseRecOn with
  | nil => rfl
  | append_singleton values last =>
      rcases last.leaf_or_mapping with noMapping | ⟨inner, rfl⟩
      · rw [settle_append_leaf values noMapping, trailingMappings_append_leaf values noMapping]
        cases last with
        | mapping inner => cases noMapping
        | _ => rfl
      · rw [settle_append_mapping, trailingMappings_append_mapping, mergeAll_append_singleton]
        rfl

theorem foldl_mergedOver_eq_settle (values : List Value) :
    values.foldl (fun old value => some (value.mergedOver old)) none = settle values := by
  induction values using List.reverseRecOn with
  | nil => rfl
  | append_singleton values last ih =>
      rw [List.foldl_append, ih, List.foldl_cons, List.foldl_nil]
      rcases last.leaf_or_mapping with noMapping | ⟨inner, rfl⟩
      · rw [mergedOver_leaf noMapping, settle_append_leaf values noMapping]
      · rw [settle_append_mapping, mergedOver, entries_settle]

theorem settle_isSome_iff (values : List Value) : (settle values).isSome ↔ values ≠ [] := by
  induction values using List.reverseRecOn with
  | nil => simp [settle]
  | append_singleton values last =>
      rcases last.leaf_or_mapping with noMapping | ⟨inner, rfl⟩
      · simp [settle_append_leaf values noMapping]
      · simp [settle_append_mapping]

end Value

namespace Fragments

/-- Each fragment in turn acts on what stands under the name, and on nothing else there. -/
theorem lookup_foldl (fragments : Fragments) (base : List (String × Value)) (name : String) :
    Entries.lookup name ((fragments.map Prod.snd).foldl mergeEntries base) =
      (fragments.valuesUnder name).foldl (fun old value => some (value.mergedOver old))
        (Entries.lookup name base) := by
  induction fragments generalizing base with
  | nil => rfl
  | cons fragment rest ih =>
      rw [List.map_cons, List.foldl_cons, ih, Value.lookup_mergeEntries, valuesUnder,
        valuesUnder, List.filterMap_cons]
      cases Entries.lookup name fragment.2 with
      | none => rfl
      | some value => rfl

theorem lookup_merged (fragments : Fragments) (name : String) :
    Entries.lookup name fragments.merged = Value.settle (fragments.valuesUnder name) := by
  rw [merged, mergeAll, lookup_foldl, Entries.lookup_nil, Value.foldl_mergedOver_eq_settle]

theorem mem_keys_merged (fragments : Fragments) (name : String) :
    name ∈ Entries.keys fragments.merged ↔
      ∃ fragment ∈ fragments, name ∈ Entries.keys fragment.2 := by
  rw [← Entries.lookup_isSome_iff, lookup_merged, Value.settle_isSome_iff]
  simp only [← Entries.lookup_isSome_iff, valuesUnder, ne_eq, List.filterMap_eq_nil_iff,
    not_forall, Option.isSome_iff_ne_none, exists_prop]

end Fragments

namespace Resolver

/-- The filter contributes something under the name. -/
def Mentions (resolver : Resolver) (name key : String) (value : Value) : Prop :=
  ∃ fragment, resolver.contribution key value = .ok fragment ∧ name ∈ Entries.keys fragment

/-- What an entry contributes under a name, if anything. -/
def valueUnder (resolver : Resolver) (name : String) (entry : String × Value) : Option Value :=
  match resolver.contribution entry.1 entry.2 with
  | .ok fragment => Entries.lookup name fragment
  | .error _ => none

theorem mentions_iff (resolver : Resolver) (name key : String) (value : Value) :
    resolver.Mentions name key value ↔ (resolver.valueUnder name (key, value)).isSome := by
  rw [Mentions, valueUnder]
  cases resolver.contribution key value with
  | error error => simp
  | ok fragment => simp [Entries.lookup_isSome_iff]

theorem valuesUnder_fragments {resolver : Resolver} {entries : List (String × Value)}
    {collected : Fragments} (complete : resolver.fragments entries = .ok collected)
    (name : String) :
    collected.valuesUnder name = entries.filterMap (resolver.valueUnder name) := by
  induction entries generalizing collected with
  | nil =>
      cases complete
      rfl
  | cons entry rest ih =>
      obtain ⟨key, value⟩ := entry
      rw [fragments_cons_ok_iff] at complete
      obtain ⟨fragment, others, contributed, completeRest, rfl⟩ := complete
      rw [List.filterMap_cons, ← ih completeRest, valueUnder, contributed]
      rfl

theorem filterMap_valueUnder_congr {resolver : Resolver} {name : String}
    {filters others : FilterSet}
    (shared : ∀ key value, resolver.Mentions name key value →
      (filters.get? key = some value ↔ others.get? key = some value)) :
    filters.entries.filterMap (resolver.valueUnder name) =
      others.entries.filterMap (resolver.valueUnder name) := by
  have selected (set : FilterSet) : set.entries.filterMap (resolver.valueUnder name) =
      (set.entries.filter fun entry => (resolver.valueUnder name entry).isSome).filterMap
        (resolver.valueUnder name) := by
    rw [List.filterMap_filter]
    apply List.filterMap_congr
    intro entry _
    cases resolver.valueUnder name entry with
    | none => rfl
    | some value => rfl
  have ascending (set : FilterSet) : Entries.Ascending
      (set.entries.filter fun entry => (resolver.valueUnder name entry).isSome) :=
    set.ascending.sublist List.filter_sublist
  rw [selected filters, selected others]
  congr 1
  apply (ascending filters).ext (ascending others)
  intro key
  apply Option.ext
  intro value
  rw [(ascending filters).lookup_eq_some_iff, (ascending others).lookup_eq_some_iff,
    List.mem_filter, List.mem_filter, ← mentions_iff, ← OrderedMap.get?_eq_some_iff,
    ← OrderedMap.get?_eq_some_iff]
  exact and_congr_left (shared key value)

/-- A query has exactly the names of its fragments. Under each name stands what the values there
come to, in the order of the filter keys, whatever filters do not mention the name. -/
theorem compile_groups_by_name {resolver : Resolver} {filters : FilterSet}
    {query : List (String × Value)} (compiled : resolver.compile filters = .ok query) :
    ∃ collected, resolver.fragments filters.entries = .ok collected ∧
      Entries.keys collected = filters.keys ∧
      Entries.Ascending collected ∧ Entries.Ascending query ∧
      (∀ key fragment, (key, fragment) ∈ collected → ∃ value, filters.get? key = some value ∧
        ((key = rawKey ∧ value = .mapping fragment) ∨
          (key ≠ rawKey ∧ resolver.compileFilter key value = .ok fragment ∧
            ∃ name shape, fragment = [(name, shape)]))) ∧
      (∀ name, name ∈ Entries.keys query ↔
        ∃ fragment ∈ collected, name ∈ Entries.keys fragment.2) ∧
      (∀ name, Entries.lookup name query = Value.settle (collected.valuesUnder name)) ∧
      (∀ name (others : FilterSet) otherQuery, resolver.compile others = .ok otherQuery →
        (∀ key value, resolver.Mentions name key value →
          (filters.get? key = some value ↔ others.get? key = some value)) →
        Entries.lookup name query = Entries.lookup name otherQuery) := by
  rw [compile_ok_iff] at compiled
  obtain ⟨collected, complete, rfl⟩ := compiled
  refine ⟨collected, complete, keys_fragments complete, ascending_fragments complete,
    collected.ordered_merged.ascending, ?_, collected.mem_keys_merged, collected.lookup_merged, ?_⟩
  · intro key fragment member
    exact entry_of_fragment complete member
  · intro name others otherQuery compiledOthers shared
    rw [compile_ok_iff] at compiledOthers
    obtain ⟨otherFragments, completeOthers, rfl⟩ := compiledOthers
    rw [Fragments.lookup_merged, Fragments.lookup_merged, valuesUnder_fragments complete,
      valuesUnder_fragments completeOthers, filterMap_valueUnder_congr shared]

theorem meeting_groups_by_name :
    people.compile meetingFilters = .ok meetingQuery ∧
    ∃ collected, people.fragments meetingFilters.entries = .ok collected ∧
      Entries.keys collected = meetingFilters.keys ∧
      ∀ name, Entries.lookup name meetingQuery = Value.settle (collected.valuesUnder name) := by
  have compiled : people.compile meetingFilters = .ok meetingQuery := rfl
  obtain ⟨collected, complete, sameKeys, -, -, -, -, grouped, -⟩ := compile_groups_by_name compiled
  exact ⟨compiled, collected, complete, sameKeys, grouped⟩

end Resolver

end DocFilter
