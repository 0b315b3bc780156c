import DocFilter.Proofs.EntryLists
import DocFilter.Proofs.StoredShapes

set_option autoImplicit false

namespace DocFilter.Value

/-- What holds of an array or a mapping whenever it holds of its parts holds of every value. -/
@[elab_as_elim, induction_eliminator]
theorem induct {motive : Value → Prop} (null : motive .null) (bool : ∀ truth, motive (.bool truth))
    (number : ∀ value, motive (.number value)) (string : ∀ text, motive (.string text))
    (array : ∀ items, (∀ item ∈ items, motive item) → motive (.array items))
    (mapping : ∀ entries, (∀ entry ∈ entries, motive entry.2) → motive (.mapping entries)) :
    ∀ value, motive value
  | .null => null
  | .bool truth => bool truth
  | .number value => number value
  | .string text => string text
  | .array items => array items fun item _member =>
      induct null bool number string array mapping item
  | .mapping entries => mapping entries fun entry _member =>
      induct null bool number string array mapping entry.2
termination_by value => sizeOf value
decreasing_by
  · have smaller := List.sizeOf_lt_of_mem _member
    rw [Value.array.sizeOf_spec]
    omega
  · have smaller := List.sizeOf_lt_of_mem _member
    obtain ⟨key, inner⟩ := entry
    simp only [Prod.mk.sizeOf_spec, Value.mapping.sizeOf_spec] at smaller ⊢
    omega

mutual

/-- The value with the entries of every mapping in the order of their keys. Of entries with the same
key the last stays. -/
def sorted : Value → Value
  | .array items => .array (sortedItems items)
  | .mapping entries => .mapping (Entries.ofList (sortedEntries entries))
  | value => value
termination_by structural v => v

def sortedItems : List Value → List Value
  | [] => []
  | item :: rest => item.sorted :: sortedItems rest
termination_by structural items => items

/-- The entries in the order given, each with its value in order. -/
def sortedEntries : List (String × Value) → List (String × Value)
  | [] => []
  | (key, value) :: rest => (key, value.sorted) :: sortedEntries rest
termination_by structural entries => entries

end

theorem sortedItems_eq_map (items : List Value) : sortedItems items = items.map sorted := by
  induction items with
  | nil => rfl
  | cons item rest ih => rw [sortedItems, ih, List.map_cons]

theorem sortedEntries_eq_map (entries : List (String × Value)) :
    sortedEntries entries = entries.map fun entry => (entry.1, entry.2.sorted) := by
  induction entries with
  | nil => rfl
  | cons entry rest ih => rw [sortedEntries, ih, List.map_cons]

theorem keys_sortedEntries (entries : List (String × Value)) :
    Entries.keys (sortedEntries entries) = Entries.keys entries := by
  simp [sortedEntries_eq_map, Entries.keys]

theorem lookup_sortedEntries (key : String) (entries : List (String × Value)) :
    Entries.lookup key (sortedEntries entries) = (Entries.lookup key entries).map sorted := by
  induction entries with
  | nil => rfl
  | cons entry rest ih =>
      obtain ⟨k, v⟩ := entry
      rw [sortedEntries, Entries.lookup_cons, Entries.lookup_cons, ih]
      split <;> rfl

/-- Where the keys are different, sorting changes no more than the values found. -/
theorem lookup_sorted {entries : List (String × Value)} (distinct : (Entries.keys entries).Nodup)
    (key : String) :
    Entries.lookup key (Entries.ofList (sortedEntries entries)) =
      (Entries.lookup key entries).map sorted := by
  rw [← keys_sortedEntries] at distinct
  rw [Entries.lookup_ofList distinct, lookup_sortedEntries]

theorem canonicalItems_iff (items : List Value) :
    CanonicalItems items ↔ ∀ item ∈ items, item.Canonical := by
  induction items with
  | nil => simp [CanonicalItems]
  | cons item rest ih => simp [CanonicalItems, ih]

theorem Canonical.sorted_eq {value : Value} (canonical : value.Canonical) :
    value.sorted = value := by
  induction value with
  | null => rfl
  | bool truth => rfl
  | number value => rfl
  | string text => rfl
  | array items ih =>
      rw [Canonical, canonicalItems_iff] at canonical
      have each : items.map sorted = items.map id := by
        apply List.map_congr_left
        intro item member
        exact ih item member (canonical item member)
      rw [sorted, sortedItems_eq_map, each, List.map_id]
  | mapping entries ih =>
      rw [Canonical, canonicalEntries_iff] at canonical
      have each : entries.map (fun entry => (entry.1, entry.2.sorted)) = entries.map id := by
        apply List.map_congr_left
        intro entry member
        rw [ih entry member (canonical.2 entry member)]
        rfl
      rw [sorted, sortedEntries_eq_map, each, List.map_id, Entries.ofList_of_ascending canonical.1]

/-- A value without binary64 numbers at any depth. -/
inductive FloatFree : Value → Prop where
  | null : FloatFree .null
  | bool (truth : Bool) : FloatFree (.bool truth)
  | integer (value : Int) (lower : -9223372036854775808 ≤ value)
      (upper : value < 18446744073709551616) : FloatFree (.number (.integer value lower upper))
  | string (text : String) : FloatFree (.string text)
  | array (items : List Value) (each : ∀ item ∈ items, FloatFree item) : FloatFree (.array items)
  | mapping (entries : List (String × Value)) (each : ∀ entry ∈ entries, FloatFree entry.2) :
      FloatFree (.mapping entries)

attribute [simp] FloatFree.null FloatFree.bool FloatFree.integer FloatFree.string

@[simp] theorem floatFree_array_iff (items : List Value) :
    FloatFree (.array items) ↔ ∀ item ∈ items, FloatFree item :=
  ⟨fun | .array _ each => each, .array items⟩

@[simp] theorem floatFree_mapping_iff (entries : List (String × Value)) :
    FloatFree (.mapping entries) ↔ ∀ entry ∈ entries, FloatFree entry.2 :=
  ⟨fun | .mapping _ each => each, .mapping entries⟩

end DocFilter.Value
