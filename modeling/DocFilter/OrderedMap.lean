import DocFilter.Entries

set_option autoImplicit false

namespace DocFilter

/-- A finite map whose entries stand in ascending order of their keys. -/
structure OrderedMap (α : Type) where
  entries : List (String × α)
  ascending : Entries.Ascending entries

namespace OrderedMap

variable {α : Type}

def empty : OrderedMap α := ⟨[], Entries.ascending_nil⟩

instance : Inhabited (OrderedMap α) := ⟨empty⟩

def insert (map : OrderedMap α) (key : String) (value : α) : OrderedMap α :=
  ⟨Entries.insert key value map.entries, map.ascending.insert key value⟩

/-- The last pair of a key stays. -/
def ofList (pairs : List (String × α)) : OrderedMap α :=
  ⟨Entries.ofList pairs, Entries.ascending_ofList pairs⟩

def get? (map : OrderedMap α) (key : String) : Option α :=
  Entries.lookup key map.entries

def keys (map : OrderedMap α) : List String :=
  Entries.keys map.entries

def size (map : OrderedMap α) : Nat :=
  map.entries.length

theorem ext {first second : OrderedMap α} (same : ∀ key, first.get? key = second.get? key) :
    first = second := by
  obtain ⟨entries, ascending⟩ := first
  obtain ⟨others, ascendingOthers⟩ := second
  have equal : entries = others := ascending.ext ascendingOthers same
  subst equal
  rfl

theorem get?_eq_some_iff (map : OrderedMap α) (key : String) (value : α) :
    map.get? key = some value ↔ (key, value) ∈ map.entries :=
  map.ascending.lookup_eq_some_iff key value

theorem mem_keys_iff (map : OrderedMap α) (key : String) :
    key ∈ map.keys ↔ ∃ value, map.get? key = some value := by
  rw [keys, ← Entries.lookup_isSome_iff, Option.isSome_iff_exists]
  rfl

@[simp] theorem get?_empty (key : String) : (empty : OrderedMap α).get? key = none := rfl

theorem get?_insert (map : OrderedMap α) (key other : String) (value : α) :
    (map.insert key value).get? other = if key = other then some value else map.get? other :=
  Entries.lookup_insert key other value map.entries

end OrderedMap

end DocFilter
