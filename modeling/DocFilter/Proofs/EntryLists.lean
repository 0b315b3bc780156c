import DocFilter.OrderedMap
import Mathlib.Data.List.Induction
import Mathlib.Data.List.Nodup

set_option autoImplicit false

namespace DocFilter

namespace Entries

variable {α : Type}

theorem Ascending.nodup_keys {entries : List (String × α)} (ascending : Ascending entries) :
    (keys entries).Nodup := by
  rw [List.Nodup, keys, List.pairwise_map]
  apply ascending.imp
  intro first second less same
  exact String.lt_irrefl _ (same ▸ less)

theorem insert_perm {key : String} {entries : List (String × α)} (absent : key ∉ keys entries)
    (value : α) : (insert key value entries).Perm ((key, value) :: entries) := by
  induction entries with
  | nil => exact .refl _
  | cons entry rest ih =>
      obtain ⟨k, v⟩ := entry
      rw [keys, List.map_cons, List.mem_cons, not_or] at absent
      rw [insert]
      split
      · exact .refl _
      · rw [if_neg (Ne.symm absent.1)]
        exact ((ih absent.2).cons (k, v)).trans (.swap (key, value) (k, v) rest)

theorem ofList_append_singleton (pairs : List (String × α)) (pair : String × α) :
    ofList (pairs ++ [pair]) = insert pair.1 pair.2 (ofList pairs) := by
  rw [ofList, ofList, List.foldl_append, List.foldl_cons, List.foldl_nil]

theorem nodup_keys_append_singleton (pairs : List (String × α)) (pair : String × α) :
    (keys (pairs ++ [pair])).Nodup ↔ (keys pairs).Nodup ∧ pair.1 ∉ keys pairs := by
  rw [keys, List.map_append, List.map_singleton, List.nodup_append_comm, List.singleton_append,
    List.nodup_cons, and_comm]
  rfl

/-- Pairs with different keys are all kept. -/
theorem ofList_perm {pairs : List (String × α)} (distinct : (keys pairs).Nodup) :
    (ofList pairs).Perm pairs := by
  -- From the back, since the last pair is the last to be put in.
  induction pairs using List.reverseRecOn with
  | nil => exact .refl _
  | append_singleton pairs pair ih =>
      obtain ⟨distinctBefore, absent⟩ := (nodup_keys_append_singleton _ _).mp distinct
      have perm := ih distinctBefore
      have fresh : pair.1 ∉ keys (ofList pairs) := by
        rw [keys, (perm.map Prod.fst).mem_iff]
        exact absent
      rw [ofList_append_singleton]
      exact (insert_perm fresh pair.2).trans
        ((perm.cons pair).trans (List.perm_append_singleton pair pairs).symm)

theorem lookup_ofList_eq_none {pairs : List (String × α)} (distinct : (keys pairs).Nodup)
    {key : String} (absent : key ∉ keys pairs) : lookup key (ofList pairs) = none := by
  rw [lookup_eq_none_iff, keys, ((ofList_perm distinct).map Prod.fst).mem_iff]
  exact absent

theorem lookup_ofList_of_mem {pairs : List (String × α)} (distinct : (keys pairs).Nodup)
    {key : String} {value : α} (member : (key, value) ∈ pairs) :
    lookup key (ofList pairs) = some value := by
  rw [(ascending_ofList pairs).lookup_eq_some_iff, (ofList_perm distinct).mem_iff]
  exact member

/-- If the value depends on the key alone it does not matter which of several pairs stays. -/
theorem lookup_ofList_map {β : Type} (items : List β) (key : β → String) (value : String → α)
    (other : String) :
    lookup other (ofList (items.map fun item => (key item, value (key item)))) =
      if other ∈ items.map key then some (value other) else none := by
  induction items using List.reverseRecOn with
  | nil => rfl
  | append_singleton items item ih =>
      rw [List.map_append, List.map_singleton, ofList_append_singleton, lookup_insert, ih]
      by_cases same : key item = other
      · simp [same]
      · simp [same, Ne.symm same]

theorem lookup_ofList {pairs : List (String × α)} (distinct : (keys pairs).Nodup) (key : String) :
    lookup key (ofList pairs) = lookup key pairs := by
  cases found : lookup key pairs with
  | none => exact lookup_ofList_eq_none distinct ((lookup_eq_none_iff key pairs).mp found)
  | some value => exact lookup_ofList_of_mem distinct (mem_of_lookup found)

theorem ofList_of_ascending {entries : List (String × α)} (ascending : Ascending entries) :
    ofList entries = entries :=
  (ascending_ofList entries).ext ascending (lookup_ofList ascending.nodup_keys)

/-- Entries with different keys make the same map in whatever order they are put in. -/
theorem ofList_of_perm {pairs entries : List (String × α)} (ascending : Ascending entries)
    (perm : pairs.Perm entries) : ofList pairs = entries := by
  have sameKeys : (keys pairs).Perm (keys entries) := perm.map Prod.fst
  have distinct : (keys pairs).Nodup := sameKeys.nodup_iff.mpr ascending.nodup_keys
  apply (ascending_ofList pairs).ext ascending
  intro key
  apply Option.ext
  intro value
  rw [(ascending_ofList pairs).lookup_eq_some_iff, ascending.lookup_eq_some_iff,
    (ofList_perm distinct).mem_iff, perm.mem_iff]

/-- The value of the last pair with the key. -/
def last? (key : String) (pairs : List (String × α)) : Option α :=
  (pairs.filter fun pair => pair.1 = key).getLast?.map Prod.snd

theorem last?_append_singleton (key : String) (pairs : List (String × α)) (pair : String × α) :
    last? key (pairs ++ [pair]) = if pair.1 = key then some pair.2 else last? key pairs := by
  by_cases same : pair.1 = key
  · simp [last?, List.filter_append, same]
  · simp [last?, List.filter_append, same]

theorem last?_eq_none_iff (key : String) (pairs : List (String × α)) :
    last? key pairs = none ↔ key ∉ keys pairs := by
  rw [last?, Option.map_eq_none_iff, List.getLast?_eq_none_iff, List.filter_eq_nil_iff]
  simp only [keys, List.mem_map, not_exists, not_and, decide_eq_true_eq]

end Entries

namespace OrderedMap

variable {α : Type}

/-- The last pair of a key replaces what the map and earlier pairs have under it. -/
theorem get?_foldl_insert (map : OrderedMap α) (pairs : List (String × α)) (key : String) :
    (pairs.foldl (fun filled pair => filled.insert pair.1 pair.2) map).get? key =
      (Entries.last? key pairs).or (map.get? key) := by
  induction pairs using List.reverseRecOn with
  | nil => rfl
  | append_singleton pairs pair ih =>
      rw [List.foldl_append, List.foldl_cons, List.foldl_nil, get?_insert,
        Entries.last?_append_singleton, ih]
      by_cases same : pair.1 = key
      · simp [same]
      · simp [same]

theorem eq_of_entries {first second : OrderedMap α} (same : first.entries = second.entries) :
    first = second := by
  cases first
  cases second
  cases same
  rfl

theorem ofList_entries (map : OrderedMap α) : ofList map.entries = map :=
  eq_of_entries (Entries.ofList_of_ascending map.ascending)

/-- Pairs put in one after the other, in whatever order, make the map of these pairs. -/
theorem foldl_insert_of_perm {map : OrderedMap α} {order : List (String × α)}
    (perm : order.Perm map.entries) :
    order.foldl (fun filled pair => filled.insert pair.1 pair.2) empty = map := by
  have sameEntries : (order.foldl (fun filled pair => filled.insert pair.1 pair.2)
      (empty : OrderedMap α)).entries = Entries.ofList order :=
    (List.foldl_hom OrderedMap.entries fun _ _ => rfl).symm
  apply eq_of_entries
  rw [sameEntries]
  exact Entries.ofList_of_perm map.ascending perm

end OrderedMap

end DocFilter
