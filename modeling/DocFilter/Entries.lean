set_option autoImplicit false

/-
Entries of a mapping: pairs of a key and a value, in ascending order of the keys. Look-up and
insertion work on any list of pairs; `Ascending` is what makes equal look-ups mean equal lists.
-/
namespace DocFilter.Entries

variable {α : Type}

/-- The value of the first entry with the key. -/
def lookup (key : String) : List (String × α) → Option α
  | [] => none
  | (k, v) :: rest => if k = key then some v else lookup key rest

/-- Puts the entry at its place in the order; an entry that has the key already is replaced. -/
def insert (key : String) (value : α) : List (String × α) → List (String × α)
  | [] => [(key, value)]
  | (k, v) :: rest =>
      if key < k then (key, value) :: (k, v) :: rest
      else if k = key then (key, value) :: rest
      else (k, v) :: insert key value rest

def keys (entries : List (String × α)) : List String :=
  entries.map Prod.fst

/-- Every key stands before all greater ones, so no key stands twice. -/
def Ascending (entries : List (String × α)) : Prop :=
  entries.Pairwise fun a b => a.1 < b.1

/-- Inserts the pairs one after the other, so the last pair of a key stays. -/
def ofList (pairs : List (String × α)) : List (String × α) :=
  pairs.foldl (fun entries pair => insert pair.1 pair.2 entries) []

@[simp] theorem lookup_nil (key : String) : lookup key ([] : List (String × α)) = none := rfl

theorem lookup_cons (key k : String) (v : α) (rest : List (String × α)) :
    lookup key ((k, v) :: rest) = if k = key then some v else lookup key rest := rfl

theorem lookup_insert (key other : String) (value : α) (entries : List (String × α)) :
    lookup other (insert key value entries) =
      if key = other then some value else lookup other entries := by
  induction entries with
  | nil => rfl
  | cons entry rest ih =>
      obtain ⟨k, v⟩ := entry
      by_cases less : key < k
      · simp only [insert, less, ↓reduceIte, lookup_cons]
      · by_cases same : k = key
        · subst same
          by_cases hit : k = other <;> simp [insert, lookup_cons, hit]
        · simp only [insert, less, ↓reduceIte, same, lookup_cons, ih]
          by_cases hit : k = other
          · have miss : ¬ key = other := fun eq => same (hit.trans eq.symm)
            simp only [hit, miss, ↓reduceIte]
          · simp only [hit, ↓reduceIte]

theorem mem_keys_insert (key other : String) (value : α) (entries : List (String × α)) :
    other ∈ keys (insert key value entries) ↔ other = key ∨ other ∈ keys entries := by
  induction entries with
  | nil => simp [insert, keys]
  | cons entry rest ih =>
      obtain ⟨k, v⟩ := entry
      simp only [keys] at ih
      by_cases less : key < k
      · simp [insert, less, keys]
      · by_cases same : k = key
        · simp [insert, same, keys]
        · simp only [insert, less, ↓reduceIte, same, keys, List.map_cons, List.mem_cons, ih]
          exact or_left_comm

theorem lookup_isSome_iff (key : String) (entries : List (String × α)) :
    (lookup key entries).isSome ↔ key ∈ keys entries := by
  induction entries with
  | nil => simp [keys]
  | cons entry rest ih =>
      obtain ⟨k, v⟩ := entry
      by_cases same : k = key
      · simp [lookup_cons, same, keys]
      · have other : ¬ key = k := fun eq => same eq.symm
        simp [lookup_cons, same, keys, ih, other]

theorem lookup_eq_none_iff (key : String) (entries : List (String × α)) :
    lookup key entries = none ↔ key ∉ keys entries := by
  rw [← lookup_isSome_iff]
  cases lookup key entries <;> simp

theorem mem_of_lookup {key : String} {value : α} {entries : List (String × α)}
    (found : lookup key entries = some value) : (key, value) ∈ entries := by
  induction entries with
  | nil => simp at found
  | cons entry rest ih =>
      obtain ⟨k, v⟩ := entry
      by_cases same : k = key
      · simp only [lookup_cons, same, ↓reduceIte, Option.some.injEq] at found
        simp [same, found]
      · simp only [lookup_cons, same, ↓reduceIte] at found
        exact List.mem_cons_of_mem _ (ih found)

theorem ascending_nil : Ascending ([] : List (String × α)) := List.Pairwise.nil

theorem ascending_cons (entry : String × α) (rest : List (String × α)) :
    Ascending (entry :: rest) ↔ (∀ key ∈ keys rest, entry.1 < key) ∧ Ascending rest := by
  simp [Ascending, keys, List.pairwise_cons]

theorem Ascending.insert {entries : List (String × α)} (ascending : Ascending entries)
    (key : String) (value : α) : Ascending (insert key value entries) := by
  induction entries with
  | nil => simp [Entries.insert, ascending_cons, keys, ascending_nil]
  | cons entry rest ih =>
      obtain ⟨k, v⟩ := entry
      rw [ascending_cons] at ascending
      by_cases less : key < k
      · simp only [Entries.insert, less, ↓reduceIte, ascending_cons]
        refine ⟨?_, ascending⟩
        intro other member
        simp only [keys, List.map_cons, List.mem_cons] at member
        cases member with
        | inl eq => exact eq ▸ less
        | inr tail => exact String.lt_trans less (ascending.1 other tail)
      · by_cases same : k = key
        · subst same
          simp only [Entries.insert, less, ↓reduceIte, ascending_cons]
          exact ascending
        · have after : k < key := by
            have total := Std.lt_trichotomy k key
            simp only [same, less, or_false] at total
            exact total
          simp only [Entries.insert, less, same, ↓reduceIte, ascending_cons]
          refine ⟨?_, ih ascending.2⟩
          intro other member
          cases (mem_keys_insert key other value rest).1 member with
          | inl eq => exact eq ▸ after
          | inr tail => exact ascending.1 other tail

theorem lookup_head_lt {key : String} {entries : List (String × α)}
    (below : ∀ other ∈ keys entries, key < other) : lookup key entries = none := by
  rw [lookup_eq_none_iff]
  intro member
  exact String.lt_irrefl key (below key member)

theorem Ascending.lookup_eq_some_iff {entries : List (String × α)} (ascending : Ascending entries)
    (key : String) (value : α) : lookup key entries = some value ↔ (key, value) ∈ entries := by
  constructor
  · exact mem_of_lookup
  · intro member
    induction entries with
    | nil => cases member
    | cons entry rest ih =>
        obtain ⟨k, v⟩ := entry
        rw [ascending_cons] at ascending
        rw [List.mem_cons, Prod.mk.injEq] at member
        rcases member with ⟨rfl, rfl⟩ | tail
        · rw [lookup_cons, if_pos rfl]
        · have later : k < key := ascending.1 key (List.mem_map_of_mem tail)
          have differ : ¬ k = key := fun same => String.lt_irrefl key (same ▸ later)
          rw [lookup_cons, if_neg differ, ih ascending.2 tail]

/-- Entries in ascending order are known by their look-ups. -/
theorem Ascending.ext {first second : List (String × α)} (ascendingFirst : Ascending first)
    (ascendingSecond : Ascending second)
    (same : ∀ key, lookup key first = lookup key second) : first = second := by
  induction first generalizing second with
  | nil =>
      cases second with
      | nil => rfl
      | cons entry rest =>
          have hit := same entry.1
          simp [lookup] at hit
  | cons entry rest ih =>
      cases second with
      | nil =>
          have hit := same entry.1
          simp [lookup] at hit
      | cons other tail =>
          obtain ⟨k, v⟩ := entry
          obtain ⟨l, w⟩ := other
          rw [ascending_cons] at ascendingFirst ascendingSecond
          have keysEq : k = l := by
            rcases Std.lt_trichotomy k l with less | eq | greater
            · have hit := same k
              have absent : lookup k tail = none := lookup_head_lt fun key member =>
                String.lt_trans less (ascendingSecond.1 key member)
              have differ : ¬ l = k := fun eq => String.lt_irrefl k (eq ▸ less)
              simp [lookup_cons, differ, absent] at hit
            · exact eq
            · have hit := same l
              have absent : lookup l rest = none := lookup_head_lt fun key member =>
                String.lt_trans greater (ascendingFirst.1 key member)
              have differ : ¬ k = l := fun eq => String.lt_irrefl l (eq ▸ greater)
              simp [lookup_cons, differ, absent] at hit
          subst keysEq
          have valuesEq : v = w := by
            have hit := same k
            simpa [lookup_cons] using hit
          subst valuesEq
          have restEq : rest = tail := by
            apply ih ascendingFirst.2 ascendingSecond.2
            intro key
            by_cases hit : k = key
            · subst hit
              rw [lookup_head_lt ascendingFirst.1, lookup_head_lt ascendingSecond.1]
            · have both := same key
              simpa [lookup_cons, hit] using both
          rw [restEq]

theorem ascending_ofList (pairs : List (String × α)) : Ascending (ofList pairs) := by
  suffices general : ∀ entries : List (String × α), Ascending entries →
      Ascending (pairs.foldl (fun entries pair => insert pair.1 pair.2 entries) entries) from
    general [] ascending_nil
  induction pairs with
  | nil => exact fun _ ascending => ascending
  | cons pair rest ih => exact fun entries ascending => ih _ (ascending.insert pair.1 pair.2)

end DocFilter.Entries
