import DocFilter.Value.Basic

set_option autoImplicit false

namespace DocFilter.Value

mutual

/-- What stands at a key that held `old` once this value has been merged there. -/
def mergedOver (old : Option Value) : Value → Value
  | .mapping source => .mapping (mergeEntries ((old.map Value.entries).getD []) source)
  | value => value
termination_by structural v => v

/-- The entries of `target` with those of a source merged in. -/
def mergeEntries (target : List (String × Value)) : List (String × Value) → List (String × Value)
  | [] => target
  | (key, value) :: rest =>
      Entries.insert key (value.mergedOver (Entries.lookup key target)) (mergeEntries target rest)
termination_by structural source => source

end

theorem lookup_mergeEntries (key : String) (target source : List (String × Value)) :
    Entries.lookup key (mergeEntries target source) =
      match Entries.lookup key source with
      | some value => some (value.mergedOver (Entries.lookup key target))
      | none => Entries.lookup key target := by
  induction source with
  | nil => simp [mergeEntries]
  | cons entry rest ih =>
      obtain ⟨k, v⟩ := entry
      rw [mergeEntries, Entries.lookup_insert, Entries.lookup_cons]
      by_cases same : k = key
      · subst same
        simp only [↓reduceIte]
      · simp only [same, ↓reduceIte, ih]

theorem ascending_mergeEntries {target : List (String × Value)}
    (ascending : Entries.Ascending target) (source : List (String × Value)) :
    Entries.Ascending (mergeEntries target source) := by
  induction source with
  | nil => rw [mergeEntries]; exact ascending
  | cons entry rest ih =>
      rw [mergeEntries]
      exact ih.insert _ _

end DocFilter.Value
