import DocFilter.Filter.Compilation
import DocFilter.Proofs.MergeConflicts

set_option autoImplicit false

namespace DocFilter

open Value (mergeEntries mergeAll Conflicting)

/-- What the entries of a filter set contribute, under their keys. -/
abbrev Fragments := List (String × List (String × Value))

namespace Fragments

def merged (fragments : Fragments) : List (String × Value) :=
  mergeAll (fragments.map Prod.snd)

/-- No two fragments of different keys conflict. -/
def ConflictFree (fragments : Fragments) : Prop :=
  ∀ first ∈ fragments, ∀ second ∈ fragments, first.1 ≠ second.1 →
    ¬ Conflicting first.2 second.2

/-- Merging any of the fragments into the query once more changes nothing. -/
def KeptBy (fragments : Fragments) (query : List (String × Value)) : Prop :=
  ∀ fragment ∈ fragments, mergeEntries query fragment.2 = query

/-- In whatever order the fragments are merged, the query is what they give. -/
def OrderFree (fragments : Fragments) (query : List (String × Value)) : Prop :=
  ∀ order : Fragments, order.Perm fragments → order.merged = query

theorem ordered_merged (fragments : Fragments) : Value.Ordered fragments.merged :=
  Value.ordered_mergeAll _

theorem ConflictFree.pairwise {fragments : Fragments} (free : fragments.ConflictFree)
    (ascending : Entries.Ascending fragments) :
    (fragments.map Prod.snd).Pairwise fun first second => ¬ Conflicting first second := by
  rw [List.pairwise_map]
  apply ascending.imp_of_mem
  intro first second memberFirst memberSecond less
  apply free first memberFirst second memberSecond
  intro same
  rw [same] at less
  exact String.lt_irrefl _ less

theorem ConflictFree.orderFree {fragments : Fragments} (free : fragments.ConflictFree)
    (ascending : Entries.Ascending fragments) : fragments.OrderFree fragments.merged := by
  intro order perm
  exact Value.mergeAll_perm (free.pairwise ascending) (perm.map Prod.snd)

theorem OrderFree.keptBy {fragments : Fragments} {query : List (String × Value)}
    (free : fragments.OrderFree query) : fragments.KeptBy query := by
  intro fragment member
  obtain ⟨before, after, rfl⟩ := List.append_of_mem member
  have last : (before ++ after ++ [fragment]).Perm (before ++ fragment :: after) := by
    rw [List.append_assoc]
    exact (List.perm_append_singleton fragment after).append_left before
  rw [← free _ last, Value.merge_eq_self_iff (ordered_merged _), merged, List.map_append,
    List.map_singleton, Value.mergeAll_append_singleton]
  exact Value.merge_contains_source _ _

theorem KeptBy.conflictFree {fragments : Fragments} {query : List (String × Value)}
    (kept : fragments.KeptBy query) (ordered : Value.Ordered query) :
    fragments.ConflictFree := by
  intro first memberFirst second memberSecond _
  have containsFirst := (Value.merge_eq_self_iff ordered _).mp (kept first memberFirst)
  have containsSecond := (Value.merge_eq_self_iff ordered _).mp (kept second memberSecond)
  exact containsFirst.compatible containsSecond

end Fragments

namespace Resolver

/-- The fragments of the entries, up to the first entry that has none. -/
def fragments (resolver : Resolver) : List (String × Value) → Except CompileError Fragments
  | [] => .ok []
  | (key, value) :: rest =>
      match resolver.contribution key value with
      | .error error => .error error
      | .ok fragment =>
          match resolver.fragments rest with
          | .error error => .error error
          | .ok others => .ok ((key, fragment) :: others)

theorem compileFilter_ok_iff (resolver : Resolver) (key : String) (value : Value)
    (fragment : List (String × Value)) :
    resolver.compileFilter key value = .ok fragment ↔
      ∃ segments leaf, resolver.segments (FilterKey.parse key).path = .ok segments ∧
        segments.getLast? = some leaf ∧
        fragment = [(wireName segments, (FilterKey.parse key).operator.shape
          ((FilterKey.parse key).operator.transform leaf.field? value))] := by
  unfold compileFilter
  dsimp only
  cases resolver.segments (FilterKey.parse key).path with
  | error error => simp
  | ok segments =>
      cases last : segments.getLast? with
      | none => simp [last]
      | some leaf => simp [last, Operator.fragment, eq_comm]

theorem contribution_ok_iff (resolver : Resolver) (key : String) (value : Value)
    (fragment : List (String × Value)) :
    resolver.contribution key value = .ok fragment ↔
      (key = rawKey ∧ value = .mapping fragment) ∨
        (key ≠ rawKey ∧ resolver.compileFilter key value = .ok fragment) := by
  unfold contribution
  by_cases isRaw : key = rawKey
  · cases value <;> simp [isRaw]
  · cases resolver.compileFilter key value <;> simp [isRaw]

theorem fragments_cons_ok_iff (resolver : Resolver) (key : String) (value : Value)
    (rest : List (String × Value)) (collected : Fragments) :
    resolver.fragments ((key, value) :: rest) = .ok collected ↔
      ∃ fragment others, resolver.contribution key value = .ok fragment ∧
        resolver.fragments rest = .ok others ∧ collected = (key, fragment) :: others := by
  rw [fragments]
  cases resolver.contribution key value with
  | error error => simp
  | ok fragment =>
      cases resolver.fragments rest with
      | error error => simp
      | ok others => simp [eq_comm]

theorem compileOnto_ok_iff (resolver : Resolver) (base query : List (String × Value))
    (entries : List (String × Value)) :
    resolver.compileOnto base entries = .ok query ↔
      ∃ collected, resolver.fragments entries = .ok collected ∧
        (collected.map Prod.snd).foldl mergeEntries base = query := by
  induction entries generalizing base with
  | nil => simp [compileOnto, fragments]
  | cons entry rest ih =>
      obtain ⟨key, value⟩ := entry
      rw [compileOnto]
      cases contributed : resolver.contribution key value with
      | error error => simp [fragments, contributed]
      | ok fragment =>
          simp only [ih, fragments_cons_ok_iff, contributed, Except.ok.injEq]
          constructor
          · intro compiled
            obtain ⟨others, complete, merged⟩ := compiled
            exact ⟨(key, fragment) :: others, ⟨fragment, others, rfl, complete, rfl⟩, merged⟩
          · intro compiled
            obtain ⟨collected, ⟨first, others, rfl, complete, rfl⟩, merged⟩ := compiled
            exact ⟨others, complete, merged⟩

theorem compile_ok_iff (resolver : Resolver) (filters : FilterSet)
    (query : List (String × Value)) :
    resolver.compile filters = .ok query ↔
      ∃ collected, resolver.fragments filters.entries = .ok collected ∧ collected.merged = query :=
  resolver.compileOnto_ok_iff [] query filters.entries

theorem keys_fragments {resolver : Resolver} {entries : List (String × Value)}
    {collected : Fragments}
    (complete : resolver.fragments entries = .ok collected) :
    Entries.keys collected = Entries.keys entries := by
  induction entries generalizing collected with
  | nil =>
      cases complete
      rfl
  | cons entry rest ih =>
      obtain ⟨key, value⟩ := entry
      rw [fragments_cons_ok_iff] at complete
      obtain ⟨fragment, others, -, completeRest, rfl⟩ := complete
      simp only [Entries.keys, List.map_cons] at ih ⊢
      rw [ih completeRest]

theorem mem_fragments_iff {resolver : Resolver} {entries : List (String × Value)}
    {collected : Fragments}
    (complete : resolver.fragments entries = .ok collected) (key : String)
    (fragment : List (String × Value)) :
    (key, fragment) ∈ collected ↔
      ∃ value, (key, value) ∈ entries ∧ resolver.contribution key value = .ok fragment := by
  induction entries generalizing collected with
  | nil =>
      cases complete
      simp
  | cons entry rest ih =>
      obtain ⟨head, value⟩ := entry
      rw [fragments_cons_ok_iff] at complete
      obtain ⟨first, others, contributed, completeRest, rfl⟩ := complete
      simp only [List.mem_cons, Prod.mk.injEq, ih completeRest]
      constructor
      · intro member
        rcases member with ⟨rfl, rfl⟩ | ⟨other, member, gives⟩
        · exact ⟨value, Or.inl ⟨rfl, rfl⟩, contributed⟩
        · exact ⟨other, Or.inr member, gives⟩
      · intro source
        obtain ⟨other, present, gives⟩ := source
        rcases present with ⟨rfl, rfl⟩ | member
        · rw [contributed, Except.ok.injEq] at gives
          exact Or.inl ⟨rfl, gives.symm⟩
        · exact Or.inr ⟨other, member, gives⟩

theorem entry_of_fragment {resolver : Resolver} {filters : FilterSet} {collected : Fragments}
    (complete : resolver.fragments filters.entries = .ok collected) {key : String}
    {fragment : List (String × Value)} (member : (key, fragment) ∈ collected) :
    ∃ value, filters.get? key = some value ∧
      ((key = rawKey ∧ value = .mapping fragment) ∨
        (key ≠ rawKey ∧ resolver.compileFilter key value = .ok fragment ∧
          ∃ name shape, fragment = [(name, shape)])) := by
  rw [mem_fragments_iff complete] at member
  obtain ⟨value, present, contributed⟩ := member
  refine ⟨value, (filters.get?_eq_some_iff key value).mpr present, ?_⟩
  rw [contribution_ok_iff] at contributed
  rcases contributed with raw | ⟨notRaw, compiled⟩
  · exact Or.inl raw
  · obtain ⟨segments, leaf, -, -, single⟩ := (compileFilter_ok_iff _ _ _ _).mp compiled
    exact Or.inr ⟨notRaw, compiled, _, _, single⟩

/-- The fragments of a filter set stand in the order of their keys, one for each key. -/
theorem ascending_fragments {resolver : Resolver} {filters : FilterSet}
    {collected : Fragments}
    (complete : resolver.fragments filters.entries = .ok collected) :
    Entries.Ascending collected := by
  have ascending := filters.ascending
  have sameKeys := keys_fragments complete
  unfold Entries.keys at sameKeys
  rw [Entries.Ascending, ← List.pairwise_map (f := Prod.fst) (R := (· < ·))] at ascending ⊢
  rwa [sameKeys]

/-- Three ways to say that no filter is lost: the fragments of different keys do not conflict, the
query still contains every fragment, and the fragments could be merged in any order. -/
theorem conflictFree_iff_keptBy_iff_orderFree {resolver : Resolver} {filters : FilterSet}
    {query : List (String × Value)} (compiled : resolver.compile filters = .ok query) :
    ∃ collected, resolver.fragments filters.entries = .ok collected ∧
      (collected.ConflictFree ↔ collected.KeptBy query) ∧
      (collected.KeptBy query ↔ collected.OrderFree query) := by
  rw [compile_ok_iff] at compiled
  obtain ⟨collected, complete, rfl⟩ := compiled
  have ascending := ascending_fragments complete
  have ordered := collected.ordered_merged
  refine ⟨collected, complete, ⟨?_, ?_⟩, ⟨?_, ?_⟩⟩
  · intro free
    exact (free.orderFree ascending).keptBy
  · intro kept
    exact kept.conflictFree ordered
  · intro kept
    exact (kept.conflictFree ordered).orderFree ascending
  · intro free
    exact free.keptBy

def people : Resolver :=
  (Schema.empty.withDocument "User"
    ⟨[⟨"name", some "n", .scalar .string⟩, ⟨"age", none, .scalar .int⟩]⟩).resolver "User"

/-- An equality, an operator and a raw entry that meet under one name: the equality is lost. -/
def meetingFilters : FilterSet :=
  OrderedMap.ofList [("name", .string "x"), ("name__ne", .string "y"),
    ("raw", .mapping [("n", .mapping [("$in", .array [])])])]

def meetingQuery : List (String × Value) :=
  [("n", .mapping [("$in", .array []), ("$ne", .string "y")])]

theorem conflictFree_iff_meeting :
    people.compile meetingFilters = .ok meetingQuery ∧
    ∃ collected, people.fragments meetingFilters.entries = .ok collected ∧
      (collected.ConflictFree ↔ collected.KeptBy meetingQuery) ∧
      (collected.KeptBy meetingQuery ↔ collected.OrderFree meetingQuery) :=
  ⟨rfl, conflictFree_iff_keptBy_iff_orderFree rfl⟩

end Resolver

end DocFilter
