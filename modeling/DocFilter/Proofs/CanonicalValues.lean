import DocFilter.Cli.Run
import DocFilter.Proofs.SortedValues

set_option autoImplicit false

namespace DocFilter

namespace Entries

theorem mem_of_mem_insert {α : Type} {key : String} {value : α} {entries : List (String × α)}
    {entry : String × α} (member : entry ∈ insert key value entries) :
    entry = (key, value) ∨ entry ∈ entries := by
  induction entries with
  | nil => exact .inl (List.mem_singleton.mp member)
  | cons first rest ih =>
      rw [insert] at member
      split at member
      · exact List.mem_cons.mp member
      · split at member
        · rcases List.mem_cons.mp member with new | old
          · exact .inl new
          · exact .inr (List.mem_cons_of_mem _ old)
        · rcases List.mem_cons.mp member with rfl | later
          · exact .inr List.mem_cons_self
          · exact (ih later).imp_right (List.mem_cons_of_mem _)

end Entries

namespace Value

theorem canonical_array_iff (items : List Value) :
    (array items).Canonical ↔ ∀ item ∈ items, item.Canonical :=
  canonicalItems_iff items

theorem canonical_empty : (mapping []).Canonical :=
  ⟨Entries.ascending_nil, trivial⟩

theorem Canonical.singleton {value : Value} (canonical : value.Canonical) (key : String) :
    (mapping [(key, value)]).Canonical :=
  ⟨List.pairwise_singleton _ _, canonical, trivial⟩

theorem CanonicalEntries.insert {entries : List (String × Value)} {value : Value}
    (canonical : CanonicalEntries entries) (added : value.Canonical) (key : String) :
    CanonicalEntries (Entries.insert key value entries) := by
  rw [canonicalEntries_iff] at canonical ⊢
  intro entry member
  rcases Entries.mem_of_mem_insert member with rfl | old
  · exact added
  · exact canonical entry old

theorem Canonical.insert {entries : List (String × Value)} {value : Value}
    (canonical : (mapping entries).Canonical) (added : value.Canonical) (key : String) :
    (mapping (Entries.insert key value entries)).Canonical :=
  ⟨Entries.Ascending.insert canonical.1 key value, CanonicalEntries.insert canonical.2 added key⟩

end Value

namespace Reader

/-- Whether all that has been read around the next value is canonical. -/
def Context.Canonical : Context → Prop
  | top => True
  | item before outer => (∀ value ∈ before, value.Canonical) ∧ outer.Canonical
  | entry before _ outer => (Value.mapping before).Canonical ∧ outer.Canonical

def State.Canonical : State → Prop
  | .value context => context.Canonical
  | item before outer => (Context.item before outer).Canonical
  | itemEnd before outer => (Context.item before outer).Canonical
  | key before outer => (Context.entry before "" outer).Canonical
  | colon before label outer => (Context.entry before label outer).Canonical
  | entryEnd before outer => (Context.entry before "" outer).Canonical
  | complete result => result.Canonical

theorem Context.Canonical.fill {context : Context} {value : Value}
    (canonical : context.Canonical) (filled : value.Canonical) :
    (context.fill value).Canonical := by
  cases context with
  | top => exact filled
  | item before outer => exact ⟨List.forall_mem_cons.mpr ⟨filled, canonical.1⟩, canonical.2⟩
  | entry before key outer => exact ⟨canonical.1.insert filled key, canonical.2⟩

theorem canonical_of_namedValue? {name : String} {value : Value}
    (named : namedValue? name = some value) : value.Canonical := by
  unfold namedValue? at named
  split at named
  · cases named
    trivial
  · split at named
    · cases named
      trivial
    · split at named
      · cases named
        trivial
      · cases named

theorem Context.Canonical.startValue {context : Context} {token : Token} {next : State}
    (canonical : context.Canonical) (started : startValue context token = some next) :
    next.Canonical := by
  unfold Reader.startValue at started
  split at started
  · cases started
    exact ⟨List.forall_mem_nil _, canonical⟩
  · cases started
    exact ⟨Value.canonical_empty, canonical⟩
  · cases started
    exact canonical.fill trivial
  · cases started
    exact canonical.fill trivial
  · cases started
    exact canonical.fill trivial
  · obtain ⟨value, named, rfl⟩ := Option.map_eq_some_iff.mp started
    exact canonical.fill (canonical_of_namedValue? named)
  · cases started

theorem State.Canonical.step {state next : State} {token : Token} (canonical : state.Canonical)
    (stepped : state.step token = some next) : next.Canonical := by
  unfold State.step at stepped
  split at stepped
  · next context token => exact Context.Canonical.startValue canonical stepped
  · next before outer =>
      cases stepped
      exact canonical.2.fill ((Value.canonical_array_iff _).mpr (by simpa using canonical.1))
  · exact Context.Canonical.startValue canonical stepped
  · cases stepped
    exact canonical
  · cases stepped
    exact canonical.2.fill ((Value.canonical_array_iff _).mpr (by simpa using canonical.1))
  · cases stepped
    exact canonical.2.fill canonical.1
  · cases stepped
    exact canonical
  · cases stepped
    exact canonical
  · cases stepped
    exact canonical
  · cases stepped
    exact canonical
  · cases stepped
    exact canonical.2.fill canonical.1
  · cases stepped

theorem State.Canonical.run {state last : State} {tokens : List Token}
    (canonical : state.Canonical) (ran : state.run tokens = some last) : last.Canonical := by
  induction tokens generalizing state with
  | nil =>
      cases ran
      exact canonical
  | cons token rest ih =>
      rw [State.run] at ran
      split at ran
      · next next stepped => exact ih (canonical.step stepped) ran
      · cases ran

end Reader

/-- Whatever is read is canonical. -/
theorem Value.canonical_of_ofText? {text : String} {value : Value}
    (read : ofText? text = some value) : value.Canonical := by
  obtain ⟨tokens, -, denoted⟩ := Option.bind_eq_some_iff.mp read
  unfold ofTokens? at denoted
  split at denoted
  · next ran =>
      cases denoted
      have start : (Reader.State.value .top).Canonical := trivial
      exact start.run ran
  · cases denoted

namespace FilterSet

theorem canonical_ofText {text : String} {filters : FilterSet} (read : ofText text = .ok filters) :
    Value.CanonicalEntries filters.entries := by
  unfold ofText at read
  split at read
  · cases read
  · next entries found =>
      cases read
      have canonical := Value.canonical_of_ofText? found
      have kept : (OrderedMap.ofList entries).entries = entries :=
        Entries.ofList_of_ascending canonical.1
      rw [kept]
      exact canonical.2
  · cases read

theorem canonical_parseInline {argument key : String} {value : Value}
    (read : parseInline argument = .ok (key, value)) : value.Canonical := by
  unfold parseInline at read
  dsimp only at read
  split at read
  · cases read
  · next equals rest _ =>
      split at read
      · cases read
      · cases read
        cases denoted : Value.ofText? (String.ofList (Text.trim rest)) with
        | none => trivial
        | some value => exact Value.canonical_of_ofText? denoted

theorem canonical_withInline {filters all : FilterSet} {arguments : List String}
    (canonical : Value.CanonicalEntries filters.entries)
    (added : withInline filters arguments = .ok all) : Value.CanonicalEntries all.entries := by
  induction arguments generalizing filters with
  | nil =>
      cases added
      exact canonical
  | cons argument rest ih =>
      rw [withInline] at added
      split at added
      · cases added
      · next key value read =>
          exact ih (Value.CanonicalEntries.insert canonical (canonical_parseInline read) key) added

end FilterSet

theorem ScalarType.canonical_encode (type : ScalarType) {value : Value}
    (canonical : value.Canonical) : (type.encode value).Canonical := by
  unfold encode
  split
  · split <;> trivial
  · split <;> trivial
  · split <;> trivial
  · trivial
  · split
    · exact ⟨List.pairwise_singleton _ _, trivial, trivial⟩
    · trivial
  · exact canonical.singleton "$date"
  · exact canonical.singleton "$date"
  · trivial
  · exact canonical

theorem Kind.canonical_encode (kind : Kind) {value : Value} (canonical : value.Canonical) :
    (kind.encode value).Canonical := by
  induction kind generalizing value with
  | scalar type => exact type.canonical_encode canonical
  | embedded document => exact canonical
  | list item ih =>
      cases value with
      | array items =>
          rw [Value.canonical_array_iff] at canonical
          rw [encode, Value.canonical_array_iff, List.forall_mem_map]
          exact fun value member => ih (canonical value member)
      | _ => exact ih canonical

namespace Operator

theorem canonical_encodeFor (field : Option Field) {value : Value} (canonical : value.Canonical) :
    (encodeFor field value).Canonical := by
  cases field with
  | none => exact canonical
  | some field => exact field.kind.canonical_encode canonical

theorem canonical_transform (operator : Operator) (field : Option Field) {value : Value}
    (canonical : value.Canonical) : (operator.transform field value).Canonical := by
  unfold transform
  split
  · trivial
  · trivial
  · rw [Value.canonical_array_iff] at canonical ⊢
    rw [List.forall_mem_map]
    exact fun value member => canonical_encodeFor field (canonical value member)
  · rw [Value.canonical_array_iff, List.forall_mem_singleton]
    exact canonical_encodeFor field canonical
  · exact canonical
  · exact canonical_encodeFor field canonical

theorem canonical_shape (operator : Operator) {operand : Value} (canonical : operand.Canonical) :
    (operator.shape operand).Canonical := by
  unfold shape
  split
  · split
    · trivial
    · exact ⟨List.pairwise_singleton _ _, trivial, trivial⟩
  · exact canonical.singleton _
  · exact canonical

end Operator

namespace Value

theorem canonical_mergeEntries_of_each {target source : List (String × Value)}
    (canonical : (mapping target).Canonical)
    (each : ∀ entry ∈ source, ∀ old : Option Value, (∀ held, old = some held → held.Canonical) →
      (entry.2.mergedOver old).Canonical) :
    (mapping (mergeEntries target source)).Canonical := by
  induction source with
  | nil => exact canonical
  | cons entry rest ih =>
      rw [List.forall_mem_cons] at each
      rw [mergeEntries]
      apply Canonical.insert (ih each.2)
      exact each.1 _ fun held found => canonical.lookup found

theorem Canonical.mergedOver {value : Value} (canonical : value.Canonical) {old : Option Value}
    (before : ∀ held, old = some held → held.Canonical) : (value.mergedOver old).Canonical := by
  induction value generalizing old with
  | mapping entries ih =>
      rw [Value.mergedOver]
      have target : (mapping ((old.map Value.entries).getD [])).Canonical := by
        cases old with
        | none => exact canonical_empty
        | some held =>
            cases held with
            | mapping entries => exact before _ rfl
            | _ => exact canonical_empty
      apply canonical_mergeEntries_of_each target
      intro entry member old before
      exact ih entry member ((canonicalEntries_iff _).mp canonical.2 entry member) before
  | _ => exact canonical

theorem Canonical.merge {target source : List (String × Value)}
    (canonical : (mapping target).Canonical) (merged : CanonicalEntries source) :
    (mapping (mergeEntries target source)).Canonical := by
  apply canonical_mergeEntries_of_each canonical
  intro entry member old before
  exact Canonical.mergedOver ((canonicalEntries_iff _).mp merged entry member) before

end Value

namespace Resolver

variable {resolver : Resolver}

theorem canonical_compileFilter {key : String} {value : Value}
    {fragment : List (String × Value)} (canonical : value.Canonical)
    (compiled : resolver.compileFilter key value = .ok fragment) :
    Value.CanonicalEntries fragment := by
  unfold compileFilter at compiled
  dsimp only at compiled
  split at compiled
  · cases compiled
  · split at compiled
    · cases compiled
    · cases compiled
      exact ⟨Operator.canonical_shape _ (Operator.canonical_transform _ _ canonical), trivial⟩

theorem canonical_contribution {key : String} {value : Value} {fragment : List (String × Value)}
    (canonical : value.Canonical)
    (contributed : resolver.contribution key value = .ok fragment) :
    Value.CanonicalEntries fragment := by
  unfold contribution at contributed
  split at contributed
  · split at contributed
    · cases contributed
      exact canonical.2
    · cases contributed
  · split at contributed
    · cases contributed
    · next compiled =>
        cases contributed
        exact canonical_compileFilter canonical compiled

theorem canonical_compileOnto {base query entries : List (String × Value)}
    (canonical : (Value.mapping base).Canonical) (each : Value.CanonicalEntries entries)
    (compiled : resolver.compileOnto base entries = .ok query) :
    (Value.mapping query).Canonical := by
  induction entries generalizing base with
  | nil =>
      cases compiled
      exact canonical
  | cons entry rest ih =>
      obtain ⟨key, value⟩ := entry
      rw [compileOnto] at compiled
      split at compiled
      · cases compiled
      · next fragment contributed =>
          exact ih (canonical.merge (canonical_contribution each.1 contributed)) each.2 compiled

/-- Canonical filters compile into a canonical query. -/
theorem canonical_compile {filters : FilterSet} {query : List (String × Value)}
    (canonical : Value.CanonicalEntries filters.entries)
    (compiled : resolver.compile filters = .ok query) : (Value.mapping query).Canonical :=
  canonical_compileOnto Value.canonical_empty canonical compiled

theorem canonical_compileChecked {filters : FilterSet} {query : List (String × Value)}
    (canonical : Value.CanonicalEntries filters.entries)
    (compiled : resolver.compileChecked filters = .ok query) :
    (Value.mapping query).Canonical := by
  unfold compileChecked at compiled
  split at compiled
  · cases compiled
  · exact canonical_compile canonical compiled

end Resolver

namespace Cli

theorem canonical_loadFile {read : Reader} {file : Option String} {filters : FilterSet}
    (loaded : loadFile read file = .ok filters) : Value.CanonicalEntries filters.entries := by
  unfold loadFile at loaded
  split at loaded
  · cases loaded
    trivial
  · split at loaded
    · cases loaded
    · split at loaded
      · cases loaded
      · next parsed =>
          cases loaded
          exact FilterSet.canonical_ofText parsed

/-- The filters of a command are canonical, wherever they come from. -/
theorem canonical_readFilters {read : Reader} {source : Source} {filters : FilterSet}
    (given : readFilters read source = .ok filters) :
    Value.CanonicalEntries filters.entries := by
  unfold readFilters at given
  split at given
  · cases given
  · next fromFile loaded =>
      split at given
      · cases given
      · next all added =>
          split at given
          · cases given
          · cases given
            exact FilterSet.canonical_withInline (canonical_loadFile loaded) added

/-- So the laws of merging hold of every query that a command compiles. -/
theorem ordered_of_readFilters {read : Reader} {source : Source} {filters : FilterSet}
    {resolver : Resolver} {query : List (String × Value)}
    (given : readFilters read source = .ok filters)
    (compiled : resolver.compile filters = .ok query) : Value.Ordered query :=
  (Resolver.canonical_compile (canonical_readFilters given) compiled).ordered

end Cli

end DocFilter
