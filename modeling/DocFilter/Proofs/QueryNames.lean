import DocFilter.Proofs.WireNames

set_option autoImplicit false

namespace DocFilter

/-- The name is the stem, or the stem and a dot come first in it. -/
def IsUnder (stem name : String) : Prop :=
  name = stem ∨ ∃ rest, name = stem ++ "." ++ rest

theorem isUnder_wireName (first : Segment) (others : List Segment) :
    IsUnder first.wireName (wireName (first :: others)) := by
  cases others with
  | nil => exact Or.inl (wireName_singleton first)
  | cons next rest =>
      refine Or.inr ⟨wireName (next :: rest), ?_⟩
      rw [← wireName_singleton first]
      exact wireName_append (List.cons_ne_nil first []) (List.cons_ne_nil next rest)

theorem IsUnder.head? {stem name : String} (under : IsUnder stem name) :
    name.toList.head? = stem.toList.head? ∨ name.toList.head? = some '.' := by
  rcases under with rfl | ⟨rest, rfl⟩
  · exact Or.inl rfl
  · rw [String.toList_append, String.toList_append]
    cases stem.toList with
    | nil => exact Or.inr rfl
    | cons c cs => exact Or.inl rfl

theorem Schema.ReadsAll.starts_declared {schema : Schema} {document path : String}
    {segments : List Segment} {last : Place}
    (read : schema.ReadsAll (start document) (pathComponents path) segments last) :
    ∃ component field others, (pathComponents path).head? = some component ∧
      schema.Declares document component field ∧ segments = .field field :: others := by
  cases components : pathComponents path with
  | nil => exact absurd components (pathComponents_ne_nil path)
  | cons component rest =>
      rw [components] at read
      cases read with
      | cons first others =>
          cases first with
          | field declared => exact ⟨component, _, _, rfl, declared, rfl⟩

namespace Resolver

theorem Writes.isUnder_declared {schema : Schema} {document key name : String}
    (writes : (schema.resolver document).Writes key name) :
    ∃ component field, (pathComponents (FilterKey.parse key).path).head? = some component ∧
      schema.Declares document component field ∧ IsUnder field.wireName name := by
  obtain ⟨segments, resolved, -, rfl⟩ := (writes_iff _ _ _).mp writes
  obtain ⟨-, last, read⟩ := Schema.resolve_ok_iff.mp resolved
  obtain ⟨component, field, others, first, declared, rfl⟩ := read.starts_declared
  exact ⟨component, field, first, declared, isUnder_wireName (.field field) others⟩

/-- Without a raw entry, every name of a query is the wire name of a declared field of the document
type or goes on after one with a dot, whatever the filter keys are. So if no field has a wire name
that starts with a dollar sign, no name of the query does. -/
theorem query_names_declared {schema : Schema} {document : String} {type : DocumentType}
    (declared : schema.document? document = some type) {filters : FilterSet}
    {query : List (String × Value)} (noRaw : filters.get? rawKey = none)
    (compiled : (schema.resolver document).compile filters = .ok query) :
    (∀ name ∈ Entries.keys query, ∃ field ∈ type.fields, IsUnder field.wireName name) ∧
    ((∀ field ∈ type.fields, field.wireName.toList.head? ≠ some '$') →
      ∀ name ∈ Entries.keys query, name.toList.head? ≠ some '$') := by
  have under : ∀ name ∈ Entries.keys query,
      ∃ field ∈ type.fields, IsUnder field.wireName name := by
    intro name present
    obtain ⟨key, -, writes⟩ := writes_of_mem_keys noRaw compiled present
    obtain ⟨component, field, -, declares, isUnder⟩ := writes.isUnder_declared
    obtain ⟨other, otherDeclared, member⟩ := declares.mem_fields
    rw [declared, Option.some.injEq] at otherDeclared
    exact ⟨field, otherDeclared ▸ member, isUnder⟩
  refine ⟨under, ?_⟩
  intro harmless name present
  obtain ⟨field, member, isUnder⟩ := under name present
  rcases isUnder.head? with same | dot
  · rw [same]
    exact harmless field member
  · rw [dot]
    decide

/-- Keys that spell the operators of a query: a dollar sign can stand after a dot only. -/
def hostileFilters : FilterSet :=
  OrderedMap.ofList [("note.$where", .string "x"), ("note__$or__in", .array []),
    ("note.__.$not", .null)]

def hostileFragments : Fragments :=
  [("note.$where", [("note.$where", .string "x")]),
    ("note.__.$not", [("note...$not", .null)]),
    ("note__$or__in", [("note.$or", .mapping [("$in", .array [])])])]

theorem hostile_names_declared :
    orders.document? "Order" = some ⟨[⟨"items", some "i", .list (.embedded "Item")⟩,
      ⟨"note", none, .scalar .any⟩]⟩ ∧
    hostileFilters.get? rawKey = none ∧
    (orders.resolver "Order").compile hostileFilters = .ok hostileFragments.merged ∧
    Entries.keys hostileFragments.merged = ["note.$or", "note.$where", "note...$not"] ∧
    ∀ name ∈ Entries.keys hostileFragments.merged, name.toList.head? ≠ some '$' := by
  have declared : orders.document? "Order" = some ⟨[⟨"items", some "i", .list (.embedded "Item")⟩,
      ⟨"note", none, .scalar .any⟩]⟩ := rfl
  have compiled : (orders.resolver "Order").compile hostileFilters =
      .ok hostileFragments.merged := (compile_ok_iff _ _ _).mpr ⟨hostileFragments, rfl, rfl⟩
  exact ⟨declared, rfl, compiled, rfl, (query_names_declared declared rfl compiled).2 (by decide)⟩

end Resolver

end DocFilter
