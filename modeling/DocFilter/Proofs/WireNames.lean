import DocFilter.Proofs.CompileGrouping
import DocFilter.Proofs.PathGrammar
import Mathlib.Data.List.Nodup

set_option autoImplicit false

namespace DocFilter

/-- The wire names of the fields tell them apart, and can be taken neither for two components nor
for a position. -/
structure DocumentType.Clean (type : DocumentType) : Prop where
  distinct : (type.fields.map Field.wireName).Nodup
  dotFree : ∀ field ∈ type.fields, '.' ∉ field.wireName.toList
  noPosition : ∀ field ∈ type.fields, ¬ IsDigits field.wireName

namespace Schema

variable {schema : Schema}

def Clean (schema : Schema) : Prop :=
  ∀ name type, schema.document? name = some type → type.Clean

theorem Declares.mem_fields {document component : String} {field : Field}
    (declared : schema.Declares document component field) :
    ∃ type, schema.document? document = some type ∧ field ∈ type.fields := by
  obtain ⟨type, before, after, present, split, -, -⟩ := declared
  exact ⟨type, present, by simp [split]⟩

theorem Declares.name_eq {document component : String} {field : Field}
    (declared : schema.Declares document component field) : field.name = component := by
  obtain ⟨-, -, -, -, -, named, -⟩ := declared
  exact named

theorem Declares.dotFree {document component : String} {field : Field}
    (declared : schema.Declares document component field) (clean : schema.Clean) :
    '.' ∉ field.wireName.toList := by
  obtain ⟨type, present, member⟩ := declared.mem_fields
  exact (clean document type present).dotFree field member

theorem Declares.noPosition {document component : String} {field : Field}
    (declared : schema.Declares document component field) (clean : schema.Clean) :
    ¬ IsDigits field.wireName := by
  obtain ⟨type, present, member⟩ := declared.mem_fields
  exact (clean document type present).noPosition field member

theorem Declares.eq_of_wireName {document component other : String} {field otherField : Field}
    (declared : schema.Declares document component field)
    (otherDeclared : schema.Declares document other otherField) (clean : schema.Clean)
    (same : field.wireName = otherField.wireName) : field = otherField := by
  obtain ⟨type, present, member⟩ := declared.mem_fields
  obtain ⟨otherType, otherPresent, otherMember⟩ := otherDeclared.mem_fields
  rw [present, Option.some.injEq] at otherPresent
  subst otherPresent
  exact List.inj_on_of_nodup_map (clean document type present).distinct member otherMember same

/-- From one place, two components with one wire name are the same and lead to the same place. -/
theorem Reads.eq_of_wireName {place next otherNext : Place} {component other : String}
    {segment otherSegment : Segment} (read : schema.Reads place component segment next)
    (otherRead : schema.Reads place other otherSegment otherNext) (clean : schema.Clean)
    (same : segment.wireName = otherSegment.wireName) :
    component = other ∧ next = otherNext := by
  cases read with
  | field declared =>
      cases otherRead with
      | field otherDeclared =>
          obtain rfl := declared.eq_of_wireName otherDeclared clean same
          exact ⟨declared.name_eq.symm.trans otherDeclared.name_eq, rfl⟩
  | position digits =>
      cases otherRead with
      | position otherDigits => exact ⟨same, rfl⟩
      -- A position reads as itself, so a field would have a wire name of digits.
      | itemField noPosition inside declared =>
          change component = Field.wireName _ at same
          exact absurd (same ▸ digits) (declared.noPosition clean)
  | itemField noPosition inside declared =>
      cases otherRead with
      | position digits =>
          change Field.wireName _ = other at same
          exact absurd (same ▸ digits) (declared.noPosition clean)
      | itemField otherNoPosition otherInside otherDeclared =>
          rw [inside, Kind.embedded.injEq] at otherInside
          subst otherInside
          obtain rfl := declared.eq_of_wireName otherDeclared clean same
          exact ⟨declared.name_eq.symm.trans otherDeclared.name_eq, rfl⟩
  | anything =>
      cases otherRead with
      | anything => exact ⟨same, rfl⟩

/-- Rows of components with the same wire names are the same, by induction on the first row: equal
wire names keep the two walks at one place. -/
theorem ReadsAll.eq_of_wireNames {place last otherLast : Place} {components others : List String}
    {segments otherSegments : List Segment}
    (read : schema.ReadsAll place components segments last)
    (otherRead : schema.ReadsAll place others otherSegments otherLast) (clean : schema.Clean)
    (same : segments.map Segment.wireName = otherSegments.map Segment.wireName) :
    components = others := by
  induction read generalizing others otherSegments with
  | nil =>
      cases otherRead with
      | nil => rfl
      | cons first rest => cases same
  | cons first rest ih =>
      cases otherRead with
      | nil => cases same
      | cons otherFirst otherRest =>
          obtain ⟨sameFirst, sameRest⟩ := List.cons.inj same
          obtain ⟨rfl, rfl⟩ := first.eq_of_wireName otherFirst clean sameFirst
          rw [ih otherRest sameRest]

theorem Reads.dotFree {place next : Place} {component : String} {segment : Segment}
    (read : schema.Reads place component segment next) (clean : schema.Clean)
    (dotFree : '.' ∉ component.toList) : '.' ∉ segment.wireName.toList := by
  cases read with
  | field declared => exact declared.dotFree clean
  | position digits => exact dotFree
  | itemField noPosition inside declared => exact declared.dotFree clean
  | anything => exact dotFree

theorem ReadsAll.dotFree {place last : Place} {components : List String}
    {segments : List Segment} (read : schema.ReadsAll place components segments last)
    (clean : schema.Clean) (dotFree : ∀ component ∈ components, '.' ∉ component.toList) :
    ∀ name ∈ segments.map Segment.wireName, '.' ∉ name.toList := by
  induction read with
  | nil => simp
  | cons first rest ih =>
      rw [List.forall_mem_cons] at dotFree
      rw [List.map_cons, List.forall_mem_cons]
      exact ⟨first.dotFree clean dotFree.1, ih dotFree.2⟩

theorem ReadsAll.ne_nil {place last : Place} {path : String} {segments : List Segment}
    (read : schema.ReadsAll place (pathComponents path) segments last) : segments ≠ [] := by
  intro empty
  subst empty
  have length := read.length
  rw [List.length_nil, eq_comm, List.length_eq_zero_iff] at length
  exact pathComponents_ne_nil path length

theorem pathComponents_wireName {place last : Place} {path : String} {segments : List Segment}
    (read : schema.ReadsAll place (pathComponents path) segments last) (clean : schema.Clean) :
    pathComponents (wireName segments) = segments.map Segment.wireName := by
  rw [pathComponents_eq_iff]
  refine ⟨by simpa using read.ne_nil, ?_, ?_⟩
  · exact read.dotFree clean fun _ => dotFree_of_mem_pathComponents
  · rw [wireName, List.map_map]
    rfl

theorem eq_of_wireName {document path other : String} {segments otherSegments : List Segment}
    (clean : schema.Clean) (resolved : (schema.resolver document).segments path = .ok segments)
    (otherResolved : (schema.resolver document).segments other = .ok otherSegments)
    (same : wireName segments = wireName otherSegments) : path = other := by
  obtain ⟨-, last, read⟩ := resolve_ok_iff.mp resolved
  obtain ⟨-, otherLast, otherRead⟩ := resolve_ok_iff.mp otherResolved
  have sameNames : segments.map Segment.wireName = otherSegments.map Segment.wireName := by
    rw [← pathComponents_wireName read clean, same, pathComponents_wireName otherRead clean]
  have sameComponents := read.eq_of_wireNames otherRead clean sameNames
  rw [← dotted_pathComponents path, sameComponents, dotted_pathComponents]

end Schema

namespace Resolver

/-- Filters under the key compile to an entry of this name. -/
def Writes (resolver : Resolver) (key name : String) : Prop :=
  ∃ value shape, resolver.compileFilter key value = .ok [(name, shape)]

theorem writes_iff (resolver : Resolver) (key name : String) :
    resolver.Writes key name ↔
      ∃ segments, resolver.segments (FilterKey.parse key).path = .ok segments ∧
        segments ≠ [] ∧ name = wireName segments := by
  constructor
  · intro writes
    obtain ⟨value, shape, compiled⟩ := writes
    obtain ⟨segments, leaf, resolved, last, single⟩ := (compileFilter_ok_iff _ _ _ _).mp compiled
    refine ⟨segments, resolved, ?_, ?_⟩
    · intro empty
      rw [empty] at last
      cases last
    · exact congrArg Prod.fst (List.cons.inj single).1
  · intro resolves
    obtain ⟨segments, resolved, nonempty, rfl⟩ := resolves
    have last := List.getLast?_eq_some_getLast nonempty
    exact ⟨.null, _, (compileFilter_ok_iff _ _ _ _).mpr ⟨segments, _, resolved, last, rfl⟩⟩

theorem Writes.unique {resolver : Resolver} {key name other : String}
    (writes : resolver.Writes key name) (otherWrites : resolver.Writes key other) :
    name = other := by
  rw [writes_iff] at writes otherWrites
  obtain ⟨segments, resolved, -, rfl⟩ := writes
  obtain ⟨others, otherResolved, -, rfl⟩ := otherWrites
  rw [resolved, Except.ok.injEq] at otherResolved
  rw [otherResolved]

/-- Without a raw entry every name of a query is the wire name of one of the keys. -/
theorem writes_of_mem_keys {resolver : Resolver} {filters : FilterSet}
    {query : List (String × Value)} (noRaw : filters.get? rawKey = none)
    (compiled : resolver.compile filters = .ok query) {name : String}
    (present : name ∈ Entries.keys query) :
    ∃ key ∈ filters.keys, resolver.Writes key name := by
  obtain ⟨collected, complete, rfl⟩ := (compile_ok_iff _ _ _).mp compiled
  obtain ⟨⟨key, fragment⟩, member, inFragment⟩ := (Fragments.mem_keys_merged _ _).mp present
  obtain ⟨value, found, ⟨raw, -⟩ | ⟨-, filter, only, shape, rfl⟩⟩ :=
    entry_of_fragment complete member
  · rw [raw, noRaw] at found
    cases found
  · have same : name = only := by simpa [Entries.keys] using inFragment
    refine ⟨key, ?_, value, shape, same ▸ filter⟩
    exact (filters.mem_keys_iff key).mpr ⟨value, found⟩

theorem exists_writes {resolver : Resolver} {filters : FilterSet}
    {query : List (String × Value)} (compiled : resolver.compile filters = .ok query)
    {key : String} (present : key ∈ filters.keys) (noRaw : key ≠ rawKey) :
    ∃ name ∈ Entries.keys query, resolver.Writes key name := by
  obtain ⟨collected, complete, rfl⟩ := (compile_ok_iff _ _ _).mp compiled
  rw [OrderedMap.keys, ← keys_fragments complete] at present
  obtain ⟨⟨_, fragment⟩, member, rfl⟩ := List.mem_map.mp present
  obtain ⟨value, -, ⟨raw, -⟩ | ⟨-, filter, name, shape, rfl⟩⟩ := entry_of_fragment complete member
  · exact absurd raw noRaw
  · refine ⟨name, ?_, value, shape, filter⟩
    rw [Fragments.mem_keys_merged]
    exact ⟨_, member, by simp [Entries.keys]⟩

/-- Over a clean schema different paths have different wire names. So two filters meet under one
name of a query exactly if their keys have the same path. -/
theorem wireNames_tell_paths {schema : Schema} (clean : schema.Clean) {document : String}
    {resolver : Resolver} (bound : schema.resolver? document = .ok resolver) :
    (∀ path other segments otherSegments, resolver.segments path = .ok segments →
      resolver.segments other = .ok otherSegments →
      wireName segments = wireName otherSegments → path = other) ∧
    (∀ key other name otherName, resolver.Writes key name → resolver.Writes other otherName →
      (name = otherName ↔ (FilterKey.parse key).path = (FilterKey.parse other).path)) ∧
    (∀ filters query, resolver.compile filters = .ok query →
      ∀ key ∈ filters.keys, key ≠ rawKey →
        ∃ name ∈ Entries.keys query, resolver.Writes key name) := by
  obtain ⟨-, rfl⟩ := Schema.resolver?_ok_iff.mp bound
  refine ⟨?_, ?_, ?_⟩
  · intro path other segments otherSegments resolved otherResolved
    exact Schema.eq_of_wireName clean resolved otherResolved
  · intro key other name otherName writes otherWrites
    obtain ⟨segments, resolved, -, rfl⟩ := (writes_iff _ _ _).mp writes
    obtain ⟨otherSegments, otherResolved, -, rfl⟩ := (writes_iff _ _ _).mp otherWrites
    constructor
    · exact Schema.eq_of_wireName clean resolved otherResolved
    · intro same
      rw [same, otherResolved, Except.ok.injEq] at resolved
      rw [resolved]
  · intro filters query compiled key present noRaw
    exact exists_writes compiled present noRaw

/-- Orders with items in a list; the alias of the item's name is the wire name of the list. -/
def orders : Schema :=
  (Schema.empty.withDocument "Order"
      ⟨[⟨"items", some "i", .list (.embedded "Item")⟩, ⟨"note", none, .scalar .any⟩]⟩
    ).withDocument "Item"
      ⟨[⟨"name", some "i", .scalar .string⟩, ⟨"tags", some "", .list (.scalar .any)⟩]⟩

theorem orders_clean : orders.Clean := by
  intro name type present
  simp only [orders, Schema.document?, Schema.withDocument, OrderedMap.get?_insert] at present
  split at present
  · cases present
    exact ⟨by decide, by decide, by decide⟩
  · split at present
    · cases present
      exact ⟨by decide, by decide, by decide⟩
    · cases present

theorem wireNames_tell_paths_orders :
    orders.Clean ∧ orders.resolver? "Order" = .ok (orders.resolver "Order") ∧
    (orders.resolver "Order").Writes "items.name__gt" "i.i" ∧
    (orders.resolver "Order").Writes "items__0__name" "i.0.i" ∧
    (FilterKey.parse "items.name__gt").path ≠ (FilterKey.parse "items__0__name").path := by
  have bound : orders.resolver? "Order" = .ok (orders.resolver "Order") := rfl
  have plain : (orders.resolver "Order").Writes "items.name__gt" "i.i" := ⟨.null, _, rfl⟩
  have positioned : (orders.resolver "Order").Writes "items__0__name" "i.0.i" := ⟨.null, _, rfl⟩
  obtain ⟨-, meet, -⟩ := wireNames_tell_paths orders_clean bound
  refine ⟨orders_clean, bound, plain, positioned, ?_⟩
  intro same
  have equal := (meet _ _ _ _ plain positioned).mpr same
  revert equal
  decide

end Resolver

end DocFilter
