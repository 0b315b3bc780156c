import DocFilter.Proofs.PathGrammar
import DocFilter.Proofs.ValidateCompile

set_option autoImplicit false

namespace DocFilter

namespace Schema

/-- Every document type of the old schema is in the new one, with its fields in front. -/
def GrowsTo (old new : Schema) : Prop :=
  ∀ document type, old.document? document = some type →
    ∃ larger, new.document? document = some larger ∧ type.fields <+: larger.fields

section

variable {old new : Schema}

/-- Later fields cannot take the place of an earlier field of their name. -/
theorem GrowsTo.declares (grown : old.GrowsTo new) {document component : String} {field : Field}
    (declared : old.Declares document component field) :
    new.Declares document component field := by
  obtain ⟨type, before, after, present, split, named, others⟩ := declared
  obtain ⟨larger, presentNew, further, fields⟩ := grown document type present
  refine ⟨larger, before, after ++ further, presentNew, ?_, named, others⟩
  rw [← fields, split, List.append_assoc, List.cons_append]

theorem GrowsTo.reads (grown : old.GrowsTo new) {place next : Place} {component : String}
    {segment : Segment} (read : old.Reads place component segment next) :
    new.Reads place component segment next := by
  cases read with
  | field declared => exact .field (grown.declares declared)
  | position digits => exact .position digits
  | itemField noPosition inside declared =>
      exact .itemField noPosition inside (grown.declares declared)
  | anything => exact .anything

theorem GrowsTo.readsAll (grown : old.GrowsTo new) {place last : Place}
    {components : List String} {segments : List Segment}
    (read : old.ReadsAll place components segments last) :
    new.ReadsAll place components segments last := by
  induction read with
  | nil => exact .nil
  | cons one rest ih => exact .cons (grown.reads one) ih

/-- Where a value has no parts, no schema gives it any. -/
theorem Refuses.of_notTraversable {first second : Schema} {place : Place}
    {component field : String} (refused : first.Refuses place component (.notTraversable field)) :
    second.Refuses place component (.notTraversable field) := by
  cases refused with
  | insideItems noPosition inside refused => cases refused
  | plainItems noPosition inside => exact .plainItems noPosition inside
  | scalar declared => exact .scalar declared

theorem GrowsTo.resolve_ok (grown : old.GrowsTo new) {document path : String}
    {segments : List Segment} (resolved : old.resolve document path = .ok segments) :
    new.resolve document path = .ok segments := by
  rw [resolve_ok_iff] at resolved ⊢
  obtain ⟨nonempty, last, read⟩ := resolved
  exact ⟨nonempty, last, grown.readsAll read⟩

theorem resolve_empty (schema : Schema) (document : String) :
    schema.resolve document "" = .error ⟨"", .emptyPath⟩ := rfl

theorem GrowsTo.resolve_notTraversable (grown : old.GrowsTo new)
    {document path carried field : String}
    (failed : old.resolve document path = .error ⟨carried, .notTraversable field⟩) :
    new.resolve document path = .error ⟨carried, .notTraversable field⟩ := by
  by_cases empty : path = ""
  · rw [empty, resolve_empty] at failed
    cases failed
  · rw [resolve_error_iff empty, walk_error_iff] at failed ⊢
    obtain ⟨same, before, component, after, segments, reached, split, read, refused⟩ := failed
    exact ⟨same, before, component, after, segments, reached, split, grown.readsAll read,
      refused.of_notTraversable⟩

theorem GrowsTo.resolver? (grown : old.GrowsTo new) {document : String}
    (present : ∃ type, old.document? document = some type) :
    new.resolver? document = .ok (new.resolver document) := by
  obtain ⟨type, declared⟩ := present
  obtain ⟨larger, declaredNew, -⟩ := grown document type declared
  exact resolver?_ok_iff.mpr ⟨⟨larger, declaredNew⟩, rfl⟩

end

end Schema

namespace Resolver

/-- Whatever the first resolver resolves, the second resolves to the same segments. -/
def Within (first second : Resolver) : Prop :=
  ∀ path segments, first.segments path = .ok segments → second.segments path = .ok segments

section

variable {first second : Resolver}

theorem Within.validateKey (within : first.Within second) {key : String}
    (valid : first.validateKey key = .ok ()) : second.validateKey key = .ok () := by
  rw [validateKey_ok_iff] at valid ⊢
  obtain ⟨head, rest, resolved, unambiguous⟩ := valid
  exact ⟨head, rest, within _ _ resolved, unambiguous⟩

theorem Within.validate (within : first.Within second) {filters : FilterSet}
    (valid : first.validate filters = .ok ()) : second.validate filters = .ok () := by
  rw [Resolver.validate, validateKeys_ok_iff] at valid ⊢
  intro key present noRaw
  exact within.validateKey (valid key present noRaw)

theorem Within.compileFilter (within : first.Within second) {key : String} {value : Value}
    {fragment : List (String × Value)} (compiled : first.compileFilter key value = .ok fragment) :
    second.compileFilter key value = .ok fragment := by
  rw [compileFilter_ok_iff] at compiled ⊢
  obtain ⟨segments, leaf, resolved, last, shape⟩ := compiled
  exact ⟨segments, leaf, within _ _ resolved, last, shape⟩

theorem Within.contribution (within : first.Within second) {key : String} {value : Value}
    {fragment : List (String × Value)} (contributed : first.contribution key value = .ok fragment) :
    second.contribution key value = .ok fragment := by
  rw [contribution_ok_iff] at contributed ⊢
  exact contributed.imp_right fun filter => ⟨filter.1, within.compileFilter filter.2⟩

theorem Within.fragments (within : first.Within second) {entries : List (String × Value)}
    {collected : Fragments} (complete : first.fragments entries = .ok collected) :
    second.fragments entries = .ok collected := by
  induction entries generalizing collected with
  | nil => exact complete
  | cons entry rest ih =>
      rw [fragments_cons_ok_iff] at complete ⊢
      obtain ⟨fragment, others, contributed, completeRest, split⟩ := complete
      exact ⟨fragment, others, within.contribution contributed, ih completeRest, split⟩

theorem Within.compile (within : first.Within second) {filters : FilterSet}
    {query : List (String × Value)} (compiled : first.compile filters = .ok query) :
    second.compile filters = .ok query := by
  rw [compile_ok_iff] at compiled ⊢
  obtain ⟨collected, complete, merged⟩ := compiled
  exact ⟨collected, within.fragments complete, merged⟩

theorem Within.compileChecked (within : first.Within second) {filters : FilterSet}
    {query : List (String × Value)} (compiled : first.compileChecked filters = .ok query) :
    second.compileChecked filters = .ok query := by
  rw [compileChecked_ok_iff] at compiled ⊢
  exact ⟨within.validate compiled.1, within.compile compiled.2⟩

end

/-- When a schema grows, every document type stays declared. A path that resolved has the segments
it had, and one that failed for want of parts fails alike; a filter set that was accepted is
accepted, and one that compiled, checked or not, compiles to the query it had. -/
theorem growth_keeps_results {old new : Schema} (grown : old.GrowsTo new) {document : String}
    {resolver : Resolver} (bound : old.resolver? document = .ok resolver) :
    ∃ larger, new.resolver? document = .ok larger ∧
      (∀ path segments, resolver.segments path = .ok segments →
        larger.segments path = .ok segments) ∧
      (∀ path carried field, resolver.segments path = .error ⟨carried, .notTraversable field⟩ →
        larger.segments path = .error ⟨carried, .notTraversable field⟩) ∧
      (∀ key, resolver.validateKey key = .ok () → larger.validateKey key = .ok ()) ∧
      (∀ filters, resolver.validate filters = .ok () → larger.validate filters = .ok ()) ∧
      (∀ key value fragment, resolver.compileFilter key value = .ok fragment →
        larger.compileFilter key value = .ok fragment) ∧
      (∀ filters query, resolver.compile filters = .ok query →
        larger.compile filters = .ok query) ∧
      (∀ filters query, resolver.compileChecked filters = .ok query →
        larger.compileChecked filters = .ok query) := by
  obtain ⟨present, rfl⟩ := Schema.resolver?_ok_iff.mp bound
  have within : (old.resolver document).Within (new.resolver document) := by
    intro path segments resolved
    exact grown.resolve_ok resolved
  refine ⟨new.resolver document, grown.resolver? present, within, ?_, ?_, ?_, ?_, ?_, ?_⟩
  · intro path carried field failed
    exact grown.resolve_notTraversable failed
  · intro key valid
    exact within.validateKey valid
  · intro filters valid
    exact within.validate valid
  · intro key value fragment compiled
    exact within.compileFilter compiled
  · intro filters query compiled
    exact within.compile compiled
  · intro filters query compiled
    exact within.compileChecked compiled

/-- The schema of threads once people are declared. Posts and comments have fields of names they had
already, of other kinds. -/
def peopledThreads : Schema :=
  ((Schema.empty.withDocument "Post"
      ⟨[⟨"comments", some "c", .list (.list (.embedded "Comment"))⟩, ⟨"extra", none, .scalar .any⟩,
        ⟨"comments", none, .scalar .int⟩]⟩
    ).withDocument "Comment"
      ⟨[⟨"0", some "zero", .scalar .int⟩, ⟨"author", none, .embedded "Person"⟩,
        ⟨"replies", none, .list (.embedded "Comment")⟩, ⟨"author", some "a", .scalar .string⟩,
        ⟨"votes", none, .scalar .int⟩]⟩
    ).withDocument "Person" ⟨[⟨"name", some "n", .scalar .string⟩]⟩

theorem threads_growTo : Schema.threads.GrowsTo peopledThreads := by
  intro document type declared
  simp only [Schema.threads, Schema.document?, Schema.withDocument,
    OrderedMap.get?_insert] at declared
  simp only [peopledThreads, Schema.document?, Schema.withDocument, OrderedMap.get?_insert]
  split at declared
  · rename_i comment
    subst comment
    cases declared
    exact ⟨_, rfl, _, rfl⟩
  · split at declared
    · rename_i post
      subst post
      cases declared
      exact ⟨_, rfl, _, rfl⟩
    · cases declared

/-- A comment in a list of lists, looked up by its replies, and a part of a field that holds
anything. -/
def threadFilters : FilterSet :=
  OrderedMap.ofList [("comments__0__1__replies__0__gte", .string "3"),
    ("extra__author__in", .array [.string "3"])]

def threadFragments : Fragments :=
  [("comments__0__1__replies__0__gte", [("c.0.1.replies.0", .mapping [("$gte", .string "3")])]),
    ("extra__author__in", [("extra.author", .mapping [("$in", .array [.string "3"])])])]

def threadQuery : List (String × Value) :=
  [("c.0.1.replies.0", .mapping [("$gte", .string "3")]),
    ("extra.author", .mapping [("$in", .array [.string "3"])])]

theorem growth_keeps_threads :
    Schema.threads.GrowsTo peopledThreads ∧
    Schema.threads.resolver? "Post" = .ok (Schema.threads.resolver "Post") ∧
    (Schema.threads.resolver "Post").compile threadFilters = .ok threadQuery ∧
    ∃ larger, peopledThreads.resolver? "Post" = .ok larger ∧
      larger.compile threadFilters = .ok threadQuery := by
  have bound : Schema.threads.resolver? "Post" = .ok (Schema.threads.resolver "Post") := rfl
  have compiled : (Schema.threads.resolver "Post").compile threadFilters = .ok threadQuery :=
    (compile_ok_iff _ _ _).mpr ⟨threadFragments, rfl, rfl⟩
  obtain ⟨larger, boundNew, -, -, -, -, -, kept, -⟩ := growth_keeps_results threads_growTo bound
  exact ⟨threads_growTo, bound, compiled, larger, boundNew, kept _ _ compiled⟩

end Resolver

end DocFilter
