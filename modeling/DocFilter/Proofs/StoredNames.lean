import DocFilter.Filter.Compilation
import DocFilter.Proofs.PathGrammar
import Mathlib.Data.List.Forall2

set_option autoImplicit false

namespace DocFilter

/-- The two results are the same error, or they are values that are related. -/
def SameOutcome {ε α : Type} (related : α → α → Prop) (first second : Except ε α) : Prop :=
  (∃ error, first = .error error ∧ second = .error error) ∨
    ∃ value other, first = .ok value ∧ second = .ok other ∧ related value other

theorem SameOutcome.failed {ε α : Type} {related : α → α → Prop} (error : ε) :
    SameOutcome related (.error error) (.error error) :=
  Or.inl ⟨error, rfl, rfl⟩

theorem SameOutcome.succeeded {ε α : Type} {related : α → α → Prop} {value other : α}
    (alike : related value other) :
    SameOutcome related (.ok value : Except ε α) (.ok other) :=
  Or.inr ⟨value, other, rfl, rfl, alike⟩

theorem optionRel_cases {α : Type} {related : α → α → Prop} {first second : Option α}
    (alike : Option.Rel related first second) :
    (first = none ∧ second = none) ∨
      ∃ value other, first = some value ∧ second = some other ∧ related value other := by
  cases alike with
  | none => exact Or.inl ⟨rfl, rfl⟩
  | some one => exact Or.inr ⟨_, _, rfl, rfl, one⟩

structure Field.Alike (first second : Field) : Prop where
  name : first.name = second.name
  kind : first.kind = second.kind

def DocumentType.Alike (first second : DocumentType) : Prop :=
  List.Forall₂ Field.Alike first.fields second.fields

/-- The schemas differ in the stored names of their fields and in nothing else. -/
def Schema.Alike (first second : Schema) : Prop :=
  ∀ document, Option.Rel DocumentType.Alike (first.document? document) (second.document? document)

inductive Segment.Alike : Segment → Segment → Prop where
  | field {first second : Field} (alike : first.Alike second) :
      Segment.Alike (.field first) (.field second)
  | raw (text : String) : Segment.Alike (.raw text) (.raw text)

/-- The step or walk of two schemas that came to the same place. -/
def Schema.SameStep (first second : Segment × Place) : Prop :=
  first.1.Alike second.1 ∧ first.2 = second.2

theorem DocumentType.Alike.field? {first second : DocumentType} (alike : first.Alike second)
    (name : String) : Option.Rel Field.Alike (first.field? name) (second.field? name) := by
  obtain ⟨fields⟩ := first
  obtain ⟨others⟩ := second
  simp only [DocumentType.field?]
  change List.Forall₂ Field.Alike fields others at alike
  induction alike with
  | nil => exact .none
  | @cons field other _ _ one _ ih =>
      rw [List.find?_cons, List.find?_cons, ← one.name]
      by_cases named : field.name = name
      · simpa only [named, decide_true] using Option.Rel.some one
      · simpa only [named, decide_false] using ih

namespace Schema

variable {first second : Schema}

theorem Alike.fieldOf (alike : first.Alike second) (document component : String) :
    SameOutcome Field.Alike (first.fieldOf document component)
      (second.fieldOf document component) := by
  simp only [Schema.fieldOf]
  rcases optionRel_cases (alike document) with ⟨absent, otherAbsent⟩ |
    ⟨type, other, present, otherPresent, types⟩
  · rw [absent, otherAbsent]
    exact .failed _
  · rw [present, otherPresent]
    dsimp only
    rcases optionRel_cases (types.field? component) with ⟨unnamed, otherUnnamed⟩ |
      ⟨field, otherField, named, otherNamed, fields⟩
    · rw [unnamed, otherUnnamed]
      exact .failed _
    · rw [named, otherNamed]
      exact .succeeded fields

theorem Alike.enter (alike : first.Alike second) (document component : String) :
    SameOutcome SameStep (first.enter document component) (second.enter document component) := by
  simp only [Schema.enter]
  rcases alike.fieldOf document component with ⟨cause, failed, otherFailed⟩ |
    ⟨field, other, found, otherFound, fields⟩
  · rw [failed, otherFailed]
    exact .failed cause
  · rw [found, otherFound]
    refine .succeeded ⟨.field fields, ?_⟩
    rw [fields.name, fields.kind]

theorem Alike.step (alike : first.Alike second) (place : Place) (component : String) :
    SameOutcome SameStep (first.step place component) (second.step place component) := by
  obtain ⟨last, kind⟩ := place
  cases kind with
  | embedded document => exact alike.enter document component
  | list item =>
      simp only [Schema.step]
      split
      · exact .succeeded ⟨.raw component, rfl⟩
      · split
        · exact alike.enter _ component
        · exact .failed _
  | scalar type =>
      cases type with
      | any => exact .succeeded ⟨.raw component, rfl⟩
      | _ => exact .failed _

/-- By induction on the components: the places after each step are the same, so the walks never
part. -/
theorem Alike.walk (alike : first.Alike second) (place : Place) (components : List String) :
    SameOutcome (List.Forall₂ Segment.Alike) (first.walk place components)
      (second.walk place components) := by
  induction components generalizing place with
  | nil => exact .succeeded .nil
  | cons component rest ih =>
      simp only [Schema.walk]
      rcases alike.step place component with ⟨cause, failed, otherFailed⟩ |
        ⟨⟨segment, next⟩, ⟨other, _⟩, stepped, otherStepped, alikeSegments, rfl⟩
      · rw [failed, otherFailed]
        exact .failed cause
      · rw [stepped, otherStepped]
        dsimp only
        rcases ih next with ⟨cause, failed, otherFailed⟩ |
          ⟨segments, others, walked, otherWalked, alikeRest⟩
        · rw [failed, otherFailed]
          exact .failed cause
        · rw [walked, otherWalked]
          exact .succeeded (.cons alikeSegments alikeRest)

theorem Alike.resolve (alike : first.Alike second) (document path : String) :
    SameOutcome (List.Forall₂ Segment.Alike) (first.resolve document path)
      (second.resolve document path) := by
  simp only [Schema.resolve]
  split
  · exact .failed _
  · rcases alike.walk ⟨document, .embedded document⟩ (pathComponents path) with
      ⟨cause, failed, otherFailed⟩ | ⟨segments, others, walked, otherWalked, alikeSegments⟩
    · rw [failed, otherFailed]
      exact .failed _
    · rw [walked, otherWalked]
      exact .succeeded alikeSegments

end Schema

theorem getLast?_rel {α : Type} {related : α → α → Prop} {first second : List α}
    (alike : List.Forall₂ related first second) :
    Option.Rel related first.getLast? second.getLast? := by
  rw [← List.head?_reverse, ← List.head?_reverse]
  have reversed := List.forall₂_reverse_iff.mpr alike
  generalize first.reverse = row at reversed ⊢
  generalize second.reverse = others at reversed ⊢
  cases reversed with
  | nil => exact .none
  | cons last _ => exact .some last

theorem Segment.Alike.isComposite {first second : Segment} (alike : first.Alike second) :
    first.isComposite = second.isComposite := by
  cases alike with
  | field fields => simp only [Segment.isComposite, Field.isComposite, fields.kind]
  | raw text => rfl

theorem Operator.transform_alike {first second : Segment} (alike : first.Alike second)
    (operator : Operator) (value : Value) :
    operator.transform first.field? value = operator.transform second.field? value := by
  have encodes : encodeFor first.field? = encodeFor second.field? := by
    funext value
    cases alike with
    | field fields => simp only [Segment.field?, encodeFor, Field.encode, fields.kind]
    | raw text => rfl
  unfold transform
  rw [encodes]

namespace Resolver

/-- The resolvers fail alike, and where they succeed their segments differ in stored names only. -/
def Alike (first second : Resolver) : Prop :=
  ∀ path, SameOutcome (List.Forall₂ Segment.Alike) (first.segments path) (second.segments path)

section

variable {first second : Resolver}

theorem Alike.validateKey (alike : first.Alike second) (key : String) :
    first.validateKey key = second.validateKey key := by
  simp only [Resolver.validateKey]
  rcases alike (FilterKey.parse key).path with ⟨error, failed, otherFailed⟩ |
    ⟨segments, others, resolved, otherResolved, same⟩
  · rw [failed, otherFailed]
  · rw [resolved, otherResolved]
    cases same with
    | nil => rfl
    | cons heads _ => simp only [heads.isComposite]

theorem Alike.validate (alike : first.Alike second) (filters : FilterSet) :
    first.validate filters = second.validate filters := by
  unfold Resolver.validate
  induction filters.keys with
  | nil => rfl
  | cons key rest ih => simp only [validateKeys, ih, alike.validateKey key]

/-- Both compile the filter to the same shape, each under its own wire name of the key's path, or
both fail to compile it for the same reason. -/
theorem Alike.compileFilter (alike : first.Alike second) (key : String) (value : Value) :
    (∃ segments others shape, first.segments (FilterKey.parse key).path = .ok segments ∧
      second.segments (FilterKey.parse key).path = .ok others ∧
      first.compileFilter key value = .ok [(wireName segments, shape)] ∧
      second.compileFilter key value = .ok [(wireName others, shape)]) ∨
    ∃ error, first.compileFilter key value = .error error ∧
      second.compileFilter key value = .error error := by
  simp only [Resolver.compileFilter]
  rcases alike (FilterKey.parse key).path with ⟨error, failed, otherFailed⟩ |
    ⟨segments, others, resolved, otherResolved, same⟩
  · rw [failed, otherFailed]
    exact Or.inr ⟨error, rfl, rfl⟩
  · rw [resolved, otherResolved]
    dsimp only
    rcases optionRel_cases (getLast?_rel same) with ⟨empty, otherEmpty⟩ |
      ⟨leaf, otherLeaf, last, otherLast, leaves⟩
    · rw [empty, otherEmpty]
      exact Or.inr ⟨_, rfl, rfl⟩
    · rw [last, otherLast]
      dsimp only
      rw [Operator.transform_alike leaves]
      exact Or.inl ⟨segments, others, _, rfl, rfl, rfl, rfl⟩

end

/-- Over schemas that differ in stored names only, a path has segments that agree in all but their
stored names, or it fails with the same error. Validation gives the same verdict, and a filter
compiles to the same shape, under each schema's own wire name for the path of its key. -/
theorem stored_names_only_rename {first second : Schema} (alike : first.Alike second)
    {document : String} {resolver : Resolver} (bound : first.resolver? document = .ok resolver) :
    ∃ other, second.resolver? document = .ok other ∧
      (∀ path, SameOutcome (List.Forall₂ Segment.Alike) (resolver.segments path)
        (other.segments path)) ∧
      (∀ key, resolver.validateKey key = other.validateKey key) ∧
      (∀ filters, resolver.validate filters = other.validate filters) ∧
      (∀ key value,
        (∃ segments others shape, resolver.segments (FilterKey.parse key).path = .ok segments ∧
          other.segments (FilterKey.parse key).path = .ok others ∧
          resolver.compileFilter key value = .ok [(wireName segments, shape)] ∧
          other.compileFilter key value = .ok [(wireName others, shape)]) ∨
        ∃ error, resolver.compileFilter key value = .error error ∧
          other.compileFilter key value = .error error) := by
  obtain ⟨⟨type, declared⟩, rfl⟩ := Schema.resolver?_ok_iff.mp bound
  have resolvers : (first.resolver document).Alike (second.resolver document) := by
    intro path
    exact alike.resolve document path
  refine ⟨second.resolver document, ?_, resolvers, ?_, ?_, ?_⟩
  · rcases optionRel_cases (alike document) with ⟨absent, -⟩ | ⟨-, other, -, present, -⟩
    · rw [declared] at absent
      cases absent
    · exact Schema.resolver?_ok_iff.mpr ⟨⟨other, present⟩, rfl⟩
  · intro key
    exact resolvers.validateKey key
  · intro filters
    exact resolvers.validate filters
  · intro key value
    exact resolvers.compileFilter key value

/-- The schema of threads with other stored names: the ones it has are dropped, and the replies are
stored under the name of the comments. -/
def renamedThreads : Schema :=
  (Schema.empty.withDocument "Post"
      ⟨[⟨"comments", none, .list (.list (.embedded "Comment"))⟩,
        ⟨"extra", some "e", .scalar .any⟩]⟩
    ).withDocument "Comment"
      ⟨[⟨"0", none, .scalar .int⟩, ⟨"author", some "", .embedded "Person"⟩,
        ⟨"replies", some "comments", .list (.embedded "Comment")⟩]⟩

theorem threads_alike : Schema.threads.Alike renamedThreads := by
  intro document
  simp only [Schema.threads, renamedThreads, Schema.document?, Schema.withDocument,
    OrderedMap.get?_insert]
  split
  · exact .some (.cons ⟨rfl, rfl⟩ (.cons ⟨rfl, rfl⟩ (.cons ⟨rfl, rfl⟩ .nil)))
  · split
    · exact .some (.cons ⟨rfl, rfl⟩ (.cons ⟨rfl, rfl⟩ .nil))
    · exact .none

/-- A bound for the number in a comment, under a wire name. -/
def belowThree (name : String) : List (String × Value) :=
  [(name, .mapping [("$lt", .number (.integer 3 (by decide) (by decide)))])]

theorem stored_names_only_rename_threads :
    Schema.threads.Alike renamedThreads ∧
    Schema.threads.resolver? "Post" = .ok (Schema.threads.resolver "Post") ∧
    (Schema.threads.resolver "Post").compileFilter "comments__0__1__0__lt" (.string "3") =
      .ok (belowThree "c.0.1.zero") ∧
    ∃ other name, renamedThreads.resolver? "Post" = .ok other ∧
      other.compileFilter "comments__0__1__0__lt" (.string "3") = .ok (belowThree name) := by
  have bound : Schema.threads.resolver? "Post" = .ok (Schema.threads.resolver "Post") := rfl
  have compiled : (Schema.threads.resolver "Post").compileFilter "comments__0__1__0__lt"
      (.string "3") = .ok (belowThree "c.0.1.zero") := rfl
  obtain ⟨other, boundOther, -, -, -, compiles⟩ := stored_names_only_rename threads_alike bound
  refine ⟨threads_alike, bound, compiled, other, ?_⟩
  rcases compiles "comments__0__1__0__lt" (.string "3") with
    ⟨segments, others, shape, -, -, own, otherwise⟩ | ⟨error, failed, -⟩
  · rw [compiled, belowThree, Except.ok.injEq, List.cons.injEq, Prod.mk.injEq] at own
    refine ⟨wireName others, boundOther, ?_⟩
    rw [otherwise, belowThree, own.1.2]
  · rw [compiled] at failed
    cases failed

end Resolver

end DocFilter
