import DocFilter.Proofs.ByteOrder
import DocFilter.Proofs.EntryLists
import DocFilter.Proofs.PathJoins
import DocFilter.Schema.Notation

set_option autoImplicit false

namespace DocFilter

namespace Schema

def built (additions : List (String × DocumentType)) : Schema :=
  additions.foldl (fun schema addition => schema.withDocument addition.1 addition.2) empty

theorem document?_built (additions : List (String × DocumentType)) (name : String) :
    (built additions).document? name = Entries.last? name additions := by
  have documents : (built additions).documents =
      additions.foldl (fun filled pair => filled.insert pair.1 pair.2) OrderedMap.empty :=
    (List.foldl_hom Schema.documents fun _ _ => rfl).symm
  rw [document?, documents, OrderedMap.get?_foldl_insert, OrderedMap.get?_empty, Option.or_none]

theorem eq_of_documents {first second : Schema}
    (same : ∀ name, first.document? name = second.document? name) : first = second := by
  obtain ⟨documents⟩ := first
  obtain ⟨others⟩ := second
  exact congrArg Schema.mk (OrderedMap.ext same)

/-- Additions make the same schema exactly if they end alike for every name. -/
theorem built_eq_iff (additions others : List (String × DocumentType)) :
    built additions = built others ↔
      ∀ name, Entries.last? name additions = Entries.last? name others := by
  simp only [← document?_built]
  exact ⟨fun same name => by rw [same], eq_of_documents⟩

theorem documentNames_ascending (schema : Schema) :
    schema.documentNames.Pairwise fun first second => utf8 first < utf8 second := by
  rw [documentNames, OrderedMap.keys, Entries.keys, List.pairwise_map]
  apply schema.documents.ascending.imp
  intro first second less
  exact (utf8_lt_iff first.1 second.1).mpr less

theorem mem_documentNames_iff (schema : Schema) (name : String) :
    name ∈ schema.documentNames ↔ ∃ type, schema.document? name = some type :=
  schema.documents.mem_keys_iff name

theorem mem_documentNames_built (additions : List (String × DocumentType)) (name : String) :
    name ∈ (built additions).documentNames ↔ name ∈ Entries.keys additions := by
  rw [mem_documentNames_iff, document?_built, ← Option.isSome_iff_exists,
    Option.isSome_iff_ne_none, ne_eq, Entries.last?_eq_none_iff, not_not]

/-- At the place a component names a field of the document type. -/
def Enters (place : Place) (component document : String) : Prop :=
  place.kind = .embedded document ∨ ∃ item, place.kind = .list item ∧
    item.innermost = .embedded document ∧ ¬ IsDigits component

theorem step_of_enters (schema : Schema) {place : Place} {component document : String}
    (enters : Enters place component document) :
    schema.step place component = schema.enter document component := by
  obtain ⟨last, kind⟩ := place
  rcases enters with embedded | ⟨item, list, inside, noPosition⟩
  · obtain rfl : kind = .embedded document := embedded
    exact schema.step_embedded last document component
  · obtain rfl : kind = .list item := list
    exact step_insideItems noPosition inside last

/-- What the last component of a path finds in the document type that it enters. -/
theorem resolve_of_enters (schema : Schema) {first document component path : String}
    {before : List String} {front : List Segment} {place : Place}
    (read : schema.ReadsAll (start first) before front place)
    (enters : Enters place component document) (nonempty : path ≠ "")
    (cut : pathComponents path = before ++ [component]) :
    schema.resolve first path = ((schema.fieldOf document component).map
      fun field => front ++ [.field field]).mapError (ResolutionError.mk path) := by
  have walked : schema.walk place [component] =
      (schema.fieldOf document component).map fun field => [.field field] := by
    rw [walk, step_of_enters schema enters, enter]
    cases schema.fieldOf document component <;> rfl
  rw [read.resolve_eq nonempty cut, walked]
  cases schema.fieldOf document component <;> rfl

/-- A schema made step by step means its last additions. Its names ascend in the order of their
bytes and are those that were added, each with what was added last under it. Whatever path leads to
a reference, its next component is looked up in what was added last under the name that is referred
to. So additions that end alike for every name are not told apart. -/
theorem built_means_last_additions (additions : List (String × DocumentType)) :
    ((built additions).documentNames.Pairwise fun first second => utf8 first < utf8 second) ∧
    (∀ name, name ∈ (built additions).documentNames ↔ ∃ type, (name, type) ∈ additions) ∧
    (∀ name, (built additions).document? name = Entries.last? name additions) ∧
    (∀ name, (built additions).resolver? name =
      if (Entries.last? name additions).isSome then .ok ((built additions).resolver name)
      else .error ⟨name, (built additions).documentNames⟩) ∧
    (∀ {first document component path : String} {before : List String} {front : List Segment}
        {place : Place}, (built additions).ReadsAll (start first) before front place →
      Enters place component document → path ≠ "" → pathComponents path = before ++ [component] →
      (built additions).resolve first path =
        match Entries.last? document additions with
        | none => .error ⟨path, .unknownDocument document⟩
        | some type =>
            match type.field? component with
            | none => .error ⟨path, .fieldNotFound document component⟩
            | some field => .ok (front ++ [.field field])) ∧
    ∀ others, (∀ name, Entries.last? name additions = Entries.last? name others) →
      (built additions).text = (built others).text ∧
      ∀ document, (built additions).resolver? document = (built others).resolver? document ∧
        ∀ path, (built additions).resolve document path = (built others).resolve document path := by
  refine ⟨documentNames_ascending _, ?_, document?_built additions, ?_, ?_, ?_⟩
  · intro name
    rw [mem_documentNames_built, Entries.keys, List.mem_map]
    constructor
    · rintro ⟨⟨_, type⟩, member, rfl⟩
      exact ⟨type, member⟩
    · rintro ⟨type, member⟩
      exact ⟨(name, type), member, rfl⟩
  · intro name
    rw [resolver?, document?_built]
    cases Entries.last? name additions <;> rfl
  · intro first document component path before front place read enters nonempty cut
    rw [resolve_of_enters _ read enters nonempty cut, fieldOf, document?_built]
    cases Entries.last? document additions with
    | none => rfl
    | some type =>
        simp only
        cases type.field? component <;> rfl
  · intro others same
    rw [(built_eq_iff additions others).mpr same]
    exact ⟨rfl, fun document => ⟨rfl, fun path => rfl⟩⟩

def commentFields : DocumentType :=
  ⟨[⟨"author", some "a", .scalar .string⟩]⟩

def postFields : DocumentType :=
  ⟨[⟨"comments", none, .list (.list (.embedded "Comment"))⟩]⟩

/-- Comments are added behind the posts that refer to them, and replaced. -/
def commentsReplaced : List (String × DocumentType) :=
  [("Post", postFields), ("Comment", ⟨[⟨"author", none, .scalar .int⟩]⟩),
    ("Comment", commentFields)]

/-- The same in the end, but with the posts replaced. -/
def postsReplaced : List (String × DocumentType) :=
  [("Comment", commentFields), ("Post", ⟨[]⟩), ("Post", postFields)]

theorem built_means_last_additions_comments :
    (built commentsReplaced).resolve "Post" "comments.0.author" =
      .ok [.field ⟨"comments", none, .list (.list (.embedded "Comment"))⟩, .raw "0",
        .field ⟨"author", some "a", .scalar .string⟩] ∧
    (built commentsReplaced).text = (built postsReplaced).text ∧
    (built commentsReplaced).resolve "Post" "comments.0.author" =
      (built postsReplaced).resolve "Post" "comments.0.author" := by
  obtain ⟨-, -, document, -, follows, alike⟩ := built_means_last_additions commentsReplaced
  have same : ∀ name, Entries.last? name commentsReplaced = Entries.last? name postsReplaced := by
    intro name
    by_cases post : "Post" = name
    · subst post
      rfl
    · by_cases comment : "Comment" = name
      · subst comment
        rfl
      · simp [Entries.last?, commentsReplaced, postsReplaced, post, comment]
  obtain ⟨sameText, sameResults⟩ := alike postsReplaced same
  refine ⟨?_, sameText, (sameResults "Post").2 _⟩
  have declared : (built commentsReplaced).Declares "Post" "comments"
      ⟨"comments", none, .list (.list (.embedded "Comment"))⟩ :=
    ⟨postFields, [], [], document "Post", rfl, rfl, by simp⟩
  have digits : IsDigits "0" := by decide
  have noPosition : ¬ IsDigits "author" := by decide
  have read : (built commentsReplaced).ReadsAll (start "Post") ["comments", "0"] _ _ :=
    .cons (.field declared) (.cons (.position digits) .nil)
  exact follows read (Or.inr ⟨_, rfl, rfl, noPosition⟩) (by decide) rfl

end Schema

end DocFilter
