import DocFilter.Proofs.WireNames

set_option autoImplicit false

namespace DocFilter

namespace Schema

variable {schema : Schema}

theorem ReadsAll.append {place reached last : Place} {before after : List String}
    {front others : List Segment} (read : schema.ReadsAll place before front reached)
    (onward : schema.ReadsAll reached after others last) :
    schema.ReadsAll place (before ++ after) (front ++ others) last := by
  induction read with
  | nil => exact onward
  | cons first _ ih => exact .cons first (ih onward)

/-- Two rows are read one after the other exactly if the second is read where the first leads. -/
theorem readsAll_append_iff {place last : Place} {before after : List String}
    {segments : List Segment} :
    schema.ReadsAll place (before ++ after) segments last ↔
      ∃ front others reached, segments = front ++ others ∧
        schema.ReadsAll place before front reached ∧
        schema.ReadsAll reached after others last := by
  constructor
  · intro read
    induction before generalizing place segments with
    | nil => exact ⟨[], segments, place, rfl, .nil, read⟩
    | cons component rest ih =>
        cases read with
        | cons first more =>
            obtain ⟨front, others, reached, rfl, readFront, onward⟩ := ih more
            exact ⟨_ :: front, others, reached, rfl, .cons first readFront, onward⟩
  · intro parts
    obtain ⟨front, others, reached, rfl, read, onward⟩ := parts
    exact read.append onward

theorem ReadsAll.walk_append {place reached : Place} {before : List String}
    {front : List Segment} (read : schema.ReadsAll place before front reached)
    (after : List String) :
    schema.walk place (before ++ after) = (schema.walk reached after).map (front ++ ·) := by
  induction read with
  | @nil place =>
      rw [List.nil_append]
      cases schema.walk place after <;> rfl
  | @cons place next reached component rest segment front first others ih =>
      rw [List.cons_append, walk_cons_of_reads first, ih]
      cases schema.walk reached after <;> rfl

theorem walk_append_of_error {place : Place} {before : List String} {cause : ResolutionCause}
    (failed : schema.walk place before = .error cause) (after : List String) :
    schema.walk place (before ++ after) = .error cause := by
  obtain ⟨front, component, behind, segments, reached, rfl, read, refused⟩ :=
    walk_error_iff.mp failed
  apply walk_error_iff.mpr
  refine ⟨front, component, behind ++ after, segments, reached, ?_, read, refused⟩
  rw [List.append_assoc, List.cons_append]

theorem resolve_eq_walk {path : String} (nonempty : path ≠ "") (document : String) :
    schema.resolve document path =
      (schema.walk (start document) (pathComponents path)).mapError (ResolutionError.mk path) := by
  rw [resolve, start]
  simp only [String.isEmpty_iff, nonempty, ↓reduceIte]
  cases schema.walk ⟨document, .embedded document⟩ (pathComponents path) <;> rfl

theorem append_dot_ne_empty (path rest : String) : path ++ "." ++ rest ≠ "" := by
  intro empty
  simpa using congrArg String.toList empty

theorem ReadsAll.resolve_eq {document path : String} {before after : List String}
    {front : List Segment} {reached : Place}
    (read : schema.ReadsAll (start document) before front reached) (nonempty : path ≠ "")
    (cut : pathComponents path = before ++ after) :
    schema.resolve document path =
      ((schema.walk reached after).map (front ++ ·)).mapError (ResolutionError.mk path) := by
  rw [resolve_eq_walk nonempty, cut, read.walk_append]

theorem resolve_append_of_error {document path : String} (nonempty : path ≠ "")
    {error : ResolutionError} (failed : schema.resolve document path = .error error)
    (rest : String) :
    schema.resolve document (path ++ "." ++ rest) =
      .error ⟨path ++ "." ++ rest, error.cause⟩ := by
  obtain ⟨-, walked⟩ := (resolve_error_iff nonempty).mp failed
  rw [resolve_eq_walk (append_dot_ne_empty path rest), pathComponents_append_dot,
    walk_append_of_error walked]
  rfl

/-- A path that resolves has started with one that resolves, wherever it is cut at a dot. -/
theorem resolve_of_append_ok {document path rest : String} (nonempty : path ≠ "")
    {segments : List Segment}
    (resolved : schema.resolve document (path ++ "." ++ rest) = .ok segments) :
    ∃ front others, schema.resolve document path = .ok front ∧ segments = front ++ others ∧
      wireName segments = wireName front ++ "." ++ wireName others := by
  obtain ⟨-, last, read⟩ := resolve_ok_iff.mp resolved
  rw [pathComponents_append_dot, readsAll_append_iff] at read
  obtain ⟨front, others, reached, rfl, readFront, onward⟩ := read
  exact ⟨front, others, resolve_ok_iff.mpr ⟨nonempty, reached, readFront⟩, rfl,
    wireName_append readFront.ne_nil onward.ne_nil⟩

/-- A path is decided from left to right. If it fails, then whatever is put behind it fails with the
same error, at the longer path. If something behind it resolves, then the path resolves to the first
of those segments, and its wire name and a dot come first in the longer one. -/
theorem decided_left_to_right {document : String} {resolver : Resolver}
    (bound : schema.resolver? document = .ok resolver) {path : String} (nonempty : path ≠ "")
    (rest : String) :
    (∀ error, resolver.segments path = .error error →
      resolver.segments (path ++ "." ++ rest) =
        .error { error with path := path ++ "." ++ rest }) ∧
    (∀ segments, resolver.segments (path ++ "." ++ rest) = .ok segments →
      ∃ front others, resolver.segments path = .ok front ∧ segments = front ++ others ∧
        wireName segments = wireName front ++ "." ++ wireName others) := by
  obtain ⟨-, rfl⟩ := resolver?_ok_iff.mp bound
  constructor
  · intro error failed
    exact resolve_append_of_error nonempty failed rest
  · intro segments resolved
    exact resolve_of_append_ok nonempty resolved

/-- An undeclared field in a list of lists, and what follows it; then an empty component below a
field that holds anything. -/
theorem decided_left_to_right_threads :
    threads.resolver? "Post" = .ok (threads.resolver "Post") ∧
    "comments.0.votes" ≠ "" ∧ "extra.a." ≠ "" ∧
    (threads.resolver "Post").segments "comments.0.votes" =
      .error ⟨"comments.0.votes", .fieldNotFound "Comment" "votes"⟩ ∧
    (threads.resolver "Post").segments ("comments.0.votes" ++ "." ++ "3") =
      .error ⟨"comments.0.votes.3", .fieldNotFound "Comment" "votes"⟩ ∧
    ∃ segments front others,
      (threads.resolver "Post").segments ("extra.a." ++ "." ++ "b") = .ok segments ∧
      (threads.resolver "Post").segments "extra.a." = .ok front ∧ segments = front ++ others ∧
      "extra.a..b" = wireName front ++ "." ++ wireName others := by
  have bound : threads.resolver? "Post" = .ok (threads.resolver "Post") := rfl
  have listed : "comments.0.votes" ≠ "" := by decide
  have dynamic : "extra.a." ≠ "" := by decide
  have failed : (threads.resolver "Post").segments "comments.0.votes" =
      .error ⟨"comments.0.votes", .fieldNotFound "Comment" "votes"⟩ := rfl
  have whole : (threads.resolver "Post").segments ("extra.a." ++ "." ++ "b") =
      .ok [.field ⟨"extra", none, .scalar .any⟩, .raw "a", .raw "", .raw "b"] := rfl
  have fails := (decided_left_to_right bound listed "3").1 _ failed
  obtain ⟨front, others, resolved, parts, names⟩ :=
    (decided_left_to_right bound dynamic "b").2 _ whole
  exact ⟨bound, listed, dynamic, failed, fails, _, front, others, whole, resolved, parts, names⟩

end Schema

end DocFilter
