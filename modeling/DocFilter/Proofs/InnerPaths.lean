import DocFilter.Proofs.CompileFailure
import DocFilter.Proofs.PathJoins
import DocFilter.Proofs.StoredNames

set_option autoImplicit false

namespace DocFilter

namespace Kind

/-- A list nested so many times around a kind. -/
def listed (base : Kind) : Nat → Kind
  | 0 => base
  | depth + 1 => .list (base.listed depth)

theorem innermost_listed (base : Kind) (depth : Nat) :
    (base.listed depth).innermost = base.innermost := by
  induction depth with
  | zero => rfl
  | succ depth ih => exact ih

theorem innermost_of_noList {kind : Kind} (noList : ∀ item, kind ≠ .list item) :
    kind.innermost = kind := by
  cases kind with
  | list item => exact absurd rfl (noList item)
  | _ => rfl

theorem innermost_ne_list (kind item : Kind) : kind.innermost ≠ .list item := by
  induction kind with
  | scalar type => simp [innermost]
  | embedded document => simp [innermost]
  | list inner ih => exact ih

end Kind

def NoPositionFirst (path : String) : Prop :=
  ∀ component, (pathComponents path).head? = some component → ¬ IsDigits component

/-- The two paths end alike: both resolve, to the same segments behind what stands in front of each,
or both fail for the same cause, each at its own path. -/
inductive Resolver.EndAlike (resolver other : Resolver) (path otherPath : String)
    (front otherFront : List Segment) : Prop where
  | resolved {more : List Segment} (nonempty : more ≠ [])
      (first : resolver.segments path = .ok (front ++ more))
      (second : other.segments otherPath = .ok (otherFront ++ more))
  | failed {cause : ResolutionCause} (first : resolver.segments path = .error ⟨path, cause⟩)
      (second : other.segments otherPath = .error ⟨otherPath, cause⟩)

theorem IsDigits.dotFree {component : String} (digits : IsDigits component) :
    '.' ∉ component.toList := by
  intro dot
  have bounds := digits.2 '.' dot
  revert bounds
  decide

namespace Schema

variable {schema : Schema}

theorem ReadsAll.place_eq {place last : Place} {components : List String}
    {segments : List Segment} (read : schema.ReadsAll place components segments last)
    {field : Field} (leaf : segments.getLast? = some (.field field)) :
    last = ⟨field.name, field.kind⟩ := by
  induction read with
  | nil => cases leaf
  | cons first others ih =>
      cases others with
      | nil =>
          cases leaf
          cases first with
          | field _ => rfl
          | itemField _ _ _ => rfl
      | cons second more => exact ih (by simpa using leaf)

/-- A component that is no position is read in lists as it is where all of them are looked through,
unless anything may be there. -/
theorem step_eq_step_innermost {component : String} (noPosition : ¬ IsDigits component)
    {kind : Kind} (declared : kind.innermost ≠ .scalar .any) (last : String) :
    schema.step ⟨last, kind⟩ component = schema.step ⟨last, kind.innermost⟩ component := by
  cases kind with
  | scalar type => rfl
  | embedded document => rfl
  | list item =>
      change item.innermost ≠ .scalar .any at declared
      change schema.step ⟨last, .list item⟩ component =
        schema.step ⟨last, item.innermost⟩ component
      cases inside : item.innermost with
      | scalar type =>
          rw [inside, ne_eq, Kind.scalar.injEq] at declared
          rw [step_plainItems noPosition (by simp [inside]), step_scalar declared]
      | embedded document => rw [step_insideItems noPosition inside, step_embedded]
      | list inner => exact absurd inside (item.innermost_ne_list inner)

/-- Embedded documents are entered as from their document type, positions apart. -/
theorem step_eq_step_start {component document : String} {kind : Kind}
    (inside : kind.innermost = .embedded document)
    (noPosition : ∀ item, kind = .list item → ¬ IsDigits component) (last : String) :
    schema.step ⟨last, kind⟩ component = schema.step (start document) component := by
  by_cases list : ∃ item, kind = .list item
  · obtain ⟨item, rfl⟩ := list
    rw [step_eq_step_innermost (noPosition item rfl) (by simp [inside]), inside]
    rfl
  · rw [Kind.innermost_of_noList (not_exists.mp list)] at inside
    rw [inside]
    rfl

theorem step_listed {component : String} (noPosition : ¬ IsDigits component) {base : Kind}
    (noList : ∀ item, base ≠ .list item) (declared : base ≠ .scalar .any) (last : String)
    (depth : Nat) :
    schema.step ⟨last, base.listed depth⟩ component = schema.step ⟨last, base⟩ component := by
  have inside : (base.listed depth).innermost = base := by
    rw [Kind.innermost_listed, Kind.innermost_of_noList noList]
  rw [step_eq_step_innermost noPosition (by rwa [inside]), inside]

theorem walk_eq_of_step_eq {place other : Place} {path : String}
    (same : ∀ component, (pathComponents path).head? = some component →
      schema.step place component = schema.step other component) :
    schema.walk place (pathComponents path) = schema.walk other (pathComponents path) := by
  cases components : pathComponents path with
  | nil => exact absurd components (pathComponents_ne_nil path)
  | cons component rest =>
      rw [walk, walk, same component (by rw [components]; rfl)]

theorem readsAll_positions {positions : List String}
    (digits : ∀ position ∈ positions, IsDigits position) (last : String) (base : Kind)
    (depth : Nat) :
    schema.ReadsAll ⟨last, base.listed (positions.length + depth)⟩ positions
      (positions.map .raw) ⟨last, base.listed depth⟩ := by
  induction positions with
  | nil =>
      rw [List.length_nil, Nat.zero_add]
      exact .nil
  | cons position rest ih =>
      rw [List.forall_mem_cons] at digits
      rw [List.length_cons, Nat.add_right_comm]
      exact .cons (.position digits.1) (ih digits.2)

theorem walk_ne_nil {place : Place} {path : String} {segments : List Segment}
    (walked : schema.walk place (pathComponents path) = .ok segments) : segments ≠ [] := by
  obtain ⟨last, read⟩ := walk_ok_iff.mp walked
  exact read.ne_nil

theorem endAlike_of_walk {resolver other : Resolver} {path otherPath rest : String}
    {front otherFront : List Segment} {place : Place}
    (first : resolver.segments path =
      ((schema.walk place (pathComponents rest)).map (front ++ ·)).mapError
        (ResolutionError.mk path))
    (second : other.segments otherPath =
      ((schema.walk place (pathComponents rest)).map (otherFront ++ ·)).mapError
        (ResolutionError.mk otherPath)) :
    resolver.EndAlike other path otherPath front otherFront := by
  cases walked : schema.walk place (pathComponents rest) with
  | ok more =>
      rw [walked] at first second
      exact .resolved (walk_ne_nil walked) first second
  | error cause =>
      rw [walked] at first second
      exact .failed first second

end Schema

namespace Resolver

/-- Filters on paths that end alike have the same shape, each under the wire name of its path, or
they fail to compile for the same cause. -/
theorem EndAlike.compileFilter {resolver other : Resolver} {path otherPath : String}
    {front otherFront : List Segment}
    (alike : resolver.EndAlike other path otherPath front otherFront) {key otherKey : String}
    {operator? : Option Operator} (parsed : FilterKey.parse key = ⟨path, operator?⟩)
    (otherParsed : FilterKey.parse otherKey = ⟨otherPath, operator?⟩) (value : Value) :
    (∃ more shape,
      resolver.compileFilter key value = .ok [(wireName (front ++ more), shape)] ∧
      other.compileFilter otherKey value = .ok [(wireName (otherFront ++ more), shape)]) ∨
    ∃ cause, resolver.compileFilter key value = .error ⟨path, cause⟩ ∧
      other.compileFilter otherKey value = .error ⟨otherPath, cause⟩ := by
  simp only [compileFilter_error_iff, compileFilter_ok_iff, parsed, otherParsed]
  cases alike with
  | @resolved more nonempty first second =>
      -- The leaf, which decides how the value is encoded, is in the part that the paths share.
      have leaf (start : List Segment) :
          (start ++ more).getLast? = some (more.getLast nonempty) := by
        rw [List.getLast?_append, List.getLast?_eq_some_getLast nonempty, Option.some_or]
      exact Or.inl ⟨more, _, ⟨_, _, first, leaf front, rfl⟩,
        _, _, second, leaf otherFront, rfl⟩
  | @failed cause first second => exact Or.inr ⟨cause, Or.inl first, Or.inl second⟩

end Resolver

namespace Schema

variable {schema : Schema}

/-- Below a field of an embedded document type, or of lists of them, a path goes on as it does from
the document type itself: it resolves exactly if the rest does, to the segments of the rest behind
those of the field, and it fails for the same cause. In a list the rest must not start with a
position. -/
theorem embedded_paths_compose {document inner : String} {resolver entered : Resolver}
    (bound : schema.resolver? document = .ok resolver)
    (declared : schema.resolver? inner = .ok entered) {path : String} {segments : List Segment}
    (resolved : resolver.segments path = .ok segments) {field : Field}
    (leaf : segments.getLast? = some (.field field))
    (inside : field.kind.innermost = .embedded inner) {rest : String} (nonempty : rest ≠ "")
    (noPosition : ∀ item, field.kind = .list item → NoPositionFirst rest) :
    resolver.EndAlike entered (path ++ "." ++ rest) rest segments [] := by
  obtain ⟨-, rfl⟩ := resolver?_ok_iff.mp bound
  obtain ⟨-, rfl⟩ := resolver?_ok_iff.mp declared
  obtain ⟨-, last, read⟩ := resolve_ok_iff.mp resolved
  obtain rfl := read.place_eq leaf
  -- The walks part from different places, and meet once the first component is read.
  have same : schema.walk ⟨field.name, field.kind⟩ (pathComponents rest) =
      schema.walk (start inner) (pathComponents rest) := by
    apply walk_eq_of_step_eq
    intro component first
    apply step_eq_step_start inside
    intro item list
    exact noPosition item list component first
  have behind := read.resolve_eq (append_dot_ne_empty path rest)
    (pathComponents_append_dot path rest)
  have alone : schema.resolve inner rest =
      ((schema.walk (start inner) (pathComponents rest)).map ([] ++ ·)).mapError
        (ResolutionError.mk rest) := ReadsAll.nil.resolve_eq nonempty rfl
  rw [same] at behind
  exact endAlike_of_walk behind alone

theorem embedded_paths_compose_threads :
    threads.resolver? "Post" = .ok (threads.resolver "Post") ∧
    threads.resolver? "Comment" = .ok (threads.resolver "Comment") ∧
    (threads.resolver "Post").segments "comments.0.1.replies" =
      .ok [.field ⟨"comments", some "c", .list (.list (.embedded "Comment"))⟩, .raw "0", .raw "1",
        .field ⟨"replies", none, .list (.embedded "Comment")⟩] ∧
    "replies.2.author.name" ≠ "" ∧ NoPositionFirst "replies.2.author.name" ∧
    (threads.resolver "Post").EndAlike (threads.resolver "Comment")
      ("comments.0.1.replies" ++ "." ++ "replies.2.author.name") "replies.2.author.name"
      [.field ⟨"comments", some "c", .list (.list (.embedded "Comment"))⟩, .raw "0", .raw "1",
        .field ⟨"replies", none, .list (.embedded "Comment")⟩] [] := by
  have bound : threads.resolver? "Post" = .ok (threads.resolver "Post") := rfl
  have declared : threads.resolver? "Comment" = .ok (threads.resolver "Comment") := rfl
  have noPosition : NoPositionFirst "replies.2.author.name" := by
    intro component first
    cases first
    decide
  have nonempty : "replies.2.author.name" ≠ "" := by decide
  exact ⟨bound, declared, rfl, nonempty, noPosition,
    embedded_paths_compose bound declared rfl rfl rfl nonempty fun _ _ => noPosition⟩

/-- Positions in lists change nothing but the wire name. Behind a field of lists, not of lists of
anything, as many positions as there are lists or fewer add a segment each: what follows resolves to
the same segments as without them or fails for the same cause, unless it starts with a position
itself. So filters on the path have the same shape with and without positions. -/
theorem positions_only_rename {document : String} {resolver : Resolver}
    (bound : schema.resolver? document = .ok resolver) {path : String} {segments : List Segment}
    (resolved : resolver.segments path = .ok segments) {field : Field}
    (leaf : segments.getLast? = some (.field field)) {base : Kind} {depth : Nat}
    (lists : field.kind = base.listed depth) (noList : ∀ item, base ≠ .list item)
    (declared : base ≠ .scalar .any) {positions : List String}
    (digits : ∀ position ∈ positions, IsDigits position) (within : positions.length ≤ depth)
    {rest : String} (noPosition : NoPositionFirst rest) :
    resolver.EndAlike resolver (".".intercalate (path :: positions) ++ "." ++ rest)
      (path ++ "." ++ rest) (segments ++ positions.map .raw) segments ∧
    ∀ key other operator?,
      FilterKey.parse key = ⟨".".intercalate (path :: positions) ++ "." ++ rest, operator?⟩ →
      FilterKey.parse other = ⟨path ++ "." ++ rest, operator?⟩ →
      ∀ value,
        (∃ more shape,
          resolver.compileFilter key value =
            .ok [(wireName (segments ++ positions.map .raw ++ more), shape)] ∧
          resolver.compileFilter other value = .ok [(wireName (segments ++ more), shape)]) ∨
        ∃ cause,
          resolver.compileFilter key value =
            .error ⟨".".intercalate (path :: positions) ++ "." ++ rest, cause⟩ ∧
          resolver.compileFilter other value = .error ⟨path ++ "." ++ rest, cause⟩ := by
  obtain ⟨-, rfl⟩ := resolver?_ok_iff.mp bound
  obtain ⟨-, last, read⟩ := resolve_ok_iff.mp resolved
  obtain rfl := read.place_eq leaf
  obtain ⟨remaining, rfl⟩ := Nat.exists_eq_add_of_le within
  rw [lists] at read
  have readPositions := read.append (readsAll_positions digits field.name base remaining)
  have cut : pathComponents (".".intercalate (path :: positions) ++ "." ++ rest) =
      pathComponents path ++ positions ++ pathComponents rest := by
    rw [pathComponents_append_dot, pathComponents_intercalate_cons path
      fun position member => (digits position member).dotFree]
  -- Behind the positions the walk stands in fewer lists, but around the same base.
  have same : schema.walk ⟨field.name, base.listed (positions.length + remaining)⟩
      (pathComponents rest) =
        schema.walk ⟨field.name, base.listed remaining⟩ (pathComponents rest) := by
    apply walk_eq_of_step_eq
    intro component first
    have named := noPosition component first
    rw [step_listed named noList declared, step_listed named noList declared]
  have positioned := readPositions.resolve_eq (append_dot_ne_empty _ rest) cut
  have plain := read.resolve_eq (append_dot_ne_empty path rest)
    (pathComponents_append_dot path rest)
  rw [same] at plain
  have alike : (schema.resolver document).EndAlike (schema.resolver document)
      (".".intercalate (path :: positions) ++ "." ++ rest) (path ++ "." ++ rest)
      (segments ++ positions.map .raw) segments := endAlike_of_walk positioned plain
  refine ⟨alike, ?_⟩
  intro key other operator? parsed otherParsed value
  exact alike.compileFilter parsed otherParsed value

theorem positions_only_rename_threads :
    threads.resolver? "Post" = .ok (threads.resolver "Post") ∧
    (threads.resolver "Post").segments "comments" =
      .ok [.field ⟨"comments", some "c", (Kind.embedded "Comment").listed 2⟩] ∧
    (∀ item, Kind.embedded "Comment" ≠ .list item) ∧ Kind.embedded "Comment" ≠ .scalar .any ∧
    (∀ position ∈ ["0", "12"], IsDigits position) ∧ ["0", "12"].length ≤ 2 ∧
    NoPositionFirst "replies.3.0" ∧
    (threads.resolver "Post").EndAlike (threads.resolver "Post") "comments.0.12.replies.3.0"
      "comments.replies.3.0"
      [.field ⟨"comments", some "c", (Kind.embedded "Comment").listed 2⟩, .raw "0", .raw "12"]
      [.field ⟨"comments", some "c", (Kind.embedded "Comment").listed 2⟩] ∧
    (threads.resolver "Post").compileFilter "comments.replies.3__0__lt" (.string "3") =
      .ok (Resolver.belowThree "c.replies.3.zero") ∧
    ∃ name, (threads.resolver "Post").compileFilter "comments__0__12__replies__3__0__lt"
      (.string "3") = .ok (Resolver.belowThree name) := by
  have bound : threads.resolver? "Post" = .ok (threads.resolver "Post") := rfl
  have resolved : (threads.resolver "Post").segments "comments" =
      .ok [.field ⟨"comments", some "c", (Kind.embedded "Comment").listed 2⟩] := rfl
  have noList : ∀ item, Kind.embedded "Comment" ≠ .list item := by simp
  have declared : Kind.embedded "Comment" ≠ .scalar .any := by simp
  have digits : ∀ position ∈ ["0", "12"], IsDigits position := by decide
  have within : ["0", "12"].length ≤ 2 := by decide
  have noPosition : NoPositionFirst "replies.3.0" := by
    intro component first
    cases first
    decide
  have compiled : (threads.resolver "Post").compileFilter "comments.replies.3__0__lt"
      (.string "3") = .ok (Resolver.belowThree "c.replies.3.zero") := rfl
  obtain ⟨alike, compiles⟩ :=
    positions_only_rename bound resolved rfl rfl noList declared digits within noPosition
  refine ⟨bound, resolved, noList, declared, digits, within, noPosition, alike, compiled, ?_⟩
  rcases compiles "comments__0__12__replies__3__0__lt" "comments.replies.3__0__lt" (some .less)
    rfl rfl (.string "3") with ⟨more, shape, positioned, plain⟩ | ⟨cause, -, failed⟩
  · rw [compiled, Resolver.belowThree, Except.ok.injEq, List.cons.injEq, Prod.mk.injEq] at plain
    obtain ⟨⟨-, rfl⟩, -⟩ := plain
    exact ⟨_, positioned⟩
  · rw [compiled] at failed
    cases failed

end Schema

end DocFilter
