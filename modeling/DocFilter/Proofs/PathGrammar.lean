import DocFilter.Proofs.DottedPaths

set_option autoImplicit false

namespace DocFilter

/-- Texts of one or more decimal digits. -/
def IsDigits (component : String) : Prop :=
  component ≠ "" ∧ ∀ c ∈ component.toList, '0' ≤ c ∧ c ≤ '9'

/-- The kind of the items once all lists are looked through. -/
def Kind.innermost : Kind → Kind
  | .list item => item.innermost
  | kind => kind

namespace Schema

/-- The component names the field: the first one of that name in the document type. -/
def Declares (schema : Schema) (document component : String) (field : Field) : Prop :=
  ∃ type before after, schema.document? document = some type ∧
    type.fields = before ++ field :: after ∧ field.name = component ∧
      ∀ earlier ∈ before, earlier.name ≠ component

/-- A component read at a place: the segment it becomes, and the place it leads to. -/
inductive Reads (schema : Schema) : Place → String → Segment → Place → Prop where
  | field {last document component : String} {field : Field}
      (declared : schema.Declares document component field) :
      Reads schema ⟨last, .embedded document⟩ component (.field field) ⟨field.name, field.kind⟩
  | position {last component : String} {item : Kind} (digits : IsDigits component) :
      Reads schema ⟨last, .list item⟩ component (.raw component) ⟨last, item⟩
  | itemField {last component document : String} {item : Kind} {field : Field}
      (noPosition : ¬ IsDigits component) (inside : item.innermost = .embedded document)
      (declared : schema.Declares document component field) :
      Reads schema ⟨last, .list item⟩ component (.field field) ⟨field.name, field.kind⟩
  | anything {last component : String} :
      Reads schema ⟨last, .scalar .any⟩ component (.raw component) ⟨last, .scalar .any⟩

/-- A component that cannot be read at a place, and why. -/
inductive Refuses (schema : Schema) : Place → String → ResolutionCause → Prop where
  | undeclaredDocument {last document component : String}
      (absent : schema.document? document = none) :
      Refuses schema ⟨last, .embedded document⟩ component (.unknownDocument document)
  | undeclaredField {last document component : String} {type : DocumentType}
      (present : schema.document? document = some type)
      (absent : ∀ field ∈ type.fields, field.name ≠ component) :
      Refuses schema ⟨last, .embedded document⟩ component (.fieldNotFound document component)
  | insideItems {last component document : String} {item : Kind} {cause : ResolutionCause}
      (noPosition : ¬ IsDigits component) (inside : item.innermost = .embedded document)
      (refused : Refuses schema ⟨last, .embedded document⟩ component cause) :
      Refuses schema ⟨last, .list item⟩ component cause
  | plainItems {last component : String} {item : Kind} (noPosition : ¬ IsDigits component)
      (inside : ∀ document, item.innermost ≠ .embedded document) :
      Refuses schema ⟨last, .list item⟩ component (.notTraversable last)
  | scalar {last component : String} {type : ScalarType} (declared : type ≠ .any) :
      Refuses schema ⟨last, .scalar type⟩ component (.notTraversable last)

/-- A row of components read one after the other, each where the one before it leads. -/
inductive ReadsAll (schema : Schema) : Place → List String → List Segment → Place → Prop where
  | nil {place : Place} : ReadsAll schema place [] [] place
  | cons {place next last : Place} {component : String} {rest : List String} {segment : Segment}
      {segments : List Segment} (first : schema.Reads place component segment next)
      (others : ReadsAll schema next rest segments last) :
      ReadsAll schema place (component :: rest) (segment :: segments) last

end Schema

theorem isPosition_iff (component : String) : isPosition component = true ↔ IsDigits component := by
  simp [isPosition, IsDigits, isDigit, List.all_eq_true]

instance (component : String) : Decidable (IsDigits component) :=
  decidable_of_iff _ (isPosition_iff component)

theorem Kind.embeddedDocument?_eq_some_iff (kind : Kind) (document : String) :
    kind.embeddedDocument? = some document ↔ kind.innermost = .embedded document := by
  induction kind with
  | scalar type => simp [embeddedDocument?, innermost]
  | embedded other => simp [embeddedDocument?, innermost]
  | list item ih => exact ih

theorem Kind.embeddedDocument?_eq_none_iff (kind : Kind) :
    kind.embeddedDocument? = none ↔ ∀ document, kind.innermost ≠ .embedded document := by
  simp only [Option.eq_none_iff_forall_ne_some, ne_eq, embeddedDocument?_eq_some_iff]

theorem DocumentType.field?_eq_some_iff (type : DocumentType) (name : String) (field : Field) :
    type.field? name = some field ↔ ∃ before after, type.fields = before ++ field :: after ∧
      field.name = name ∧ ∀ earlier ∈ before, earlier.name ≠ name := by
  rw [field?, List.find?_eq_some_iff_append]
  constructor
  · intro found
    obtain ⟨named, before, after, split, others⟩ := found
    exact ⟨before, after, split, by simpa using named, by simpa using others⟩
  · intro found
    obtain ⟨before, after, split, named, others⟩ := found
    exact ⟨by simpa using named, before, after, split, by simpa using others⟩

namespace Schema

variable {schema : Schema}

theorem fieldOf_ok_iff (document component : String) (field : Field) :
    schema.fieldOf document component = .ok field ↔ schema.Declares document component field := by
  simp only [fieldOf, Declares]
  cases schema.document? document with
  | none => simp
  | some type =>
      simp only [Option.some.injEq, exists_and_left, exists_eq_left',
        ← DocumentType.field?_eq_some_iff]
      cases type.field? component <;> simp

/-- A document type is entered exactly by the fields it declares. -/
theorem enter_ok_iff {document component : String} {segment : Segment} {next : Place} :
    schema.enter document component = .ok (segment, next) ↔
      ∃ field, schema.Declares document component field ∧ segment = .field field ∧
        next = ⟨field.name, field.kind⟩ := by
  simp only [enter, ← fieldOf_ok_iff]
  cases schema.fieldOf document component <;> simp [eq_comm]

theorem enter_error_iff {document component : String} {cause : ResolutionCause} (last : String) :
    schema.enter document component = .error cause ↔
      schema.Refuses ⟨last, .embedded document⟩ component cause := by
  constructor
  · intro failed
    simp only [enter, fieldOf] at failed
    cases found : schema.document? document with
    | none =>
        simp only [found, Except.error.injEq] at failed
        exact failed ▸ .undeclaredDocument found
    | some type =>
        cases named : type.field? component with
        | none =>
            simp only [found, named, Except.error.injEq] at failed
            refine failed ▸ .undeclaredField found ?_
            simpa [DocumentType.field?] using named
        | some field => simp only [found, named, reduceCtorEq] at failed
  · intro refused
    cases refused with
    | undeclaredDocument absent => simp only [enter, fieldOf, absent]
    | @undeclaredField _ _ _ type present absent =>
        have unnamed : type.field? component = none := by
          simpa [DocumentType.field?] using absent
        simp only [enter, fieldOf, present, unnamed]

theorem step_embedded (last document component : String) :
    schema.step ⟨last, .embedded document⟩ component = schema.enter document component := rfl

theorem step_position {component : String} (digits : IsDigits component) (last : String)
    (item : Kind) :
    schema.step ⟨last, .list item⟩ component = .ok (.raw component, ⟨last, item⟩) := by
  simp only [step, (isPosition_iff component).mpr digits, ↓reduceIte]

theorem step_insideItems {component document : String} {item : Kind}
    (noPosition : ¬ IsDigits component) (inside : item.innermost = .embedded document)
    (last : String) :
    schema.step ⟨last, .list item⟩ component = schema.enter document component := by
  rw [← isPosition_iff] at noPosition
  rw [← Kind.embeddedDocument?_eq_some_iff] at inside
  simp only [step, noPosition, inside, Bool.false_eq_true, ↓reduceIte]

theorem step_plainItems {component : String} {item : Kind} (noPosition : ¬ IsDigits component)
    (inside : ∀ document, item.innermost ≠ .embedded document) (last : String) :
    schema.step ⟨last, .list item⟩ component = .error (.notTraversable last) := by
  rw [← isPosition_iff] at noPosition
  rw [← Kind.embeddedDocument?_eq_none_iff] at inside
  simp only [step, noPosition, inside, Bool.false_eq_true, ↓reduceIte]

theorem step_anything (last component : String) :
    schema.step ⟨last, .scalar .any⟩ component =
      .ok (.raw component, ⟨last, .scalar .any⟩) := rfl

theorem step_scalar {type : ScalarType} (declared : type ≠ .any) (last component : String) :
    schema.step ⟨last, .scalar type⟩ component = .error (.notTraversable last) := by
  cases type with
  | any => exact absurd rfl declared
  | _ => rfl

/-- One step of a walk reads a component, and it tells what it is read as. -/
theorem step_ok_iff {place next : Place} {component : String} {segment : Segment} :
    schema.step place component = .ok (segment, next) ↔
      schema.Reads place component segment next := by
  constructor
  · intro stepped
    obtain ⟨last, kind⟩ := place
    cases kind with
    | embedded document =>
        rw [step_embedded, enter_ok_iff] at stepped
        obtain ⟨field, declared, rfl, rfl⟩ := stepped
        exact .field declared
    | list item =>
        by_cases digits : IsDigits component
        · rw [step_position digits, Except.ok.injEq, Prod.mk.injEq] at stepped
          obtain ⟨rfl, rfl⟩ := stepped
          exact .position digits
        · by_cases inside : ∃ document, item.innermost = .embedded document
          · obtain ⟨document, inside⟩ := inside
            rw [step_insideItems digits inside, enter_ok_iff] at stepped
            obtain ⟨field, declared, rfl, rfl⟩ := stepped
            exact .itemField digits inside declared
          · rw [step_plainItems digits (not_exists.mp inside)] at stepped
            cases stepped
    | scalar type =>
        by_cases declared : type = .any
        · subst declared
          rw [step_anything, Except.ok.injEq, Prod.mk.injEq] at stepped
          obtain ⟨rfl, rfl⟩ := stepped
          exact .anything
        · rw [step_scalar declared] at stepped
          cases stepped
  · intro read
    cases read with
    | field declared =>
        rw [step_embedded, enter_ok_iff]
        exact ⟨_, declared, rfl, rfl⟩
    | position digits => exact step_position digits _ _
    | itemField noPosition inside declared =>
        rw [step_insideItems noPosition inside, enter_ok_iff]
        exact ⟨_, declared, rfl, rfl⟩
    | anything => exact step_anything _ _

theorem step_error_iff {place : Place} {component : String} {cause : ResolutionCause} :
    schema.step place component = .error cause ↔ schema.Refuses place component cause := by
  constructor
  · intro failed
    obtain ⟨last, kind⟩ := place
    cases kind with
    | embedded document => exact (enter_error_iff last).mp failed
    | list item =>
        by_cases digits : IsDigits component
        · rw [step_position digits] at failed
          cases failed
        · by_cases inside : ∃ document, item.innermost = .embedded document
          · obtain ⟨document, inside⟩ := inside
            rw [step_insideItems digits inside, enter_error_iff last] at failed
            exact .insideItems digits inside failed
          · rw [step_plainItems digits (not_exists.mp inside), Except.error.injEq] at failed
            exact failed ▸ .plainItems digits (not_exists.mp inside)
    | scalar type =>
        by_cases declared : type = .any
        · subst declared
          cases failed
        · rw [step_scalar declared, Except.error.injEq] at failed
          exact failed ▸ .scalar declared
  · intro refused
    cases refused with
    | @undeclaredDocument last _ _ absent =>
        exact (enter_error_iff last).mpr (.undeclaredDocument absent)
    | @undeclaredField last _ _ _ present absent =>
        exact (enter_error_iff last).mpr (.undeclaredField present absent)
    | insideItems noPosition inside refused =>
        rw [step_insideItems noPosition inside]
        exact (enter_error_iff _).mpr refused
    | plainItems noPosition inside => exact step_plainItems noPosition inside _
    | scalar declared => exact step_scalar declared _ _

theorem reads_or_refuses (schema : Schema) (place : Place) (component : String) :
    (∃ segment next, schema.Reads place component segment next) ∨
      ∃ cause, schema.Refuses place component cause := by
  cases stepped : schema.step place component with
  | ok reached => exact Or.inl ⟨reached.1, reached.2, step_ok_iff.mp stepped⟩
  | error cause => exact Or.inr ⟨cause, step_error_iff.mp stepped⟩

theorem walk_cons_of_reads {place next : Place} {component : String} {segment : Segment}
    (read : schema.Reads place component segment next) (rest : List String) :
    schema.walk place (component :: rest) = (schema.walk next rest).map (segment :: ·) := by
  simp only [walk, step_ok_iff.mpr read]
  cases schema.walk next rest <;> rfl

theorem walk_cons_of_refuses {place : Place} {component : String} {cause : ResolutionCause}
    (refused : schema.Refuses place component cause) (rest : List String) :
    schema.walk place (component :: rest) = .error cause := by
  rw [walk, step_error_iff.mpr refused]

theorem walk_cons_ok_iff {place : Place} {component : String} {rest : List String}
    {segments : List Segment} :
    schema.walk place (component :: rest) = .ok segments ↔
      ∃ segment next others, schema.Reads place component segment next ∧
        schema.walk next rest = .ok others ∧ segments = segment :: others := by
  constructor
  · intro walked
    rcases schema.reads_or_refuses place component with ⟨segment, next, read⟩ | ⟨cause, refused⟩
    · rw [walk_cons_of_reads read] at walked
      cases onward : schema.walk next rest with
      | error cause =>
          rw [onward] at walked
          cases walked
      | ok others =>
          rw [onward] at walked
          cases walked
          exact ⟨segment, next, others, read, onward, rfl⟩
    · rw [walk_cons_of_refuses refused] at walked
      cases walked
  · intro parts
    obtain ⟨segment, next, others, read, onward, rfl⟩ := parts
    rw [walk_cons_of_reads read, onward]
    rfl

theorem walk_cons_error_iff {place : Place} {component : String} {rest : List String}
    {cause : ResolutionCause} :
    schema.walk place (component :: rest) = .error cause ↔
      schema.Refuses place component cause ∨
        ∃ segment next, schema.Reads place component segment next ∧
          schema.walk next rest = .error cause := by
  constructor
  · intro failed
    rcases schema.reads_or_refuses place component with ⟨segment, next, read⟩ | ⟨other, refused⟩
    · rw [walk_cons_of_reads read] at failed
      cases onward : schema.walk next rest with
      | error other =>
          rw [onward] at failed
          cases failed
          exact Or.inr ⟨segment, next, read, onward⟩
      | ok others =>
          rw [onward] at failed
          cases failed
    · rw [walk_cons_of_refuses refused] at failed
      cases failed
      exact Or.inl refused
  · intro either
    rcases either with refused | ⟨segment, next, read, failed⟩
    · exact walk_cons_of_refuses refused rest
    · rw [walk_cons_of_reads read, failed]
      rfl

/-- A walk that comes to its end has read every component. -/
theorem walk_ok_iff {place : Place} {components : List String} {segments : List Segment} :
    schema.walk place components = .ok segments ↔
      ∃ last, schema.ReadsAll place components segments last := by
  induction components generalizing place segments with
  | nil =>
      constructor
      · intro walked
        cases walked
        exact ⟨place, .nil⟩
      · intro readAll
        obtain ⟨last, read⟩ := readAll
        cases read
        rfl
  | cons component rest ih =>
      rw [walk_cons_ok_iff]
      constructor
      · intro parts
        obtain ⟨segment, next, others, first, walked, rfl⟩ := parts
        obtain ⟨last, read⟩ := ih.mp walked
        exact ⟨last, .cons first read⟩
      · intro readAll
        obtain ⟨last, read⟩ := readAll
        cases read with
        | cons first others => exact ⟨_, _, _, first, ih.mpr ⟨last, others⟩, rfl⟩

/-- A walk fails at the first component that is refused. -/
theorem walk_error_iff {place : Place} {components : List String} {cause : ResolutionCause} :
    schema.walk place components = .error cause ↔
      ∃ before component after segments reached, components = before ++ component :: after ∧
        schema.ReadsAll place before segments reached ∧
        schema.Refuses reached component cause := by
  induction components generalizing place with
  | nil => simp [walk]
  | cons head rest ih =>
      rw [walk_cons_error_iff]
      constructor
      · intro failed
        rcases failed with refused | ⟨segment, next, first, failed⟩
        · exact ⟨[], head, rest, [], place, rfl, .nil, refused⟩
        · obtain ⟨before, component, after, segments, reached, rfl, read, refused⟩ := ih.mp failed
          exact ⟨head :: before, component, after, segment :: segments, reached, rfl,
            .cons first read, refused⟩
      · intro failure
        obtain ⟨before, component, after, segments, reached, split, read, refused⟩ := failure
        cases read with
        | nil =>
            obtain ⟨rfl, rfl⟩ := List.cons.inj split
            exact Or.inl refused
        | cons first others =>
            obtain ⟨rfl, rfl⟩ := List.cons.inj split
            exact Or.inr ⟨_, _, first,
              ih.mpr ⟨_, component, after, _, reached, rfl, others, refused⟩⟩

theorem ReadsAll.length {place last : Place} {components : List String} {segments : List Segment}
    (read : schema.ReadsAll place components segments last) :
    segments.length = components.length := by
  induction read with
  | nil => rfl
  | cons first others ih => rw [List.length_cons, List.length_cons, ih]

def start (document : String) : Place := ⟨document, .embedded document⟩

theorem resolve_ok_iff {document path : String} {segments : List Segment} :
    schema.resolve document path = .ok segments ↔
      path ≠ "" ∧ ∃ last, schema.ReadsAll (start document) (pathComponents path) segments last := by
  rw [resolve, ← walk_ok_iff, start]
  by_cases empty : path = ""
  · simp [empty]
  · simp only [String.isEmpty_iff, empty, ↓reduceIte, ne_eq, not_false_eq_true, true_and]
    cases schema.walk ⟨document, .embedded document⟩ (pathComponents path) <;> simp

theorem resolve_error_iff {document path : String} (nonempty : path ≠ "")
    {error : ResolutionError} :
    schema.resolve document path = .error error ↔
      error.path = path ∧
        schema.walk (start document) (pathComponents path) = .error error.cause := by
  obtain ⟨carried, cause⟩ := error
  rw [resolve, start]
  simp only [String.isEmpty_iff, nonempty, ↓reduceIte]
  cases schema.walk ⟨document, .embedded document⟩ (pathComponents path) <;> simp [eq_comm]

theorem resolver?_ok_iff {document : String} {resolver : Resolver} :
    schema.resolver? document = .ok resolver ↔
      (∃ type, schema.document? document = some type) ∧ resolver = schema.resolver document := by
  rw [resolver?]
  cases schema.document? document <;> simp [eq_comm]

/-- The resolver of a declared document type follows the grammar. It succeeds, with one segment for
each component, exactly if the components can be read one after the other, and then gives what they
are read as. Otherwise it names the path, and why the first component that cannot be read is
refused. -/
theorem resolver_follows_grammar {document : String} {resolver : Resolver}
    (bound : schema.resolver? document = .ok resolver) {path : String} (nonempty : path ≠ "") :
    ((∃ segments, resolver.segments path = .ok segments ∧
        segments.length = (pathComponents path).length) ↔
      ∃ segments last, schema.ReadsAll (start document) (pathComponents path) segments last) ∧
    (∀ segments, resolver.segments path = .ok segments ↔
      ∃ last, schema.ReadsAll (start document) (pathComponents path) segments last) ∧
    (∀ error, resolver.segments path = .error error ↔ error.path = path ∧
      ∃ before component after segments reached,
        pathComponents path = before ++ component :: after ∧
        schema.ReadsAll (start document) before segments reached ∧
        schema.Refuses reached component error.cause) := by
  obtain ⟨-, rfl⟩ := resolver?_ok_iff.mp bound
  have resolves (segments : List Segment) : schema.resolve document path = .ok segments ↔
      ∃ last, schema.ReadsAll (start document) (pathComponents path) segments last := by
    rw [resolve_ok_iff]
    exact and_iff_right nonempty
  refine ⟨?_, resolves, ?_⟩
  · constructor
    · intro succeeded
      obtain ⟨segments, resolved, -⟩ := succeeded
      exact ⟨segments, (resolves segments).mp resolved⟩
    · intro readable
      obtain ⟨segments, last, read⟩ := readable
      exact ⟨segments, (resolves segments).mpr ⟨last, read⟩, read.length⟩
  · intro error
    rw [← walk_error_iff]
    exact resolve_error_iff nonempty

/-- Comments lie in lists of lists and have comments of their own; their authors are of a document
type that is not declared. -/
def threads : Schema :=
  (empty.withDocument "Post"
      ⟨[⟨"comments", some "c", .list (.list (.embedded "Comment"))⟩, ⟨"extra", none, .scalar .any⟩]⟩
    ).withDocument "Comment"
      ⟨[⟨"0", some "zero", .scalar .int⟩, ⟨"author", none, .embedded "Person"⟩,
        ⟨"replies", none, .list (.embedded "Comment")⟩]⟩

theorem threads_follow_grammar :
    threads.resolver? "Post" = .ok (threads.resolver "Post") ∧
    (threads.resolver "Post").segments "comments.0.replies.3.author.name" =
      .error ⟨"comments.0.replies.3.author.name", .unknownDocument "Person"⟩ ∧
    ∃ before component after segments reached,
      pathComponents "comments.0.replies.3.author.name" = before ++ component :: after ∧
      threads.ReadsAll (start "Post") before segments reached ∧
      threads.Refuses reached component (.unknownDocument "Person") := by
  have bound : threads.resolver? "Post" = .ok (threads.resolver "Post") := rfl
  have failed : (threads.resolver "Post").segments "comments.0.replies.3.author.name" =
      .error ⟨"comments.0.replies.3.author.name", .unknownDocument "Person"⟩ := rfl
  have nonempty : "comments.0.replies.3.author.name" ≠ "" := by decide
  obtain ⟨-, -, fails⟩ := resolver_follows_grammar bound nonempty
  exact ⟨bound, failed, ((fails _).mp failed).2⟩

end Schema

end DocFilter
