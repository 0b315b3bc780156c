import DocFilter.Filter.Key
import Mathlib.Data.List.Infix

set_option autoImplicit false

/-
Keys written from components. The double underscores of a key are matched from the left, so a
component that ends in an underscore moves the cut after it, and a last component that is spelled
like a token is taken for an operator; nothing else stands between writing a key and reading it.
-/
namespace DocFilter

theorem Operator.ofToken?_eq_some_iff (token : String) (operator : Operator) :
    ofToken? token = some operator ↔ operator ≠ .equals ∧ token = operator.token := by
  constructor
  · intro named
    unfold ofToken? at named
    split at named <;> cases named <;> exact ⟨by decide, rfl⟩
  · intro spelled
    obtain ⟨other, rfl⟩ := spelled
    cases operator with
    | equals => exact absurd rfl other
    | _ => rfl

namespace FilterKey

/-- The key that has the components between double underscores. -/
def written (components : List String) : String :=
  "__".intercalate components

def HasSeparator (component : String) : Prop :=
  ['_', '_'] <:+: component.toList

def EndsOpen (component : String) : Prop :=
  ['_'] <:+ component.toList

theorem parts_ne_nil (cs : List Char) : parts cs ≠ [] := by
  unfold parts
  split
  · simp
  · simp
  · split <;> simp

theorem parts_separator (rest : List Char) : parts ('_' :: '_' :: rest) = [] :: parts rest := rfl

theorem parts_cons {c : Char} {rest : List Char} (clear : ¬ ['_', '_'] <+: c :: rest) :
    parts (c :: rest) = (parts rest).modifyHead (c :: ·) := by
  rw [parts.eq_def]
  split
  · rename_i empty
    cases empty
  · rename_i pair
    obtain ⟨rfl, rfl⟩ := List.cons.inj pair
    exact absurd ⟨_, rfl⟩ clear
  · rename_i same
    obtain ⟨rfl, rfl⟩ := List.cons.inj same
    split
    · rename_i empty
      exact absurd empty (parts_ne_nil _)
    · rename_i cut
      rw [cut, List.modifyHead_cons]

/-- A text in which no separator starts goes in front of the first part of what follows. -/
theorem parts_append {start rest : List Char} (clear : ¬ ['_', '_'] <:+: start ++ rest.take 1) :
    parts (start ++ rest) = (parts rest).modifyHead (start ++ ·) := by
  induction start with
  | nil => cases found : parts rest <;> simp [found]
  | cons c start ih =>
      rw [List.cons_append, List.infix_cons_iff, not_or] at clear
      -- A pair at the border to the rest is within what `clear` speaks of.
      have noPair : ¬ ['_', '_'] <+: c :: (start ++ rest) := by
        intro pair
        apply clear.1
        cases start with
        | nil =>
            cases rest with
            | nil => simp at pair
            | cons d rest => simpa using pair
        | cons d start => simpa using pair
      rw [List.cons_append, parts_cons noPair, ih clear.2, List.modifyHead_modifyHead]
      rfl

theorem parts_of_clear {part : List Char} (clear : ¬ ['_', '_'] <:+: part) :
    parts part = [part] := by
  have alone : parts (part ++ []) = (parts []).modifyHead (part ++ ·) :=
    parts_append (by simpa using clear)
  simpa [parts] using alone

/-- The first part ends at the first separator, even if an underscore stands after it. -/
theorem parts_append_separator {part : List Char} (closed : ¬ ['_', '_'] <:+: part ++ ['_'])
    (rest : List Char) : parts (part ++ '_' :: '_' :: rest) = part :: parts rest := by
  rw [parts_append (by simpa using closed), parts_separator, List.modifyHead_cons,
    List.append_nil]

theorem closed_iff (part : List Char) :
    ¬ ['_', '_'] <:+: part ++ ['_'] ↔ ¬ ['_', '_'] <:+: part ∧ ¬ ['_'] <:+ part := by
  have atEnd : ['_', '_'] <:+ part ++ ['_'] ↔ ['_'] <:+ part := by
    constructor
    · intro closing
      obtain ⟨start, same⟩ := closing
      refine ⟨start, (List.append_left_inj ['_']).mp ?_⟩
      simpa using same
    · intro opened
      obtain ⟨start, rfl⟩ := opened
      exact ⟨start, by simp⟩
  rw [List.infix_concat_iff, atEnd, not_or, and_comm]

/-- Components that do not end in an underscore are the parts of what is written with them. -/
theorem parts_intercalate_append {closed rest : List (List Char)}
    (plain : ∀ part ∈ closed, ¬ ['_', '_'] <:+: part ++ ['_']) (nonempty : rest ≠ []) :
    parts (['_', '_'].intercalate (closed ++ rest)) =
      closed ++ parts (['_', '_'].intercalate rest) := by
  induction closed with
  | nil => rfl
  | cons part closed ih =>
      rw [List.forall_mem_cons] at plain
      have more : closed ++ rest ≠ [] := by simp [nonempty]
      rw [List.cons_append, List.intercalate_cons_of_ne_nil more, List.append_assoc]
      change parts (part ++ '_' :: '_' :: ['_', '_'].intercalate (closed ++ rest)) = _
      rw [parts_append_separator plain.1, ih plain.2, List.cons_append]

theorem parts_intercalate {components : List (List Char)} (nonempty : components ≠ [])
    (plain : ∀ part ∈ components, ¬ ['_', '_'] <:+: part)
    (closed : ∀ part ∈ components.dropLast, ¬ ['_'] <:+ part) :
    parts (['_', '_'].intercalate components) = components := by
  have initial : ∀ part ∈ components.dropLast, ¬ ['_', '_'] <:+: part ++ ['_'] := by
    intro part member
    exact (closed_iff part).mpr ⟨plain part (List.mem_of_mem_dropLast member), closed part member⟩
  have last := plain _ (List.getLast_mem nonempty)
  have split := List.dropLast_append_getLast nonempty
  rw [← split, parts_intercalate_append initial (List.cons_ne_nil _ _),
    List.intercalate_singleton, parts_of_clear last]

/-- A component that ends in an underscore loses it to the part after the separator. -/
theorem parts_intercalate_open {closed after : List (List Char)} {stem : List Char}
    (plain : ∀ part ∈ closed, ¬ ['_', '_'] <:+: part ++ ['_'])
    (clear : ¬ ['_', '_'] <:+: stem ++ ['_']) (more : after ≠ []) :
    parts (['_', '_'].intercalate (closed ++ (stem ++ ['_']) :: after)) =
      closed ++ stem :: parts ('_' :: ['_', '_'].intercalate after) := by
  rw [parts_intercalate_append plain (List.cons_ne_nil _ _),
    List.intercalate_cons_of_ne_nil more]
  have moved : stem ++ ['_'] ++ ['_', '_'] ++ ['_', '_'].intercalate after =
      stem ++ '_' :: '_' :: '_' :: ['_', '_'].intercalate after := by simp
  rw [moved, parts_append_separator clear]

/-- Where one path has an underscore, the other has a dot or its end. -/
theorem dotted_ne_of_open (before others after : List (List Char)) (stem : List Char) :
    Text.dotted (before ++ stem :: others) ≠ Text.dotted (before ++ (stem ++ ['_']) :: after) := by
  intro same
  replace same := congrArg String.toList same
  rw [Text.dotted, Text.dotted, String.toList_ofList, String.toList_ofList] at same
  induction before with
  | nil => cases others <;> cases after <;> simp at same
  | cons part before ih =>
      rw [List.cons_append, List.cons_append, List.intercalate_cons_of_ne_nil (by simp),
        List.intercalate_cons_of_ne_nil (by simp), List.append_right_inj] at same
      exact ih same

theorem exists_first_open {components : List (List Char)}
    (opened : ∃ part ∈ components, ['_'] <:+ part) :
    ∃ before stem after, components = before ++ (stem ++ ['_']) :: after ∧
      ∀ part ∈ before, ¬ ['_'] <:+ part := by
  induction components with
  | nil => simp at opened
  | cons part rest ih =>
      by_cases first : ['_'] <:+ part
      · obtain ⟨stem, rfl⟩ := first
        exact ⟨[], stem, rest, rfl, by simp⟩
      · simp only [List.mem_cons, exists_eq_or_imp, first, false_or] at opened
        obtain ⟨before, stem, after, rfl, closed⟩ := ih opened
        exact ⟨part :: before, stem, after, rfl, by simpa [first] using closed⟩

theorem parse_of_noToken {key : String} (plain : (parts key.toList).length = 1 ∨
      Operator.ofToken? (String.ofList ((parts key.toList).getLast?.getD [])) = none) :
    parse key = ⟨Text.dotted (parts key.toList), none⟩ := by
  unfold parse
  dsimp only
  split
  · rename_i first others operator several token
    rcases plain with single | noToken
    · have short := congrArg List.length several
      rw [List.length_dropLast, single] at short
      cases short
    · rw [noToken] at token
      cases token
  · rfl

theorem parse_of_token {key : String} {path : List (List Char)} {token : String}
    {operator : Operator} (cut : parts key.toList = path ++ [token.toList]) (nonempty : path ≠ [])
    (named : Operator.ofToken? token = some operator) :
    parse key = ⟨Text.dotted path, some operator⟩ := by
  obtain ⟨first, others, rfl⟩ := List.exists_cons_of_ne_nil nonempty
  unfold parse
  simp only [cut, List.dropLast_concat, List.getLast?_concat, Option.getD_some,
    String.ofList_toList, named]

theorem path_parse (key : String) :
    (parse key).path = Text.dotted (parts key.toList) ∨
      (parse key).path = Text.dotted (parts key.toList).dropLast := by
  unfold parse
  dsimp only
  split
  · rename_i first others operator several token
    exact Or.inr (congrArg Text.dotted several.symm)
  · exact Or.inl rfl

/-- If a component before the end of a key ends in an underscore, then the path that is read differs
from the one that was written. -/
theorem path_parse_ne_of_open {key : String} {components after : List (List Char)}
    (written : key.toList = ['_', '_'].intercalate (components ++ after)) (more : after ≠ [])
    (plain : ∀ part ∈ components, ¬ ['_', '_'] <:+: part)
    (opened : ∃ part ∈ components, ['_'] <:+ part) (others : List (List Char)) :
    (parse key).path ≠ Text.dotted (components ++ others) := by
  obtain ⟨before, stem, rest, rfl, closed⟩ := exists_first_open opened
  have initial : ∀ part ∈ before, ¬ ['_', '_'] <:+: part ++ ['_'] := by
    intro part member
    exact (closed_iff part).mpr ⟨plain part (by simp [member]), closed part member⟩
  have clear : ¬ ['_', '_'] <:+: stem ++ ['_'] := plain _ (by simp)
  rw [List.append_assoc, List.cons_append] at written ⊢
  -- The cut falls before the underscore of the first open component, whatever stands after it.
  have cut : parts key.toList =
      before ++ stem :: parts ('_' :: ['_', '_'].intercalate (rest ++ after)) := by
    rw [written, parts_intercalate_open initial clear (by simp [more])]
  rcases path_parse key with whole | initialPart
  · rw [whole, cut]
    exact dotted_ne_of_open before _ _ stem
  · rw [initialPart, cut, List.dropLast_append_of_ne_nil (List.cons_ne_nil _ _),
      List.dropLast_cons_of_ne_nil (parts_ne_nil _)]
    exact dotted_ne_of_open before _ _ stem

theorem toList_written (components : List String) :
    (written components).toList = ['_', '_'].intercalate (components.map String.toList) :=
  String.toList_intercalate

theorem toList_written_token {components : List String} (nonempty : components ≠ [])
    (token : String) : (written components ++ "__" ++ token).toList =
      ['_', '_'].intercalate (components.map String.toList ++ [token.toList]) := by
  induction components with
  | nil => exact absurd rfl nonempty
  | cons component rest ih =>
      cases rest with
      | nil => simp [written, List.intercalate_cons_cons]
      | cons next rest =>
          have later := ih (List.cons_ne_nil _ _)
          rw [String.toList_append, String.toList_append, toList_written] at later ⊢
          simp only [List.map_cons, List.cons_append, List.intercalate_cons_cons,
            List.append_assoc] at later ⊢
          rw [later]

theorem token_clear (operator : Operator) : ¬ HasSeparator operator.token := by
  unfold HasSeparator
  cases operator <;> decide

theorem parse_written_token_iff {components : List String} (nonempty : components ≠ [])
    (plain : ∀ component ∈ components, ¬ HasSeparator component) {operator : Operator}
    (explicit : operator ≠ .equals) :
    parse (written components ++ "__" ++ operator.token) =
        ⟨Text.dotted (components.map String.toList), some operator⟩ ↔
      ∀ component ∈ components, ¬ EndsOpen component := by
  have text := toList_written_token nonempty operator.token
  have plainTexts : ∀ part ∈ components.map String.toList, ¬ ['_', '_'] <:+: part :=
    List.forall_mem_map.mpr plain
  constructor
  · intro read component member opened
    have differs := path_parse_ne_of_open text (List.cons_ne_nil _ _) plainTexts
      ⟨_, List.mem_map_of_mem member, opened⟩ []
    rw [read, List.append_nil] at differs
    exact differs rfl
  · intro closed
    have cut : parts (written components ++ "__" ++ operator.token).toList =
        components.map String.toList ++ [operator.token.toList] := by
      rw [text]
      apply parts_intercalate (by simp)
      · rw [List.forall_mem_append, List.forall_mem_singleton]
        exact ⟨plainTexts, token_clear operator⟩
      · rw [List.dropLast_concat]
        exact List.forall_mem_map.mpr closed
    have named := (Operator.ofToken?_eq_some_iff operator.token operator).mpr ⟨explicit, rfl⟩
    exact parse_of_token cut (by simpa using nonempty) named

theorem parse_written_path_iff {components : List String} (nonempty : components ≠ [])
    (plain : ∀ component ∈ components, ¬ HasSeparator component) :
    parse (written components) = ⟨Text.dotted (components.map String.toList), none⟩ ↔
      (∀ component ∈ components.dropLast, ¬ EndsOpen component) ∧
        (components.length = 1 ∨
          Operator.ofToken? (components.getLast nonempty) = none) := by
  obtain ⟨initial, last, rfl⟩ : ∃ initial last, components = initial ++ [last] :=
    ⟨_, _, (List.dropLast_append_getLast nonempty).symm⟩
  have text := toList_written (initial ++ [last])
  rw [List.map_append, List.map_singleton] at text ⊢
  have plainTexts : ∀ part ∈ initial.map String.toList ++ [last.toList],
      ¬ ['_', '_'] <:+: part := by
    have all : ∀ part ∈ (initial ++ [last]).map String.toList, ¬ ['_', '_'] <:+: part :=
      List.forall_mem_map.mpr plain
    rwa [List.map_append] at all
  rw [List.dropLast_concat, List.getLast_concat]
  have cut (closed : ∀ component ∈ initial, ¬ EndsOpen component) :
      parts (written (initial ++ [last])).toList =
        initial.map String.toList ++ [last.toList] := by
    rw [text]
    apply parts_intercalate (by simp) plainTexts
    rw [List.dropLast_concat]
    exact List.forall_mem_map.mpr closed
  constructor
  · intro read
    have closed : ∀ component ∈ initial, ¬ EndsOpen component := by
      intro component member opened
      have differs := path_parse_ne_of_open text (List.cons_ne_nil _ _)
        (fun part inside => plainTexts part (List.mem_append_left _ inside))
        ⟨_, List.mem_map_of_mem member, opened⟩ [last.toList]
      rw [read] at differs
      exact differs rfl
    refine ⟨closed, ?_⟩
    by_cases single : initial = []
    · exact Or.inl (by simp [single])
    · right
      cases named : Operator.ofToken? last with
      | none => rfl
      | some operator =>
          rw [parse_of_token (cut closed) (by simpa using single) named] at read
          cases congrArg FilterKey.operator? read
  · intro conditions
    obtain ⟨closed, noToken⟩ := conditions
    rw [parse_of_noToken, cut closed]
    rw [cut closed]
    simpa using noToken

/-- A written key is read back, as the path of its components and the operator, exactly if none of
the components ends in an underscore. Without an operator the last component may end in one, but it
must not be a token unless it is the only one. -/
theorem parse_written_iff {components : List String} (nonempty : components ≠ [])
    (plain : ∀ component ∈ components, ¬ HasSeparator component) :
    (∀ operator, operator ≠ .equals →
      (parse (written components ++ "__" ++ operator.token) =
          ⟨Text.dotted (components.map String.toList), some operator⟩ ↔
        ∀ component ∈ components, ¬ EndsOpen component)) ∧
    (parse (written components) = ⟨Text.dotted (components.map String.toList), none⟩ ↔
      (∀ component ∈ components.dropLast, ¬ EndsOpen component) ∧
        (components.length = 1 ∨
          Operator.ofToken? (components.getLast nonempty) = none)) := by
  constructor
  · intro operator explicit
    exact parse_written_token_iff nonempty plain explicit
  · exact parse_written_path_iff nonempty plain

/-- Empty components, leading underscores and a component that is spelled like a token. -/
theorem parse_written_intricate :
    parse (written ["_in", "", "not"] ++ "__" ++ Operator.isNull.token) =
      ⟨"_in..not", some .isNull⟩ ∧
    parse (written ["_in", "", "not"]) ≠ ⟨"_in..not", none⟩ := by
  have plain : ∀ component ∈ ["_in", "", "not"], ¬ HasSeparator component := by
    unfold HasSeparator
    decide
  obtain ⟨withToken, alone⟩ := parse_written_iff (List.cons_ne_nil _ _) plain
  constructor
  · apply (withToken .isNull (by decide)).mpr
    unfold EndsOpen
    decide
  · intro read
    have conditions := (alone.mp read).2
    revert conditions
    decide

end FilterKey

end DocFilter
