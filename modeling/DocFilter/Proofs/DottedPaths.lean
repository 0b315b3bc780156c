import DocFilter.Schema.Resolution

set_option autoImplicit false

namespace DocFilter

namespace Text

/-- Cutting at a separator is the library's cut at an element. -/
theorem pieces_eq_splitOn (separator : Char) (cs : List Char) :
    pieces separator cs = cs.splitOn separator := by
  induction cs with
  | nil => rfl
  | cons c rest ih =>
      rw [pieces, List.splitOn_cons_eq_if_modifyHead, ih]
      by_cases cut : c = separator
      · simp [cut]
      · cases found : rest.splitOn separator with
        | nil => exact absurd found (List.splitOn_ne_nil _ _)
        | cons piece others => simp [cut]

theorem pieces_ne_nil (separator : Char) (cs : List Char) : pieces separator cs ≠ [] := by
  rw [pieces_eq_splitOn]
  exact List.splitOn_ne_nil _ _

theorem notMem_of_mem_pieces {separator : Char} {cs piece : List Char}
    (member : piece ∈ pieces separator cs) : separator ∉ piece := by
  induction cs generalizing piece with
  | nil =>
      rw [pieces, List.mem_singleton] at member
      simp [member]
  | cons c rest ih =>
      rw [pieces] at member
      split at member
      · rw [List.mem_cons] at member
        rcases member with rfl | later
        · simp
        · exact ih later
      · rename_i other
        split at member
        · rename_i empty
          exact absurd empty (pieces_ne_nil separator rest)
        · rename_i first others cut
          rw [List.mem_cons] at member
          rcases member with rfl | later
          · have inFirst : separator ∉ first := ih (cut ▸ List.mem_cons_self)
            simp [inFirst, Ne.symm other]
          · exact ih (cut ▸ List.mem_cons_of_mem _ later)

theorem toList_dotted (parts : List (List Char)) :
    (dotted parts).toList = ['.'].intercalate parts := by
  rw [dotted, String.toList_ofList]

theorem dotted_map_toList (components : List String) :
    dotted (components.map String.toList) = ".".intercalate components := by
  rw [dotted, ← String.ofList_toList (s := ".".intercalate components), String.toList_intercalate]
  rfl

theorem pieces_dotted {parts : List (List Char)} (nonempty : parts ≠ [])
    (dotFree : ∀ part ∈ parts, '.' ∉ part) : pieces '.' (dotted parts).toList = parts := by
  rw [toList_dotted, pieces_eq_splitOn]
  exact List.splitOn_intercalate '.' dotFree nonempty

end Text

theorem pathComponents_ne_nil (path : String) : pathComponents path ≠ [] := by
  rw [pathComponents, ne_eq, List.map_eq_nil_iff]
  exact Text.pieces_ne_nil '.' path.toList

theorem dotFree_of_mem_pathComponents {path component : String}
    (member : component ∈ pathComponents path) : '.' ∉ component.toList := by
  obtain ⟨piece, inPieces, rfl⟩ := List.mem_map.mp member
  rw [String.toList_ofList]
  exact Text.notMem_of_mem_pieces inPieces

theorem dotted_pathComponents (path : String) :
    Text.dotted ((pathComponents path).map String.toList) = path := by
  have texts : (pathComponents path).map String.toList = Text.pieces '.' path.toList := by
    simp [pathComponents, Function.comp_def]
  rw [texts, Text.pieces_eq_splitOn, Text.dotted, List.intercalate_splitOn, String.ofList_toList]

theorem pathComponents_dotted {components : List String} (nonempty : components ≠ [])
    (dotFree : ∀ component ∈ components, '.' ∉ component.toList) :
    pathComponents (Text.dotted (components.map String.toList)) = components := by
  rw [pathComponents, Text.pieces_dotted (by simpa using nonempty) (by simpa using dotFree)]
  simp [Function.comp_def]

/-- The components of a path are the one row of texts without dots whose dotted form it is. -/
theorem pathComponents_eq_iff (path : String) (components : List String) :
    pathComponents path = components ↔
      components ≠ [] ∧ (∀ component ∈ components, '.' ∉ component.toList) ∧
        path = Text.dotted (components.map String.toList) := by
  constructor
  · intro cut
    subst cut
    exact ⟨pathComponents_ne_nil path, fun _ => dotFree_of_mem_pathComponents,
      (dotted_pathComponents path).symm⟩
  · intro joined
    obtain ⟨nonempty, dotFree, rfl⟩ := joined
    exact pathComponents_dotted nonempty dotFree

/-- A dot between two texts is a cut between their components. -/
theorem pathComponents_append_dot (first second : String) :
    pathComponents (first ++ "." ++ second) = pathComponents first ++ pathComponents second := by
  have text : (first ++ "." ++ second).toList = first.toList ++ '.' :: second.toList := by simp
  simp only [pathComponents, text, Text.pieces_eq_splitOn, List.splitOn_append_cons_self,
    List.map_append]

theorem pathComponents_of_dotFree {path : String} (dotFree : '.' ∉ path.toList) :
    pathComponents path = [path] := by
  rw [pathComponents, Text.pieces_eq_splitOn, List.splitOn_eq_singleton dotFree]
  simp

/-- Components put behind a path, with a dot before each, are components of the longer path. -/
theorem pathComponents_intercalate_cons (path : String) {components : List String}
    (dotFree : ∀ component ∈ components, '.' ∉ component.toList) :
    pathComponents (".".intercalate (path :: components)) = pathComponents path ++ components := by
  induction components generalizing path with
  | nil => rw [String.intercalate_singleton, List.append_nil]
  | cons component rest ih =>
      rw [List.forall_mem_cons] at dotFree
      rw [String.intercalate_cons_cons, pathComponents_append_dot, ih component dotFree.2,
        pathComponents_of_dotFree dotFree.1]
      rfl

theorem exists_eq_append_dot {path : String} (dot : '.' ∈ path.toList) :
    ∃ before after : String, path = before ++ "." ++ after := by
  obtain ⟨before, after, split⟩ := List.append_of_mem dot
  refine ⟨String.ofList before, String.ofList after, ?_⟩
  rw [← String.toList_inj, split]
  simp

/-- A path with a dot in it starts with what stands before the first one, whatever follows. -/
theorem head?_pathComponents_append {stem : String} (dot : '.' ∈ stem.toList) (rest : String) :
    (pathComponents (stem ++ rest)).head? = (pathComponents stem).head? := by
  obtain ⟨before, after, rfl⟩ := exists_eq_append_dot dot
  have regrouped : before ++ "." ++ after ++ rest = before ++ "." ++ (after ++ rest) :=
    String.append_assoc
  rw [regrouped, pathComponents_append_dot, pathComponents_append_dot]
  cases start : pathComponents before with
  | nil => exact absurd start (pathComponents_ne_nil before)
  | cons component others => rfl

theorem two_le_length_pathComponents_iff (path : String) :
    2 ≤ (pathComponents path).length ↔ '.' ∈ path.toList := by
  by_cases dot : '.' ∈ path.toList
  · obtain ⟨before, after, rfl⟩ := exists_eq_append_dot dot
    have first := List.length_pos_iff.mpr (pathComponents_ne_nil before)
    have second := List.length_pos_iff.mpr (pathComponents_ne_nil after)
    have length : 2 ≤ (pathComponents (before ++ "." ++ after)).length := by
      rw [pathComponents_append_dot, List.length_append]
      omega
    exact ⟨fun _ => dot, fun _ => length⟩
  · simp [pathComponents_of_dotFree dot, dot]

theorem wireName_eq_intercalate (segments : List Segment) :
    wireName segments = ".".intercalate (segments.map Segment.wireName) := by
  rw [wireName, ← Text.dotted_map_toList, List.map_map]
  rfl

theorem wireName_singleton (segment : Segment) : wireName [segment] = segment.wireName := by
  rw [wireName_eq_intercalate, List.map_singleton, String.intercalate_singleton]

/-- The wire name of joined segments has a dot where they are joined. -/
theorem wireName_append {first second : List Segment} (nonempty : first ≠ [])
    (more : second ≠ []) :
    wireName (first ++ second) = wireName first ++ "." ++ wireName second := by
  simp only [wireName_eq_intercalate, List.map_append]
  exact String.intercalate_append_of_ne_nil (by simpa using nonempty) (by simpa using more)

end DocFilter
