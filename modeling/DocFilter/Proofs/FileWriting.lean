import DocFilter.Cli.FileTree

set_option autoImplicit false

namespace DocFilter.Cli.FileTree

variable {tree : FileTree} {way : List String}

/-- At the way stands a file, or nothing. -/
def Replaceable (tree : FileTree) (way : List String) : Prop :=
  tree.node? way = none ∨ ∃ content, tree.node? way = some (.file content)

theorem Replaceable.node?_ne (free : tree.Replaceable way) {node : Node}
    (noFile : ∀ content, node ≠ .file content) : tree.node? way ≠ some node := by
  intro found
  rcases free with vacant | ⟨content, held⟩
  · rw [vacant] at found
    cases found
  · rw [held] at found
    exact noFile content (Option.some.inj found).symm

theorem Replaceable.ne_nil (free : tree.Replaceable way) : way ≠ [] := by
  rintro rfl
  exact free.node?_ne (by simp) rfl

theorem node?_put (nonempty : way ≠ []) (content : ByteArray) (other : List String) :
    (tree.put way content).node? other =
      if other = way then some (.file content) else tree.node? other := by
  cases other with
  | nil =>
      rw [if_neg nonempty.symm]
      rfl
  | cons name rest =>
      simp only [node?, put, List.isEmpty_cons, Bool.false_eq_true, if_false, List.lookup_cons]
      by_cases same : name :: rest = way
      · rw [if_pos same, beq_iff_eq.mpr same]
      · rw [if_neg same, beq_eq_false_iff_ne.mpr same]

theorem step_ok {directory : List String} {name : String} {here : Option Node}
    (stepped : tree.step directory name = .ok here) :
    tree.node? (onward directory name) = here := by
  unfold step at stepped
  split at stepped
  · cases stepped
  · exact Except.ok.inj stepped
  · cases stepped

/-- A write changes a step only where the step ends at what is written. -/
theorem step_put (free : tree.Replaceable way) (content : ByteArray) (directory : List String)
    (name : String) :
    (tree.put way content).step directory name =
      (tree.step directory name).map fun here =>
        if onward directory name = way then some (.file content) else here := by
  have sameRefusal : (tree.put way content).refusal? = tree.refusal? := rfl
  unfold step
  rw [sameRefusal, node?_put free.ne_nil, node?_put free.ne_nil]
  cases tree.refusal? .search directory with
  | some fault => rfl
  | none =>
      by_cases same : directory = way
      · subst same
        rw [if_pos rfl]
        cases here : tree.node? directory with
        | none => rfl
        | some node =>
            cases node with
            | directory => exact absurd here (free.node?_ne (by simp))
            | file old => rfl
            | link target => rfl
      · rw [if_neg same]
        cases tree.node? directory with
        | none => rfl
        | some node => cases node <;> rfl

/-- A directory or a link on the way is not what is written, so it is passed as before. -/
theorem step_put_of_passed (free : tree.Replaceable way) (content : ByteArray)
    {directory : List String} {name : String} {node : Node}
    (noFile : ∀ content, node ≠ .file content)
    (stepped : tree.step directory name = .ok (some node)) :
    (tree.put way content).step directory name = .ok (some node) := by
  have kept : onward directory name ≠ way := by
    rintro rfl
    exact free.node?_ne noFile (step_ok stepped)
  rw [step_put free, stepped, Except.map, if_neg kept]

namespace Place

/-- The way at which a write to the place puts a file. -/
def way? : Place → Option (List String)
  | file way _ => some way
  | vacant way => some way
  | directory _ => none
  | slashed _ => none

end Place

theorem ending_eq_ok {place found : Place} {fault : FileFault} {rest : List String}
    (ended : ending place fault rest = .ok found) (target : found.way? = some way) :
    rest = [] ∧ found = place := by
  unfold ending at ended
  split at ended
  · next last =>
      cases ended
      exact ⟨List.isEmpty_iff.mp last, rfl⟩
  · split at ended
    · cases ended
      cases target
    · cases ended

/-- A name that ends at the way of a file ends there at what has been written. -/
theorem walk_put_last {along : List String → String → List String → Except FileFault Place}
    (free : tree.Replaceable way) (content : ByteArray) {directory : List String} {name : String}
    {here : Option Node} (named : ¬name.isEmpty = true)
    (stepped : tree.step directory name = .ok here) (reached : onward directory name = way) :
    (tree.put way content).walk along directory [name] = .ok (.file way content) := by
  unfold walk
  rw [if_neg named, step_put free, stepped, reached]
  simp only [Except.map, if_pos]
  rfl

/-- A path that leads to a place where a file can be written leads to the file once it is. -/
theorem walk_put {along after : List String → String → List String → Except FileFault Place}
    {place : Place} {content : ByteArray} (target : place.way? = some way)
    (behindLink : ∀ directory link rest, along directory link rest = .ok place →
      tree.Replaceable way ∧ after directory link rest = .ok (.file way content))
    {directory names : List String} (found : tree.walk along directory names = .ok place) :
    tree.Replaceable way ∧
      (tree.put way content).walk after directory names = .ok (.file way content) := by
  induction names generalizing directory with
  | nil =>
      cases found
      cases target
  | cons name rest ih =>
      unfold walk at found
      by_cases blank : name.isEmpty = true
      · rw [if_pos blank] at found
        unfold walk
        rw [if_pos blank]
        exact ih found
      rw [if_neg blank] at found
      cases stepped : tree.step directory name with
      | error fault =>
          rw [stepped] at found
          cases found
      | ok here =>
          rw [stepped] at found
          have standing := step_ok stepped
          cases here with
          | none =>
              obtain ⟨rfl, rfl⟩ := ending_eq_ok found target
              obtain rfl := Option.some.inj target
              exact ⟨.inl standing, walk_put_last (.inl standing) content blank stepped rfl⟩
          | some node =>
              cases node with
              | file old =>
                  obtain ⟨rfl, rfl⟩ := ending_eq_ok found target
                  obtain rfl := Option.some.inj target
                  have free : tree.Replaceable (onward directory name) := .inr ⟨old, standing⟩
                  exact ⟨free, walk_put_last free content blank stepped rfl⟩
              | directory =>
                  obtain ⟨free, led⟩ := ih found
                  refine ⟨free, ?_⟩
                  unfold walk
                  rw [if_neg blank, step_put_of_passed free content (by simp) stepped]
                  exact led
              | link link =>
                  obtain ⟨free, led⟩ := behindLink _ _ _ found
                  refine ⟨free, ?_⟩
                  unfold walk
                  rw [if_neg blank, step_put_of_passed free content (by simp) stepped]
                  exact led

theorem follow_put {place : Place} {content : ByteArray} (target : place.way? = some way)
    {links : Nat} {directory names : List String}
    (found : tree.follow links directory names = .ok place) :
    tree.Replaceable way ∧
      (tree.put way content).follow links directory names = .ok (.file way content) := by
  induction links generalizing directory names with
  | zero =>
      rw [follow] at found ⊢
      exact walk_put target (fun _ _ _ stopped => by cases stopped) found
  | succ links ih =>
      rw [follow] at found ⊢
      exact walk_put target (fun _ _ _ led => ih led) found

theorem find_put {path : String} {place : Place} {content : ByteArray}
    (found : tree.find path = .ok place) (target : place.way? = some way) :
    tree.Replaceable way ∧ (tree.put way content).find path = .ok (.file way content) := by
  unfold find at found ⊢
  split at found
  · cases found
  · next nonempty =>
      rw [if_neg nonempty]
      exact follow_put target found

theorem permitted_eq_ok {α : Type} {access : Access} {result : Except FileFault α} {value : α}
    (allowed : tree.permitted access way result = .ok value) : result = .ok value := by
  unfold permitted at allowed
  split at allowed
  · cases allowed
  · exact allowed

theorem read_of_find {path : String} {content : ByteArray}
    (found : tree.find path = .ok (.file way content)) (allowed : tree.refusal? .read way = none) :
    tree.read path = .ok content := by
  simp only [read, found, permitted, allowed]

theorem write_eq_ok {path : String} {content : ByteArray} {written : FileTree}
    (done : tree.write path content = .ok written) :
    ∃ place way, tree.find path = .ok place ∧ place.way? = some way ∧
      written = tree.put way content := by
  unfold write at done
  split at done
  · cases done
  · cases done
  · next way old found =>
      exact ⟨_, way, found, rfl, (Except.ok.inj (permitted_eq_ok done)).symm⟩
  · next way found =>
      exact ⟨_, way, found, rfl, (Except.ok.inj (permitted_eq_ok done)).symm⟩
  · cases done

/-- Writing puts the content where the path leads, before and afterwards, and changes nothing
else. -/
theorem write_effects {path : String} {content : ByteArray} {written : FileTree}
    (done : tree.write path content = .ok written) :
    ∃ place way, tree.find path = .ok place ∧ place.way? = some way ∧
      written = tree.put way content ∧ written.find path = .ok (.file way content) ∧
      ∀ other, other ≠ way → written.node? other = tree.node? other := by
  obtain ⟨place, way, found, target, rfl⟩ := write_eq_ok done
  obtain ⟨free, led⟩ := find_put found target
  refine ⟨place, way, found, target, rfl, led, ?_⟩
  intro other elsewhere
  rw [node?_put free.ne_nil, if_neg elsewhere]

end DocFilter.Cli.FileTree
