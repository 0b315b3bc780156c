import DocFilter.Cli.Run

set_option autoImplicit false

namespace DocFilter.Cli

section Reads

variable {read other : Reader}

theorem readText_congr {path : String} (same : read path = other path) :
    readText read path = readText other path := by
  rw [readText, readText, same]

theorem loadConfig_congr {config : Option String}
    (same : ∀ path, config = some path → read path = other path) :
    loadConfig read config = loadConfig other config := by
  cases config with
  | none => rfl
  | some path => rw [loadConfig, loadConfig, readText_congr (same path rfl)]

theorem loadFile_congr {file : Option String}
    (same : ∀ path, file = some path → read path = other path) :
    loadFile read file = loadFile other file := by
  cases file with
  | none => rfl
  | some path => rw [loadFile, loadFile, readText_congr (same path rfl)]

theorem prepare_congr {config : Config} {source : Source}
    (same : ∀ path, source.file = some path → read path = other path) :
    prepare read config source = prepare other config source := by
  rw [prepare, prepare, readFilters, readFilters, loadFile_congr same]

theorem output_congr {config : Config} {quiet : Bool} {color : ColorMode} {command : Command}
    (same : ∀ path, command.file? = some path → read path = other path) :
    command.output read config quiet color = command.output other config quiet color := by
  cases command with
  | compile source noValidate compact =>
      rw [Command.output, Command.output, compileText, compileText, prepare_congr same]
  | validate source =>
      rw [Command.output, Command.output, validateText, validateText, prepare_congr same]
  | operators => rfl

/-- A run depends on no file but those that it names. -/
theorem outcome_congr {invocation : Invocation}
    (same : ∀ path ∈ invocation.paths, read path = other path) :
    invocation.outcome read = invocation.outcome other := by
  have sameConfig : ∀ path, invocation.config = some path → read path = other path := by
    intro path named
    apply same
    rw [Invocation.paths, named]
    exact List.mem_append_left _ (List.mem_singleton_self path)
  have sameFile : ∀ path, invocation.command.file? = some path → read path = other path := by
    intro path named
    apply same
    rw [Invocation.paths, named]
    exact List.mem_append_right _ (List.mem_singleton_self path)
  rw [Invocation.outcome, Invocation.outcome, loadConfig_congr sameConfig]
  cases loadConfig other invocation.config with
  | error failure => rfl
  | ok config => exact output_congr sameFile

end Reads

theorem readerOf_of_mem (read : Reader) {paths : List String} {path : String}
    (fetched : path ∈ paths) :
    readerOf (paths.map fun path => (path, read path)) path = read path := by
  induction paths with
  | nil => cases fetched
  | cons first rest ih =>
      rw [readerOf, List.map_cons, List.lookup_cons]
      by_cases same : path = first
      · rw [beq_iff_eq.mpr same, same]
        rfl
      · rw [beq_eq_false_iff_ne.mpr same]
        exact ih (List.mem_of_ne_of_mem same fetched)

theorem run_bind {α β : Type} (action : StateM World α) (next : α → StateM World β)
    (world : World) :
    (action >>= next).run world = (next (action.run world).1).run (action.run world).2 :=
  rfl

theorem run_fetch (paths : List String) (world : World) :
    (paths.mapM World.effects.fetch).run world =
      (paths.map fun path => (path, world.tree.read path), world) := by
  induction paths with
  | nil => rfl
  | cons first rest ih =>
      have here : (World.effects.fetch first).run world =
          ((first, world.tree.read first), world) := rfl
      rw [List.mapM_cons, run_bind, here, run_bind, ih]
      rfl

/-- On files, a run reads what is there, and then does what its outcome says. -/
theorem run_perform (invocation : Invocation) (world : World) :
    (invocation.perform World.effects).run world =
      match invocation.outcome world.tree.read with
      | .error failure =>
          (1, { world with error := some (errorLine invocation.color failure) })
      | .ok output =>
          (World.effects.save invocation.color output.content invocation.output).run
            { world with printed := world.printed ++ output.printed } := by
  have same : invocation.outcome
      (readerOf (invocation.paths.map fun path => (path, world.tree.read path))) =
        invocation.outcome world.tree.read :=
    outcome_congr fun path named => readerOf_of_mem world.tree.read named
  rw [Invocation.perform, run_bind, run_fetch]
  dsimp only
  rw [same]
  cases invocation.outcome world.tree.read with
  | error failure => rfl
  | ok output => rfl

theorem run_save (color : ColorMode) (content path : String) (world : World) :
    (World.effects.save color content (some path)).run world =
      match world.tree.write path content.toUTF8 with
      | .error fault =>
          (1, { world with error := some (errorLine color (.outputUnwritable path fault)) })
      | .ok written => (0, { world with tree := written }) := by
  have wrote : (World.effects.write path content.toUTF8).run world =
      match world.tree.write path content.toUTF8 with
      | .error fault => (.error fault, world)
      | .ok written => (.ok (), { world with tree := written }) := rfl
  rw [Effects.save, run_bind, wrote]
  cases world.tree.write path content.toUTF8 with
  | error fault => rfl
  | ok written => rfl

/-- What a run on files comes to. -/
theorem run_eq (invocation : Invocation) (tree : FileTree) :
    invocation.run tree =
      match invocation.outcome tree.read with
      | .error failure => (⟨1, "", some (errorLine invocation.color failure)⟩, tree)
      | .ok output =>
          match invocation.output with
          | none => (⟨0, output.printed, none⟩, tree)
          | some path =>
              match tree.write path output.content.toUTF8 with
              | .error fault =>
                  (⟨1, output.printed,
                    some (errorLine invocation.color (.outputUnwritable path fault))⟩, tree)
              | .ok written => (⟨0, output.printed, none⟩, written) := by
  rw [Invocation.run, World.reportOf, run_perform]
  cases invocation.outcome tree.read with
  | error failure => rfl
  | ok output =>
      dsimp only
      rw [String.empty_append]
      cases invocation.output with
      | none => rfl
      | some path =>
          rw [run_save]
          dsimp only
          cases tree.write path output.content.toUTF8 with
          | error fault => rfl
          | ok written => rfl

end DocFilter.Cli
