import DocFilter.Proofs.CommandAgreement
import DocFilter.Proofs.CommandReads
import DocFilter.Proofs.FileWriting

set_option autoImplicit false

namespace DocFilter.Cli

def Failure.concernsOutput : Failure → Bool
  | .outputUnwritable _ _ => true
  | _ => false

theorem Failure.OfSource.concernsOutput_eq {failure : Failure} (early : failure.OfSource) :
    failure.concernsOutput = false := by
  cases early <;> rfl

section Outcome

variable {read : Reader} {config : Config} {source : Source} {failure : Failure}

theorem loadConfig_error {path : Option String} (failed : loadConfig read path = .error failure) :
    failure.concernsOutput = false := by
  unfold loadConfig at failed
  split at failed
  · cases failed
  · split at failed
    · cases failed
      rfl
    · split at failed
      · cases failed
        rfl
      · cases failed

theorem compileQuery_error {noValidate : Bool}
    (failed : compileQuery read config source noValidate = .error failure) :
    failure.concernsOutput = false := by
  unfold compileQuery at failed
  split at failed
  · next other unprepared =>
      cases failed
      exact (prepare_error unprepared).concernsOutput_eq
  · obtain ⟨error, -, rfl⟩ := mapError_eq_error_iff.mp failed
    rfl

theorem validateText_error (failed : validateText read config source = .error failure) :
    failure.concernsOutput = false := by
  unfold validateText at failed
  split at failed
  · next other unprepared =>
      cases failed
      exact (prepare_error unprepared).concernsOutput_eq
  · split at failed
    · cases failed
      rfl
    · cases failed

theorem output_error {quiet : Bool} {color : ColorMode} {command : Command}
    (failed : command.output read config quiet color = .error failure) :
    failure.concernsOutput = false := by
  cases command with
  | compile source noValidate compact =>
      rw [Command.output, compileText_eq, map_eq_error_iff, map_eq_error_iff] at failed
      exact compileQuery_error failed
  | validate source =>
      rw [Command.output, map_eq_error_iff] at failed
      exact validateText_error failed
  | operators => cases failed

/-- No stage before the last one writes the output file. -/
theorem outcome_error {invocation : Invocation}
    (failed : invocation.outcome read = .error failure) : failure.concernsOutput = false := by
  unfold Invocation.outcome at failed
  split at failed
  · next other unloaded =>
      cases failed
      exact loadConfig_error unloaded
  · exact output_error failed

theorem validateText_ok {text : String} (valid : validateText read config source = .ok text) :
    ∃ filters, readFilters read source = .ok filters ∧
      text = validMessage source.document filters := by
  cases prepared : prepare read config source with
  | error other =>
      rw [validateText, prepared] at valid
      cases valid
  | ok pair =>
      obtain ⟨resolver, filters⟩ := pair
      rw [validateText_prepared prepared, map_eq_ok_iff] at valid
      obtain ⟨-, -, message⟩ := valid
      exact ⟨filters, prepare_ok prepared, message.symm⟩

end Outcome

/-- How what a successful run prints is related to the content of its output file. -/
def Invocation.Shows (read : Reader) (invocation : Invocation) (printed content : String) : Prop :=
  match invocation.command with
  | .compile _ _ _ => printed = content ++ "\n"
  | .validate source =>
      (∃ filters, readFilters read source = .ok filters ∧
        content = validMessage source.document filters) ∧
      printed = if invocation.quiet then "" else green invocation.color content ++ "\n"
  | .operators => printed = content

theorem shows_of_outcome {read : Reader} {invocation : Invocation} {output : Output}
    (done : invocation.outcome read = .ok output) :
    invocation.Shows read output.printed output.content := by
  unfold Invocation.outcome at done
  split at done
  · cases done
  · next config loaded =>
      unfold Invocation.Shows
      cases command : invocation.command with
      | compile source noValidate compact =>
          rw [command, Command.output, map_eq_ok_iff] at done
          obtain ⟨text, -, rfl⟩ := done
          rfl
      | validate source =>
          rw [command, Command.output, map_eq_ok_iff] at done
          obtain ⟨text, valid, rfl⟩ := done
          exact ⟨validateText_ok valid, rfl⟩
      | operators =>
          rw [command] at done
          cases done
          rfl

namespace Invocation

def failure? (invocation : Invocation) (tree : FileTree) : Option Failure :=
  match invocation.outcome tree.read with
  | .error failure => some failure
  | .ok output =>
      match invocation.output with
      | none => none
      | some path =>
          match tree.write path output.content.toUTF8 with
          | .error fault => some (.outputUnwritable path fault)
          | .ok _ => none

/-- How a run ends: why it fails, if it does, what it shows, and the files it leaves. -/
inductive Ends (invocation : Invocation) (tree : FileTree) :
    Option Failure → Report × FileTree → Prop where
  | early {failure : Failure} (failed : invocation.outcome tree.read = .error failure) :
      Ends invocation tree (some failure)
        (⟨1, "", some (errorLine invocation.color failure)⟩, tree)
  | printed {output : Output} (done : invocation.outcome tree.read = .ok output)
      (target : invocation.output = none) :
      Ends invocation tree none (⟨0, output.printed, none⟩, tree)
  | unwritable {output : Output} {path : String} {fault : FileFault}
      (done : invocation.outcome tree.read = .ok output) :
      Ends invocation tree (some (.outputUnwritable path fault))
        (⟨1, output.printed, some (errorLine invocation.color (.outputUnwritable path fault))⟩,
          tree)
  | written {output : Output} {path : String} {written : FileTree}
      (done : invocation.outcome tree.read = .ok output) (target : invocation.output = some path)
      (wrote : tree.write path output.content.toUTF8 = .ok written) :
      Ends invocation tree none (⟨0, output.printed, none⟩, written)

theorem ends_run (invocation : Invocation) (tree : FileTree) :
    invocation.Ends tree (invocation.failure? tree) (invocation.run tree) := by
  cases outcome : invocation.outcome tree.read with
  | error failure =>
      simp only [failure?, run_eq, outcome]
      exact .early outcome
  | ok output =>
      cases target : invocation.output with
      | none =>
          simp only [failure?, run_eq, outcome, target]
          exact .printed outcome target
      | some path =>
          cases result : tree.write path output.content.toUTF8 with
          | error fault =>
              simp only [failure?, run_eq, outcome, target, result]
              exact .unwritable outcome
          | ok written =>
              simp only [failure?, run_eq, outcome, target, result]
              exact .written outcome target result

theorem run_without_output {invocation : Invocation} {tree : FileTree} {output : Output}
    (done : invocation.outcome tree.read = .ok output) :
    { invocation with output := none }.run tree = (⟨0, output.printed, none⟩, tree) := by
  have same : { invocation with output := none }.outcome tree.read = .ok output := done
  simp only [run_eq, same]

end Invocation

/-- A run that fails prints nothing and leaves all files as they are, unless it is the output file
that cannot be written: then it prints what it prints without an output path. A run that succeeds
leaves in its output file what it shows, and everything else as it is. -/
theorem run_effects {defaultConfig : Option String} {arguments : List String}
    {invocation : Invocation}
    (parsed : Request.ofArguments defaultConfig arguments = .run invocation)
    {tree after : FileTree} {report : Report}
    (served : (Request.ofArguments defaultConfig arguments).serve tree = (report, after)) :
    match invocation.failure? tree with
    | some failure =>
        report.exitCode = 1 ∧ report.error = some (errorLine invocation.color failure) ∧
        if failure.concernsOutput then
          report.printed = ({ invocation with output := none }.run tree).1.printed
        else report.printed = "" ∧ after = tree
    | none =>
        report.exitCode = 0 ∧ report.error = none ∧
        (invocation.output = none → after = tree) ∧
        ∀ path, invocation.output = some path → ∃ place way content,
          tree.find path = .ok place ∧ place.way? = some way ∧
          after = tree.put way content.toUTF8 ∧
          after.find path = .ok (.file way content.toUTF8) ∧
          invocation.Shows tree.read report.printed content ∧
          ∀ other, other ≠ way → after.node? other = tree.node? other := by
  have ends := invocation.ends_run tree
  rw [parsed] at served
  change invocation.run tree = (report, after) at served
  rw [served] at ends
  generalize invocation.failure? tree = reason at ends
  cases ends with
  | early failed =>
      refine ⟨rfl, rfl, ?_⟩
      rw [outcome_error failed, if_neg Bool.false_ne_true]
      exact ⟨rfl, rfl⟩
  | printed done target =>
      refine ⟨rfl, rfl, fun _ => rfl, ?_⟩
      intro path named
      rw [target] at named
      cases named
  | unwritable done =>
      refine ⟨rfl, rfl, ?_⟩
      rw [Invocation.run_without_output done]
      rfl
  | written done target wrote =>
      refine ⟨rfl, rfl, ?_, ?_⟩
      · intro noTarget
        rw [target] at noTarget
        cases noTarget
      · intro path named
        obtain rfl := Option.some.inj (target.symm.trans named)
        obtain ⟨place, way, found, aimed, put, led, kept⟩ := FileTree.write_effects wrote
        exact ⟨place, way, _, found, aimed, put, led, shows_of_outcome done, kept⟩

/-- The listing is written above the working directory and to an absolute path; where there is a
directory, it is printed all the same. -/
theorem run_effects_operators :
    (∀ path ∈ ["../q", "/tmp/q"], ∃ report after,
      (Request.ofArguments none ["operators", "-o", path]).serve (.ofFiles []) = (report, after) ∧
      report.exitCode = 0 ∧ readText after.read path = .ok report.printed) ∧
    ∃ report after,
      (Request.ofArguments none ["-qo", "/tmp", "operators"]).serve (.ofFiles []) =
        (report, after) ∧
      report.exitCode = 1 ∧ report.printed = operatorListing := by
  constructor
  · intro path listed
    rw [List.mem_cons, List.mem_singleton] at listed
    have parsed : Request.ofArguments none ["operators", "-o", path] =
        .run ⟨none, some path, false, .auto, .operators⟩ := by
      rcases listed with rfl | rfl <;> decide
    have vacant : (FileTree.ofFiles []).find path = .ok (.vacant ["tmp", "q"]) := by
      rcases listed with rfl | rfl <;> rfl
    have writable : (FileTree.ofFiles []).refusal? .write ["tmp", "q"] = none := rfl
    have reason : Invocation.failure? ⟨none, some path, false, .auto, .operators⟩
        (.ofFiles []) = none := by
      simp [Invocation.failure?, Invocation.outcome, loadConfig, Command.output, FileTree.write,
        vacant, FileTree.permitted, writable]
    obtain ⟨⟨report, after⟩, served⟩ : ∃ ran,
        (Request.ofArguments none ["operators", "-o", path]).serve (.ofFiles []) = ran := ⟨_, rfl⟩
    have effects := run_effects parsed served
    rw [reason] at effects
    obtain ⟨code, -, -, written⟩ := effects
    obtain ⟨place, way, content, -, -, put, led, shown, -⟩ := written path rfl
    obtain rfl : report.printed = content := shown
    have readable : after.refusal? .read way = none := by
      rw [put]
      rfl
    exact ⟨report, after, served, code, readText_of_utf8 (FileTree.read_of_find led readable)⟩
  · have parsed : Request.ofArguments none ["-qo", "/tmp", "operators"] =
        .run ⟨none, some "/tmp", true, .auto, .operators⟩ := by decide
    have occupied : (FileTree.ofFiles []).find "/tmp" = .ok (.directory ["tmp"]) := rfl
    have reason : Invocation.failure? ⟨none, some "/tmp", true, .auto, .operators⟩
        (.ofFiles []) = some (.outputUnwritable "/tmp" .isDirectory) := by
      simp [Invocation.failure?, Invocation.outcome, loadConfig, Command.output, FileTree.write,
        occupied]
    obtain ⟨⟨report, after⟩, served⟩ : ∃ ran, (Request.ofArguments none
        ["-qo", "/tmp", "operators"]).serve (.ofFiles []) = ran := ⟨_, rfl⟩
    have effects := run_effects parsed served
    rw [reason] at effects
    obtain ⟨code, -, printed⟩ := effects
    exact ⟨report, after, served, code, printed⟩

end DocFilter.Cli
