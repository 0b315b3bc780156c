import DocFilter.Cli.Arguments
import DocFilter.Cli.FileTree
import DocFilter.Config
import DocFilter.Filter.Compilation
import DocFilter.Filter.Source

set_option autoImplicit false

/-
What the commands do. Reading files cannot change anything, so all that a command reads is given as
a function, and what it prints and writes is its result. The effects of a run are written once, for
any monad that has them: the system, or files that are given as a tree.
-/
namespace DocFilter.Cli

inductive Failure where
  | configUnreadable (path : String) (fault : FileFault)
  | configMalformed (path : String)
  | unknownDocument (error : UnknownDocument)
  | filterFileUnreadable (path : String) (fault : FileFault)
  | filterFileInvalid (path : String) (error : SourceError)
  | invalidInline (error : SourceError)
  | noFilters
  | compilation (error : CompileError)
  | outputUnwritable (path : String) (fault : FileFault)

namespace Failure

def inFile (path : String) : String :=
  "Failed to load filters from '" ++ path ++ "': "

/-- The message of a failure, without what the parser of a malformed file says of it: that text is
not modelled, and would follow the name of the file. -/
def message : Failure → String
  | configUnreadable path fault =>
      "Failed to read config file '" ++ path ++ "': " ++ fault.message ++ ": " ++ fault.message
  | configMalformed path => "Failed to parse config file '" ++ path ++ "'"
  | unknownDocument error => error.message
  | filterFileUnreadable path fault =>
      inFile path ++ "Failed to read filter file '" ++ path ++ "': " ++ fault.message ++ ": " ++
        fault.message
  | filterFileInvalid path error => inFile path ++ error.message
  | invalidInline error => error.message
  | noFilters => "No filters given. Pass a filter file or at least one --filter KEY=VALUE"
  | compilation error => error.message
  | outputUnwritable path fault =>
      "Failed to write output file '" ++ path ++ "': " ++ fault.message

end Failure

abbrev Reader := String → Except FileFault ByteArray

def readText (read : Reader) (path : String) : Except FileFault String :=
  match read path with
  | .error fault => .error fault
  | .ok content =>
      match String.fromUTF8? content with
      | some text => .ok text
      | none => .error .notText

/-- The configuration of a run. Without a path nothing is declared. -/
def loadConfig (read : Reader) : Option String → Except Failure Config
  | none => .ok Config.default
  | some path =>
      match readText read path with
      | .error fault => .error (.configUnreadable path fault)
      | .ok text =>
          match Config.ofText? text with
          | none => .error (.configMalformed path)
          | some config => .ok config

def loadFile (read : Reader) : Option String → Except Failure FilterSet
  | none => .ok OrderedMap.empty
  | some path =>
      match readText read path with
      | .error fault => .error (.filterFileUnreadable path fault)
      | .ok text =>
          match FilterSet.ofText text with
          | .error error => .error (.filterFileInvalid path error)
          | .ok filters => .ok filters

/-- The filters of the file and the inline filters, which replace those of the file. -/
def readFilters (read : Reader) (source : Source) : Except Failure FilterSet :=
  match loadFile read source.file with
  | .error failure => .error failure
  | .ok fromFile =>
      match FilterSet.withInline fromFile source.filters with
      | .error error => .error (.invalidInline error)
      | .ok filters => if filters.entries.isEmpty then .error .noFilters else .ok filters

def prepare (read : Reader) (config : Config) (source : Source) :
    Except Failure (Resolver × FilterSet) :=
  match config.schema.resolver? source.document with
  | .error error => .error (.unknownDocument error)
  | .ok resolver => (readFilters read source).map fun filters => (resolver, filters)

def compileText (read : Reader) (config : Config) (source : Source)
    (noValidate compact : Bool) : Except Failure String :=
  match prepare read config source with
  | .error failure => .error failure
  | .ok (resolver, filters) =>
      let compiled :=
        if config.options.validate && !noValidate then resolver.compileChecked filters
        else resolver.compile filters
      match compiled with
      | .error error => .error (.compilation error)
      | .ok query =>
          if compact || !config.options.pretty then .ok (Value.mapping query).compactText
          else .ok (Value.mapping query).indentedText

def validateText (read : Reader) (config : Config) (source : Source) : Except Failure String :=
  match prepare read config source with
  | .error failure => .error failure
  | .ok (resolver, filters) =>
      match resolver.validate filters with
      | .error error => .error (.compilation (.invalid error))
      | .ok () =>
          .ok ("OK: " ++ toString filters.size ++ " filter(s) valid for '" ++ source.document ++
            "'")

def padded (width : Nat) (text : String) : String :=
  text ++ String.ofList (List.replicate (width - text.length) ' ')

/-- The line of an operator: its name, its suffix, and an example of what it produces. -/
def operatorLine (operator : Operator) : String :=
  let suffix := if operator = .equals then "(none)" else "__" ++ operator.token
  let sample := Value.mapping (operator.fragment "field" (.string "value"))
  padded 10 operator.name ++ " " ++ padded 12 suffix ++ " " ++ sample.compactText ++ "\n"

def operatorListing : String :=
  String.join (Operator.all.map operatorLine)

structure Output where
  printed : String
  content : String

/-- Colours are used when they are asked for. Otherwise there are none: output is taken not to go to
a terminal, and no variable of the environment to ask for them. -/
def green (color : ColorMode) (text : String) : String :=
  if color = .always then "\x1b[32m" ++ text ++ "\x1b[0m" else text

def Command.output (read : Reader) (config : Config) (quiet : Bool) (color : ColorMode) :
    Command → Except Failure Output
  | compile source noValidate compact =>
      (compileText read config source noValidate compact).map fun text => ⟨text ++ "\n", text⟩
  | validate source =>
      (validateText read config source).map fun text =>
        ⟨if quiet then "" else green color text ++ "\n", text⟩
  | operators => .ok ⟨operatorListing, operatorListing⟩

def Invocation.outcome (read : Reader) (invocation : Invocation) : Except Failure Output :=
  match loadConfig read invocation.config with
  | .error failure => .error failure
  | .ok config => invocation.command.output read config invocation.quiet invocation.color

def errorLine (color : ColorMode) (failure : Failure) : String :=
  let mark := if color = .always then "\x1b[1;31merror:\x1b[0m" else "error:"
  mark ++ " " ++ failure.message

def versionText : String := "query-filter 0.1.0\n"

def helpText : String :=
  "Compile filter keys into document-store queries\n\n" ++
    "Usage: query-filter [OPTIONS] <COMMAND>\n\n" ++
    "Commands:\n" ++
    "  compile    Compile filters into a query document\n" ++
    "  validate   Check that every filter key is valid for the document\n" ++
    "  operators  List the operator suffixes a filter key can end with\n"

def Command.file? : Command → Option String
  | compile source _ _ => source.file
  | validate source => source.file
  | operators => none

/-- The paths of the files that a run may read. -/
def Invocation.paths (invocation : Invocation) : List String :=
  invocation.config.toList ++ invocation.command.file?.toList

def readerOf (fetched : List (String × Except FileFault ByteArray)) : Reader := fun path =>
  (fetched.lookup path).getD (.error .notFound)

/-- What a run does to its surroundings: the system, or a tree of files. -/
structure Effects (m : Type → Type) where
  read (path : String) : m (Except FileFault ByteArray)
  print (text : String) : m Unit
  report (line : String) : m Unit
  write (path : String) (content : ByteArray) : m (Except FileFault Unit)

section

variable {m : Type → Type} [Monad m]

def Effects.fetch (effects : Effects m) (path : String) :
    m (String × Except FileFault ByteArray) := do
  let content ← effects.read path
  pure (path, content)

/-- Reports a failure. The result is the exit code, here as below. -/
def Effects.fail (effects : Effects m) (color : ColorMode) (failure : Failure) : m Nat := do
  effects.report (errorLine color failure)
  pure 1

def Effects.save (effects : Effects m) (color : ColorMode) (content : String) :
    Option String → m Nat
  | none => pure 0
  | some path => do
      match ← effects.write path content.toUTF8 with
      | .error fault => effects.fail color (.outputUnwritable path fault)
      | .ok () => pure 0

/-- Runs a command, and writes its output file after everything is printed. -/
def Invocation.perform (effects : Effects m) (invocation : Invocation) : m Nat := do
  let fetched ← invocation.paths.mapM effects.fetch
  match invocation.outcome (readerOf fetched) with
  | .error failure => effects.fail invocation.color failure
  | .ok output =>
      effects.print output.printed
      effects.save invocation.color output.content invocation.output

/-- Runs the program. Misuse is reported in the exit code alone. -/
def Request.perform (effects : Effects m) : Request → m Nat
  | run invocation => invocation.perform effects
  | version => do
      effects.print versionText
      pure 0
  | help => do
      effects.print helpText
      pure 0
  | misuse => pure 2

end

structure World where
  tree : FileTree
  printed : String
  error : Option String

def World.effects : Effects (StateM World) where
  read path world := (world.tree.read path, world)
  print text world := ((), { world with printed := world.printed ++ text })
  report line world := ((), { world with error := some line })
  write path content world :=
    match world.tree.write path content with
    | .error fault => (.error fault, world)
    | .ok written => (.ok (), { world with tree := written })

structure Report where
  exitCode : Nat
  printed : String
  error : Option String
  deriving DecidableEq

/-- What an action on files shows, and the files that it leaves. -/
def World.reportOf (action : StateM World Nat) (tree : FileTree) : Report × FileTree :=
  let (exitCode, world) := action.run ⟨tree, "", none⟩
  (⟨exitCode, world.printed, world.error⟩, world.tree)

def Invocation.run (invocation : Invocation) (tree : FileTree) : Report × FileTree :=
  World.reportOf (invocation.perform World.effects) tree

def Request.serve (tree : FileTree) (request : Request) : Report × FileTree :=
  World.reportOf (request.perform World.effects) tree

end DocFilter.Cli
