set_option autoImplicit false

namespace DocFilter.Cli

inductive ColorMode where
  | auto
  | always
  | never
  deriving DecidableEq

/-- Where the filters of a command come from, and which document type they apply to. -/
structure Source where
  document : String
  file : Option String
  filters : List String
  deriving DecidableEq

inductive Command where
  | compile (source : Source) (noValidate compact : Bool)
  | validate (source : Source)
  | operators
  deriving DecidableEq

structure Invocation where
  config : Option String
  output : Option String
  quiet : Bool
  color : ColorMode
  command : Command
  deriving DecidableEq

inductive Request where
  | run (invocation : Invocation)
  | version
  | help
  | misuse
  deriving DecidableEq

inductive Flag where
  | config
  | verbose
  | quiet
  | output
  | color
  | document
  | filter
  | noValidate
  | compact
  | help
  | version
  deriving DecidableEq

namespace Flag

def short? : Flag → Option Char
  | config => some 'c'
  | verbose => some 'v'
  | quiet => some 'q'
  | output => some 'o'
  | document => some 'd'
  | filter => some 'f'
  | help => some 'h'
  | version => some 'V'
  | color => none
  | noValidate => none
  | compact => none

def long : Flag → String
  | config => "config"
  | verbose => "verbose"
  | quiet => "quiet"
  | output => "output"
  | color => "color"
  | document => "document"
  | filter => "filter"
  | noValidate => "no-validate"
  | compact => "compact"
  | help => "help"
  | version => "version"

def takesValue : Flag → Bool
  | config | output | color | document | filter => true
  | _ => false

def isRepeatable : Flag → Bool
  | verbose | filter => true
  | _ => false

/-- Whether the option can have the value. Paths are not empty. -/
def accepts (flag : Flag) (value : String) : Bool :=
  match flag with
  | config | output => !value.isEmpty
  | color => value == "auto" || value == "always" || value == "never"
  | _ => true

end Flag

def sharedFlags : List Flag := [.config, .verbose, .quiet, .output, .color, .help]

/-- A place for arguments: before the command, or after one. -/
structure Level where
  flags : List Flag
  commands : List String
  /-- How many arguments may stand there that are no options. -/
  positionals : Nat

namespace Level

def top : Level := ⟨.version :: sharedFlags, ["compile", "validate", "operators", "help"], 0⟩

def compile : Level := ⟨sharedFlags ++ [.document, .filter, .noValidate, .compact], [], 1⟩

def validate : Level := ⟨sharedFlags ++ [.document, .filter], [], 1⟩

def operators : Level := ⟨sharedFlags, [], 0⟩

end Level

structure Given where
  options : List (Flag × String)
  positionals : List String

namespace Given

def empty : Given := ⟨[], []⟩

def has (given : Given) (flag : Flag) : Bool :=
  given.options.any fun option => option.1 = flag

def values (given : Given) (flag : Flag) : List String :=
  (given.options.filter fun option => option.1 = flag).map Prod.snd

def value? (given : Given) (flag : Flag) : Option String :=
  (given.values flag).head?

/-- Takes in one more option. Help and version end the reading at once; an option that is not
repeatable stands once. -/
def add (given : Given) (flag : Flag) (value : String) : Except Request Given :=
  if flag = .help then .error .help
  else if flag = .version then .error .version
  else if !flag.isRepeatable && given.has flag then .error .misuse
  else if flag.accepts value then .ok ⟨given.options ++ [(flag, value)], given.positionals⟩
  else .error .misuse

def addPositional (given : Given) (level : Level) (value : String) : Except Request Given :=
  if given.positionals.length < level.positionals ∧ !value.isEmpty then
    .ok ⟨given.options, given.positionals ++ [value]⟩
  else .error .misuse

end Given

/-- What an argument with options leaves: what has been given, and perhaps an option whose value is
the next argument. -/
abbrev Taken := Given × Option Flag

/-- Reads a row of short options. What follows an option that takes a value is its value, an equals
sign between them being dropped. -/
def takeShort (level : Level) (given : Given) : List Char → Except Request Taken
  | [] => .ok (given, none)
  | c :: rest =>
      match level.flags.find? fun flag => flag.short? = some c with
      | none => .error .misuse
      | some flag =>
          if flag.takesValue then
            match rest with
            | [] => .ok (given, some flag)
            | '=' :: value => (given.add flag (String.ofList value)).map fun given => (given, none)
            | value => (given.add flag (String.ofList value)).map fun given => (given, none)
          else match given.add flag "" with
            | .error request => .error request
            | .ok given => takeShort level given rest

def takeLong (level : Level) (given : Given) (cs : List Char) : Except Request Taken :=
  let name := String.ofList (cs.takeWhile (· != '='))
  match level.flags.find? fun flag => flag.long = name with
  | none => .error .misuse
  | some flag =>
      match flag.takesValue, cs.dropWhile (· != '=') with
      | true, [] => .ok (given, some flag)
      | true, _ :: value => (given.add flag (String.ofList value)).map fun given => (given, none)
      | false, [] => (given.add flag "").map fun given => (given, none)
      | false, _ => .error .misuse

def looksLikeOption (argument : String) : Bool :=
  match argument.toList with
  | '-' :: _ :: _ => true
  | _ => false

structure Scanned where
  given : Given
  /-- The command that ends the level, with the arguments that follow it. -/
  command : Option (String × List String)
  /-- Whether the last option before the command is wrong. That shows only after the arguments of
  the command have been read, so a request for help there is still answered. -/
  isRefused : Bool

def scanPositionals (level : Level) (given : Given) : List String → Except Request Given
  | [] => .ok given
  | argument :: rest =>
      match given.addPositional level argument with
      | .error request => .error request
      | .ok given => scanPositionals level given rest

/-- What follows an option with a wrong value: a command is still read before the option is
refused. -/
def refuse (level : Level) (given : Given) (request : Request) : List String →
    Except Request Scanned
  | [] => .error request
  | argument :: rest =>
      if level.commands.contains argument then .ok ⟨given, some (argument, rest), true⟩
      else .error request

/-- Reads the arguments of a level; `pending` is an option that still lacks its value. -/
def scan (level : Level) (given : Given) (pending : Option Flag) :
    List String → Except Request Scanned
  | [] => if pending.isSome then .error .misuse else .ok ⟨given, none, false⟩
  | argument :: rest =>
      match pending with
      | some flag =>
          if looksLikeOption argument then .error .misuse
          else match given.add flag argument with
            | .error request => refuse level given request rest
            | .ok given => scan level given none rest
      | none =>
          if level.commands.contains argument then .ok ⟨given, some (argument, rest), false⟩
          else if argument = "--" then
            (scanPositionals level given rest).map fun given => ⟨given, none, false⟩
          else
            let taken :=
              match argument.toList with
              | '-' :: '-' :: cs => takeLong level given cs
              | '-' :: c :: cs => takeShort level given (c :: cs)
              | _ => (given.addPositional level argument).map fun given => (given, none)
            match taken with
            | .error request => .error request
            | .ok (given, pending) => scan level given pending rest

def Given.source? (given : Given) : Option Source :=
  (given.value? .document).map fun document =>
    ⟨document, given.positionals.head?, given.values .filter⟩

def command? (name : String) (given : Given) : Option Command :=
  if name = "compile" then
    given.source?.map fun source => .compile source (given.has .noValidate) (given.has .compact)
  else if name = "validate" then given.source?.map .validate
  else some .operators

def levelOf (name : String) : Level :=
  if name = "compile" then .compile
  else if name = "validate" then .validate
  else .operators

def colorOf : Option String → ColorMode
  | some "always" => .always
  | some "never" => .never
  | _ => .auto

def helpRequest : List String → Request
  | [] => .help
  | [name] => if Level.top.commands.contains name then .help else .misuse
  | _ => .misuse

/-- An option that stands before and after the command has the value from after it. -/
def inner? (outer inner : Given) (flag : Flag) : Option String :=
  (inner.value? flag).or (outer.value? flag)

/-- Whether the default path of the configuration would be needed but is empty. -/
def lacksConfig (defaultConfig : Option String) (given : Given) : Bool :=
  defaultConfig == some "" && !given.has .config

/-- Reads the arguments. `defaultConfig` is the path of the configuration if no argument names
one. -/
def Request.ofArguments (defaultConfig : Option String) (arguments : List String) : Request :=
  match scan .top .empty none arguments with
  | .error request => request
  | .ok ⟨_, none, _⟩ => .misuse
  | .ok ⟨outer, some (name, rest), isRefused⟩ =>
      if name = "help" then helpRequest rest
      else match scan (levelOf name) .empty none rest with
        | .error request => request
        | .ok ⟨inner, _, _⟩ =>
            match command? name inner with
            | none => .misuse
            | some command =>
                if isRefused || lacksConfig defaultConfig inner
                    || lacksConfig defaultConfig outer then .misuse
                else .run {
                  config := (inner? outer inner .config).or defaultConfig
                  output := inner? outer inner .output
                  quiet := inner.has .quiet || outer.has .quiet
                  color := colorOf (inner? outer inner .color)
                  command }

end DocFilter.Cli
