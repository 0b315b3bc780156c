import DocFilter.Text.Pieces

set_option autoImplicit false

/-
What a path leads to among the directories, files and symbolic links below a root. An absolute path
is followed from the root, any other from the working directory, and `..` leads to the directory
above, which for the root is the root. Whatever else keeps the system from searching, reading or
writing, such as a missing permission, is given with the tree. No two ways lead to one file.
-/
namespace DocFilter.Cli

inductive FileFault where
  | notFound
  | notDirectory
  | isDirectory
  | tooManyLinks
  | notText
  | other (message : String)
  deriving DecidableEq

def FileFault.message : FileFault → String
  | notFound => "No such file or directory (os error 2)"
  | notDirectory => "Not a directory (os error 20)"
  | isDirectory => "Is a directory (os error 21)"
  | tooManyLinks => "Too many levels of symbolic links (os error 40)"
  | notText => "stream did not contain valid UTF-8"
  | other message => message

inductive Node where
  | directory
  | file (content : ByteArray)
  | link (target : String)

inductive Access where
  | search
  | read
  | write

/-- The nodes stand at ways of names from the root; of two at one way the first one counts. -/
structure FileTree where
  nodes : List (List String × Node)
  workingDirectory : List String
  refusal? : Access → List String → Option FileFault

namespace FileTree

/-- What a path leads to. Behind a name that is not one of a directory there may stand a slash:
reading then fails with the fault given, and writing as if there were a directory. -/
inductive Place where
  | directory (way : List String)
  | file (way : List String) (content : ByteArray)
  | vacant (way : List String)
  | slashed (fault : FileFault)

def node? (tree : FileTree) (way : List String) : Option Node :=
  if way.isEmpty then some .directory else tree.nodes.lookup way

def onward (way : List String) (name : String) : List String :=
  if name = "." then way else if name = ".." then way.dropLast else way ++ [name]

/-- What stands under a name in a directory. -/
def step (tree : FileTree) (way : List String) (name : String) : Except FileFault (Option Node) :=
  match tree.refusal? .search way, tree.node? way with
  | some fault, _ => .error fault
  | none, some .directory => .ok (tree.node? (onward way name))
  | none, _ => .error .notFound

/-- The end of a path at a place below which there is nothing, so that only slashes may follow. -/
def ending (place : Place) (fault : FileFault) (rest : List String) : Except FileFault Place :=
  if rest.isEmpty then .ok place
  else if rest.all String.isEmpty then .ok (.slashed fault)
  else .error fault

/-- Follows the names of a path from a directory to its end or to a symbolic link. -/
def walk (tree : FileTree)
    (along : List String → String → List String → Except FileFault Place) (way : List String) :
    List String → Except FileFault Place
  | [] => .ok (.directory way)
  | name :: rest =>
      if name.isEmpty then tree.walk along way rest
      else match tree.step way name with
        | .error fault => .error fault
        | .ok none => ending (.vacant (onward way name)) .notFound rest
        | .ok (some (.file content)) => ending (.file (onward way name) content) .notDirectory rest
        | .ok (some .directory) => tree.walk along (onward way name) rest
        | .ok (some (.link target)) => along way target rest

def names (path : String) : List String :=
  (Text.pieces '/' path.toList).map String.ofList

def start (way : List String) (path : String) : List String :=
  if path.toList.head? = some '/' then [] else way

/-- Follows the names of a path over no more symbolic links than given. -/
def follow (tree : FileTree) : Nat → List String → List String → Except FileFault Place
  | 0 => tree.walk fun _ _ _ => .error .tooManyLinks
  | links + 1 => tree.walk fun way target rest =>
      tree.follow links (start way target) (names target ++ rest)

def linkLimit : Nat := 40

def find (tree : FileTree) (path : String) : Except FileFault Place :=
  if path.isEmpty then .error .notFound
  else tree.follow linkLimit (start tree.workingDirectory path) (names path)

def permitted {α : Type} (tree : FileTree) (access : Access) (way : List String)
    (result : Except FileFault α) : Except FileFault α :=
  match tree.refusal? access way with
  | some fault => .error fault
  | none => result

def read (tree : FileTree) (path : String) : Except FileFault ByteArray :=
  match tree.find path with
  | .error fault => .error fault
  | .ok (.directory way) => tree.permitted .read way (.error .isDirectory)
  | .ok (.file way content) => tree.permitted .read way (.ok content)
  | .ok (.vacant _) => .error .notFound
  | .ok (.slashed fault) => .error fault

def put (tree : FileTree) (way : List String) (content : ByteArray) : FileTree :=
  { tree with nodes := (way, .file content) :: tree.nodes }

/-- Replaces the content of a file, or makes a new file in a directory that exists. -/
def write (tree : FileTree) (path : String) (content : ByteArray) : Except FileFault FileTree :=
  match tree.find path with
  | .error fault => .error fault
  | .ok (.directory _) => .error .isDirectory
  | .ok (.file way _) => tree.permitted .write way (.ok (tree.put way content))
  | .ok (.vacant way) => tree.permitted .write way (.ok (tree.put way content))
  | .ok (.slashed _) => .error .isDirectory

def above (way : List String) : List (List String × Node) :=
  (List.range way.length).map fun depth => (way.take depth, .directory)

/-- A working directory of its own that holds nothing but the files given. -/
def ofFiles (files : List (String × ByteArray)) : FileTree :=
  let directory := ["tmp", "work"]
  let rows := files.flatMap fun (path, content) =>
    let way := directory ++ names path
    above way ++ [(way, .file content)]
  ⟨above directory ++ (directory, .directory) :: rows, directory, fun _ _ => none⟩

end FileTree

end DocFilter.Cli
