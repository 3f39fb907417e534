import SchemaScaffold.Files.Path
import SchemaScaffold.Files.Problem

/-!
# Trees of files

* `FileTree`: files and directories under the names that lead to them from the root.
* `FileTree.walk`: where a path leads from a directory, name by name.
* `FileTree.makeDirectory`, `FileTree.makeDirectories`, `FileTree.write`, `FileTree.read`,
  `FileTree.remove`: the operations. Each touches only what its path leads to.
-/

namespace SchemaScaffold

/-- A place in a tree: the names from the root to it. -/
abbrev Location := List String

/-- What stands at a place. -/
inductive FileEntry where
  | file (text : String)
  | directory
  deriving Repr, DecidableEq

/-- Files and directories; the root is always there. -/
structure FileTree where
  entries : List (Location × FileEntry) := []
  deriving Repr, DecidableEq

namespace FileTree

/-- What stands at a place. -/
def get? (tree : FileTree) (place : Location) : Option FileEntry :=
  if place = [] then some .directory else tree.entries.lookup place

/-- The tree with something put at a place. -/
def put (tree : FileTree) (place : Location) (entry : FileEntry) : FileTree :=
  ⟨(place, entry) :: tree.entries.filter fun old => old.1 ≠ place⟩

/-- The tree without a place and all that is below it. -/
def dropBelow (tree : FileTree) (place : Location) : FileTree :=
  ⟨tree.entries.filter fun old => !place.isPrefixOf old.1⟩

/-- Whether something stands right below a place. -/
def hasChild (tree : FileTree) (place : Location) : Bool :=
  tree.entries.any fun entry => entry.1 ≠ [] && entry.1.dropLast = place

/-! ## Walking along a path -/

/-- Where a path leads. -/
inductive Destination where
  | found (place : Location) (entry : FileEntry)
  /-- the directory is there but not the last name in it -/
  | missing (place : Location)
  | blocked (problem : FileProblem)
  deriving Repr, DecidableEq

/-- The longest name of a file, in bytes. -/
def maxName : Nat := 255

/-- The longest path, in bytes. -/
def maxPath : Nat := 4095

/-- Where the names lead from a place. -/
def walk (tree : FileTree) (place : Location) : List String → Destination
  | [] =>
    match tree.get? place with
    | some entry => .found place entry
    | none => .blocked .notFound
  | name :: rest =>
    match tree.get? place with
    | none => .blocked .notFound
    | some (.file _) => .blocked .notADirectory
    | some .directory =>
      if name = "." then tree.walk place rest
      else if name = ".." then tree.walk place.dropLast rest
      else if name.utf8ByteSize > maxName then .blocked .nameTooLong
      else
        match tree.get? (place ++ [name]), rest with
        | none, [] => .missing (place ++ [name])
        | none, _ => .blocked .notFound
        | some _, rest => tree.walk (place ++ [name]) rest

/-- Where a path leads from the working directory. -/
def follow (tree : FileTree) (working : Location) (path : String) (names : List String) :
    Destination :=
  if path.toList.any fun c => c.toNat = 0 then .blocked .nulInName
  else if path.utf8ByteSize > maxPath then .blocked .nameTooLong
  else if path = "" then .blocked .notFound
  else tree.walk (if Path.isAbsolute path then [] else working) names

/-- Where a path leads; one that ends with a slash leads into a directory. -/
def locate (tree : FileTree) (working : Location) (path : String) : Destination :=
  tree.follow working path
    (if Path.endsWithSlash path then Path.steps path ++ ["."] else Path.steps path)

/-- Whether the path leads to a directory. -/
def isDirectory (tree : FileTree) (working : Location) (path : String) : Bool :=
  match tree.locate working path with
  | .found _ .directory => true
  | _ => false

/-- Whether the path leads to a file. -/
def isFile (tree : FileTree) (working : Location) (path : String) : Bool :=
  match tree.locate working path with
  | .found _ (.file _) => true
  | _ => false

/-- Whether the path leads anywhere. -/
def pathExists (tree : FileTree) (working : Location) (path : String) : Bool :=
  match tree.locate working path with
  | .found _ _ => true
  | _ => false

/-- Whether the path leads to a directory that is not empty. -/
def hasEntries (tree : FileTree) (working : Location) (path : String) : Bool :=
  match tree.locate working path with
  | .found place .directory => tree.hasChild place
  | _ => false

/-! ## Operations -/

/-- The text of a file. -/
def read (tree : FileTree) (working : Location) (path : String) : Except FileProblem String :=
  match tree.locate working path with
  | .found _ (.file text) => .ok text
  | .found _ .directory => .error .isADirectory
  | .missing _ => .error .notFound
  | .blocked problem => .error problem

/-- Makes a file hold a text. -/
def write (tree : FileTree) (working : Location) (path text : String) :
    Except FileProblem FileTree :=
  match tree.locate working path with
  | .found place (.file _) => .ok (tree.put place (.file text))
  | .found _ .directory => .error .isADirectory
  | .missing place => .ok (tree.put place (.file text))
  | .blocked problem => .error problem

/-- Makes one directory. -/
def makeDirectory (tree : FileTree) (working : Location) (path : String) :
    Except FileProblem FileTree :=
  match tree.follow working path (Path.steps path) with
  | .found _ _ => .error .alreadyExists
  | .missing place => .ok (tree.put place .directory)
  | .blocked problem => .error problem

/-- The outcome of an operation that may change the tree even where it fails. -/
abbrev Outcome := Except FileProblem Unit × FileTree

/-- Makes a directory whose parents have been seen to. -/
def makeLast (tree : FileTree) (working : Location) (path : String) : Outcome :=
  match tree.makeDirectory working path with
  | .ok tree => (.ok (), tree)
  | .error problem =>
    if tree.isDirectory working path then (.ok (), tree) else (.error problem, tree)

/-- Makes a directory, and first those above it if it turns out that they are missing. -/
def makeDirectoriesFrom (tree : FileTree) (working : Location) (path : String) :
    List String → Outcome
  | [] => if path = "" then (.ok (), tree) else tree.makeLast working path
  | parent :: above =>
    if path = "" then (.ok (), tree)
    else
      match tree.makeDirectory working path with
      | .ok tree => (.ok (), tree)
      | .error .notFound =>
        match tree.makeDirectoriesFrom working parent above with
        | (.ok (), tree) => tree.makeLast working path
        | failed => failed
      | .error problem =>
        if tree.isDirectory working path then (.ok (), tree) else (.error problem, tree)

/-- Makes a directory and those above it, where they are missing. -/
def makeDirectories (tree : FileTree) (working : Location) (path : String) : Outcome :=
  tree.makeDirectoriesFrom working path (Path.parents path)

/-- Removes a directory with all that is in it. -/
def remove (tree : FileTree) (working : Location) (path : String) : Except FileProblem FileTree :=
  match tree.locate working path with
  | .found place .directory => .ok (tree.dropBelow place)
  | .found _ (.file _) => .error .notADirectory
  | .missing _ => .error .notFound
  | .blocked problem => .error problem

end FileTree

end SchemaScaffold
