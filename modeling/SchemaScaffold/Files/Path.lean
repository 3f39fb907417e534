/-!
# File paths

* `Path.join`: a path below another one; an absolute path stands for itself.
* `Path.steps`: the names that a path is walked along.
* `Path.parents`: the paths of the directories above one, nearest first.
-/

namespace SchemaScaffold.Path

/-- Whether a path starts at the root. -/
def isAbsolute (path : String) : Bool := path.toList.head? = some '/'

/-- A path below another one. -/
def join (base path : String) : String :=
  if isAbsolute path || base = "" then path
  else if base.toList.getLast? = some '/' then base ++ path
  else base ++ "/" ++ path

/-- The parts of a text between slashes. -/
def splitSlashes : List Char → List (List Char)
  | [] => [[]]
  | c :: rest =>
    if c = '/' then [] :: splitSlashes rest
    else
      match splitSlashes rest with
      | [] => [[c]]
      | part :: parts => (c :: part) :: parts

/-- The names along a path. -/
def steps (path : String) : List String :=
  ((splitSlashes path.toList).filter fun part => !part.isEmpty).map String.ofList

/-- Whether a path ends with a slash. -/
def endsWithSlash (path : String) : Bool := path.toList.getLast? = some '/'

/-- The names along a path without the dots behind the first one. -/
def components (path : String) : List String :=
  match steps path with
  | [] => []
  | first :: rest =>
    let rest := rest.filter fun step => step ≠ "."
    if first = "." && isAbsolute path then rest else first :: rest

/-- A path of the given names. -/
def ofComponents (absolute : Bool) (names : List String) : String :=
  (if absolute then "/" else "") ++ "/".intercalate names

/-- The paths above the one whose names are given last first, nearest first. -/
def parentsOf (absolute : Bool) : List String → List String
  | [] => []
  | _ :: above => ofComponents absolute above.reverse :: parentsOf absolute above

/-- The paths of the directories above a path, nearest first. -/
def parents (path : String) : List String :=
  parentsOf (isAbsolute path) (components path).reverse

end SchemaScaffold.Path
