import SchemaScaffold.Files.Host
import SchemaScaffold.Files.Tree

/-!
# Workspaces

* `Workspace`: a tree of files, a working directory, what has been printed, and the answers that
  questions get.
* `Workspace.host`: the operations of a host on a workspace.
-/

namespace SchemaScaffold

/-- Files, a terminal, and what has been printed to it. -/
structure Workspace where
  tree : FileTree
  working : Location
  printed : String := ""
  /-- the answer to a question; there is none without a terminal -/
  answers : String → Option Bool := fun _ => none

namespace Workspace

/-- An operation that looks at the tree. -/
def look {α : Type} (f : FileTree → Location → α) : StateM Workspace α :=
  fun workspace => (f workspace.tree workspace.working, workspace)

/-- An operation that changes the tree if it succeeds. -/
def change (f : FileTree → Location → Except FileProblem FileTree) :
    StateM Workspace (Except FileProblem Unit) :=
  fun workspace =>
    match f workspace.tree workspace.working with
    | .ok tree => (.ok (), { workspace with tree })
    | .error problem => (.error problem, workspace)

/-- The operations of a host on a workspace. -/
def host : Host (StateM Workspace) where
  readFile path := look fun tree working => tree.read working path
  writeFile path text := change fun tree working => tree.write working path text
  createDirectories path := fun workspace =>
    let (outcome, tree) := workspace.tree.makeDirectories workspace.working path
    (outcome, { workspace with tree })
  removeDirectory path := change fun tree working => tree.remove working path
  isFile path := look fun tree working => tree.isFile working path
  isDirectory path := look fun tree working => tree.isDirectory working path
  pathExists path := look fun tree working => tree.pathExists working path
  hasEntries path := look fun tree working => tree.hasEntries working path
  print text := fun workspace => ((), { workspace with printed := workspace.printed ++ text })
  ask question := fun workspace => (workspace.answers question, workspace)

end Workspace

end SchemaScaffold
