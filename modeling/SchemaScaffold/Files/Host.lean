import SchemaScaffold.Files.Problem

/-!
# Where a program runs

* `Host`: the operations on files and on the terminal that the commands need. Commands are written
  for any host, so that they run against real files as well as against a `Workspace`.
-/

namespace SchemaScaffold

/-- Operations on files and on the terminal. -/
structure Host (m : Type → Type) where
  /-- the text of a file -/
  readFile : String → m (Except FileProblem String)
  /-- makes a file hold a text and nothing else -/
  writeFile : String → String → m (Except FileProblem Unit)
  /-- makes a directory and those above it, where they are missing -/
  createDirectories : String → m (Except FileProblem Unit)
  /-- removes a directory with all that is in it -/
  removeDirectory : String → m (Except FileProblem Unit)
  isFile : String → m Bool
  isDirectory : String → m Bool
  pathExists : String → m Bool
  hasEntries : String → m Bool
  /-- writes to the terminal -/
  print : String → m Unit
  /-- the answer to a question, if there is a terminal -/
  ask : String → m (Option Bool)

end SchemaScaffold
