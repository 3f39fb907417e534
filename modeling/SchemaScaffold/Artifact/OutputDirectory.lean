import SchemaScaffold.Artifact.Records
import SchemaScaffold.Files.Host
import SchemaScaffold.Files.Path

/-!
# Output directories

Below an output directory, `migrations/` holds a file for each migration, `factory.json` all
factories, and `models/` a file for each model. What is already there is replaced only after a
question has been answered with yes; a kind of output whose question is declined is skipped.

* `OutputDirectory.write`: writes everything and gives the paths written, in order.
-/

namespace SchemaScaffold

/-- Where artifacts go, and whether questions are answered with yes. -/
structure OutputDirectory where
  root : String
  assumeYes : Bool := false
  deriving Repr, DecidableEq

namespace OutputDirectory

variable {m : Type → Type} [Monad m]

/-- Writing that may fail. -/
abbrev Writing (m : Type → Type) := ExceptT FileFault m

/-- An operation of the host, with what it was meant to do. -/
def attempt {α : Type} (activity : Option String) (operation : m (Except FileProblem α)) :
    Writing m α :=
  ExceptT.mk (operation >>= fun outcome =>
    match outcome with
    | .ok value => pure (.ok value)
    | .error problem => pure (.error ⟨activity, problem⟩))

/-- Whether a question is answered with yes. -/
def confirm (host : Host m) (output : OutputDirectory) (question : String) : Writing m Bool := do
  if output.assumeYes then pure true
  else
    match ← host.ask question with
    | some answer => pure answer
    | none => throw ⟨none, .noTerminal⟩

/-- Writes a record to a file and says so. -/
def writeRecord (host : Host m) (path : String) (record : Json) : Writing m Unit := do
  attempt (some ("failed to write " ++ path)) (host.writeFile path (recordText record))
  host.print ("  ✔ create " ++ path ++ "\n")

/-- Writes records to files, one after another, and gives their paths. -/
def writeRecords (host : Host m) : List (String × Json) → Writing m (List String)
  | [] => pure []
  | (path, record) :: rest => do
    writeRecord host path record
    let paths ← writeRecords host rest
    pure (path :: paths)

/-- Says that a kind of output is skipped. -/
def skip (host : Host m) (path : String) : Writing m (List String) := do
  host.print ("  - skip   " ++ path ++ "\n")
  pure []

/-- The file of a record in a directory. -/
def recordPath (directory name : String) : String := Path.join directory (name ++ ".json")

/-- Writes the migrations into a directory that holds nothing else afterwards. -/
def writeMigrations (host : Host m) (output : OutputDirectory) (migrations : List Migration) :
    Writing m (List String) := do
  let directory := Path.join output.root "migrations"
  let records := migrations.map fun migration =>
    (recordPath directory migration.name, migration.toJson)
  if ← host.hasEntries directory then
    if ← confirm host output "Delete existing migrations?" then
      attempt (some ("failed to clear " ++ directory)) (host.removeDirectory directory)
      attempt none (host.createDirectories directory)
      writeRecords host records
    else skip host directory
  else
    attempt none (host.createDirectories directory)
    writeRecords host records

/-- Writes all factories into one file. -/
def writeFactories (host : Host m) (output : OutputDirectory) (factories : List Factory) :
    Writing m (List String) := do
  let path := Path.join output.root "factory.json"
  let records := [(path, Json.array (factories.map Factory.toJson))]
  if ← host.pathExists path then
    if ← confirm host output "Overwrite existing factories?" then writeRecords host records
    else skip host path
  else writeRecords host records

/-- Whether one of the paths leads anywhere. -/
def anyExists (host : Host m) : List String → m Bool
  | [] => pure false
  | path :: rest => do
    if ← host.pathExists path then pure true else anyExists host rest

/-- Writes the models into a directory, beside what else is there. -/
def writeModels (host : Host m) (output : OutputDirectory) (models : List Model) :
    Writing m (List String) := do
  let directory := Path.join output.root "models"
  let records := models.map fun model => (recordPath directory model.name, model.toJson)
  let taken ← ExceptT.lift (anyExists host (records.map Prod.fst))
  let proceed ← if taken then confirm host output "Overwrite existing models?" else pure true
  if proceed then
    attempt none (host.createDirectories directory)
    writeRecords host records
  else skip host directory

/-- Writes every artifact and gives the paths written, in order. -/
def write (host : Host m) (output : OutputDirectory) (artifacts : Artifacts) :
    Writing m (List String) := do
  attempt (some ("failed to create " ++ output.root)) (host.createDirectories output.root)
  let migrations ← writeMigrations host output artifacts.migrations
  let factories ← writeFactories host output artifacts.factories
  let models ← writeModels host output artifacts.models
  pure (migrations ++ factories ++ models)

end OutputDirectory

end SchemaScaffold
