import SchemaScaffold.Artifact.OutputDirectory
import SchemaScaffold.CommandLine.Arguments
import SchemaScaffold.Document.Decoder
import SchemaScaffold.Settings.Toml

/-!
# Commands

* `CommandFault`: why a command fails.
* `inspectDocument`: the resolved tables of a document as JSON text.
* `runBuild`, `runInspect`: the subcommands.
* `runArguments`: what the arguments ask for, under the settings of a file or of the caller.
-/

namespace SchemaScaffold

/-- Why a command fails. -/
inductive CommandFault where
  | usage (fault : UsageFault)
  /-- a settings file holds something else than settings -/
  | settings (file : String)
  | file (fault : FileFault)
  /-- a file holds no document -/
  | document (path : String) (fault : Json.ReadFault)
  /-- no schema comes out of the document at a path, if the path is worth saying -/
  | stopped (path : Option String) (stop : Stop)
  deriving Repr, DecidableEq

/-- The settings file that is used if it is there. -/
def settingsFileName : String := "Blueprint.toml"

namespace Command

variable {m : Type → Type} [Monad m]

/-- A command that may fail. -/
abbrev Run (m : Type → Type) := ExceptT CommandFault m

/-- Reads a file. -/
def readFile (host : Host m) (activity path : String) : Run m String :=
  ExceptT.mk (host.readFile path >>= fun outcome =>
    match outcome with
    | .ok text => pure (.ok text)
    | .error problem => pure (.error (.file ⟨some (activity ++ " " ++ path), problem⟩)))

/-- The document at a path. -/
def readDocument (host : Host m) (path : String) : Run m Document := do
  let text ← readFile host "failed to read" path
  match Document.ofText text with
  | .ok document => pure document
  | .error fault => throw (.document path fault)

/-- The settings in a file. -/
def readSettings (host : Host m) (path : String) : Run m Settings := do
  let text ← readFile host "failed to read config file" path
  match Settings.ofToml? text with
  | some settings => pure settings
  | none => throw (.settings path)

/-- The settings of a run: those of the file asked for, else those of the usual file if it is
there, else those of the caller. -/
def loadSettings (host : Host m) (base : Settings) (file : Option String) : Run m Settings := do
  match file with
  | some path => readSettings host path
  | none =>
    if ← host.isFile settingsFileName then readSettings host settingsFileName else pure base

/-- The notice that precedes a question for another name. -/
def collisionNotice (collision : Collision) : String :=
  "  ! relationship " ++ collision.proposed ++ " is already defined on " ++ collision.table ++ "\n"

/-- The fault of a question for another name that cannot be asked. -/
def unaskedName : Fault := ⟨.outside "IO error: not a terminal", []⟩

/-- Prints a notice, by adding it to the state, and fails, as no name can be asked for. -/
def promptPolicy : Policy String :=
  ⟨fun collision printed => (.error unaskedName, printed ++ collisionNotice collision)⟩

/-- The policy of a rule; its state is what has been printed. -/
def policyOf : CollisionRule → Policy String
  | .suffix => .suffix
  | .reject => .reject
  | .prompt => promptPolicy

/-- The resolved tables of the document at a path, as JSON text. Taken names get numbers. -/
def inspectDocument (host : Host m) (path : String) (settings : Settings) : Run m String := do
  let document ← readDocument host path
  match resolveWithSuffix document settings.linkSeparator with
  | .ok schema => pure schema.toJson.pretty
  | .error stop => throw (.stopped none stop)

/-- Prints the resolved tables of a document. -/
def runInspect (host : Host m) (settings : Settings) (document : Option String) : Run m Unit := do
  let text ← inspectDocument host (document.getD settings.document) settings
  host.print (text ++ "\n")

/-- Converts a document and prints what the policy has to say. -/
def convertDocument (host : Host m) (separator : String) (rule : CollisionRule) (path : String)
    (document : Document) : Run m Artifacts := do
  let (outcome, printed) := (convert separator (policyOf rule) document).result ""
  host.print printed
  match outcome with
  | .ok artifacts => pure artifacts
  | .error stop => throw (.stopped (some path) stop)

/-- Writes artifacts. -/
def writeArtifacts (host : Host m) (output : OutputDirectory) (artifacts : Artifacts) :
    Run m (List String) :=
  ExceptT.mk ((output.write host artifacts).run >>= fun outcome =>
    match outcome with
    | .ok paths => pure (.ok paths)
    | .error fault => pure (.error (.file fault)))

/-- Converts a document and writes what comes out. -/
def runBuild (host : Host m) (settings : Settings) (request : BuildRequest) : Run m Unit := do
  host.print "\n  Build Schema\n\n"
  let path := request.document.getD settings.document
  let document ← readDocument host path
  let artifacts ← convertDocument host (request.linkSeparator.getD settings.linkSeparator)
    (request.onCollision.getD settings.onCollision) path document
  let output : OutputDirectory :=
    { root := request.output.getD settings.output
      assumeYes := request.yes || settings.assumeYes }
  let written ← writeArtifacts host output artifacts
  host.print ("\n  ✓ " ++ toString written.length ++ " files written\n\n")

/-- Does what the arguments ask for. -/
def runArguments (host : Host m) (base : Settings) (arguments : List String) : Run m Unit := do
  match Invocation.ofArguments arguments with
  | .error fault => throw (.usage fault)
  | .ok invocation =>
    let settings ← loadSettings host base invocation.settingsFile
    match invocation.request with
    | .build request => runBuild host settings request
    | .inspect document => runInspect host settings document

end Command

end SchemaScaffold
