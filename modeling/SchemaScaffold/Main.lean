import SchemaScaffold.CommandLine.Run

/-!
# The program

Runs the commands against real files and the terminal.
-/

open SchemaScaffold

namespace Program

/-- The problem that an error of the system stands for. -/
def problemOf (error : IO.Error) : FileProblem :=
  match error with
  | .noFileOrDirectory _ _ _ => .notFound
  | .alreadyExists _ _ _ => .alreadyExists
  | .inappropriateType _ 20 _ => .notADirectory
  | .inappropriateType _ 21 _ => .isADirectory
  | .invalidArgument _ 36 _ => .nameTooLong
  | error => .other (toString error)

/-- The outcome of an action. -/
def attempt {α : Type} (action : IO α) : IO (Except FileProblem α) := do
  match ← action.toBaseIO with
  | .ok value => pure (.ok value)
  | .error error => pure (.error (problemOf error))

/-- Whether an action succeeds and finds something to be so. -/
def holds (action : IO Bool) : IO Bool := do
  match ← action.toBaseIO with
  | .ok found => pure found
  | .error _ => pure false

/-- Asks a question at the terminal, if there is one; anything but yes is a no. -/
def ask (question : String) : IO (Option Bool) := do
  let input ← IO.getStdin
  if ← input.isTty then
    IO.print ("? " ++ question ++ " [y/N] ")
    (← IO.getStdout).flush
    let answer := (← input.getLine).trimAscii.toString
    pure (some (answer = "y" || answer = "Y" || answer = "yes"))
  else pure none

/-- Real files and the terminal. -/
def host : Host IO where
  readFile path := attempt (IO.FS.readFile path)
  writeFile path text := attempt (IO.FS.writeFile path text)
  createDirectories path := attempt (if path = "" then pure () else IO.FS.createDirAll path)
  removeDirectory path := attempt (IO.FS.removeDirAll path)
  isFile path := holds do
    let place ← IO.FS.realPath path
    pure ((← place.pathExists) && !(← place.isDir))
  isDirectory path := holds do (← IO.FS.realPath path).isDir
  pathExists path := holds do (← IO.FS.realPath path).pathExists
  hasEntries path := holds do
    let place ← IO.FS.realPath path
    if ← place.isDir then pure !(← place.readDir).isEmpty else pure false
  print text := IO.print text
  ask := ask

/-- How the program is used. -/
def usage : String :=
  "Usage: scaffold [--config FILE] [--verbosity LEVEL] [--log-format FORMAT] COMMAND\n\n" ++
  "  build [PATH] [-o DIR] [--on-collision suffix|reject|prompt] [--link-separator TEXT] [-y]\n" ++
  "      write migrations, factories and models for a schema document\n" ++
  "  inspect [PATH]\n" ++
  "      print the resolved tables of a schema document as JSON\n"

/-- The wording of a usage fault. -/
def usageMessage : UsageFault → String
  | .help | .version | .nothingAsked => ""
  | .missingSubcommand => "a command is missing"
  | .unknownSubcommand => "there is no such command"
  | .unknownArgument => "there is no such argument"
  | .repeatedArgument => "an argument is given twice"
  | .badValue => "a value is missing or not allowed"
  | .unexpectedValue => "a value is given to an argument that takes none"

/-- The wording of a fault. -/
def faultMessage : CommandFault → String
  | .usage fault => usageMessage fault
  | .settings file => "failed to parse config file " ++ file
  | .file fault => fault.message
  | .document path fault => "failed to parse " ++ path ++ ": " ++ fault.message
  | .stopped path (.fault fault) =>
    ((path.map fun path => "failed to convert " ++ path ++ ": ").getD "") ++ fault.message
  | .stopped _ (.unnameable word) => "no plural or singular for " ++ word

/-- Says why a command failed and gives the exit code. -/
def report (fault : CommandFault) : IO UInt32 := do
  match fault with
  | .usage .help => do
    IO.print usage
    pure 0
  | .usage .version => do
    IO.println "scaffold 0.1.0"
    pure 0
  | .usage fault => do
    IO.eprint (usageMessage fault ++ "\n" ++ usage)
    pure 2
  | fault => do
    IO.eprintln ("Error: " ++ faultMessage fault)
    pure 1

end Program

/-- Runs the command that the arguments ask for. -/
def main (arguments : List String) : IO UInt32 := do
  match ← (Command.runArguments Program.host .standard arguments).run with
  | .ok () => pure 0
  | .error fault => Program.report fault
