/-!
# Problems with files

* `FileProblem`: why an operation on a file fails.
* `FileFault`: a problem with what was being done, and its message.
-/

namespace SchemaScaffold

/-- Why an operation on a file fails. -/
inductive FileProblem where
  | notFound
  | alreadyExists
  | notADirectory
  | isADirectory
  | nameTooLong
  | nulInName
  /-- a question has no terminal to be asked at -/
  | noTerminal
  /-- any other problem, in words -/
  | other (text : String)
  deriving Repr, DecidableEq

/-- The wording of a problem. -/
def FileProblem.message : FileProblem → String
  | .notFound => "No such file or directory (os error 2)"
  | .alreadyExists => "File exists (os error 17)"
  | .notADirectory => "Not a directory (os error 20)"
  | .isADirectory => "Is a directory (os error 21)"
  | .nameTooLong => "File name too long (os error 36)"
  | .nulInName => "file name contained an unexpected NUL byte"
  | .noTerminal => "IO error: not a terminal: not a terminal"
  | .other text => text

/-- A problem, and what was being done if that is worth saying. -/
structure FileFault where
  activity : Option String := none
  problem : FileProblem
  deriving Repr, DecidableEq

/-- The message of a fault. -/
def FileFault.message (fault : FileFault) : String :=
  match fault.activity with
  | some activity => activity ++ ": " ++ fault.problem.message
  | none => fault.problem.message

end SchemaScaffold
