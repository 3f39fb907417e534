import SchemaScaffold.Json.Decoder
import SchemaScaffold.Json.Note

/-!
# Faults

* `Problem`: what can be wrong with the structure of a document.
* `Cause`: one reason for a failure.
* `Fault`: a cause together with the causes behind it, outermost first.
* `Fault.message`: the causes, joined by colons.
* `Fault.withContext?`: a fault behind a new outermost cause. A context that is in use elsewhere or
  that has causes of its own cannot be put in front of anything.
-/

namespace SchemaScaffold

/-- What can be wrong with the structure of a document. -/
inductive Problem where
  | duplicateTableName (table : String)
  | duplicateTableId (id : String)
  | orphanColumnList (id : String)
  | unregisteredTable (table : String)
  | missingColumnList (table id : String)
  | duplicateColumnName (column table : String)
  | duplicateColumnId (id : String)
  | foreignEndpoint (columnId owner declared : String)
  | unknownOwner (relationship table : String)
  | unknownTable (table : String)
  | missingReference (table column targetTable targetColumn : String)
  | missingTarget (table relationship target : String)
  | brokenPassage (table relationship through relatedMethod : String)
  /-- any other problem, in words -/
  | other (text : String)
  deriving Repr, DecidableEq

/-- The wording of a problem. -/
def Problem.message : Problem → String
  | .duplicateTableName table => "duplicate table name `" ++ table ++ "`"
  | .duplicateTableId id => "duplicate table id `" ++ id ++ "`"
  | .orphanColumnList id => "column list for unknown table id `" ++ id ++ "`"
  | .unregisteredTable table => "table `" ++ table ++ "` is not registered"
  | .missingColumnList table id => "table `" ++ table ++ "` (id `" ++ id ++ "`) has no column list"
  | .duplicateColumnName column table =>
    "duplicate column `" ++ column ++ "` in table `" ++ table ++ "`"
  | .duplicateColumnId id => "duplicate column id `" ++ id ++ "`"
  | .foreignEndpoint columnId owner declared =>
    "relation endpoint column `" ++ columnId ++ "` belongs to `" ++ owner ++ "`, not `" ++
      declared ++ "`"
  | .unknownOwner relationship table =>
    "relationship `" ++ relationship ++ "` refers to unknown table `" ++ table ++ "`"
  | .unknownTable table => "unknown table `" ++ table ++ "`"
  | .missingReference table column targetTable targetColumn =>
    "foreign key `" ++ table ++ "." ++ column ++ "` references missing column `" ++ targetTable ++
      "." ++ targetColumn ++ "`"
  | .missingTarget table relationship target =>
    "relationship `" ++ table ++ "." ++ relationship ++ "` targets missing table `" ++ target ++ "`"
  | .brokenPassage table relationship through relatedMethod =>
    "relationship `" ++ table ++ "." ++ relationship ++ "` does not chain through `" ++ through ++
      "." ++ relatedMethod ++ "`"
  | .other text => text

/-- An id that was never declared. -/
inductive Reference where
  | table (id : String)
  | column (id : String)
  deriving Repr, DecidableEq

/-- One reason for a failure. -/
inductive Cause where
  /-- the document is structurally invalid -/
  | invalid (problem : Problem)
  /-- a relation names an id that was never declared -/
  | unresolved (reference : Reference)
  /-- a relationship name is taken and no free one was found -/
  | nameTaken (table name : String)
  /-- the search for relationships over others was stopped -/
  | notConverging (additions : Nat)
  /-- the document cannot be read -/
  | unreadable (fault : Json.ReadFault)
  /-- a fault of another reader of JSON -/
  | readerNote (note : Json.Note)
  /-- a fault that comes from outside -/
  | outside (text : String)
  /-- any other reason, in words -/
  | note (text : String)
  deriving Repr, DecidableEq

namespace Cause

/-- The wording of a cause. -/
def message : Cause → String
  | .invalid problem => "invalid schema: " ++ problem.message
  | .unresolved (.table id) => "unresolved reference: no table with id `" ++ id ++ "`"
  | .unresolved (.column id) => "unresolved reference: no column with id `" ++ id ++ "`"
  | .nameTaken table name =>
    "relationship name `" ++ name ++ "` is already taken on table `" ++ table ++ "`"
  | .notConverging additions =>
    "relationship discovery did not converge after " ++ toString additions ++ " additions"
  | .unreadable fault => fault.message
  | .readerNote said => said.message
  | .outside text => text
  | .note text => text

/-- Whether the cause is an invalid structure. -/
def isInvalid : Cause → Bool
  | .invalid _ => true
  | _ => false

/-- Whether the cause is an id that was never declared. -/
def isUnresolved : Cause → Bool
  | .unresolved _ => true
  | _ => false

/-- Whether the cause is a taken name. -/
def isNameTaken : Cause → Bool
  | .nameTaken _ _ => true
  | _ => false

/-- Whether the cause comes from the reader of JSON. -/
def isReader : Cause → Bool
  | .unreadable _ | .readerNote _ => true
  | _ => false

/-- Whether the cause wraps an error that is not of this library. -/
def isForeign : Cause → Bool
  | .outside _ => true
  | cause => cause.isReader

end Cause

/-- A failure: its outermost cause and those behind it, the root last. -/
structure Fault where
  cause : Cause
  behind : List Cause := []
  deriving Repr, DecidableEq

namespace Fault

/-- All causes, outermost first. -/
def causes (fault : Fault) : List Cause := fault.cause :: fault.behind

/-- The causes, joined by colons. -/
def message (fault : Fault) : String := ": ".intercalate (fault.causes.map Cause.message)

/-- Whether one of the causes is an invalid structure. -/
def isInvalid (fault : Fault) : Bool := fault.causes.any Cause.isInvalid

/-- Whether one of the causes is an id that was never declared. -/
def isUnresolved (fault : Fault) : Bool := fault.causes.any Cause.isUnresolved

/-- Whether one of the causes is a taken name. -/
def isNameTaken (fault : Fault) : Bool := fault.causes.any Cause.isNameTaken

/-- The text of the foreign error that the outermost cause wraps. -/
def source? (fault : Fault) : Option String :=
  if fault.cause.isForeign then some fault.cause.message else none

/-- The fault behind a new outermost cause. There is none if the context is in use elsewhere or
has causes of its own. -/
def withContext? (fault context : Fault) (shared : Bool) : Option Fault :=
  if shared || !context.behind.isEmpty then none else some ⟨context.cause, fault.causes⟩

/-- The fault of an invalid structure. -/
def invalid (problem : Problem) : Fault := ⟨.invalid problem, []⟩

/-- The fault of a taken name. -/
def nameTaken (table name : String) : Fault := ⟨.nameTaken table name, []⟩

/-- The fault of an id that was never declared. -/
def unresolved (reference : Reference) : Fault := ⟨.unresolved reference, []⟩

end Fault

end SchemaScaffold
