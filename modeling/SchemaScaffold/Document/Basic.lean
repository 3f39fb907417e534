import SchemaScaffold.Keyed

/-!
# Schema documents

A document declares tables, the columns of each table, and relations between columns, all named by
the ids that a diagram gave them. Nothing is checked here: ids may repeat or point nowhere.

* `Document`, `TableDecl`, `ColumnDecl`, `RelationDecl`, `Endpoint`: the declarations.
* `KeyDecl.columnId?`: the column id that a column's foreign key names, if it names one.
-/

namespace SchemaScaffold

/-- The declaration of a table. -/
structure TableDecl where
  id : String
  name : String
  softDelete : Bool := false
  timestamps : Bool := false
  deriving Repr, DecidableEq

/-- A pointer to a table or a column, by id and by name. -/
structure Pointer where
  id : Option String := none
  name : Option String := none
  deriving Repr, DecidableEq

/-- The foreign key of a column declaration: the referenced column and its table. -/
structure KeyDecl where
  references : Option Pointer := none
  on : Option Pointer := none
  deriving Repr, DecidableEq

/-- The id of the referenced column; an empty id names nothing. -/
def KeyDecl.columnId? (key : KeyDecl) : Option String :=
  (key.references.bind Pointer.id).filter (· ≠ "")

/-- The declaration of a column. -/
structure ColumnDecl where
  id : String
  name : String
  type : Option String := none
  length : Option Nat := none
  nullable : Bool := false
  unique : Bool := false
  index : Bool := false
  unsigned : Bool := false
  defaultValue : Option String := none
  comment : Option String := none
  autoIncrement : Bool := false
  foreignKey : Option KeyDecl := none
  deriving Repr, DecidableEq

/-- One end of a relation. -/
structure Endpoint where
  tableId : String
  columnId : String
  deriving Repr, DecidableEq

/-- The declaration of a relation: the column that holds the key, and the column it points at. -/
structure RelationDecl where
  source : Endpoint
  target : Endpoint
  deriving Repr, DecidableEq

/-- A schema document; the column lists stand under the ids of their tables. -/
structure Document where
  tables : List TableDecl
  columns : Keyed (List ColumnDecl) := .empty
  relations : List RelationDecl := []
  deriving DecidableEq

end SchemaScaffold
