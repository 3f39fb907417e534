import SchemaScaffold.Artifact.Quoted
import SchemaScaffold.Schema.Basic

/-!
# Migrations

* `Migration`: the record from which a table is created.
* `Column.migrationCall`: the call that creates a column, `table.string('email', 120).unique()`.
* `Migration.ofTable`, `Migration.ofSchema`: one migration for each table.
-/

namespace SchemaScaffold

/-- A column's name and the call that creates it. -/
structure ColumnCall where
  name : String
  call : String
  deriving Repr, DecidableEq

/-- The record from which a table is created. -/
structure Migration where
  name : String
  softDelete : Bool
  timestamps : Bool
  columns : List ColumnCall
  deriving Repr, DecidableEq

namespace Column

/-- The call that names a column's type. An unknown type is passed on by its name; a sized text
takes its size; any other type takes the length, if there is one. -/
def typeCall (column : Column) : String :=
  match column.canonicalType with
  | .unknown raw => "specificType(" ++ arguments [quoted column.name, quoted raw] ++ ")"
  | type =>
    match type.textSize? with
    | some size => "text(" ++ arguments [quoted column.name, quoted (size ++ "text")] ++ ")"
    | none =>
      let length := (column.length.map toString).toList
      type.name ++ "(" ++ arguments (quoted column.name :: length) ++ ")"

/-- The clauses behind the type, in order. -/
def clauses (column : Column) : List String :=
  (column.defaultValue.map fun text => ".defaultTo(" ++ quoted text ++ ")").toList ++
  (if column.nullable then [] else [".notNullable()"]) ++
  (if column.unique then [".unique()"] else []) ++
  (if column.index then [".index()"] else []) ++
  (if column.unsigned then [".unsigned()"] else []) ++
  (column.comment.map fun text => ".comment(" ++ quoted text ++ ")").toList ++
  (column.foreignKey.map fun key =>
    ".references(" ++ quoted key.column ++ ").on(" ++ quoted key.table ++
      ").onDelete('set null')").toList

/-- The call that creates a column. -/
def migrationCall (column : Column) : String :=
  "table." ++ column.typeCall ++ String.join column.clauses

end Column

namespace Migration

/-- The migration of a table. -/
def ofTable (table : Table) : Migration where
  name := table.name
  softDelete := table.softDelete
  timestamps := table.timestamps
  columns := table.columns.values.map fun column => ⟨column.name, column.migrationCall⟩

/-- The migrations of all tables, in order. -/
def ofSchema (schema : Schema) : List Migration := schema.tables.values.map ofTable

end Migration

end SchemaScaffold
