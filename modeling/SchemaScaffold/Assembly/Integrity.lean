import SchemaScaffold.Assembly.Build
import SchemaScaffold.Schema.Basic

/-!
# Integrity of a finished schema

* `Schema.missingReference?`: a foreign key to a column that is not there.
* `Schema.missingTarget?`: a relationship to a table that is not there.
* `Schema.brokenPassage?`: a relationship over others whose parts are not there.
* `Schema.checkIntegrity`: fails with the first of them.
-/

namespace SchemaScaffold.Schema

/-- Whether a foreign key points at a column of the schema. -/
def hasColumn (schema : Schema) (key : ForeignKey) : Bool :=
  (schema.table? key.table).any fun table => table.columns.contains key.column

/-- The first foreign key that points nowhere. -/
def missingReference? (schema : Schema) : Option Problem :=
  schema.tables.values.findSome? fun table =>
    table.columns.values.findSome? fun column =>
      (column.foreignKey.filter fun key => !schema.hasColumn key).map fun key =>
        .missingReference table.name column.name key.table key.column

/-- The first relationship that leads to no table. -/
def missingTarget? (schema : Schema) : Option Problem :=
  schema.tables.values.findSome? fun table =>
    table.relationships.entries.findSome? fun (name, relationship) =>
      if (schema.table? relationship.table).isSome then none
      else some (.missingTarget table.name name relationship.table)

/-- Whether both parts of a passage are there. -/
def hasPassage (schema : Schema) (table : Table) (passage : Passage) : Bool :=
  ((table.relationships.get? passage.through).bind fun first => schema.table? first.table).any
    fun middle => middle.relationships.contains passage.relatedMethod

/-- The first relationship over others whose parts are missing. -/
def brokenPassage? (schema : Schema) : Option Problem :=
  schema.tables.values.findSome? fun table =>
    table.relationships.entries.findSome? fun (name, relationship) =>
      (relationship.passage?.filter fun passage => !schema.hasPassage table passage).map
        fun passage => .brokenPassage table.name name passage.through passage.relatedMethod

/-- Fails with the first problem of the schema. -/
def checkIntegrity (schema : Schema) : Except Stop Unit :=
  match (schema.missingReference?.or schema.missingTarget?).or schema.brokenPassage? with
  | some problem => Stop.invalid problem
  | none => .ok ()

end SchemaScaffold.Schema
