import SchemaScaffold.Artifact.Basic
import SchemaScaffold.Json.Printer

/-!
# Records as JSON

How schemas, migrations, factories and models are written. The fields of a record stand in a fixed
order, and absent values are `null`.
-/

namespace SchemaScaffold

/-- A foreign key. -/
def ForeignKey.toJson (key : ForeignKey) : Json :=
  .object [("table", .string key.table), ("column", .string key.column)]

/-- A column. -/
def Column.toJson (column : Column) : Json :=
  .object
    [("name", .string column.name),
     ("type", .string column.type.name),
     ("length", (column.length.map Json.natural).getD .null),
     ("nullable", .bool column.nullable),
     ("unique", .bool column.unique),
     ("index", .bool column.index),
     ("unsigned", .bool column.unsigned),
     ("default", .optional column.defaultValue),
     ("comment", .optional column.comment),
     ("autoIncrement", .bool column.autoIncrement),
     ("foreignKey", (column.foreignKey.map ForeignKey.toJson).getD .null)]

/-- A relationship, its kind first; each kind has an order of its own for the fields. -/
def Relationship.toJson (r : Relationship) : Json :=
  let primaryKey := ("primaryKey", Json.string r.primaryKey)
  let foreignKey := ("foreignKey", Json.string r.foreignKey)
  let rest :=
    match r.kind with
    | .belongsTo => [foreignKey, primaryKey]
    | .hasOne | .hasMany => [primaryKey, foreignKey]
    | .belongsToMany pivot =>
      [foreignKey,
       ("relatedForeignKey", .string pivot.relatedForeignKey),
       primaryKey,
       ("relatedPrimaryKey", .string pivot.relatedPrimaryKey),
       ("pivotTable", .string pivot.table),
       ("withTimestamps", .bool pivot.withTimestamps)]
    | .hasManyThrough passage =>
      [("through", .string passage.through),
       ("throughModel", .string passage.throughModel),
       ("relatedMethod", .string passage.relatedMethod),
       primaryKey,
       foreignKey]
  .object
    (("type", .string r.kind.name) :: ("table", .string r.table) :: ("model", .string r.model) ::
      rest)

/-- An ordered map as an object. -/
def Keyed.toJson {α : Type} (m : Keyed α) (value : α → Json) : Json :=
  .object (m.entries.map fun entry => (entry.1, value entry.2))

/-- A table. -/
def Table.toJson (table : Table) : Json :=
  .object
    [("name", .string table.name),
     ("model", .string table.model),
     ("softDelete", .bool table.softDelete),
     ("timestamps", .bool table.timestamps),
     ("isLink", .bool table.isLink),
     ("columns", table.columns.toJson Column.toJson),
     ("relations", table.relationships.toJson Relationship.toJson)]

/-- A schema. -/
def Schema.toJson (schema : Schema) : Json :=
  .object [("tables", schema.tables.toJson Table.toJson)]

/-- A migration; the only thing it does with a table is to create it. -/
def Migration.toJson (migration : Migration) : Json :=
  .object
    [("name", .string migration.name),
     ("action", .string "create"),
     ("softDelete", .bool migration.softDelete),
     ("timestamps", .bool migration.timestamps),
     ("columns", .array (migration.columns.map fun column =>
       .object [("name", .string column.name), ("dsl", .string column.call)]))]

/-- A factory. -/
def Factory.toJson (factory : Factory) : Json :=
  .object
    [("name", .string factory.name),
     ("table", .string factory.table),
     ("columns", .array (factory.columns.map fun field =>
       .object [("name", .string field.name), ("rule", .optional field.rule)]))]

/-- A model. -/
def Model.toJson (model : Model) : Json :=
  .object
    [("name", .string model.name),
     ("table", .string model.table),
     ("timestamps", .bool model.timestamps),
     ("disableTimestamps", .bool model.disableTimestamps),
     ("softDelete", .bool model.softDelete),
     ("hasRelations", .bool model.hasRelations),
     ("columns", .array (model.columns.map fun column =>
       .object
         [("name", .string column.name),
          ("validation", .optional column.validation),
          ("sanitization", .optional column.sanitization)])),
     ("relations", .array (model.relations.map fun accessor =>
       .object
         [("name", .string accessor.name),
          ("kind", .string accessor.kind.name),
          ("body", .string accessor.body)]))]

/-- The text of a file that holds a record. -/
def recordText (record : Json) : String := record.pretty ++ "\n"

end SchemaScaffold
