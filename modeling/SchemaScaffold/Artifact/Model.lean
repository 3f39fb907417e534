import SchemaScaffold.Artifact.Quoted
import SchemaScaffold.Schema.Basic

/-!
# Models

* `Model`: the record from which a model class is made.
* `Column.validationRule`, `Column.sanitizationRule`: the rules for a column's values,
  `email: 'string|required|max:120'`; a key has none, and the rules of an unknown type are empty.
* `Relationship.accessor`: the body of the method that gives a related model.
* `Model.ofTable`, `Model.ofSchema`: one model for each table that is no link table.
-/

namespace SchemaScaffold

/-- A column's name and the rules for its values. -/
structure ColumnRules where
  name : String
  validation : Option String
  sanitization : Option String
  deriving Repr, DecidableEq

/-- A relationship's name, its kind and the body of its method. -/
structure Accessor where
  name : String
  kind : RelationshipKind
  body : String
  deriving Repr, DecidableEq

/-- The record from which a model class is made. -/
structure Model where
  name : String
  table : String
  timestamps : Bool
  disableTimestamps : Bool
  softDelete : Bool
  hasRelations : Bool
  columns : List ColumnRules
  relations : List Accessor
  deriving Repr, DecidableEq

/-! ## Rules -/

namespace Column

/-- The validator of a column's type. -/
def validator? (column : Column) : Option String :=
  match column.type with
  | .timestamp => some "integer"
  | .string | .text | .char | .tinyText | .mediumText | .longText => some "string"
  | .tinyInteger | .smallInteger | .mediumInteger | .integer | .bigInteger =>
    some (if column.unsigned then "integer|above:0" else "integer")
  | .float | .double | .decimal => some "number"
  | .date | .time | .dateTime => some "date"
  | .boolean => some "boolean"
  | .increments | .unknown _ => none

/-- The sanitizer of a column's type. -/
def sanitizer? (column : Column) : Option String :=
  match column.type with
  | .timestamp | .tinyInteger | .smallInteger | .mediumInteger | .integer | .bigInteger =>
    some "to_int"
  | .string | .text | .char | .tinyText | .mediumText | .longText => some "strip_tags"
  | .float | .double | .decimal => some "to_float"
  | .date | .time | .dateTime => some "to_date"
  | .boolean => some "to_boolean"
  | .increments | .unknown _ => none

/-- A rule under the name of its column. -/
def rule (column : Column) (text : String) : String := column.name ++ ": " ++ quoted text

/-- What a value has to satisfy. -/
def validationText (column : Column) (validator : String) : String :=
  validator ++ (if column.nullable then "" else "|required") ++
    (if column.unique then "|unique" else "") ++
    (match column.length with
     | some length => "|max:" ++ toString length
     | none => "")

/-- The rule that checks a column's values. -/
def validationRule (column : Column) : Option String :=
  if column.isKey then none
  else
    match column.validator? with
    | none => some ""
    | some validator => some (column.rule (column.validationText validator))

/-- The rule that cleans a column's values. -/
def sanitizationRule (column : Column) : Option String :=
  if column.isKey then none
  else
    match column.sanitizer? with
    | none => some ""
    | some sanitizer => some (column.rule sanitizer)

end Column

/-! ## Accessors -/

/-- The path under which a model class is found. -/
def modelPath (model : String) : String := "App/Models/" ++ model

/-- The body of the method that gives the related models. -/
def Relationship.accessor (relationship : Relationship) : String :=
  let call (path : String) (rest : List String) : String :=
    "return this." ++ relationship.kind.name ++ "(" ++
      arguments (quoted (modelPath path) :: rest.map quoted) ++ ")"
  match relationship.kind with
  | .belongsTo => call relationship.model [relationship.foreignKey, relationship.primaryKey]
  | .hasOne | .hasMany => call relationship.model [relationship.primaryKey, relationship.foreignKey]
  | .hasManyThrough passage =>
    call passage.throughModel
      [passage.relatedMethod, relationship.primaryKey, relationship.foreignKey]
  | .belongsToMany pivot =>
    call relationship.model
        [relationship.foreignKey, pivot.relatedForeignKey, relationship.primaryKey,
         pivot.relatedPrimaryKey] ++
      ".pivotTable(" ++ quoted pivot.table ++ ")" ++
      (if pivot.withTimestamps then ".withTimestamps()" else "")

namespace Model

/-- The model of a table. -/
def ofTable (table : Table) : Model where
  name := table.model
  table := table.name
  timestamps := table.timestamps
  disableTimestamps := !table.timestamps
  softDelete := table.softDelete
  hasRelations := !table.relationships.entries.isEmpty
  columns := table.columns.values.map fun column =>
    ⟨column.name, column.validationRule, column.sanitizationRule⟩
  relations := table.relationships.entries.map fun (name, relationship) =>
    ⟨name, relationship.kind, relationship.accessor⟩

/-- The models of all tables that have one, in order. -/
def ofSchema (schema : Schema) : List Model := schema.entityTables.map ofTable

end Model

end SchemaScaffold
