import SchemaScaffold.Keyed
import SchemaScaffold.Schema.ColumnType

/-!
# Schemas

* `Column`, `ForeignKey`: the columns of a table.
* `Relationship`, `RelationshipKind`: what a model knows of another one. All kinds share the related
  table, its model and a pair of keys; a kind carries what only it has.
* `Table`, `Schema`: tables under their names, in order.
-/

namespace SchemaScaffold

/-! ## Columns -/

/-- The column that a foreign key points at, and its table. -/
structure ForeignKey where
  table : String
  column : String
  deriving Repr, DecidableEq

/-- A column. -/
structure Column where
  name : String
  type : ColumnType
  length : Option Nat := none
  nullable : Bool := false
  unique : Bool := false
  index : Bool := false
  unsigned : Bool := false
  defaultValue : Option String := none
  comment : Option String := none
  autoIncrement : Bool := false
  foreignKey : Option ForeignKey := none
  deriving Repr, DecidableEq

namespace Column

/-- The canonical type of a column. -/
def canonicalType (column : Column) : ColumnType :=
  column.type.canonical column.length.isSome column.autoIncrement

/-- The column with its canonical type. -/
def canonical (column : Column) : Column := { column with type := column.canonicalType }

/-- Whether the database or a relationship fills the column, so that neither fake data nor
validation is needed for it. -/
def isKey (column : Column) : Bool := column.type.countsUp || column.foreignKey.isSome

theorem canonical_canonical (column : Column) : column.canonical.canonical = column.canonical := by
  simp [canonical, canonicalType, ColumnType.canonical_canonical]

end Column

/-! ## Relationships -/

/-- What a many-to-many relationship adds: the keys of the link table to the related table, the
link table, and whether it records times. -/
structure Pivot where
  relatedForeignKey : String
  relatedPrimaryKey : String
  table : String
  withTimestamps : Bool
  deriving Repr, DecidableEq

/-- What a relationship over two others adds: the first of them, the model it leads to, and the
second one, on that model. -/
structure Passage where
  through : String
  throughModel : String
  relatedMethod : String
  deriving Repr, DecidableEq

/-- The kinds of relationships, with what only they have. -/
inductive RelationshipKind where
  | belongsTo
  | hasOne
  | hasMany
  | belongsToMany (pivot : Pivot)
  | hasManyThrough (passage : Passage)
  deriving Repr, DecidableEq

/-- The name of a kind. -/
def RelationshipKind.name : RelationshipKind → String
  | .belongsTo => "belongsTo"
  | .hasOne => "hasOne"
  | .hasMany => "hasMany"
  | .belongsToMany _ => "belongsToMany"
  | .hasManyThrough _ => "hasManyThrough"

/-- A relationship of a model: its kind, the related table and model, and the two keys. -/
structure Relationship where
  kind : RelationshipKind
  table : String
  model : String
  primaryKey : String
  foreignKey : String
  deriving Repr, DecidableEq

namespace Relationship

/-- Whether a relationship leads from the many side of a key to the one it points at. -/
def isBelongsTo (relationship : Relationship) : Bool :=
  match relationship.kind with
  | .belongsTo => true
  | _ => false

/-- Whether a relationship can be the first or second part of a longer one. -/
def isComposable (relationship : Relationship) : Bool := !relationship.isBelongsTo

/-- The pivot of a many-to-many relationship. -/
def pivot? (relationship : Relationship) : Option Pivot :=
  match relationship.kind with
  | .belongsToMany pivot => some pivot
  | _ => none

/-- The passage of a relationship over two others. -/
def passage? (relationship : Relationship) : Option Passage :=
  match relationship.kind with
  | .hasManyThrough passage => some passage
  | _ => none

/-- Whether a relationship comes from a declared relation, and not from two others. -/
def isDirect (relationship : Relationship) : Bool := relationship.passage?.isNone

end Relationship

/-! ## Tables -/

/-- A table: its model, its columns and the relationships of its model, each under its name. -/
structure Table where
  name : String
  model : String
  softDelete : Bool
  timestamps : Bool
  /-- whether the table only links others, so that it has no model of its own -/
  isLink : Bool
  columns : Keyed Column
  relationships : Keyed Relationship
  deriving DecidableEq

namespace Table

/-- The table with a relationship put under a name. -/
def relate (table : Table) (name : String) (relationship : Relationship) : Table :=
  { table with relationships := table.relationships.insert name relationship }

end Table

/-- The resolved tables, in order. -/
structure Schema where
  tables : Keyed Table
  deriving DecidableEq

namespace Schema

/-- The table of a name. -/
def table? (schema : Schema) (name : String) : Option Table := schema.tables.get? name

/-- The tables that have a model. -/
def entityTables (schema : Schema) : List Table :=
  schema.tables.values.filter fun table => !table.isLink

end Schema

end SchemaScaffold
