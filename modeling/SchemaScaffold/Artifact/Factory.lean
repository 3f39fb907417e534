import SchemaScaffold.Schema.Basic

/-!
# Factories

* `Factory`: the record from which fake data for a model is made.
* `Column.fakeRule`: the rule for a column, `title: faker.sentence()`; a key has none, and the rule
  of an unknown type is empty.
* `Factory.ofTable`, `Factory.ofSchema`: one factory for each table that has a model.
-/

namespace SchemaScaffold

/-- A column's name and its rule for fake data. -/
structure FakeField where
  name : String
  rule : Option String
  deriving Repr, DecidableEq

/-- The record from which fake data for a model is made. -/
structure Factory where
  name : String
  table : String
  columns : List FakeField
  deriving Repr, DecidableEq

namespace Column

/-- The generator of a date. -/
def dateGenerator : String := "date(\x7bstring: true, american: false\x7d)"

/-- The generator of a time of day. -/
def timeGenerator : String :=
  "hour(\x7btwentyfour: true\x7d) + '/' + faker.minute() + '/' + faker.second()"

/-- The generator of fake values for a column. -/
def generator? (column : Column) : Option String :=
  match column.type with
  | .timestamp => some "timestamp()"
  | .string | .text | .char | .tinyText | .mediumText | .longText => some "sentence()"
  | .tinyInteger | .smallInteger | .mediumInteger | .integer | .bigInteger =>
    some (if column.unsigned then "natural()" else "integer()")
  | .float | .double | .decimal => some "floating(\x7bmin: 0\x7d)"
  | .date => some dateGenerator
  | .dateTime => some (dateGenerator ++ " + ' ' + faker." ++ timeGenerator)
  | .time => some timeGenerator
  | .boolean => some "bool()"
  | .increments | .unknown _ => none

/-- The cut that keeps a fake text within the length of its column. -/
def fakeCut (column : Column) : String :=
  match column.type, column.length with
  | .string, some length | .text, some length => ".substring(0, " ++ toString length ++ ")"
  | _, _ => ""

/-- The rule for fake values of a column. -/
def fakeRule (column : Column) : Option String :=
  if column.isKey then none
  else
    match column.generator? with
    | none => some ""
    | some generator =>
      let missing := if column.nullable then "bool() ? null : faker." else ""
      some (column.name ++ ": faker." ++ missing ++ generator ++ column.fakeCut)

end Column

namespace Factory

/-- The factory of a table. -/
def ofTable (table : Table) : Factory where
  name := table.model
  table := table.name
  columns := table.columns.values.map fun column => ⟨column.name, column.fakeRule⟩

/-- The factories of all tables that have a model, in order. -/
def ofSchema (schema : Schema) : List Factory := schema.entityTables.map ofTable

end Factory

end SchemaScaffold
