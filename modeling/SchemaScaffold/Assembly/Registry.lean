import SchemaScaffold.Keyed

/-!
# The registry of ids

* `Registry`: the tables and columns registered so far, under their ids, in order.
* `Registry.addTable`, `Registry.addColumn`: registration; an id that is taken is refused
  and changes nothing.
* `Registry.nameOfTable?`, `Registry.nameOfColumn?`, `Registry.tableOfColumn?`: what an id stands
  for.
* `Registry.idOfTable?`, `Registry.idOfColumn?`: the earliest id of a name.
-/

namespace SchemaScaffold

/-- A registered column: its table and its name. -/
structure ColumnEntry where
  table : String
  name : String
  deriving Repr, DecidableEq

/-- What ids stand for. -/
structure Registry where
  tables : Keyed String := .empty
  columns : Keyed ColumnEntry := .empty
  deriving DecidableEq

namespace Registry

/-- The registry before any registration. -/
def empty : Registry := {}

/-- Registers a table, unless its id is taken. -/
def addTable (registry : Registry) (id name : String) : Bool × Registry :=
  if registry.tables.contains id then (false, registry)
  else (true, { registry with tables := registry.tables.insert id name })

/-- Registers a column of a table, unless its id is taken. -/
def addColumn (registry : Registry) (id table name : String) : Bool × Registry :=
  if registry.columns.contains id then (false, registry)
  else (true, { registry with columns := registry.columns.insert id ⟨table, name⟩ })

/-- The name of the table with the given id. -/
def nameOfTable? (registry : Registry) (id : String) : Option String := registry.tables.get? id

/-- The name of the column with the given id. -/
def nameOfColumn? (registry : Registry) (id : String) : Option String :=
  (registry.columns.get? id).map ColumnEntry.name

/-- The table of the column with the given id. -/
def tableOfColumn? (registry : Registry) (id : String) : Option String :=
  (registry.columns.get? id).map ColumnEntry.table

/-- The earliest id of a table with the given name. -/
def idOfTable? (registry : Registry) (name : String) : Option String :=
  (registry.tables.entries.find? fun entry => entry.2 = name).map Prod.fst

/-- The earliest id of a column with the given name and table. -/
def idOfColumn? (registry : Registry) (name table : String) : Option String :=
  (registry.columns.entries.find? fun entry => entry.2.name = name && entry.2.table = table).map
    Prod.fst

end Registry

end SchemaScaffold
