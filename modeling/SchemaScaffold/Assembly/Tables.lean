import SchemaScaffold.Assembly.Build
import SchemaScaffold.Assembly.Registry
import SchemaScaffold.Document.Basic
import SchemaScaffold.Naming.Conventions
import SchemaScaffold.Schema.Basic

/-!
# Tables and columns

* `declareTables`: the tables of a document, without columns, and the registry of their ids.
* `declareColumns`: the registry with the columns of every table, in the order of the tables.
* `ColumnDecl.column`: a declared column with its canonical type.
* `resolveForeignKeys`: a pass over the lists of columns, which gives columns their foreign keys. A
  key is kept only where it points at a declared column.
* `assembleTables`: the tables with their columns and the foreign keys of these.
-/

namespace SchemaScaffold

/-! ## Tables -/

/-- The table of a declaration, without columns. -/
def Table.ofDecl (separator : String) (decl : TableDecl) (model : String) : Table where
  name := decl.name
  model := model
  softDelete := decl.softDelete
  timestamps := decl.timestamps
  isLink := Naming.isLinkName decl.name separator
  columns := .empty
  relationships := .empty

/-- Adds the declared tables to those before them. -/
def declareTables (separator : String) (registry : Registry) (tables : Keyed Table) :
    List TableDecl → Except Stop (Registry × Keyed Table)
  | [] => .ok (registry, tables)
  | decl :: rest =>
    if tables.contains decl.name then Stop.invalid (.duplicateTableName decl.name)
    else
      match registry.addTable decl.id decl.name with
      | (false, _) => Stop.invalid (.duplicateTableId decl.id)
      | (true, registry) => do
        let model ← Stop.named decl.name (Naming.modelName decl.name)
        declareTables separator registry
          (tables.insert decl.name (.ofDecl separator decl model)) rest

/-- Stops if a column list stands under an id that no table has. -/
def checkColumnLists (document : Document) (registry : Registry) : Except Stop Unit :=
  match document.columns.keys.find? fun id => (registry.nameOfTable? id).isNone with
  | some id => Stop.invalid (.orphanColumnList id)
  | none => .ok ()

/-! ## Columns -/

/-- Registers the columns of one table, given the names of those before them. -/
def registerColumns (table : String) (names : List String) (registry : Registry) :
    List ColumnDecl → Except Stop Registry
  | [] => .ok registry
  | decl :: rest =>
    if names.contains decl.name then Stop.invalid (.duplicateColumnName decl.name table)
    else
      match registry.addColumn decl.id table decl.name with
      | (false, _) => Stop.invalid (.duplicateColumnId decl.id)
      | (true, registry) => registerColumns table (names ++ [decl.name]) registry rest

/-- Registers the columns of every table. -/
def declareColumns (document : Document) (registry : Registry) :
    List String → Except Stop Registry
  | [] => .ok registry
  | table :: rest =>
    match registry.idOfTable? table with
    | none => Stop.invalid (.unregisteredTable table)
    | some id =>
      match document.columns.get? id with
      | none => Stop.invalid (.missingColumnList table id)
      | some decls => do
        let registry ← registerColumns table [] registry decls
        declareColumns document registry rest

/-- The column of a declaration. Its foreign key comes later. -/
def ColumnDecl.column (decl : ColumnDecl) : Column :=
  Column.canonical
    { name := decl.name
      type := (decl.type.map ColumnType.ofName).getD .undeclared
      length := decl.length
      nullable := decl.nullable
      unique := decl.unique
      index := decl.index
      unsigned := decl.unsigned
      defaultValue := decl.defaultValue.filter (· ≠ "")
      comment := decl.comment.filter (· ≠ "")
      autoIncrement := decl.autoIncrement }

/-- The column declarations of a table. -/
def Document.columnsOf (document : Document) (registry : Registry) (table : String) :
    List ColumnDecl :=
  ((registry.idOfTable? table).bind document.columns.get?).getD []

/-- The table with the columns that the document declares for it. -/
def Table.withColumns (document : Document) (registry : Registry) (table : Table) : Table :=
  { table with
    columns := .ofList ((document.columnsOf registry table.name).map fun decl =>
      (decl.name, decl.column)) }

/-! ## Foreign keys -/

/-- The column that a foreign key points at, if it is declared. -/
def KeyDecl.resolve? (registry : Registry) (key : KeyDecl) : Option ForeignKey := do
  let id ← key.columnId?
  some ⟨← registry.tableOfColumn? id, ← registry.nameOfColumn? id⟩

/-- Gives a column the foreign key of its declaration, if there is one. A key that points at no
declared column is dropped. -/
def resolveKey (registry : Registry) (columns : Keyed Column) (decl : ColumnDecl) :
    Keyed Column :=
  match decl.foreignKey with
  | none => columns
  | some key =>
    columns.change decl.name fun column => { column with foreignKey := key.resolve? registry }

/-- The table with the foreign keys of the given declarations. -/
def Table.resolveKeys (registry : Registry) (decls : List ColumnDecl) (table : Table) : Table :=
  { table with columns := decls.foldl (resolveKey registry) table.columns }

/-- Resolves the foreign keys of a list of columns, in the table under whose id it stands. -/
def resolveColumnList (registry : Registry) (tables : Keyed Table)
    (list : String × List ColumnDecl) : Keyed Table :=
  match registry.nameOfTable? list.1 with
  | none => tables
  | some name => tables.change name (Table.resolveKeys registry list.2)

/-- Resolves all foreign keys, in the order in which the document lists columns. -/
def resolveForeignKeys (document : Document) (registry : Registry) (tables : Keyed Table) :
    Keyed Table :=
  document.columns.entries.foldl (resolveColumnList registry) tables

/-- The registry and the tables of a document, with their columns and the foreign keys of these. -/
def assembleTables (separator : String) (document : Document) :
    Except Stop (Registry × Keyed Table) := do
  let (registry, tables) ← declareTables separator .empty .empty document.tables
  checkColumnLists document registry
  let registry ← declareColumns document registry tables.keys
  let tables := tables.mapValues (Table.withColumns document registry)
  .ok (registry, resolveForeignKeys document registry tables)

end SchemaScaffold
