import SchemaScaffold.Proofs.Artifacts.Names
import SchemaScaffold.Proofs.Assembly.Contributions

/-!
# What becomes of the declarations

Tables are declared, listed under ids, registered, filled with columns, and put into records, each
time in a loop of its own. All these orders come to one: nothing declared is lost, doubled or moved.

* `Column.Transcribes`: a column is the one that is declared. Its foreign key leads to the column
  that the declaration refers to, wherever in the document that one is declared.
* `Table.Transcribes`: a table is the one that is declared, with the columns under its id, in order.
* `Document.outline`, `Migration.outline`, …: the name of a table and the names of its columns.
* `convert_transcribes`: the tables of a conversion transcribe the declared ones, and the records
  have their outlines, in order.
-/

namespace SchemaScaffold

/-! ## Columns and tables as they are declared -/

/-- A column is the one that a document declares: everything is copied, but for the type, which
becomes canonical, and for an empty default or comment, which is dropped. -/
structure Column.Transcribes (document : Document) (decl : ColumnDecl) (column : Column) :
    Prop where
  name : column.name = decl.name
  type : column.type = (ColumnType.ofName (decl.type.getD "")).canonical decl.length.isSome
    decl.autoIncrement
  length : column.length = decl.length
  nullable : column.nullable = decl.nullable
  unique : column.unique = decl.unique
  index : column.index = decl.index
  unsigned : column.unsigned = decl.unsigned
  defaultValue : ∀ text, column.defaultValue = some text ↔
    decl.defaultValue = some text ∧ text ≠ ""
  comment : ∀ text, column.comment = some text ↔ decl.comment = some text ∧ text ≠ ""
  autoIncrement : column.autoIncrement = decl.autoIncrement
  /-- the foreign key leads to the declared column that the declaration refers to, if any -/
  foreignKey : ∀ key, column.foreignKey = some key ↔ ∃ target : DeclaredColumn,
    target.IsIn document ∧ decl.RefersTo target.column ∧
      key = ⟨target.table.name, target.column.name⟩

/-- A table is the one that a document declares, with the columns that are listed under its id. -/
structure Table.Transcribes (separator : String) (document : Document) (decl : TableDecl)
    (table : Table) : Prop where
  name : table.name = decl.name
  model : Naming.modelName decl.name = some table.model
  softDelete : table.softDelete = decl.softDelete
  timestamps : table.timestamps = decl.timestamps
  isLink : table.isLink = Naming.isLinkName decl.name separator
  columns : ∃ columns, document.columns.get? decl.id = some columns ∧
    List.Forall₂ (fun column entry => entry.1 = column.name ∧ entry.2.Transcribes document column)
      columns table.columns.entries

/-! ## Outlines -/

/-- The name of a declared table and those of its columns. -/
def Document.outline (document : Document) (decl : TableDecl) : String × List String :=
  (decl.name, (document.columnsUnder decl).map ColumnDecl.name)

/-- The declared tables that are not marked as links. -/
def Document.entityDecls (document : Document) (separator : String) : List TableDecl :=
  document.tables.filter fun decl => !Naming.isLinkName decl.name separator

/-- The name of a table and those of its columns. -/
def Table.outline (table : Table) : String × List String :=
  (table.name, table.columns.values.map Column.name)

/-- The name of the table that is created and those of its columns. -/
def Migration.outline (migration : Migration) : String × List String :=
  (migration.name, migration.columns.map ColumnCall.name)

/-- The name of the table that is filled and those of its columns. -/
def Factory.outline (factory : Factory) : String × List String :=
  (factory.table, factory.columns.map FakeField.name)

/-- The name of the table behind a model and those of its columns. -/
def Model.outline (model : Model) : String × List String :=
  (model.table, model.columns.map ColumnRules.name)

@[simp] theorem Migration.outline_ofTable (table : Table) :
    (Migration.ofTable table).outline = table.outline := by
  simp [outline, ofTable, Table.outline, Function.comp_def]

@[simp] theorem Factory.outline_ofTable (table : Table) :
    (Factory.ofTable table).outline = table.outline := by
  simp [outline, ofTable, Table.outline, Function.comp_def]

@[simp] theorem Model.outline_ofTable (table : Table) :
    (Model.ofTable table).outline = table.outline := by
  simp [outline, ofTable, Table.outline, Function.comp_def]

/-! ## What was assembled transcribes the declarations -/

section

variable {separator : String} {document : Document} {registry : Registry} {tables : Keyed Table}

theorem ColumnType.ofName_getD (name : Option String) :
    (name.map ofName).getD .undeclared = ofName (name.getD "") := by
  cases name <;> rfl

theorem Assembled.column_transcribes (h : Assembled separator document registry tables)
    (decl : ColumnDecl) : (Column.ofDecl registry decl).Transcribes document decl where
  name := rfl
  type := by
    rw [← ColumnType.ofName_getD]
    rfl
  length := rfl
  nullable := rfl
  unique := rfl
  index := rfl
  unsigned := rfl
  defaultValue := fun text => by
    change decl.defaultValue.filter (· ≠ "") = some text ↔ _
    simp [Option.filter_eq_some_iff]
  comment := fun text => by
    change decl.comment.filter (· ≠ "") = some text ↔ _
    simp [Option.filter_eq_some_iff]
  autoIncrement := rfl
  foreignKey := fun _ => h.foreignKey_eq_some_iff

theorem Assembled.table_transcribes (h : Assembled separator document registry tables)
    (hValid : document.HasValidTables) (hModels : document.HasModels) {decl : TableDecl}
    (hDecl : decl ∈ document.tables) {table : Table}
    (hBare : table.bare = (decl.assembled separator document registry).bare) :
    table.Transcribes separator document decl := by
  obtain ⟨hModel, hIsLink, hTimestamps, hColumns⟩ := Table.fields_eq_of_bare_eq hBare
  have hName : table.name = decl.name := congrArg Table.name hBare
  have hSoftDelete : table.softDelete = decl.softDelete := congrArg Table.softDelete hBare
  obtain ⟨model, hFormed⟩ := Option.isSome_iff_exists.mp (hModels decl hDecl)
  refine {
    name := hName
    model := ?_
    softDelete := hSoftDelete
    timestamps := hTimestamps
    isLink := hIsLink
    columns := ⟨_, hValid.exists_columns hDecl, ?_⟩ }
  · rw [hModel, TableDecl.model_assembled, TableDecl.model, hFormed, Option.getD_some]
  · rw [hColumns, Assembled.entries_columns hValid hDecl, List.forall₂_map_right_iff,
      List.forall₂_same]
    exact fun column _ => ⟨rfl, h.column_transcribes column⟩

theorem forall₂_iff_map_eq {α β γ : Type} {f : α → γ} {g : β → γ} {l : List α} {l' : List β} :
    List.Forall₂ (fun a b => f a = g b) l l' ↔ l.map f = l'.map g := by
  rw [← List.forall₂_eq_eq_eq, List.forall₂_map_left_iff, List.forall₂_map_right_iff]

/-- The columns of a table that is declared are under their names. -/
theorem Table.Transcribes.entries_name {decl : TableDecl} {table : Table}
    (h : table.Transcribes separator document decl) :
    ∀ entry ∈ table.columns.entries, entry.1 = entry.2.name := by
  obtain ⟨columns, -, hColumns⟩ := h.columns
  intro entry hEntry
  obtain ⟨column, -, hName, hColumn⟩ := exists_of_forall₂_of_mem_right hColumns hEntry
  exact hName.trans hColumn.name.symm

theorem Table.Transcribes.outline_eq {decl : TableDecl} {table : Table}
    (h : table.Transcribes separator document decl) : table.outline = document.outline decl := by
  obtain ⟨columns, hGet, hColumns⟩ := h.columns
  have hNames : columns.map ColumnDecl.name = table.columns.entries.map fun entry => entry.2.name :=
    forall₂_iff_map_eq.mp (hColumns.imp fun _ _ hColumn => hColumn.2.name.symm)
  rw [Table.outline, Document.outline, h.name, Document.columnsUnder, hGet, Option.getD_some,
    hNames, Keyed.values, List.map_map]
  rfl

/-- Tables that transcribe declarations have their outlines. -/
theorem map_outline_eq {decls : List TableDecl} {tables : List Table}
    (h : List.Forall₂ (fun decl table => table.Transcribes separator document decl)
      decls tables) :
    tables.map Table.outline = decls.map document.outline :=
  (forall₂_iff_map_eq.mp (h.imp fun _ _ hTable => hTable.outline_eq.symm)).symm

/-- Among tables that transcribe declarations, those with a model transcribe the ones that are not
marked as links. -/
theorem entityTables_transcribe {schema : Schema}
    (h : List.Forall₂ (fun decl table => table.Transcribes separator document decl)
      document.tables schema.tables.values) :
    List.Forall₂ (fun decl table => table.Transcribes separator document decl)
      (document.entityDecls separator) schema.entityTables := by
  refine List.rel_filter (R := fun decl table => Table.Transcribes separator document decl table)
    ?_ h
  intro decl table hTable
  simp only [hTable.isLink]

end

/-! ## Conversions -/

variable {σ : Type} {separator : String} {policy : Policy σ} {document : Document} {state final : σ}
  {artifacts : Artifacts}

/-- The tables of a schema are the declared ones, in order. -/
theorem resolve_transcribes {schema : Schema}
    (h : (resolve separator policy document).result state = (.ok schema, final)) :
    List.Forall₂ (fun decl entry =>
        entry.1 = decl.name ∧ entry.2.Transcribes separator document decl)
      document.tables schema.tables.entries := by
  obtain ⟨registry, tables, edges, direct, hTables, hEdges, hDirect, hThrough, -⟩ :=
    resolve_eq_ok_iff.mp h
  obtain ⟨-, additions, hRun⟩ := exists_run_of_relateThrough hThrough
  have hStaged := staged_of_run hTables hEdges hDirect hRun
  obtain ⟨hValid, hModels, hAssembled⟩ := assembleTables_eq_ok_iff.mp hTables
  have hBare := forall₂_iff_map_eq.mpr hStaged.entries_map_bare.symm
  have hDeclared := (List.forall₂_and_left _ _).mpr ⟨fun decl hDecl => hDecl, hBare⟩
  refine hDeclared.imp fun decl entry => ?_
  rintro ⟨hDecl, hEntry⟩
  obtain ⟨hName, hSame⟩ := Prod.mk.inj hEntry
  exact ⟨hName.symm, hAssembled.table_transcribes hValid hModels hDecl hSame.symm⟩

/-- **Declarations come out one for one**, whatever the separator and the policy. The tables are the
declared ones, in order, each under its name, and the columns of a table are those listed under its
id, in order. There is a migration for each table, and a factory and a model for each table that is
not marked as a link, in the order of the tables, and their columns are in the order of the table's
columns. -/
theorem convert_transcribes
    (h : (convert separator policy document).result state = (.ok artifacts, final)) :
    List.Forall₂ (fun decl entry =>
        entry.1 = decl.name ∧ entry.2.Transcribes separator document decl)
      document.tables artifacts.schema.tables.entries ∧
    artifacts.migrations.map Migration.outline = document.tables.map document.outline ∧
    artifacts.factories.map Factory.outline =
      (document.entityDecls separator).map document.outline ∧
    artifacts.models.map Model.outline = (document.entityDecls separator).map document.outline := by
  obtain ⟨schema, hResolve, rfl⟩ := convert_eq_ok_iff.mp h
  have hEntries := resolve_transcribes hResolve
  have hTables : List.Forall₂ (fun decl table => table.Transcribes separator document decl)
      document.tables schema.tables.values := by
    rw [Keyed.values, List.forall₂_map_right_iff]
    exact hEntries.imp fun _ _ hEntry => hEntry.2
  have hEntities := map_outline_eq (entityTables_transcribe hTables)
  refine ⟨hEntries, ?_, ?_, ?_⟩
  · simp only [Artifacts.ofSchema, Migration.ofSchema, List.map_map, Function.comp_def,
      Migration.outline_ofTable]
    exact map_outline_eq hTables
  · simp only [Artifacts.ofSchema, Factory.ofSchema, List.map_map, Function.comp_def,
      Factory.outline_ofTable]
    exact hEntities
  · simp only [Artifacts.ofSchema, Model.ofSchema, List.map_map, Function.comp_def,
      Model.outline_ofTable]
    exact hEntities

/-- The foreign key of a declaration by the id of the column that it refers to. -/
def keyTo (id : String) : KeyDecl := { references := some { id := some id } }

/-- Columns that refer to one declared later, to one of their own table, and to none. The lists of
columns stand in another order than the tables. -/
def pantry : Document where
  tables := [⟨"R", "rice", true, false⟩, ⟨"N", "news", false, true⟩,
    ⟨"L", "rice_news", false, false⟩]
  columns := .ofList [
    ("L", [{ id := "L1", name := "code", foreignKey := some (keyTo "") }]),
    ("N", [{ id := "N1", name := "id", autoIncrement := true },
      { id := "N2", name := "parent", foreignKey := some (keyTo "N1") }]),
    ("R", [{ id := "R1", name := "kind", type := some "char", length := some 12,
             defaultValue := some "", comment := some "short",
             foreignKey := some { keyTo "N2" with on := some { id := some "L" } } }])]
  relations := [⟨⟨"N", "N2"⟩, ⟨"N", "N1"⟩⟩]

/-- The column of `rice` refers to the second one of `news`, whatever table its key names, and the
link table has a migration only. -/
theorem convert_transcribes_pantry :
    ∃ artifacts final,
      (convert "_" (.suffix : Policy Unit) pantry).result () = (.ok artifacts, final) ∧
      List.Forall₂ (fun decl entry =>
          entry.1 = decl.name ∧ entry.2.Transcribes "_" pantry decl)
        pantry.tables artifacts.schema.tables.entries ∧
      artifacts.migrations.map Migration.outline =
        [("rice", ["kind"]), ("news", ["id", "parent"]), ("rice_news", ["code"])] ∧
      artifacts.factories.map Factory.outline = [("rice", ["kind"]), ("news", ["id", "parent"])] ∧
      artifacts.models.map Model.outline = [("rice", ["kind"]), ("news", ["id", "parent"])] ∧
      (artifacts.schema.table? "rice").bind (fun table => table.columns.get? "kind") =
        some { name := "kind", type := .string, length := some 12, comment := some "short",
               foreignKey := some ⟨"news", "parent"⟩ } := by
  have hKind : ((convert "_" (.suffix : Policy Unit) pantry).result ()).1.toOption.map
      (fun artifacts => (artifacts.schema.table? "rice").bind fun table =>
        table.columns.get? "kind") =
      some (some { name := "kind", type := .string, length := some 12, comment := some "short",
                   foreignKey := some ⟨"news", "parent"⟩ }) := by
    decide +kernel
  obtain ⟨artifacts, hConvert, hKind⟩ := exists_result_of_map hKind
  obtain ⟨hTables, hMigrations, hFactories, hModels⟩ := convert_transcribes hConvert
  have hAll : pantry.tables.map pantry.outline =
      [("rice", ["kind"]), ("news", ["id", "parent"]), ("rice_news", ["code"])] := by
    decide +kernel
  have hEntities : (pantry.entityDecls "_").map pantry.outline =
      [("rice", ["kind"]), ("news", ["id", "parent"])] := by
    decide +kernel
  exact ⟨artifacts, (), hConvert, hTables, hMigrations.trans hAll, hFactories.trans hEntities,
    hModels.trans hEntities, hKind⟩

end SchemaScaffold
