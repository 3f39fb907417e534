import Mathlib.Data.List.Nodup
import SchemaScaffold.Proofs.Assembly.ForeignKeys

/-!
# Assembled tables

* `declareTables_eq_ok_iff`, `registerColumns_eq_ok_iff`, `declareColumns_eq_ok_iff`: when the parts
  of the assembly succeed, and what they append.
* `assembleTables_eq`: the pass over the foreign keys gives what is had at once.
* `Assembled`: the registry and the tables of a document, entry by entry.
* `assembleTables_eq_ok_iff`: the assembly succeeds exactly on documents with valid tables whose
  models have names, and gives what is assembled from them.
-/

namespace SchemaScaffold

/-! ## Tables -/

/-- The name of the model of a declared table, where it has one. -/
def TableDecl.model (decl : TableDecl) : String := (Naming.modelName decl.name).getD ""

theorem declareTables_cons_eq_ok_iff {separator : String} {registry : Registry}
    {tables : Keyed Table} {decl : TableDecl} {rest : List TableDecl}
    {out : Registry × Keyed Table} :
    declareTables separator registry tables (decl :: rest) = .ok out ↔
      decl.name ∉ tables.keys ∧ decl.id ∉ registry.tables.keys ∧
        (Naming.modelName decl.name).isSome = true ∧
        declareTables separator { registry with tables := registry.tables.insert decl.id decl.name }
          (tables.insert decl.name (.ofDecl separator decl decl.model)) rest = .ok out := by
  rw [declareTables]
  by_cases hName : decl.name ∈ tables.keys
  · simp [Keyed.contains_iff.mpr hName, hName, Stop.invalid]
  · by_cases hId : decl.id ∈ registry.tables.keys
    · simp [Keyed.contains_iff, hName, hId, Registry.addTable, Stop.invalid]
    · cases hModel : Naming.modelName decl.name with
      | none =>
        simp [Keyed.contains_iff, hName, hId, Registry.addTable, Stop.named, bind, Except.bind]
      | some model =>
        simp [Keyed.contains_iff, hName, hId, Registry.addTable, Stop.named, bind, Except.bind,
          TableDecl.model, hModel]

theorem declareTables_eq_ok_iff {separator : String} {decls : List TableDecl} :
    ∀ {registry registry' : Registry} {tables tables' : Keyed Table},
      declareTables separator registry tables decls = .ok (registry', tables') ↔
        (tables.keys ++ decls.map TableDecl.name).Nodup ∧
        (registry.tables.keys ++ decls.map TableDecl.id).Nodup ∧
        (∀ decl ∈ decls, (Naming.modelName decl.name).isSome = true) ∧
        registry'.columns = registry.columns ∧
        registry'.tables.entries =
          registry.tables.entries ++ decls.map (fun decl => (decl.id, decl.name)) ∧
        tables'.entries = tables.entries ++
          decls.map fun decl => (decl.name, Table.ofDecl separator decl decl.model) := by
  induction decls with
  | nil =>
    rintro ⟨ids, columns⟩ ⟨ids', columns'⟩ tables tables'
    simp only [declareTables, Except.ok.injEq, Prod.mk.injEq, Registry.mk.injEq, List.map_nil,
      List.append_nil, Keyed.keys_nodup, List.not_mem_nil, false_implies, implies_true, true_and]
    constructor
    · rintro ⟨⟨rfl, rfl⟩, rfl⟩
      exact ⟨rfl, rfl, rfl⟩
    · rintro ⟨rfl, hIds, hTables⟩
      exact ⟨⟨(Keyed.ext hIds).symm, rfl⟩, (Keyed.ext hTables).symm⟩
  | cons decl rest ih =>
    intro registry registry' tables tables'
    rw [declareTables_cons_eq_ok_iff, ih, List.forall_mem_cons]
    simp only [List.map_cons]
    constructor
    · rintro ⟨hName, hId, hModel, hNames, hIds, hModels, hColumns, hRegistry, hTables⟩
      rw [Keyed.keys_insert_of_not_mem hName, List.append_assoc] at hNames
      rw [Keyed.keys_insert_of_not_mem hId, List.append_assoc] at hIds
      rw [Keyed.entries_insert_of_not_mem hId, List.append_assoc] at hRegistry
      rw [Keyed.entries_insert_of_not_mem hName, List.append_assoc] at hTables
      exact ⟨hNames, hIds, ⟨hModel, hModels⟩, hColumns, hRegistry, hTables⟩
    · rintro ⟨hNames, hIds, ⟨hModel, hModels⟩, hColumns, hRegistry, hTables⟩
      have hName : decl.name ∉ tables.keys :=
        Keyed.not_mem_of_nodup_append hNames
      have hId : decl.id ∉ registry.tables.keys :=
        Keyed.not_mem_of_nodup_append hIds
      rw [Keyed.keys_insert_of_not_mem hName, List.append_assoc,
        Keyed.keys_insert_of_not_mem hId, List.append_assoc,
        Keyed.entries_insert_of_not_mem hId, List.append_assoc,
        Keyed.entries_insert_of_not_mem hName, List.append_assoc]
      exact ⟨hName, hId, hModel, hNames, hIds, hModels, hColumns, hRegistry, hTables⟩

theorem keys_of_entries_eq_append {α : Type} {m m' : Keyed α} {more : List (String × α)}
    (h : m'.entries = m.entries ++ more) : m'.keys = m.keys ++ more.map Prod.fst := by
  rw [Keyed.keys, h, List.map_append]
  rfl

theorem keys_of_declareTables {separator : String} {decls : List TableDecl} {registry : Registry}
    {tables : Keyed Table}
    (h : declareTables separator .empty .empty decls = .ok (registry, tables)) :
    tables.keys = decls.map TableDecl.name := by
  obtain ⟨-, -, -, -, -, hEntries⟩ := declareTables_eq_ok_iff.mp h
  rw [keys_of_entries_eq_append hEntries, List.map_map]
  rfl

/-! ## Columns -/

theorem checkColumnLists_eq_ok_iff {document : Document} {registry : Registry} :
    checkColumnLists document registry = .ok () ↔
      ∀ id ∈ document.columns.keys, (registry.nameOfTable? id).isSome = true := by
  unfold checkColumnLists
  cases h : document.columns.keys.find? fun id => (registry.nameOfTable? id).isNone with
  | none =>
    rw [List.find?_eq_none] at h
    simpa [Option.isSome_iff_ne_none] using h
  | some id =>
    have hId := List.find?_some h
    have hMem := List.mem_of_find?_eq_some h
    simp only [Stop.invalid, reduceCtorEq, false_iff]
    intro hAll
    have := hAll id hMem
    simp_all

theorem registerColumns_eq_ok_iff {table : String} {decls : List ColumnDecl} :
    ∀ {names : List String} {registry registry' : Registry}, names.Nodup →
      (registerColumns table names registry decls = .ok registry' ↔
        (names ++ decls.map ColumnDecl.name).Nodup ∧
        (registry.columns.keys ++ decls.map ColumnDecl.id).Nodup ∧
        registry'.tables = registry.tables ∧
        registry'.columns.entries = registry.columns.entries ++
          decls.map fun decl => (decl.id, ⟨table, decl.name⟩)) := by
  induction decls with
  | nil =>
    rintro names ⟨ids, columns⟩ ⟨ids', columns'⟩ hNames
    simp only [registerColumns, Except.ok.injEq, Registry.mk.injEq, List.map_nil, List.append_nil,
      Keyed.keys_nodup, hNames, true_and]
    constructor
    · rintro ⟨rfl, rfl⟩
      exact ⟨rfl, rfl⟩
    · rintro ⟨rfl, hColumns⟩
      exact ⟨rfl, (Keyed.ext hColumns).symm⟩
  | cons decl rest ih =>
    intro names registry registry' hNames
    simp only [registerColumns, List.map_cons]
    by_cases hName : decl.name ∈ names
    · have hNot : ¬ (names ++ decl.name :: rest.map ColumnDecl.name).Nodup := fun h =>
        Keyed.not_mem_of_nodup_append h hName
      simp [hName, hNot, Stop.invalid]
    · by_cases hId : decl.id ∈ registry.columns.keys
      · have hNot : ¬ (registry.columns.keys ++ decl.id :: rest.map ColumnDecl.id).Nodup := fun h =>
          Keyed.not_mem_of_nodup_append h hId
        simp [hName, Registry.addColumn, Keyed.contains_iff.mpr hId, hNot, Stop.invalid]
      · have hMore : (names ++ [decl.name]).Nodup := by
          rw [List.nodup_append]
          refine ⟨hNames, by simp, ?_⟩
          rintro a ha b hb rfl
          exact hName (List.mem_singleton.mp hb ▸ ha)
        simp only [List.contains_iff_mem, hName, if_false, Registry.addColumn,
          Keyed.contains_eq_false_iff_not_mem.mpr hId, Bool.false_eq_true]
        rw [ih hMore, Keyed.keys_insert_of_not_mem hId, Keyed.entries_insert_of_not_mem hId]
        simp only [List.append_assoc, List.cons_append, List.nil_append]

/-- Names that are free in a table and ids that are free everywhere stop no registration. -/
theorem declareColumns_cons_eq_ok_iff {document : Document} {registry registry' : Registry}
    {decl : TableDecl} {rest : List String} (hId : registry.idOfTable? decl.name = some decl.id) :
    declareColumns document registry (decl.name :: rest) = .ok registry' ↔
      (document.columns.get? decl.id).isSome = true ∧ ∃ middle,
        registerColumns decl.name [] registry (document.columnsUnder decl) = .ok middle ∧
        declareColumns document middle rest = .ok registry' := by
  rw [declareColumns]
  simp only [hId]
  cases hColumns : document.columns.get? decl.id with
  | none => simp [Stop.invalid]
  | some decls => simp [Stop.bind_eq_ok_iff, Document.columnsUnder, hColumns]

/-- The entries of the columns that a document lists for a table. -/
def Document.columnEntries (document : Document) (decl : TableDecl) :
    List (String × ColumnEntry) :=
  (document.columnsUnder decl).map fun column => (column.id, ⟨decl.name, column.name⟩)

theorem Document.map_fst_columnEntries (document : Document) (decl : TableDecl) :
    (document.columnEntries decl).map Prod.fst =
      (document.columnsUnder decl).map ColumnDecl.id := by
  simp [columnEntries, Function.comp_def]

theorem declareColumns_eq_ok_iff {document : Document} {decls : List TableDecl} :
    ∀ {registry registry' : Registry},
      (∀ decl ∈ decls, registry.idOfTable? decl.name = some decl.id) →
      (declareColumns document registry (decls.map TableDecl.name) = .ok registry' ↔
        (∀ decl ∈ decls, (document.columns.get? decl.id).isSome = true ∧
          ((document.columnsUnder decl).map ColumnDecl.name).Nodup) ∧
        (registry.columns.keys ++
          (decls.flatMap document.columnsUnder).map ColumnDecl.id).Nodup ∧
        registry'.tables = registry.tables ∧
        registry'.columns.entries =
          registry.columns.entries ++ decls.flatMap document.columnEntries) := by
  induction decls with
  | nil =>
    rintro ⟨ids, columns⟩ ⟨ids', columns'⟩ _
    simp only [List.map_nil, declareColumns, Except.ok.injEq, Registry.mk.injEq, List.flatMap_nil,
      List.append_nil, Keyed.keys_nodup, List.not_mem_nil, false_implies, implies_true, true_and]
    constructor
    · rintro ⟨rfl, rfl⟩
      exact ⟨rfl, rfl⟩
    · rintro ⟨rfl, hColumns⟩
      exact ⟨rfl, (Keyed.ext hColumns).symm⟩
  | cons decl rest ih =>
    intro registry registry' hIds
    obtain ⟨hId, hRestIds⟩ := List.forall_mem_cons.mp hIds
    rw [List.map_cons, declareColumns_cons_eq_ok_iff hId, List.forall_mem_cons]
    simp only [List.flatMap_cons, List.map_append, ← List.append_assoc]
    constructor
    · rintro ⟨hList, middle, hMiddle, hRest⟩
      obtain ⟨hNames, -, hTables, hColumns⟩ :=
        (registerColumns_eq_ok_iff List.nodup_nil).mp hMiddle
      have hMiddleIds : ∀ decl ∈ rest, middle.idOfTable? decl.name = some decl.id := by
        simpa only [Registry.idOfTable?, hTables] using hRestIds
      obtain ⟨hRestNames, hRestNodup, hRestTables, hRestColumns⟩ := (ih hMiddleIds).mp hRest
      rw [keys_of_entries_eq_append hColumns] at hRestNodup
      rw [hColumns] at hRestColumns
      refine ⟨⟨⟨hList, hNames⟩, hRestNames⟩, ?_, hRestTables.trans hTables, hRestColumns⟩
      rw [← document.map_fst_columnEntries decl]
      exact hRestNodup
    · rintro ⟨⟨⟨hList, hNames⟩, hRestNames⟩, hNodup, hTables, hColumns⟩
      have hFront : (registry.columns.keys ++
          (document.columnsUnder decl).map ColumnDecl.id).Nodup :=
        (List.nodup_append.mp hNodup).1
      obtain ⟨middle, hMiddle⟩ : ∃ middle : Registry, middle.tables = registry.tables ∧
          middle.columns.entries = registry.columns.entries ++ document.columnEntries decl := by
        refine ⟨⟨registry.tables, ⟨registry.columns.entries ++ document.columnEntries decl, ?_⟩⟩,
          rfl, rfl⟩
        rw [List.map_append, document.map_fst_columnEntries]
        exact hFront
      have hMiddleIds : ∀ decl ∈ rest, middle.idOfTable? decl.name = some decl.id := by
        simpa only [Registry.idOfTable?, hMiddle.1] using hRestIds
      refine ⟨hList, middle, (registerColumns_eq_ok_iff List.nodup_nil).mpr
        ⟨hNames, hFront, hMiddle.1, hMiddle.2⟩, (ih hMiddleIds).mpr ⟨hRestNames, ?_,
          hTables.trans hMiddle.1.symm, ?_⟩⟩
      · rw [keys_of_entries_eq_append hMiddle.2, document.map_fst_columnEntries]
        exact hNodup
      · rw [hMiddle.2]
        exact hColumns

/-! ## Assembled tables -/

/-- A declared table with its columns. -/
def TableDecl.assembled (separator : String) (document : Document) (registry : Registry)
    (decl : TableDecl) : Table :=
  { Table.ofDecl separator decl decl.model with
    columns := .ofList ((document.columnsUnder decl).map fun column =>
      (column.name, Column.ofDecl registry column)) }

section

variable (separator : String) (document : Document) (registry : Registry) (decl : TableDecl)

@[simp] theorem TableDecl.isLink_assembled :
    (decl.assembled separator document registry).isLink =
      Naming.isLinkName decl.name separator := rfl

@[simp] theorem TableDecl.timestamps_assembled :
    (decl.assembled separator document registry).timestamps = decl.timestamps := rfl

-- `rfl` alone would evaluate the rules for the name
@[simp] theorem TableDecl.model_assembled :
    (decl.assembled separator document registry).model = decl.model := by
  simp only [assembled, Table.ofDecl]

end

/-- The registry and the tables of a document, in the order of its tables. -/
structure Assembled (separator : String) (document : Document) (registry : Registry)
    (tables : Keyed Table) : Prop where
  tableIds : registry.tables.entries = document.tables.map fun decl => (decl.id, decl.name)
  columnIds : registry.columns.entries = document.tables.flatMap document.columnEntries
  entries : tables.entries =
    document.tables.map fun decl => (decl.name, decl.assembled separator document registry)

/-- Every table of a document has a model whose name can be formed. -/
def Document.HasModels (document : Document) : Prop :=
  ∀ decl ∈ document.tables, (Naming.modelName decl.name).isSome = true

theorem mapValues_withKeyedColumns {separator : String} {document : Document} {registry : Registry}
    {tables : Keyed Table}
    (hTableIds : registry.tables.entries = document.tables.map fun decl => (decl.id, decl.name))
    (hNames : (document.tables.map TableDecl.name).Nodup)
    (hTables : tables.entries =
      document.tables.map fun decl => (decl.name, Table.ofDecl separator decl decl.model)) :
    (tables.mapValues (Table.withKeyedColumns document registry)).entries =
      document.tables.map fun decl => (decl.name, decl.assembled separator document registry) := by
  change (tables.entries.map fun entry => (entry.1, entry.2.withKeyedColumns document registry)) = _
  rw [hTables, List.map_map]
  refine List.map_congr_left fun decl hDecl => ?_
  have hColumns := Document.columnsOf_eq_columnsUnder hTableIds hNames hDecl
  rw [Function.comp_apply, TableDecl.assembled, ← hColumns]
  rfl

theorem nameOfTable?_isSome_iff {document : Document} {registry : Registry}
    (hTableIds : registry.tables.entries = document.tables.map fun decl => (decl.id, decl.name))
    {id : String} :
    (registry.nameOfTable? id).isSome = true ↔ id ∈ document.tables.map TableDecl.id := by
  rw [Registry.nameOfTable?, ← Keyed.contains_eq_isSome, Keyed.contains_iff, Keyed.keys, hTableIds,
    List.map_map]
  rfl

section

variable {separator : String} {document : Document} {start full : Registry} {declared : Keyed Table}
  (hDeclared : declareTables separator .empty .empty document.tables = .ok (start, declared))
  (hLists : checkColumnLists document start = .ok ())
  (hFull : declareColumns document start declared.keys = .ok full)

include hDeclared hLists hFull

/-- Where all tables and columns are declared, the tables are valid and have models, and all ids are
registered. -/
theorem hasValidTables_of_declared :
    document.HasValidTables ∧ document.HasModels ∧
      full.tables.entries = document.tables.map (fun decl => (decl.id, decl.name)) ∧
      full.columns.entries = document.tables.flatMap document.columnEntries := by
  obtain ⟨hNames, hIds, hModels, hColumns, hTableIds, -⟩ := declareTables_eq_ok_iff.mp hDeclared
  have hStartIds : ∀ decl ∈ document.tables, start.idOfTable? decl.name = some decl.id :=
    fun _ hDecl => idOfTable?_of_mem hTableIds hNames hDecl
  rw [keys_of_declareTables hDeclared] at hFull
  obtain ⟨hColumnNames, hColumnIds, hFullTables, hFullColumns⟩ :=
    (declareColumns_eq_ok_iff hStartIds).mp hFull
  rw [hColumns] at hColumnIds hFullColumns
  have hFullIds : full.tables.entries =
      document.tables.map fun decl => (decl.id, decl.name) := by
    rw [hFullTables]
    exact hTableIds
  have hKeyIds : ∀ id, id ∈ document.columns.keys ↔ id ∈ document.tables.map TableDecl.id := by
    intro id
    constructor
    · intro hId
      exact (nameOfTable?_isSome_iff hTableIds).mp (checkColumnLists_eq_ok_iff.mp hLists id hId)
    · intro hId
      obtain ⟨decl, hDecl, rfl⟩ := List.mem_map.mp hId
      exact Keyed.mem_keys_iff.mpr (Option.isSome_iff_exists.mp (hColumnNames decl hDecl).1)
  refine ⟨?_, hModels, hFullIds, hFullColumns⟩
  exact {
    tableNames := hNames
    tableIds := hIds
    columnLists := hKeyIds
    columnNames := by
      intro decls hDecls
      obtain ⟨⟨id, _⟩, hEntry, rfl⟩ := List.mem_map.mp hDecls
      have hGet := Keyed.get?_eq_some_iff.mpr hEntry
      obtain ⟨decl, hDecl, rfl⟩ :=
        List.mem_map.mp ((hKeyIds id).mp (Keyed.mem_keys_iff.mpr ⟨_, hGet⟩))
      have hNodup := (hColumnNames decl hDecl).2
      rwa [Document.columnsUnder, hGet] at hNodup
    columnIds := ((Document.allColumns_perm hIds hKeyIds).map _).nodup_iff.mp hColumnIds }

/-- Where all tables and columns are declared, the pass over the foreign keys gives what is had at
once. -/
theorem resolveForeignKeys_of_declared :
    resolveForeignKeys document full (declared.mapValues (Table.withColumns document full)) =
      declared.mapValues (Table.withKeyedColumns document full) := by
  obtain ⟨hValid, -, hTableIds, -⟩ := hasValidTables_of_declared hDeclared hLists hFull
  obtain ⟨-, -, -, -, -, hEntries⟩ := declareTables_eq_ok_iff.mp hDeclared
  refine resolveForeignKeys_eq_mapValues hTableIds hValid.tableNames
    (fun _ hDecl => hValid.columnNames_nodup hDecl) ?_
  rw [hEntries, Keyed.entries_empty, List.nil_append, List.forall_mem_map]
  intro decl hDecl
  exact ⟨rfl, List.mem_map.mpr ⟨decl, hDecl, rfl⟩⟩

end

/-- On every document, foreign keys may as well be resolved together with the columns. -/
theorem assembleTables_eq (separator : String) (document : Document) :
    assembleTables separator document = (do
      let (registry, tables) ← declareTables separator .empty .empty document.tables
      checkColumnLists document registry
      let registry ← declareColumns document registry tables.keys
      .ok (registry, tables.mapValues (Table.withKeyedColumns document registry))) := by
  refine Stop.bind_congr fun (start, declared) hDeclared => ?_
  refine Stop.bind_congr fun _ hLists => ?_
  refine Stop.bind_congr fun full hFull => ?_
  rw [← resolveForeignKeys_of_declared hDeclared hLists hFull]

/-- A successful assembly has valid tables with models, and gives what is assembled from them. -/
theorem assembled_of_assembleTables {separator : String} {document : Document}
    {registry : Registry} {tables : Keyed Table}
    (h : assembleTables separator document = .ok (registry, tables)) :
    document.HasValidTables ∧ document.HasModels ∧
      Assembled separator document registry tables := by
  rw [assembleTables_eq] at h
  obtain ⟨⟨start, declared⟩, hDeclared, h⟩ := Stop.bind_eq_ok_iff.mp h
  obtain ⟨⟨⟩, hLists, h⟩ := Stop.bind_eq_ok_iff.mp h
  obtain ⟨full, hFull, h⟩ := Stop.bind_eq_ok_iff.mp h
  simp only [Except.ok.injEq, Prod.mk.injEq] at h
  obtain ⟨rfl, rfl⟩ := h
  obtain ⟨-, -, -, -, -, hTables⟩ := declareTables_eq_ok_iff.mp hDeclared
  obtain ⟨hValid, hModels, hTableIds, hColumnIds⟩ :=
    hasValidTables_of_declared hDeclared hLists hFull
  exact ⟨hValid, hModels, hTableIds, hColumnIds,
    mapValues_withKeyedColumns hTableIds hValid.tableNames hTables⟩

/-- Valid tables with models are assembled. -/
theorem Assembled.assembleTables_eq_ok {separator : String} {document : Document}
    {registry : Registry} {tables : Keyed Table} (hValid : document.HasValidTables)
    (hModels : document.HasModels) (hAssembled : Assembled separator document registry tables) :
    assembleTables separator document = .ok (registry, tables) := by
  rw [assembleTables_eq]
  -- the registry when the tables are declared, but no columns yet
  let start : Registry := ⟨registry.tables, .empty⟩
  have hStartIds : ∀ decl ∈ document.tables, start.idOfTable? decl.name = some decl.id :=
    fun _ hDecl => idOfTable?_of_mem hAssembled.tableIds hValid.tableNames hDecl
  let declared : Keyed Table :=
    ⟨document.tables.map fun decl => (decl.name, Table.ofDecl separator decl decl.model), by
      rw [List.map_map]
      exact hValid.tableNames⟩
  have hKeys : declared.keys = document.tables.map TableDecl.name := by
    simp [Keyed.keys, declared, Function.comp_def]
  have hDeclared : declareTables separator .empty .empty document.tables =
      .ok (start, declared) :=
    declareTables_eq_ok_iff.mpr
      ⟨hValid.tableNames, hValid.tableIds, hModels, rfl, hAssembled.tableIds, rfl⟩
  have hLists : checkColumnLists document start = .ok () :=
    checkColumnLists_eq_ok_iff.mpr fun id hId =>
      (nameOfTable?_isSome_iff hAssembled.tableIds).mpr ((hValid.columnLists id).mp hId)
  have hFull : declareColumns document start declared.keys = .ok registry := by
    rw [hKeys]
    refine (declareColumns_eq_ok_iff hStartIds).mpr ⟨?_, hValid.columnIds_nodup, rfl, ?_⟩
    · intro decl hDecl
      exact ⟨by rw [hValid.exists_columns hDecl]; rfl, hValid.columnNames_nodup hDecl⟩
    · rw [hAssembled.columnIds]
      rfl
  have hTables : declared.mapValues (Table.withKeyedColumns document registry) = tables := by
    refine Keyed.ext ?_
    rw [hAssembled.entries]
    exact mapValues_withKeyedColumns hAssembled.tableIds hValid.tableNames rfl
  have hRest : declareColumns document start declared.keys >>= (fun registry =>
      .ok (registry, declared.mapValues (Table.withKeyedColumns document registry))) =
        (.ok (registry, tables) : Except Stop (Registry × Keyed Table)) :=
    Stop.bind_eq_ok_iff.mpr ⟨registry, hFull, by rw [hTables]⟩
  exact Stop.bind_eq_ok_iff.mpr
    ⟨(start, declared), hDeclared, Stop.bind_eq_ok_iff.mpr ⟨(), hLists, hRest⟩⟩

/-- The parts of an assembly succeed together exactly on valid tables with models. -/
theorem assembleTables_eq_ok_iff {separator : String} {document : Document} {registry : Registry}
    {tables : Keyed Table} :
    assembleTables separator document = .ok (registry, tables) ↔
      document.HasValidTables ∧ document.HasModels ∧
        Assembled separator document registry tables := by
  constructor
  · exact assembled_of_assembleTables
  · rintro ⟨hValid, hModels, hAssembled⟩
    exact hAssembled.assembleTables_eq_ok hValid hModels

/-- What is to be assembled from valid tables exists. -/
theorem Document.HasValidTables.exists_assembled {document : Document}
    (hValid : document.HasValidTables) (separator : String) :
    ∃ registry tables, Assembled separator document registry tables := by
  let registry : Registry := {
    tables := ⟨document.tables.map fun decl => (decl.id, decl.name), by
      rw [List.map_map]
      exact hValid.tableIds⟩
    columns := ⟨document.tables.flatMap document.columnEntries, by
      rw [List.map_flatMap]
      simp only [document.map_fst_columnEntries, ← List.map_flatMap]
      exact hValid.columnIds_nodup⟩ }
  let tables : Keyed Table :=
    ⟨document.tables.map fun decl => (decl.name, decl.assembled separator document registry), by
      rw [List.map_map]
      exact hValid.tableNames⟩
  exact ⟨registry, tables, rfl, rfl, rfl⟩

/-! ## Looking up what was assembled -/

namespace Assembled

variable {separator : String} {document : Document} {registry : Registry} {tables : Keyed Table}

theorem nameOfTable?_eq_some_iff (h : Assembled separator document registry tables)
    {id name : String} :
    registry.nameOfTable? id = some name ↔
      ∃ decl ∈ document.tables, decl.id = id ∧ decl.name = name := by
  rw [Registry.nameOfTable?, Keyed.get?_eq_some_iff, h.tableIds]
  simp

theorem column_get?_eq_some_iff (h : Assembled separator document registry tables) {id : String}
    {entry : ColumnEntry} :
    registry.columns.get? id = some entry ↔ ∃ decl ∈ document.tables,
      ∃ column ∈ document.columnsUnder decl, column.id = id ∧ ⟨decl.name, column.name⟩ = entry := by
  rw [Keyed.get?_eq_some_iff, h.columnIds]
  simp [Document.columnEntries]

theorem get?_eq_some_iff (h : Assembled separator document registry tables) {name : String}
    {table : Table} :
    tables.get? name = some table ↔ ∃ decl ∈ document.tables, decl.name = name ∧
      decl.assembled separator document registry = table := by
  rw [Keyed.get?_eq_some_iff, h.entries]
  simp

/-- No relationship comes from the assembly. -/
theorem relationships_eq (h : Assembled separator document registry tables) {name : String}
    {table : Table} (hTable : tables.get? name = some table) : table.relationships = .empty := by
  obtain ⟨decl, -, -, rfl⟩ := h.get?_eq_some_iff.mp hTable
  rfl

/-- The columns of an assembled table are those that the document lists for it, in order. -/
theorem entries_columns (hValid : document.HasValidTables) {decl : TableDecl}
    (hDecl : decl ∈ document.tables) :
    (decl.assembled separator document registry).columns.entries =
      (document.columnsUnder decl).map fun column =>
        (column.name, Column.ofDecl registry column) := by
  refine Keyed.entries_ofList ?_
  rw [List.map_map]
  exact hValid.columnNames_nodup hDecl

theorem column_mem_iff (h : Assembled separator document registry tables)
    (hValid : document.HasValidTables) {name : String} {table : Table}
    (hTable : tables.get? name = some table) {key : String} {column : Column} :
    (key, column) ∈ table.columns.entries ↔ ∃ decl ∈ document.tables, decl.name = name ∧
      ∃ columnDecl ∈ document.columnsUnder decl,
        columnDecl.name = key ∧ Column.ofDecl registry columnDecl = column := by
  obtain ⟨decl, hDecl, rfl, rfl⟩ := h.get?_eq_some_iff.mp hTable
  have hSame : ∀ other ∈ document.tables, other.name = decl.name → other = decl :=
    fun other hOther hName => List.inj_on_of_nodup_map hValid.tableNames hOther hDecl hName
  simp only [entries_columns hValid hDecl, List.mem_map, Prod.mk.injEq]
  constructor
  · intro hColumn
    exact ⟨decl, hDecl, rfl, hColumn⟩
  · rintro ⟨other, hOther, hName, hColumn⟩
    exact hSame other hOther hName ▸ hColumn

/-- A registered column is a column of an assembled table. -/
theorem exists_column (h : Assembled separator document registry tables)
    (hValid : document.HasValidTables) {id : String} {entry : ColumnEntry}
    (hEntry : registry.columns.get? id = some entry) :
    ∃ table, tables.get? entry.table = some table ∧ entry.name ∈ table.columns.keys := by
  obtain ⟨decl, hDecl, column, hColumn, -, rfl⟩ := h.column_get?_eq_some_iff.mp hEntry
  have hGet : tables.get? decl.name = some (decl.assembled separator document registry) :=
    h.get?_eq_some_iff.mpr ⟨decl, hDecl, rfl, rfl⟩
  refine ⟨_, hGet, List.mem_map.mpr ⟨(column.name, Column.ofDecl registry column), ?_, rfl⟩⟩
  exact (h.column_mem_iff hValid hGet).mpr ⟨decl, hDecl, rfl, column, hColumn, rfl, rfl⟩

/-- A foreign key that is kept points at a column of an assembled table. -/
theorem exists_referenced (h : Assembled separator document registry tables)
    (hValid : document.HasValidTables) {name : String} {table : Table}
    (hTable : tables.get? name = some table) {column : Column}
    (hColumn : column ∈ table.columns.values) {key : ForeignKey}
    (hKey : column.foreignKey = some key) :
    ∃ target, tables.get? key.table = some target ∧ key.column ∈ target.columns.keys := by
  obtain ⟨⟨_, _⟩, hEntry, rfl⟩ := List.mem_map.mp hColumn
  obtain ⟨-, -, -, columnDecl, -, -, rfl⟩ := (h.column_mem_iff hValid hTable).mp hEntry
  obtain ⟨id, -, hGet⟩ := Column.foreignKey_ofDecl_eq_some_iff.mp hKey
  exact h.exists_column hValid hGet

end Assembled

end SchemaScaffold
