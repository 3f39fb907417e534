import SchemaScaffold.Proofs.Assembly.Histories

/-!
# The progress of an assembly

While the tables and columns of a document are assembled, the registry grows by one request after
another. At every moment its names differ, so that ids and names lead to each other.

* `AssemblyReaches`: the registries that an assembly comes to, as long as it does not stop.
* `Document.requests`: the requests that a document makes, in their order.
* `AssemblyStand`, `AssemblyReaches.exists_stand`: what is registered at one moment.
* `AssemblyReaches.of_assembleTables`: the registry of a finished assembly is one of them.
* `registry_recalls`: what registries tell, after any requests and in the course of an assembly.
-/

namespace SchemaScaffold

/-- The registries that the assembly of a document comes to, request by request, as long as it does
not stop. -/
inductive AssemblyReaches (separator : String) (document : Document) : Registry → Prop
  /-- nothing is registered yet -/
  | start : AssemblyReaches separator document .empty
  /-- the first tables are declared, and the next one is registered; its model is named later -/
  | table {before now : Registry} {tables : Keyed Table} {front : List TableDecl} {decl : TableDecl}
      (hFront : front ++ [decl] <+: document.tables)
      (hBefore : declareTables separator .empty .empty front = .ok (before, tables))
      (hNew : tables.contains decl.name = false)
      (hNow : before.addTable decl.id decl.name = (true, now)) :
      AssemblyReaches separator document now
  /-- all tables are declared, and all columns of the first ones, and the first columns of the table
  that comes next; its list of columns is found through the id of its name -/
  | column {start before now : Registry} {tables : Keyed Table} {front : List String}
      {table id : String} {decls part : List ColumnDecl}
      (hTables : declareTables separator .empty .empty document.tables = .ok (start, tables))
      (hLists : checkColumnLists document start = .ok ())
      (hFront : front ++ [table] <+: tables.keys)
      (hBefore : declareColumns document start front = .ok before)
      (hId : before.idOfTable? table = some id) (hDecls : document.columns.get? id = some decls)
      (hPart : part <+: decls) (hNow : registerColumns table [] before part = .ok now) :
      AssemblyReaches separator document now

/-! ## The requests of a document -/

/-- The request for a declared table. -/
def TableDecl.request (decl : TableDecl) : Registry.Request := .table decl.id decl.name

/-- The requests for columns that are listed for a declared table. -/
def TableDecl.columnRequests (decl : TableDecl) (columns : List ColumnDecl) :
    List Registry.Request :=
  columns.map fun column => .column column.id decl.name column.name

/-- The requests that a document makes: first for its tables, then for the columns that it lists for
them. -/
def Document.requests (document : Document) : List Registry.Request :=
  document.tables.map TableDecl.request ++
    document.tables.flatMap fun decl => decl.columnRequests (document.columnsUnder decl)

/-- The requests for some tables, and for some columns with the tables for which they are listed. -/
def requestsFor (declared : List TableDecl) (listed : List (TableDecl × List ColumnDecl)) :
    List Registry.Request :=
  declared.map TableDecl.request ++ listed.flatMap fun list => list.1.columnRequests list.2

section

variable (declared : List TableDecl) (listed : List (TableDecl × List ColumnDecl))

theorem tablesIn_requestsFor :
    Registry.tablesIn (requestsFor declared listed) =
      declared.map fun decl => (decl.id, decl.name) := by
  have hTables : (declared.map TableDecl.request).filterMap Registry.Request.table? =
      declared.map fun decl => (decl.id, decl.name) := by
    rw [List.filterMap_map, ← List.filterMap_eq_map]
    rfl
  have hColumns : (listed.flatMap fun list => list.1.columnRequests list.2).filterMap
      Registry.Request.table? = [] := by
    rw [List.filterMap_eq_nil_iff]
    intro request hRequest
    obtain ⟨list, -, hColumn⟩ := List.mem_flatMap.mp hRequest
    obtain ⟨column, -, rfl⟩ := List.mem_map.mp hColumn
    rfl
  rw [Registry.tablesIn, requestsFor, List.filterMap_append, hTables, hColumns, List.append_nil]

theorem columnsIn_requestsFor :
    Registry.columnsIn (requestsFor declared listed) = listed.flatMap fun list =>
      list.2.map fun column => (column.id, ⟨list.1.name, column.name⟩) := by
  have hTables : (declared.map TableDecl.request).filterMap Registry.Request.column? = [] := by
    rw [List.filterMap_eq_nil_iff]
    intro request hRequest
    obtain ⟨decl, -, rfl⟩ := List.mem_map.mp hRequest
    rfl
  have hColumns : ∀ list : TableDecl × List ColumnDecl,
      (list.1.columnRequests list.2).filterMap Registry.Request.column? =
        list.2.map fun column => (column.id, ⟨list.1.name, column.name⟩) := by
    intro list
    rw [TableDecl.columnRequests, List.filterMap_map, ← List.filterMap_eq_map]
    rfl
  rw [Registry.columnsIn, requestsFor, List.filterMap_append, hTables, List.nil_append,
    List.filterMap_flatMap]
  simp only [hColumns]

end

/-! ## One moment -/

/-- What is registered at one moment of an assembly: tables, and columns with the tables in which
they are listed. The requests for them are the first that the document makes. -/
structure AssemblyStand (document : Document) (registry : Registry) (declared : List TableDecl)
    (listed : List (TableDecl × List ColumnDecl)) : Prop where
  tableIds : registry.tables.entries = declared.map fun decl => (decl.id, decl.name)
  columnIds : registry.columns.entries = listed.flatMap fun list =>
    list.2.map fun column => (column.id, ⟨list.1.name, column.name⟩)
  tableNames : (declared.map TableDecl.name).Nodup
  listedNames : (listed.map fun list => list.1.name).Nodup
  columnNames : ∀ list ∈ listed, (list.2.map ColumnDecl.name).Nodup
  requests : requestsFor declared listed <+: document.requests

/-- In tables of different names, columns that differ in name within a table differ. -/
theorem nodup_columnEntries {listed : List (TableDecl × List ColumnDecl)}
    (hTables : (listed.map fun list => list.1.name).Nodup)
    (hColumns : ∀ list ∈ listed, (list.2.map ColumnDecl.name).Nodup) :
    (listed.flatMap fun list =>
      list.2.map fun column => ColumnEntry.mk list.1.name column.name).Nodup := by
  induction listed with
  | nil => exact List.nodup_nil
  | cons list rest ih =>
    rw [List.map_cons, List.nodup_cons] at hTables
    rw [List.forall_mem_cons] at hColumns
    rw [List.flatMap_cons, List.nodup_append]
    refine ⟨?_, ih hTables.2 hColumns.2, ?_⟩
    · have hEntries : (list.2.map fun column => ColumnEntry.mk list.1.name column.name) =
          (list.2.map ColumnDecl.name).map (ColumnEntry.mk list.1.name) := by
        rw [List.map_map]
        rfl
      rw [hEntries]
      exact hColumns.1.map fun _ _ hEntry => (ColumnEntry.mk.inj hEntry).2
    · rintro _ hEntry _ hRest rfl
      obtain ⟨column, -, rfl⟩ := List.mem_map.mp hEntry
      obtain ⟨other, hOther, hEntry⟩ := List.mem_flatMap.mp hRest
      obtain ⟨column', -, hSame⟩ := List.mem_map.mp hEntry
      have hTable : other.1.name = list.1.name := (ColumnEntry.mk.inj hSame).1
      exact hTables.1 (hTable ▸ List.mem_map.mpr ⟨other, hOther, rfl⟩)

namespace AssemblyStand

variable {document : Document} {registry : Registry} {declared : List TableDecl}
  {listed : List (TableDecl × List ColumnDecl)}

theorem namesDiffer (h : AssemblyStand document registry declared listed) :
    registry.NamesDiffer where
  tables := by
    rw [Keyed.values, h.tableIds, List.map_map]
    exact h.tableNames
  columns := by
    rw [Keyed.values, h.columnIds, List.map_flatMap]
    simp only [List.map_map]
    exact nodup_columnEntries h.listedNames h.columnNames

theorem eq_after (h : AssemblyStand document registry declared listed) :
    registry = Registry.empty.after (requestsFor declared listed) := by
  apply Registry.eq_after_of_entries
  · rw [h.tableIds, tablesIn_requestsFor]
  · rw [h.columnIds, columnsIn_requestsFor]

end AssemblyStand

/-- The first tables are declared, and the next one is registered. -/
theorem AssemblyStand.of_addTable {separator : String} {document : Document}
    {before now : Registry} {tables : Keyed Table} {front : List TableDecl} {decl : TableDecl}
    (hFront : front ++ [decl] <+: document.tables)
    (hBefore : declareTables separator .empty .empty front = .ok (before, tables))
    (hNew : tables.contains decl.name = false)
    (hNow : before.addTable decl.id decl.name = (true, now)) :
    AssemblyStand document now (front ++ [decl]) [] := by
  obtain ⟨hNames, -, -, hNoColumns, hIds, -⟩ := declareTables_eq_ok_iff.mp hBefore
  have hFree : decl.name ∉ front.map TableDecl.name := by
    rw [← keys_of_declareTables hBefore]
    exact Keyed.contains_eq_false_iff_not_mem.mp hNew
  rw [Registry.addTable_eq, Prod.mk.injEq, Keyed.offer_fst_eq_true_iff] at hNow
  obtain ⟨hFreeId, rfl⟩ := hNow
  rw [Keyed.offer_of_get?_eq_none hFreeId]
  exact {
    tableIds := by
      rw [Keyed.entries_insert_of_not_contains (Keyed.contains_eq_false_iff.mpr hFreeId), hIds,
        List.map_append]
      rfl
    columnIds := by rw [hNoColumns]; rfl
    tableNames := by
      rw [List.map_append, List.nodup_append_comm, List.map_singleton, List.singleton_append]
      exact List.nodup_cons.mpr ⟨hFree, hNames⟩
    listedNames := List.nodup_nil
    columnNames := by simp
    requests := by
      rw [requestsFor, List.flatMap_nil, List.append_nil]
      exact List.prefix_append_of_prefix (hFront.map _) }

/-- All tables are declared, with all columns of the first ones and the first columns of the next
one. -/
theorem AssemblyStand.of_registerColumns {separator : String} {document : Document}
    {start before now : Registry} {tables : Keyed Table} {full back : List TableDecl}
    {decl : TableDecl} {id : String} {decls part : List ColumnDecl}
    (hTables : declareTables separator .empty .empty document.tables = .ok (start, tables))
    (hSplit : full ++ [decl] ++ back = document.tables)
    (hBefore : declareColumns document start (full.map TableDecl.name) = .ok before)
    (hId : before.idOfTable? decl.name = some id) (hDecls : document.columns.get? id = some decls)
    (hPart : part <+: decls)
    (hNow : registerColumns decl.name [] before part = .ok now) :
    AssemblyStand document now document.tables
      (full.map (fun other => (other, document.columnsUnder other)) ++ [(decl, part)]) := by
  obtain ⟨hNames, -, -, hNoColumns, hStartIds, -⟩ := declareTables_eq_ok_iff.mp hTables
  have hFull : full ⊆ document.tables := by
    rw [← hSplit, List.append_assoc]
    exact List.subset_append_left _ _
  have hDecl : decl ∈ document.tables := by
    rw [← hSplit]
    simp
  obtain ⟨hFullNames, -, hBeforeTables, hBeforeColumns⟩ :=
    (declareColumns_eq_ok_iff fun other hOther =>
      idOfTable?_of_mem hStartIds hNames (hFull hOther)).mp hBefore
  obtain ⟨hPartNames, -, hNowTables, hNowColumns⟩ :=
    (registerColumns_eq_ok_iff List.nodup_nil).mp hNow
  have hBeforeIds := hBeforeTables ▸ hStartIds
  -- the list that is found through the name of the table is the one under its id
  have hUnder : document.columnsUnder decl = decls := by
    rw [idOfTable?_of_mem hBeforeIds hNames hDecl, Option.some.injEq] at hId
    rw [Document.columnsUnder, hId, hDecls, Option.getD_some]
  exact {
    tableIds := hNowTables ▸ hBeforeIds
    columnIds := by
      rw [hNowColumns, hBeforeColumns, hNoColumns, List.flatMap_append, List.flatMap_map,
        List.flatMap_singleton]
      rfl
    tableNames := hNames
    listedNames := by
      have hNodup : ((full ++ [decl] ++ back).map TableDecl.name).Nodup := hSplit ▸ hNames
      rw [List.map_append, List.map_append] at hNodup
      rw [List.map_append, List.map_map]
      exact (List.nodup_append.mp hNodup).1
    columnNames := by
      rw [List.forall_mem_append, List.forall_mem_map]
      refine ⟨fun other hOther => (hFullNames other hOther).2, ?_⟩
      simpa using hPartNames
    requests := by
      rw [requestsFor, Document.requests, List.prefix_append_right_inj, ← hSplit]
      simp only [List.flatMap_append, List.flatMap_map, List.flatMap_singleton, List.append_assoc]
      rw [List.prefix_append_right_inj, hUnder]
      exact List.prefix_append_of_prefix (hPart.map _) }

namespace AssemblyReaches

variable {separator : String} {document : Document} {registry : Registry}

theorem exists_stand (h : AssemblyReaches separator document registry) :
    ∃ declared listed, AssemblyStand document registry declared listed := by
  cases h with
  | start =>
    refine ⟨[], [], ?_⟩
    exact {
      tableIds := rfl
      columnIds := rfl
      tableNames := List.nodup_nil
      listedNames := List.nodup_nil
      columnNames := by simp
      requests := List.nil_prefix }
  | table hFront hBefore hNew hNow => exact ⟨_, _, .of_addTable hFront hBefore hNew hNow⟩
  | @column start before _ tables front table id decls part hTables _ hFront hBefore hId hDecls
      hPart hNow =>
    rw [keys_of_declareTables hTables, List.prefix_map_iff] at hFront
    obtain ⟨so, ⟨back, hBack⟩, hSo⟩ := hFront
    obtain ⟨full, last, rfl, rfl, hLast⟩ := List.map_eq_append_iff.mp hSo.symm
    obtain ⟨decl, rfl, rfl⟩ := List.map_eq_singleton_iff.mp hLast
    exact ⟨_, _, .of_registerColumns hTables hBack hBefore hId hDecls hPart hNow⟩

theorem declareColumns_cons_iff {start : Registry} {table : String} {rest : List String} :
    declareColumns document start (table :: rest) = .ok registry ↔
      ∃ id decls middle, start.idOfTable? table = some id ∧ document.columns.get? id = some decls ∧
        registerColumns table [] start decls = .ok middle ∧
        declareColumns document middle rest = .ok registry := by
  rw [declareColumns]
  cases hId : start.idOfTable? table with
  | none => simp [Stop.invalid]
  | some id =>
    cases hDecls : document.columns.get? id with
    | none => simp [Stop.invalid, hDecls]
    | some decls => simp [Stop.bind_eq_ok_iff, hDecls]

/-- The columns of the last table come after all others. -/
theorem exists_of_declareColumns_concat {start : Registry} {front : List String} {table : String}
    (h : declareColumns document start (front ++ [table]) = .ok registry) :
    ∃ before id decls, declareColumns document start front = .ok before ∧
      before.idOfTable? table = some id ∧ document.columns.get? id = some decls ∧
      registerColumns table [] before decls = .ok registry := by
  induction front generalizing start with
  | nil =>
    obtain ⟨id, decls, middle, hId, hDecls, hColumns, hDone⟩ := declareColumns_cons_iff.mp h
    obtain rfl := Except.ok.inj hDone
    exact ⟨start, id, decls, rfl, hId, hDecls, hColumns⟩
  | cons first rest ih =>
    obtain ⟨id, decls, middle, hId, hDecls, hColumns, hRest⟩ := declareColumns_cons_iff.mp h
    obtain ⟨before, id', decls', hBefore, hLast⟩ := ih hRest
    exact ⟨before, id', decls',
      declareColumns_cons_iff.mpr ⟨id, decls, middle, hId, hDecls, hColumns, hBefore⟩, hLast⟩

/-- A finished assembly has come to its registry. -/
theorem of_assembleTables {tables : Keyed Table}
    (h : assembleTables separator document = .ok (registry, tables)) :
    AssemblyReaches separator document registry := by
  obtain ⟨⟨start, declared⟩, hDeclared, h⟩ := Stop.bind_eq_ok_iff.mp h
  obtain ⟨⟨⟩, hLists, h⟩ := Stop.bind_eq_ok_iff.mp h
  obtain ⟨full, hFull, h⟩ := Stop.bind_eq_ok_iff.mp h
  obtain ⟨rfl, -⟩ := Prod.mk.inj (Except.ok.inj h)
  rcases List.eq_nil_or_concat declared.keys with hKeys | ⟨front, last, hKeys⟩
  · have hNoTables : document.tables = [] := by
      rw [keys_of_declareTables hDeclared] at hKeys
      exact List.map_eq_nil_iff.mp hKeys
    rw [hNoTables] at hDeclared
    obtain ⟨rfl, rfl⟩ := Prod.mk.inj (Except.ok.inj hDeclared)
    obtain rfl := Except.ok.inj hFull
    exact .start
  · rw [List.concat_eq_append] at hKeys
    rw [hKeys] at hFull
    obtain ⟨before, id, decls, hBefore, hId, hDecls, hNow⟩ := exists_of_declareColumns_concat hFull
    have hFront : front ++ [last] <+: declared.keys := hKeys ▸ List.prefix_rfl
    exact .column hDeclared hLists hFront hBefore hId hDecls List.prefix_rfl hNow

end AssemblyReaches

/-- **Registries recall first registrations.** After any requests, for tables and columns in any
mixture, the next one is accepted if and only if its id is new for its kind, and leaves no trace if
it is refused. Ids stand for what they were first registered with; names lead to the earliest id
that stands for them, if there is one, and it leads back to them; and look-ups of ids and of names
are inverse to each other if and only if names differ. At every moment of an assembly that has not
stopped they do differ, for the registry is what the first requests of the document make of it. -/
theorem registry_recalls (requests : List Registry.Request) (separator : String)
    (document : Document) :
    (Registry.empty.after requests).Recalls requests ∧
      (∀ registry, AssemblyReaches separator document registry →
        registry.NamesDiffer ∧ registry.IsInvertible ∧
          ∃ made, made <+: document.requests ∧ registry = Registry.empty.after made) ∧
      ∀ registry tables, assembleTables separator document = .ok (registry, tables) →
        AssemblyReaches separator document registry := by
  refine ⟨Registry.recalls_after requests, ?_, fun _ _ h => .of_assembleTables h⟩
  intro registry hReaches
  obtain ⟨declared, listed, hStand⟩ := hReaches.exists_stand
  have hDiffer := hStand.namesDiffer
  exact ⟨hDiffer, Registry.namesDiffer_iff_isInvertible.mp hDiffer, _, hStand.requests,
    hStand.eq_after⟩

end SchemaScaffold
