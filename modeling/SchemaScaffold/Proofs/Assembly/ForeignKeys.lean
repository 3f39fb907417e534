import SchemaScaffold.Assembly.Tables
import SchemaScaffold.Proofs.Documents.Validity

/-!
# Foreign keys of assembled columns

The pass over the lists of columns changes one column after another. Where tables and the columns of
a table have different names, it comes to each column once, with the declaration of that column. So
it gives what is had at once when every column is taken with its foreign key.

* `Column.ofDecl`: a declared column with its foreign key.
* `foldl_resolveKey`: the pass over one list of columns.
* `resolveForeignKeys_eq_mapValues`: the pass over all lists.
-/

namespace SchemaScaffold

/-- The column of a declaration, with its foreign key. -/
def Column.ofDecl (registry : Registry) (decl : ColumnDecl) : Column :=
  { decl.column with foreignKey := decl.foreignKey.bind (KeyDecl.resolve? registry) }

/-- The foreign key of a column is kept if and only if the id that it names is registered. -/
theorem Column.foreignKey_ofDecl_eq_some_iff {registry : Registry} {decl : ColumnDecl}
    {key : ForeignKey} :
    (Column.ofDecl registry decl).foreignKey = some key ↔
      ∃ id, decl.foreignKey.bind KeyDecl.columnId? = some id ∧
        registry.columns.get? id = some ⟨key.table, key.column⟩ := by
  have hOfDecl : (Column.ofDecl registry decl).foreignKey =
      (decl.foreignKey.bind KeyDecl.columnId?).bind fun id =>
        (registry.columns.get? id).map fun entry => ⟨entry.table, entry.name⟩ := by
    change decl.foreignKey.bind (KeyDecl.resolve? registry) = _
    rw [Option.bind_assoc]
    congr 1
    funext keyDecl
    unfold KeyDecl.resolve? Registry.tableOfColumn? Registry.nameOfColumn?
    cases keyDecl.columnId? with
    | none => rfl
    | some id => cases hGet : registry.columns.get? id <;> simp [hGet]
  simp only [hOfDecl, Option.bind_eq_some_iff, Option.map_eq_some_iff]
  constructor
  · rintro ⟨id, hId, entry, hEntry, rfl⟩
    exact ⟨id, hId, hEntry⟩
  · rintro ⟨id, hId, hEntry⟩
    exact ⟨id, hId, _, hEntry, rfl⟩

/-- Registries matter to a column only where its foreign key is looked up. -/
theorem Column.ofDecl_eq_of_foreignKey_eq {registry registry' : Registry} {decl : ColumnDecl}
    (h : (ofDecl registry decl).foreignKey = (ofDecl registry' decl).foreignKey) :
    ofDecl registry decl = ofDecl registry' decl := by
  change decl.foreignKey.bind (KeyDecl.resolve? registry) =
    decl.foreignKey.bind (KeyDecl.resolve? registry') at h
  rw [ofDecl, ofDecl, h]

theorem filter_of_nodup_map {α β : Type} [DecidableEq β] (f : α → β) {l : List α}
    (h : (l.map f).Nodup) {a : α} (ha : a ∈ l) :
    l.filter (fun b => f b = f a) = [a] := by
  induction l with
  | nil => cases ha
  | cons b rest ih =>
    rw [List.map_cons, List.nodup_cons] at h
    rcases List.mem_cons.mp ha with rfl | ha
    · have hRest : rest.filter (fun b => f b = f a) = [] := by
        rw [List.filter_eq_nil_iff]
        intro b hb hEq
        exact h.1 (of_decide_eq_true hEq ▸ List.mem_map.mpr ⟨b, hb, rfl⟩)
      rw [List.filter_cons_of_pos (by simp), hRest]
    · have hne : f b ≠ f a := fun hEq => h.1 (hEq ▸ List.mem_map.mpr ⟨a, ha, rfl⟩)
      rw [List.filter_cons_of_neg (by simpa using hne)]
      exact ih h.2 ha

theorem find?_of_nodup_map {α β : Type} [DecidableEq β] (f : α → β) {l : List α}
    (h : (l.map f).Nodup) {a : α} (ha : a ∈ l) :
    l.find? (fun b => f b = f a) = some a := by
  rw [← List.head?_filter, filter_of_nodup_map f h ha, List.head?_cons]

/-- Of steps under different names, only the one of a name is taken for it. -/
theorem foldl_ite_of_nodup_map {α β γ : Type} [DecidableEq β] (f : α → β) {l : List α}
    (h : (l.map f).Nodup) {a : α} (ha : a ∈ l) (g : γ → α → γ) (start : γ) :
    l.foldl (fun c b => if f b = f a then g c b else c) start = g start a := by
  calc l.foldl (fun c b => if f b = f a then g c b else c) start
      = (l.filter fun b => f b = f a).foldl g start := by
        simp only [List.foldl_filter, decide_eq_true_eq]
    _ = g start a := by rw [filter_of_nodup_map f h ha, List.foldl_cons, List.foldl_nil]

/-- Where table names differ, the id of a table is found by its name. -/
theorem idOfTable?_of_mem {registry : Registry} {decls : List TableDecl}
    (hEntries : registry.tables.entries = decls.map fun decl => (decl.id, decl.name))
    (hNames : (decls.map TableDecl.name).Nodup) {decl : TableDecl} (hDecl : decl ∈ decls) :
    registry.idOfTable? decl.name = some decl.id := by
  have hFind := find?_of_nodup_map TableDecl.name hNames hDecl
  rw [Registry.idOfTable?, hEntries, List.find?_map, Function.comp_def, hFind]
  rfl

/-- Where table names differ, the name of a table is found by its id alone. -/
theorem nameOfTable?_eq_name_iff {registry : Registry} {decls : List TableDecl}
    (hEntries : registry.tables.entries = decls.map fun decl => (decl.id, decl.name))
    (hNames : (decls.map TableDecl.name).Nodup) {decl : TableDecl} (hDecl : decl ∈ decls)
    {id : String} : registry.nameOfTable? id = some decl.name ↔ id = decl.id := by
  rw [Registry.nameOfTable?, Keyed.get?_eq_some_iff, hEntries]
  constructor
  · intro hMem
    obtain ⟨other, hOther, hEq⟩ := List.mem_map.mp hMem
    obtain ⟨rfl, hName⟩ := Prod.mk.inj hEq
    rw [List.inj_on_of_nodup_map hNames hOther hDecl hName]
  · rintro rfl
    exact List.mem_map.mpr ⟨decl, hDecl, rfl⟩

/-! ## One list of columns -/

/-- The column with the foreign key of a declaration, if the declaration has one. -/
def ColumnDecl.giveKey (registry : Registry) (decl : ColumnDecl) (column : Column) : Column :=
  { column with
    foreignKey := (decl.foreignKey.map (KeyDecl.resolve? registry)).getD column.foreignKey }

theorem ColumnDecl.giveKey_column (registry : Registry) (decl : ColumnDecl) :
    decl.giveKey registry decl.column = Column.ofDecl registry decl := by
  unfold giveKey Column.ofDecl
  cases decl.foreignKey <;> rfl

/-- A declaration changes the column of its name, and no other. -/
theorem entries_resolveKey (registry : Registry) (columns : Keyed Column) (decl : ColumnDecl) :
    (resolveKey registry columns decl).entries = columns.entries.map fun entry =>
      (entry.1, if decl.name = entry.1 then decl.giveKey registry entry.2 else entry.2) := by
  unfold resolveKey ColumnDecl.giveKey
  cases decl.foreignKey with
  | none => simp
  | some key => rfl

/-- The pass over one list of columns. -/
theorem foldl_resolveKey (registry : Registry) {decls : List ColumnDecl}
    (hNames : (decls.map ColumnDecl.name).Nodup) :
    decls.foldl (resolveKey registry) (.ofList (decls.map fun decl => (decl.name, decl.column))) =
      .ofList (decls.map fun decl => (decl.name, Column.ofDecl registry decl)) := by
  have hKeys : ∀ column : ColumnDecl → Column,
      ((decls.map fun decl => (decl.name, column decl)).map Prod.fst).Nodup := by
    intro column
    rw [List.map_map]
    exact hNames
  refine Keyed.ext ?_
  rw [Keyed.entries_foldl (entries_resolveKey registry), Keyed.entries_ofList (hKeys _),
    Keyed.entries_ofList (hKeys _), List.map_map]
  refine List.map_congr_left fun decl hDecl => ?_
  rw [Function.comp_apply, ← ColumnDecl.giveKey_column]
  congr 1
  exact foldl_ite_of_nodup_map ColumnDecl.name hNames hDecl
    (fun column other => other.giveKey registry column) decl.column

/-! ## All lists of columns -/

/-- A list of columns changes the table under whose id it stands, and no other. -/
theorem entries_resolveColumnList (registry : Registry) (tables : Keyed Table)
    (list : String × List ColumnDecl) :
    (resolveColumnList registry tables list).entries = tables.entries.map fun entry =>
      (entry.1, if registry.nameOfTable? list.1 = some entry.1
        then entry.2.resolveKeys registry list.2 else entry.2) := by
  unfold resolveColumnList
  cases registry.nameOfTable? list.1 with
  | none => simp
  | some name => simp [Keyed.change]

/-- The table with the columns that the document declares for it, and with their foreign keys. -/
def Table.withKeyedColumns (document : Document) (registry : Registry) (table : Table) : Table :=
  { table with
    columns := .ofList ((document.columnsOf registry table.name).map fun decl =>
      (decl.name, Column.ofDecl registry decl)) }

section

variable {document : Document} {registry : Registry} {decl : TableDecl}
  (hTableIds : registry.tables.entries = document.tables.map fun decl => (decl.id, decl.name))
  (hNames : (document.tables.map TableDecl.name).Nodup) (hDecl : decl ∈ document.tables)

include hTableIds hNames hDecl

theorem Document.columnsOf_eq_columnsUnder :
    document.columnsOf registry decl.name = document.columnsUnder decl := by
  rw [columnsOf, idOfTable?_of_mem hTableIds hNames hDecl, Option.bind_some, columnsUnder]

/-- Of all lists, only the one under the id of a table changes that table. -/
theorem foldl_resolveKeys (table : Table) :
    document.columns.entries.foldl (fun table list =>
        if registry.nameOfTable? list.1 = some decl.name
        then table.resolveKeys registry list.2 else table) table =
      table.resolveKeys registry (document.columnsUnder decl) := by
  simp only [nameOfTable?_eq_name_iff hTableIds hNames hDecl, Document.columnsUnder]
  cases hGet : document.columns.get? decl.id with
  | some decls =>
    exact foldl_ite_of_nodup_map Prod.fst document.columns.nodup_keys
      (Keyed.get?_eq_some_iff.mp hGet) (fun table list => table.resolveKeys registry list.2) table
  | none =>
    have hOther : ∀ list ∈ document.columns.entries, list.1 ≠ decl.id := by
      rintro ⟨id, decls⟩ hList rfl
      rw [Keyed.get?_eq_some_iff.mpr hList] at hGet
      cases hGet
    refine List.foldlRecOn (motive := fun reached => reached = table) _ _ rfl ?_
    rintro _ rfl list hList
    exact if_neg (hOther list hList)

end

/-- The pass over all lists gives every column its foreign key. -/
theorem resolveForeignKeys_eq_mapValues {document : Document} {registry : Registry}
    {tables : Keyed Table}
    (hTableIds : registry.tables.entries = document.tables.map fun decl => (decl.id, decl.name))
    (hNames : (document.tables.map TableDecl.name).Nodup)
    (hColumnNames : ∀ decl ∈ document.tables,
      ((document.columnsUnder decl).map ColumnDecl.name).Nodup)
    (hTables : ∀ entry ∈ tables.entries,
      entry.2.name = entry.1 ∧ entry.1 ∈ document.tables.map TableDecl.name) :
    resolveForeignKeys document registry (tables.mapValues (Table.withColumns document registry)) =
      tables.mapValues (Table.withKeyedColumns document registry) := by
  refine Keyed.ext ?_
  rw [resolveForeignKeys, Keyed.entries_foldl (entries_resolveColumnList registry)]
  change (tables.entries.map _).map _ = tables.entries.map _
  rw [List.map_map]
  refine List.map_congr_left fun entry hEntry => ?_
  obtain ⟨name, table⟩ := entry
  obtain ⟨hName, hMem⟩ := hTables _ hEntry
  obtain ⟨decl, hDecl, rfl⟩ := List.mem_map.mp hMem
  have hColumns : document.columnsOf registry table.name = document.columnsUnder decl :=
    hName ▸ Document.columnsOf_eq_columnsUnder hTableIds hNames hDecl
  rw [Function.comp_apply, foldl_resolveKeys hTableIds hNames hDecl, Table.withColumns,
    Table.resolveKeys, hColumns, foldl_resolveKey registry (hColumnNames decl hDecl),
    Table.withKeyedColumns, hColumns]

end SchemaScaffold
