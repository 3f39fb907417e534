import Mathlib.Data.List.Nodup
import Mathlib.Data.List.Pairwise
import SchemaScaffold.Document.Basic

/-!
# Valid documents

A document is valid if the names and the ids of its tables differ, the column lists stand under
exactly these ids, columns differ in name within a table and in id everywhere, and both ends of
every relation are declared columns of the table they name.

* `Document.columnsUnder`: the columns listed under the id of a table.
* `ColumnDecl.RefersTo`: the foreign key of a column names another one by its id.
* `Document.HasValidTables`, `Document.IsValid`: validity without and with the relations.
* `Document.HasValidTables.columnIds_nodup`: column ids differ also in the order of the tables.
* `Document.SameTables`, `Document.SameUpToOrder`, `Document.SameButTableOrder`,
  `Document.SameButRelations`: documents that differ in the order of their declarations, or in their
  relations.
* `Document.SameUpToOrder.isValid`: the order of declarations does not matter to validity.
-/

namespace SchemaScaffold

/-- The foreign key of a column names another column by its id; an empty id names nothing, and the
table that the key names says nothing. -/
def ColumnDecl.RefersTo (decl other : ColumnDecl) : Prop :=
  other.id ≠ "" ∧ ∃ key pointer, decl.foreignKey = some key ∧ key.references = some pointer ∧
    pointer.id = some other.id

theorem ColumnDecl.refersTo_iff {decl other : ColumnDecl} :
    decl.RefersTo other ↔ decl.foreignKey.bind KeyDecl.columnId? = some other.id := by
  simp only [RefersTo, KeyDecl.columnId?, Option.bind_eq_some_iff, Option.filter_eq_some_iff,
    decide_eq_true_eq]
  constructor
  · rintro ⟨hNonempty, key, pointer, hKey, hPointer, hId⟩
    exact ⟨key, hKey, ⟨pointer, hPointer, hId⟩, hNonempty⟩
  · rintro ⟨key, hKey, ⟨pointer, hPointer, hId⟩, hNonempty⟩
    exact ⟨hNonempty, key, pointer, hKey, hPointer, hId⟩

instance (decl other : ColumnDecl) : Decidable (decl.RefersTo other) :=
  decidable_of_iff _ ColumnDecl.refersTo_iff.symm

namespace Document

/-- The columns that stand under the id of a declared table. -/
def columnsUnder (document : Document) (decl : TableDecl) : List ColumnDecl :=
  (document.columns.get? decl.id).getD []

/-- The columns of all tables, in the order of the tables. -/
def allColumns (document : Document) : List ColumnDecl :=
  document.tables.flatMap document.columnsUnder

/-- The tables and columns of a document are declared without a conflict. -/
structure HasValidTables (document : Document) : Prop where
  tableNames : (document.tables.map TableDecl.name).Nodup
  tableIds : (document.tables.map TableDecl.id).Nodup
  columnLists : ∀ id, id ∈ document.columns.keys ↔ id ∈ document.tables.map TableDecl.id
  columnNames : ∀ decls ∈ document.columns.values, (decls.map ColumnDecl.name).Nodup
  columnIds : (document.columns.values.flatten.map ColumnDecl.id).Nodup

/-- An endpoint names a declared column and the id of its table. -/
def Declares (document : Document) (endpoint : Endpoint) : Prop :=
  ∃ decl ∈ document.tables, decl.id = endpoint.tableId ∧
    endpoint.columnId ∈ (document.columnsUnder decl).map ColumnDecl.id

instance (document : Document) (endpoint : Endpoint) : Decidable (document.Declares endpoint) :=
  inferInstanceAs (Decidable (∃ decl ∈ document.tables, decl.id = endpoint.tableId ∧
    endpoint.columnId ∈ (document.columnsUnder decl).map ColumnDecl.id))

/-- A document is declared without a conflict, and its relations run between declared columns. -/
structure IsValid (document : Document) : Prop extends HasValidTables document where
  endpoints : ∀ relation ∈ document.relations,
    document.Declares relation.source ∧ document.Declares relation.target

theorem map_getD_get?_keys {α : Type} (m : Keyed (List α)) :
    m.keys.map (fun key => (m.get? key).getD []) = m.values := by
  unfold Keyed.keys Keyed.values
  rw [List.map_map]
  refine List.map_congr_left fun entry hEntry => ?_
  simp [Keyed.get?_eq_some_iff.mpr (show (entry.1, entry.2) ∈ m.entries from hEntry)]

/-- The columns in the order of the tables are those in the order of the column lists. -/
theorem allColumns_perm {document : Document}
    (hIds : (document.tables.map TableDecl.id).Nodup)
    (hLists : ∀ id, id ∈ document.columns.keys ↔ id ∈ document.tables.map TableDecl.id) :
    document.allColumns.Perm document.columns.values.flatten := by
  have hPerm : (document.tables.map TableDecl.id).Perm document.columns.keys :=
    (List.perm_ext_iff_of_nodup hIds document.columns.keys_nodup).mpr fun id => (hLists id).symm
  have hColumns := (hPerm.map fun id => (document.columns.get? id).getD []).flatten
  rw [map_getD_get?_keys, List.map_map] at hColumns
  exact hColumns

namespace HasValidTables

variable {document : Document}

theorem columnIds_nodup (h : document.HasValidTables) :
    (document.allColumns.map ColumnDecl.id).Nodup :=
  ((allColumns_perm h.tableIds h.columnLists).map _).nodup_iff.mpr h.columnIds

/-- Every declared table has a column list. -/
theorem exists_columns (h : document.HasValidTables) {decl : TableDecl}
    (hDecl : decl ∈ document.tables) :
    document.columns.get? decl.id = some (document.columnsUnder decl) := by
  have hKey := (h.columnLists decl.id).mpr (List.mem_map.mpr ⟨decl, hDecl, rfl⟩)
  obtain ⟨decls, hDecls⟩ := Keyed.mem_keys_iff.mp hKey
  rw [columnsUnder, hDecls, Option.getD_some]

theorem columnNames_nodup (h : document.HasValidTables) {decl : TableDecl}
    (hDecl : decl ∈ document.tables) :
    ((document.columnsUnder decl).map ColumnDecl.name).Nodup := by
  refine h.columnNames _ (List.mem_map.mpr ⟨(decl.id, _), ?_, rfl⟩)
  exact Keyed.get?_eq_some_iff.mp (h.exists_columns hDecl)

/-- A column id is listed under one table only. -/
theorem eq_of_mem_columnIds (h : document.HasValidTables) {decl other : TableDecl} {id : String}
    (hDecl : decl ∈ document.tables) (hOther : other ∈ document.tables)
    (hId : id ∈ (document.columnsUnder decl).map ColumnDecl.id)
    (hOtherId : id ∈ (document.columnsUnder other).map ColumnDecl.id) : decl = other := by
  have hNodup := h.columnIds_nodup
  rw [allColumns, List.map_flatMap, List.nodup_flatMap] at hNodup
  have hSymm : Std.Symm (Function.onFun List.Disjoint fun decl =>
      (document.columnsUnder decl).map ColumnDecl.id) :=
    ⟨fun _ _ hDisjoint _ hRight hLeft => hDisjoint hLeft hRight⟩
  by_contra hNe
  exact hNodup.2.forall hDecl hOther hNe hId hOtherId

end HasValidTables

/-! ## The order of declarations -/

/-- Two documents declare the same tables and list the same columns for them. Tables and lists may
stand in another order; the columns of one list stand in the same. -/
structure SameTables (document document' : Document) : Prop where
  tables : document.tables.Perm document'.tables
  columns : document.columns.entries.Perm document'.columns.entries

/-- Two documents differ at most in the order of tables, lists of columns and relations. -/
structure SameUpToOrder (document document' : Document) : Prop extends
    SameTables document document' where
  relations : document.relations.Perm document'.relations

/-- Two documents differ at most in the order of their tables. -/
structure SameButTableOrder (document document' : Document) : Prop where
  tables : document.tables.Perm document'.tables
  columns : document.columns = document'.columns
  relations : document.relations = document'.relations

/-- Two documents differ at most in their relations. -/
structure SameButRelations (document document' : Document) : Prop where
  tables : document.tables = document'.tables
  columns : document.columns = document'.columns

variable {document document' : Document}

theorem SameButTableOrder.sameUpToOrder (h : SameButTableOrder document document') :
    SameUpToOrder document document' where
  tables := h.tables
  columns := h.columns ▸ List.Perm.refl _
  relations := h.relations ▸ List.Perm.refl _

theorem SameButRelations.sameTables (h : SameButRelations document document') :
    SameTables document document' where
  tables := h.tables ▸ List.Perm.refl _
  columns := h.columns ▸ List.Perm.refl _

namespace SameTables

theorem columnsUnder_eq (h : SameTables document document') :
    document.columnsUnder = document'.columnsUnder := by
  funext decl
  rw [columnsUnder, columnsUnder, Keyed.get?_eq_of_perm h.columns]

theorem hasValidTables (h : SameTables document document')
    (hValid : document.HasValidTables) : document'.HasValidTables where
  tableNames := (h.tables.map _).nodup_iff.mp hValid.tableNames
  tableIds := (h.tables.map _).nodup_iff.mp hValid.tableIds
  columnLists := fun id => by
    have hKeys : document.columns.keys.Perm document'.columns.keys := h.columns.map _
    rw [← hKeys.mem_iff, hValid.columnLists id]
    exact (h.tables.map _).mem_iff
  columnNames := fun decls hDecls =>
    hValid.columnNames decls ((h.columns.map Prod.snd).mem_iff.mpr hDecls)
  columnIds := ((h.columns.map Prod.snd).flatten.map ColumnDecl.id).nodup_iff.mp hValid.columnIds

theorem declares (h : SameTables document document') {endpoint : Endpoint}
    (hDeclares : document.Declares endpoint) : document'.Declares endpoint := by
  obtain ⟨decl, hDecl, hId, hColumn⟩ := hDeclares
  exact ⟨decl, h.tables.mem_iff.mp hDecl, hId, h.columnsUnder_eq ▸ hColumn⟩

end SameTables

/-- The order of declarations does not matter to validity. -/
theorem SameUpToOrder.isValid (h : SameUpToOrder document document') (hValid : document.IsValid) :
    document'.IsValid where
  toHasValidTables := h.hasValidTables hValid.toHasValidTables
  endpoints := by
    intro relation hRelation
    obtain ⟨hSource, hTarget⟩ := hValid.endpoints relation (h.relations.mem_iff.mpr hRelation)
    exact ⟨h.declares hSource, h.declares hTarget⟩

end Document

end SchemaScaffold
