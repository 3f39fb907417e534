import Mathlib.Data.List.Flatten
import SchemaScaffold.Proofs.Assembly.Contributions
import SchemaScaffold.Proofs.Relationships.Separation

/-!
# Parts of documents

Where neither a relation nor a foreign key leaves a part of the tables, the part is a document of
its own. Its build gives what the build of the whole document gives there.

* `Document.restrict`: the tables of the part, with their columns and relations, in order.
* `Document.IsSplitBy`: relations and foreign keys do not leave the part.
* `Assembled.tables_restrict`, `Assembled.edges_restrict`: the tables and the edges of the part.
* `resolve_restrict`, `resolveWithSuffix_restrict`: the build of the part.
-/

namespace SchemaScaffold

variable {keep : String → Bool} {separator : String} {document : Document}

/-! ## Parts -/

namespace Document

/-- The tables whose ids are kept, their columns, and the relations that start there, in order. -/
def restrict (document : Document) (keep : String → Bool) : Document where
  tables := document.tables.filter fun decl => keep decl.id
  columns := document.columns.restrict keep
  relations := document.relations.filter fun decl => keep decl.source.tableId

/-- Whether a table whose id is kept has the given name. -/
def keepsName (document : Document) (keep : String → Bool) (name : String) : Bool :=
  document.tables.any fun decl => keep decl.id && decl.name = name

/-- Relations run between tables that are both kept or both left out, and so do the foreign keys of
columns that refer to a declared one. -/
structure IsSplitBy (document : Document) (keep : String → Bool) : Prop where
  relations : ∀ decl ∈ document.relations, keep decl.source.tableId = keep decl.target.tableId
  foreignKeys : ∀ table ∈ document.tables, ∀ column ∈ document.columnsUnder table,
    ∀ target ∈ document.tables, ∀ other ∈ document.columnsUnder target, column.RefersTo other →
      keep table.id = keep target.id

theorem mem_tables_restrict_iff {decl : TableDecl} :
    decl ∈ (document.restrict keep).tables ↔ decl ∈ document.tables ∧ keep decl.id = true :=
  List.mem_filter

theorem columnsUnder_restrict {decl : TableDecl} (hKept : keep decl.id = true) :
    (document.restrict keep).columnsUnder decl = document.columnsUnder decl := by
  rw [columnsUnder, columnsUnder, restrict, Keyed.get?_restrict_of_kept _ hKept]

theorem isIn_restrict_iff {declared : DeclaredColumn} :
    declared.IsIn (document.restrict keep) ↔
      declared.IsIn document ∧ keep declared.table.id = true := by
  constructor
  · rintro ⟨hTable, hColumn⟩
    obtain ⟨hTable, hKept⟩ := mem_tables_restrict_iff.mp hTable
    exact ⟨⟨hTable, columnsUnder_restrict hKept ▸ hColumn⟩, hKept⟩
  · rintro ⟨⟨hTable, hColumn⟩, hKept⟩
    exact ⟨mem_tables_restrict_iff.mpr ⟨hTable, hKept⟩,
      (columnsUnder_restrict hKept).symm ▸ hColumn⟩

/-- A part of valid tables is valid. -/
theorem HasValidTables.restrict (h : document.HasValidTables) (keep : String → Bool) :
    (document.restrict keep).HasValidTables where
  tableNames := h.tableNames.sublist (List.filter_sublist.map _)
  tableIds := h.tableIds.sublist (List.filter_sublist.map _)
  columnLists := fun id => by
    rw [Document.restrict, Keyed.keys_restrict, List.mem_filter, h.columnLists]
    constructor
    · rintro ⟨hId, hKept⟩
      obtain ⟨decl, hDecl, rfl⟩ := List.mem_map.mp hId
      exact List.mem_map_of_mem (List.mem_filter.mpr ⟨hDecl, hKept⟩)
    · intro hId
      obtain ⟨decl, hDecl, rfl⟩ := List.mem_map.mp hId
      obtain ⟨hDecl, hKept⟩ := List.mem_filter.mp hDecl
      exact ⟨List.mem_map_of_mem hDecl, hKept⟩
  columnNames := fun decls hDecls =>
    h.columnNames decls ((document.columns.values_restrict_sublist keep).subset hDecls)
  columnIds := h.columnIds.sublist
    ((document.columns.values_restrict_sublist keep).flatten.map ColumnDecl.id)

/-- A table is in the part if and only if its name is. -/
theorem HasValidTables.keepsName_eq (h : document.HasValidTables) {decl : TableDecl}
    (hDecl : decl ∈ document.tables) : document.keepsName keep decl.name = keep decl.id := by
  rw [Bool.eq_iff_iff, keepsName, List.any_eq_true]
  simp only [Bool.and_eq_true, decide_eq_true_eq]
  constructor
  · rintro ⟨other, hOther, hKept, hName⟩
    rwa [List.inj_on_of_nodup_map h.tableNames hOther hDecl hName] at hKept
  · intro hKept
    exact ⟨decl, hDecl, hKept, rfl⟩

theorem columnAt?_restrict (hValid : document.HasValidTables) {endpoint : Endpoint}
    (hKept : keep endpoint.tableId = true) :
    (document.restrict keep).columnAt? endpoint = document.columnAt? endpoint := by
  refine Option.ext fun declared => ?_
  rw [columnAt?_eq_some_iff (hValid.restrict keep), columnAt?_eq_some_iff hValid, isIn_restrict_iff]
  constructor
  · rintro ⟨⟨hIn, -⟩, hIds⟩
    exact ⟨hIn, hIds⟩
  · rintro ⟨hIn, hTableId, hColumnId⟩
    exact ⟨⟨hIn, hTableId ▸ hKept⟩, hTableId, hColumnId⟩

end Document

/-- The tables under the names that are kept. -/
def Schema.restrict (schema : Schema) (keep : String → Bool) : Schema :=
  ⟨schema.tables.restrict keep⟩

/-! ## Assembly of a part -/

namespace Assembled

variable {registry registry' : Registry} {tables tables' : Keyed Table}

/-- A column of the part keeps its foreign key there, because it leads to the part. -/
theorem ofDecl_restrict (h : Assembled separator document registry tables)
    (h' : Assembled separator (document.restrict keep) registry' tables')
    (hSplit : document.IsSplitBy keep) {decl : TableDecl} (hDecl : decl ∈ document.tables)
    (hKept : keep decl.id = true) {column : ColumnDecl}
    (hColumn : column ∈ document.columnsUnder decl) :
    Column.ofDecl registry' column = Column.ofDecl registry column := by
  refine Column.ofDecl_eq_of_foreignKey_eq (Option.ext fun key => ?_)
  rw [h'.foreignKey_eq_some_iff, h.foreignKey_eq_some_iff]
  simp only [Document.isIn_restrict_iff]
  constructor
  · rintro ⟨target, ⟨hIn, -⟩, hRefers⟩
    exact ⟨target, hIn, hRefers⟩
  · rintro ⟨target, hIn, hRefers, hKey⟩
    have hSame := hSplit.foreignKeys decl hDecl column hColumn target.table hIn.table_mem
      target.column hIn.column_mem hRefers
    exact ⟨target, ⟨hIn, hSame.symm.trans hKept⟩, hRefers, hKey⟩

/-- The tables of the part are those of the document that are in the part. -/
theorem tables_restrict (h : Assembled separator document registry tables)
    (h' : Assembled separator (document.restrict keep) registry' tables')
    (hValid : document.HasValidTables) (hSplit : document.IsSplitBy keep) :
    tables' = tables.restrict (document.keepsName keep) := by
  refine Keyed.ext ?_
  change tables'.entries = tables.entries.filter fun entry => document.keepsName keep entry.1
  rw [h'.entries, h.entries, List.filter_map]
  have hFilter : (document.restrict keep).tables = document.tables.filter
      ((fun entry : String × Table => document.keepsName keep entry.1) ∘ fun decl =>
        (decl.name, decl.assembled separator document registry)) :=
    List.filter_congr fun decl hDecl => (hValid.keepsName_eq hDecl).symm
  rw [← hFilter]
  refine List.map_congr_left fun decl hDecl => ?_
  obtain ⟨hDecl, hKept⟩ := Document.mem_tables_restrict_iff.mp hDecl
  have hColumns : ∀ column ∈ document.columnsUnder decl,
      (column.name, Column.ofDecl registry' column) =
        (column.name, Column.ofDecl registry column) :=
    fun column hColumn => by rw [h.ofDecl_restrict h' hSplit hDecl hKept hColumn]
  rw [TableDecl.assembled, TableDecl.assembled, Document.columnsUnder_restrict hKept,
    List.map_congr_left hColumns]

/-- An endpoint of the part is resolved there as in the document. -/
theorem ofEndpoint_restrict (h : Assembled separator document registry tables)
    (h' : Assembled separator (document.restrict keep) registry' tables')
    (hValid : document.HasValidTables) {endpoint : Endpoint} {place : Place}
    (hPlace : Place.ofEndpoint registry endpoint = .ok place)
    (hKept : keep endpoint.tableId = true) : Place.ofEndpoint registry' endpoint = .ok place := by
  rw [h'.ofEndpoint_eq_ok_iff (hValid.restrict keep), Document.columnAt?_restrict hValid hKept]
  exact (h.ofEndpoint_eq_ok_iff hValid).mp hPlace

/-- An endpoint is in the part if and only if the place it is resolved to is. -/
theorem keepsName_ofEndpoint (h : Assembled separator document registry tables)
    (hValid : document.HasValidTables) {endpoint : Endpoint} {place : Place}
    (hPlace : Place.ofEndpoint registry endpoint = .ok place) :
    document.keepsName keep place.table = keep endpoint.tableId := by
  obtain ⟨declared, hAt, rfl⟩ := (h.ofEndpoint_eq_ok_iff hValid).mp hPlace
  obtain ⟨hIn, hTableId, -⟩ := (Document.columnAt?_eq_some_iff hValid).mp hAt
  rw [← hTableId]
  exact hValid.keepsName_eq hIn.table_mem

/-- The edges of the document do not leave the part. -/
theorem isParted (h : Assembled separator document registry tables)
    (hValid : document.HasValidTables) (hSplit : document.IsSplitBy keep) {edges : List Edge}
    (hEdges : document.relations.mapM (Edge.ofDecl registry) = .ok edges) :
    ∀ edge ∈ edges, edge.IsParted (document.keepsName keep) := by
  intro edge hEdge
  obtain ⟨decl, hDecl, hOfDecl⟩ := exists_of_mem_mapM hEdges hEdge
  obtain ⟨hSource, hTarget⟩ := Edge.ofDecl_eq_ok_iff.mp hOfDecl
  rw [Edge.IsParted, h.keepsName_ofEndpoint hValid hSource, h.keepsName_ofEndpoint hValid hTarget]
  exact hSplit.relations decl hDecl

/-- The edges of the part are those of the document that start in the part. -/
theorem edges_restrict (h : Assembled separator document registry tables)
    (h' : Assembled separator (document.restrict keep) registry' tables')
    (hValid : document.HasValidTables) (hSplit : document.IsSplitBy keep) {edges : List Edge}
    (hEdges : document.relations.mapM (Edge.ofDecl registry) = .ok edges) :
    (document.restrict keep).relations.mapM (Edge.ofDecl registry') =
      .ok (edges.filter fun edge => document.keepsName keep edge.source.table) := by
  have hAll := mapM_eq_ok_iff.mp hEdges
  have hKept : ∀ ⦃decl : RelationDecl⦄ ⦃edge : Edge⦄, Edge.ofDecl registry decl = .ok edge →
      (keep decl.source.tableId = true ↔ document.keepsName keep edge.source.table = true) := by
    intro decl edge hOfDecl
    rw [h.keepsName_ofEndpoint hValid (Edge.ofDecl_eq_ok_iff.mp hOfDecl).1]
  have hFiltered := (List.forall₂_and_left _ _).mpr ⟨fun decl hDecl => List.mem_filter.mp hDecl,
    List.rel_filter (R := fun decl edge => Edge.ofDecl registry decl = .ok edge) hKept hAll⟩
  refine mapM_eq_ok_iff.mpr (hFiltered.imp fun decl edge => ?_)
  rintro ⟨⟨hDecl, hSource⟩, hOfDecl⟩
  have hTarget := (hSplit.relations decl hDecl).symm.trans hSource
  obtain ⟨hSourcePlace, hTargetPlace⟩ := Edge.ofDecl_eq_ok_iff.mp hOfDecl
  exact Edge.ofDecl_eq_ok_iff.mpr ⟨h.ofEndpoint_restrict h' hValid hSourcePlace hSource,
    h.ofEndpoint_restrict h' hValid hTargetPlace hTarget⟩

end Assembled

/-! ## Builds of a part -/

/-- Under a policy without a state, the build of a part gives the tables that the build of the
document gives there. -/
theorem resolve_restrict {policy : Policy Unit} {state after : Unit} {schema : Schema}
    (h : (resolve separator policy document).result state = (.ok schema, after))
    (hSplit : document.IsSplitBy keep) :
    (resolve separator policy (document.restrict keep)).result state =
      (.ok (schema.restrict (document.keepsName keep)), after) := by
  obtain ⟨asked, hCourse⟩ := exists_course_of_ok h
  cases hCourse with
  | @completed registry tables direct final edges asked additions after hTables hEdges hDirect hRun
      hThrough =>
    obtain ⟨hValid, hModels, hAssembled⟩ := assembleTables_eq_ok_iff.mp hTables
    have hValid' := hValid.restrict keep
    have hModels' : (document.restrict keep).HasModels :=
      fun decl hDecl => hModels decl (Document.mem_tables_restrict_iff.mp hDecl).1
    obtain ⟨registry', tables', hAssembled'⟩ := hValid'.exists_assembled separator
    have hTables' := assembleTables_eq_ok_iff.mpr ⟨hValid', hModels', hAssembled'⟩
    have hEdges' := hAssembled.edges_restrict hAssembled' hValid hSplit hEdges
    rw [hAssembled.tables_restrict hAssembled' hValid hSplit] at hTables'
    have hParted := hAssembled.isParted hValid hSplit hEdges
    have hDirectParted : Parted (document.keepsName keep) direct :=
      parted_of_relateDirectly hAssembled.unrelated hParted hDirect.result_eq
    cases hDirect with
    | @completed done asked direct after hPending hDone =>
      obtain ⟨asked', hDone'⟩ := hDone.restrict (document.keepsName keep)
      have hRun' := hRun.restrict hDirectParted
      have hCourse := Course.completed hTables' hEdges'
        (.completed (proposals_restrict hParted hPending) hDone') hRun'
        (hRun'.registrations policy after)
      exact hCourse.result_eq

/-- **Disjoint parts of a document are resolved independently.** Where relations and foreign keys do
not leave a part of a document, the part alone gives the tables that the whole document gives there,
in the same order, with the same columns, and with the same relationships, under the same names and
in the same order, those over two others included. -/
theorem resolveWithSuffix_restrict {schema : Schema}
    (h : resolveWithSuffix document separator = .ok schema) (hSplit : document.IsSplitBy keep) :
    resolveWithSuffix (document.restrict keep) separator =
      .ok (schema.restrict (document.keepsName keep)) := by
  have hResolve : (resolve separator (.suffix : Policy Unit) document).result () =
      (.ok schema, ()) := Prod.ext h rfl
  exact congrArg Prod.fst (resolve_restrict hResolve hSplit)

/-- Two parts in a mixed order: news, mail and rice, and tuna and salt. In each a name is proposed
twice, and from news there is a way over mail to rice. -/
def newsAndTuna : Document where
  tables := [⟨"N", "news", false, false⟩, ⟨"T", "tuna", false, true⟩, ⟨"M", "mail", false, false⟩,
    ⟨"S", "salt", false, false⟩, ⟨"R", "rice", false, false⟩]
  columns := .ofList [
    ("T", [{ id := "T1", name := "id" }]),
    ("N", [{ id := "N1", name := "id" }]),
    ("M", [{ id := "M1", name := "id" }, { id := "M2", name := "news_id" },
      { id := "M3", name := "old_id" }]),
    ("S", [{ id := "S1", name := "tuna_id",
             foreignKey := some { references := some { id := some "T1" } } },
      { id := "S2", name := "other_id" }]),
    ("R", [{ id := "R1", name := "mail_id",
             foreignKey := some { references := some { id := some "M1" } } }])]
  relations := [⟨⟨"M", "M2"⟩, ⟨"N", "N1"⟩⟩, ⟨⟨"S", "S1"⟩, ⟨"T", "T1"⟩⟩, ⟨⟨"R", "R1"⟩, ⟨"M", "M1"⟩⟩,
    ⟨⟨"S", "S2"⟩, ⟨"T", "T1"⟩⟩, ⟨⟨"M", "M3"⟩, ⟨"N", "N1"⟩⟩]

/-- Whether an id is that of news, mail or rice. -/
def isOfNews (id : String) : Bool := ["N", "M", "R"].contains id

/-- The number behind a name and the way over mail are those of news alone. -/
theorem resolveWithSuffix_restrict_newsAndTuna :
    ∃ schema, resolveWithSuffix newsAndTuna "_" = .ok schema ∧ newsAndTuna.IsSplitBy isOfNews ∧
      resolveWithSuffix (newsAndTuna.restrict isOfNews) "_" =
        .ok (schema.restrict (newsAndTuna.keepsName isOfNews)) ∧
      (schema.restrict (newsAndTuna.keepsName isOfNews)).tables.entries.map
          (fun entry => (entry.1, entry.2.relationships.keys)) =
        [("news", ["mail", "mail2", "rice"]), ("mail", ["news", "rice", "news2"]),
          ("rice", ["mail"])] := by
  have hNames : (resolveWithSuffix newsAndTuna "_").toOption.map (fun schema =>
      (schema.restrict (newsAndTuna.keepsName isOfNews)).tables.entries.map fun entry =>
        (entry.1, entry.2.relationships.keys)) =
      some [("news", ["mail", "mail2", "rice"]), ("mail", ["news", "rice", "news2"]),
        ("rice", ["mail"])] := by
    decide +kernel
  obtain ⟨schema, hSchema, hNames⟩ := exists_ok_of_map hNames
  have hSplit : newsAndTuna.IsSplitBy isOfNews := ⟨by decide +kernel, by decide +kernel⟩
  exact ⟨schema, hSchema, hSplit, resolveWithSuffix_restrict hSchema hSplit, hNames⟩

end SchemaScaffold
