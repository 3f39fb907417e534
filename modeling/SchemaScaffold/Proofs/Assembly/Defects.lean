import Mathlib.Data.List.Duplicate
import SchemaScaffold.Proofs.Assembly.Edges

/-!
# Defects of a document

Where the assembly of the tables or the resolution of a relation stops, the fault says something
that is true of the document. Faults of any other kind do not come from there.

* `Document.Defect`: what can be wrong with a document, with the fault for it.
* `Document.Defect.not_isValid`: a document with a defect is not valid.
* `assembleTables_error`: the assembly stops only at a defect, or at a model without a name.
* `Assembled.mapM_ofDecl_defect`: after that, relations cannot be resolved only because of a defect.
-/

namespace SchemaScaffold

/-- Both ends of all relations. -/
def Document.endpoints (document : Document) : List Endpoint :=
  document.relations.flatMap fun relation => [relation.source, relation.target]

/-- What can be wrong with a document, and the fault that says so. -/
inductive Document.Defect (document : Document) : Fault → Prop
  | tableName {name : String}
      (hTwice : List.Duplicate name (document.tables.map TableDecl.name)) :
      document.Defect (.invalid (.duplicateTableName name))
  | tableId {id : String} (hTwice : List.Duplicate id (document.tables.map TableDecl.id)) :
      document.Defect (.invalid (.duplicateTableId id))
  /-- columns are listed under an id that no table has -/
  | orphanList {id : String} (hList : id ∈ document.columns.keys)
      (hTable : id ∉ document.tables.map TableDecl.id) :
      document.Defect (.invalid (.orphanColumnList id))
  /-- no columns are listed under the id of a table -/
  | missingList {table : TableDecl} (hTable : table ∈ document.tables)
      (hList : table.id ∉ document.columns.keys) :
      document.Defect (.invalid (.missingColumnList table.name table.id))
  | columnName {table : TableDecl} {name : String} (hTable : table ∈ document.tables)
      (hTwice : List.Duplicate name ((document.columnsUnder table).map ColumnDecl.name)) :
      document.Defect (.invalid (.duplicateColumnName name table.name))
  | columnId {id : String} (hTwice : List.Duplicate id (document.allColumns.map ColumnDecl.id)) :
      document.Defect (.invalid (.duplicateColumnId id))
  /-- the column of an endpoint belongs to another table than the one it names -/
  | foreignEnd {endpoint : Endpoint} {owner declared : TableDecl}
      (hEndpoint : endpoint ∈ document.endpoints) (hOwner : owner ∈ document.tables)
      (hColumn : endpoint.columnId ∈ (document.columnsUnder owner).map ColumnDecl.id)
      (hDeclared : declared ∈ document.tables) (hId : declared.id = endpoint.tableId)
      (hOther : declared.name ≠ owner.name) :
      document.Defect (.invalid (.foreignEndpoint endpoint.columnId owner.name declared.name))
  | unknownColumn {endpoint : Endpoint} (hEndpoint : endpoint ∈ document.endpoints)
      (hColumn : endpoint.columnId ∉ document.allColumns.map ColumnDecl.id) :
      document.Defect (.unresolved (.column endpoint.columnId))
  | unknownTable {endpoint : Endpoint} (hEndpoint : endpoint ∈ document.endpoints)
      (hTable : endpoint.tableId ∉ document.tables.map TableDecl.id) :
      document.Defect (.unresolved (.table endpoint.tableId))

namespace Document.Defect

variable {document : Document} {fault : Fault}

/-- The fault for a defect says that the document is invalid, or that an id is unknown. -/
theorem isInvalid_or_isUnresolved (h : document.Defect fault) :
    fault.isInvalid = true ∨ fault.isUnresolved = true := by
  cases h with
  | unknownColumn | unknownTable => exact Or.inr rfl
  | _ => exact Or.inl rfl

theorem not_isValid (h : document.Defect fault) : ¬ document.IsValid := by
  intro hValid
  have hDeclares : ∀ endpoint ∈ document.endpoints, document.Declares endpoint := by
    intro endpoint hEndpoint
    obtain ⟨relation, hRelation, hEnd⟩ := List.mem_flatMap.mp hEndpoint
    obtain ⟨hSource, hTarget⟩ := hValid.endpoints relation hRelation
    rcases List.mem_pair.mp hEnd with rfl | rfl
    · exact hSource
    · exact hTarget
  cases h with
  | tableName hTwice => exact hTwice.not_nodup hValid.tableNames
  | tableId hTwice => exact hTwice.not_nodup hValid.tableIds
  | orphanList hList hTable => exact hTable ((hValid.columnLists _).mp hList)
  | missingList hTable hList =>
    exact hList ((hValid.columnLists _).mpr (List.mem_map.mpr ⟨_, hTable, rfl⟩))
  | columnName hTable hTwice => exact hTwice.not_nodup (hValid.columnNames_nodup hTable)
  | columnId hTwice => exact hTwice.not_nodup hValid.columnIds_nodup
  | foreignEnd hEndpoint hOwner hColumn hDeclared hId hOther =>
    obtain ⟨decl, hDecl, hDeclId, hDeclColumn⟩ := hDeclares _ hEndpoint
    have hOwnerEq := hValid.eq_of_mem_columnIds hDecl hOwner hDeclColumn hColumn
    have hDeclaredEq := List.inj_on_of_nodup_map hValid.tableIds hDeclared hDecl
      (hId.trans hDeclId.symm)
    exact hOther (congrArg TableDecl.name (hDeclaredEq.trans hOwnerEq))
  | unknownColumn hEndpoint hColumn =>
    obtain ⟨decl, hDecl, -, hDeclColumn⟩ := hDeclares _ hEndpoint
    obtain ⟨column, hIn, hId⟩ := List.mem_map.mp hDeclColumn
    exact hColumn (List.mem_map.mpr ⟨column, List.mem_flatMap.mpr ⟨decl, hDecl, hIn⟩, hId⟩)
  | unknownTable hEndpoint hTable =>
    obtain ⟨decl, hDecl, hDeclId, -⟩ := hDeclares _ hEndpoint
    exact hTable (List.mem_map.mpr ⟨decl, hDecl, hDeclId⟩)

end Document.Defect

theorem duplicate_append_cons {α : Type} {a : α} {front back : List α} (h : a ∈ front) :
    List.Duplicate a (front ++ a :: back) := by
  classical
  have hFront : 0 < front.count a := List.count_pos_iff.mpr h
  rw [List.duplicate_iff_two_le_count, List.count_append, List.count_cons_self]
  omega

/-! ## Tables -/

/-- The declaration of tables stops at a name or an id that two of them share, or at a model whose
name cannot be formed. -/
theorem declareTables_error {separator : String} {decls : List TableDecl} {stop : Stop} :
    ∀ {registry : Registry} {tables : Keyed Table},
      declareTables separator registry tables decls = .error stop →
      (∃ name, stop = .fault (.invalid (.duplicateTableName name)) ∧
        List.Duplicate name (tables.keys ++ decls.map TableDecl.name)) ∨
      (∃ id, stop = .fault (.invalid (.duplicateTableId id)) ∧
        List.Duplicate id (registry.tables.keys ++ decls.map TableDecl.id)) ∨
      ∃ decl ∈ decls, stop = .unnameable decl.name ∧ Naming.modelName decl.name = none := by
  induction decls with
  | nil =>
    intro registry tables h
    cases h
  | cons decl rest ih =>
    intro registry tables h
    rw [declareTables] at h
    by_cases hName : decl.name ∈ tables.keys
    · rw [Keyed.contains_iff.mpr hName, if_pos rfl] at h
      exact Or.inl ⟨decl.name, (Except.error.inj h).symm, duplicate_append_cons hName⟩
    · simp only [Keyed.contains_eq_false_iff_not_mem.mpr hName, Bool.false_eq_true, if_false,
        Registry.addTable] at h
      by_cases hId : decl.id ∈ registry.tables.keys
      · simp only [Keyed.contains_iff.mpr hId, if_true] at h
        exact Or.inr (Or.inl ⟨decl.id, (Except.error.inj h).symm, duplicate_append_cons hId⟩)
      · simp only [Keyed.contains_eq_false_iff_not_mem.mpr hId, Bool.false_eq_true,
          if_false] at h
        rcases Stop.bind_eq_error_iff.mp h with hStop | ⟨model, -, hRest⟩
        · obtain ⟨hNone, rfl⟩ := Stop.named_eq_error_iff.mp hStop
          exact Or.inr (Or.inr ⟨decl, List.mem_cons_self, rfl, hNone⟩)
        · have hLater := ih hRest
          rw [Keyed.keys_insert_of_not_mem hName, Keyed.keys_insert_of_not_mem hId,
            List.append_assoc, List.append_assoc] at hLater
          rcases hLater with hNames | hIds | ⟨other, hOther, hUnformed⟩
          · exact Or.inl hNames
          · exact Or.inr (Or.inl hIds)
          · exact Or.inr (Or.inr ⟨other, List.mem_cons_of_mem _ hOther, hUnformed⟩)

/-! ## Columns -/

theorem checkColumnLists_error {document : Document} {registry : Registry} {stop : Stop}
    (h : checkColumnLists document registry = .error stop) :
    ∃ id ∈ document.columns.keys, registry.nameOfTable? id = none ∧
      stop = .fault (.invalid (.orphanColumnList id)) := by
  unfold checkColumnLists at h
  split at h
  · rename_i id hFound
    have hNone := List.find?_some hFound
    exact ⟨id, List.mem_of_find?_eq_some hFound, Option.isNone_iff_eq_none.mp hNone,
      (Except.error.inj h).symm⟩
  · cases h

/-- The columns of one table stop the registration only if two share a name, or one has an id that
is taken. -/
theorem registerColumns_conflict {table : String} {decls : List ColumnDecl} {stop : Stop} :
    ∀ {names : List String} {registry : Registry},
      registerColumns table names registry decls = .error stop →
      (∃ name, stop = .fault (.invalid (.duplicateColumnName name table)) ∧
        List.Duplicate name (names ++ decls.map ColumnDecl.name)) ∨
      ∃ id, stop = .fault (.invalid (.duplicateColumnId id)) ∧
        List.Duplicate id (registry.columns.keys ++ decls.map ColumnDecl.id) := by
  induction decls with
  | nil =>
    intro names registry h
    cases h
  | cons decl rest ih =>
    intro names registry h
    rw [registerColumns] at h
    by_cases hName : decl.name ∈ names
    · rw [if_pos (List.contains_iff_mem.mpr hName)] at h
      exact Or.inl ⟨decl.name, (Except.error.inj h).symm, duplicate_append_cons hName⟩
    · simp only [List.contains_iff_mem, hName, if_false, Registry.addColumn] at h
      by_cases hId : decl.id ∈ registry.columns.keys
      · simp only [Keyed.contains_iff.mpr hId, if_true] at h
        exact Or.inr ⟨decl.id, (Except.error.inj h).symm, duplicate_append_cons hId⟩
      · simp only [Keyed.contains_eq_false_iff_not_mem.mpr hId, Bool.false_eq_true, if_false] at h
        have hLater := ih h
        rwa [Keyed.keys_insert_of_not_mem hId, List.append_assoc, List.append_assoc] at hLater

/-- The columns of registered tables stop the registration only if a list is missing, or two columns
share a name in one table, or an id anywhere. -/
theorem declareColumns_conflict {document : Document} {decls : List TableDecl} {stop : Stop} :
    ∀ {registry : Registry},
      (∀ decl ∈ decls, registry.idOfTable? decl.name = some decl.id) →
      declareColumns document registry (decls.map TableDecl.name) = .error stop →
      (∃ decl ∈ decls, decl.id ∉ document.columns.keys ∧
        stop = .fault (.invalid (.missingColumnList decl.name decl.id))) ∨
      (∃ decl ∈ decls, ∃ name,
        List.Duplicate name ((document.columnsUnder decl).map ColumnDecl.name) ∧
        stop = .fault (.invalid (.duplicateColumnName name decl.name))) ∨
      ∃ id, List.Duplicate id
          (registry.columns.keys ++ (decls.flatMap document.columnsUnder).map ColumnDecl.id) ∧
        stop = .fault (.invalid (.duplicateColumnId id)) := by
  induction decls with
  | nil =>
    intro registry _ h
    cases h
  | cons decl rest ih =>
    intro registry hIds h
    obtain ⟨hId, hRestIds⟩ := List.forall_mem_cons.mp hIds
    rw [List.map_cons, declareColumns] at h
    simp only [hId] at h
    rw [List.flatMap_cons, List.map_append, ← List.append_assoc]
    cases hList : document.columns.get? decl.id with
    | none =>
      simp only [hList] at h
      refine Or.inl ⟨decl, List.mem_cons_self, fun hKey => ?_, (Except.error.inj h).symm⟩
      obtain ⟨decls, hGet⟩ := Keyed.mem_keys_iff.mp hKey
      rw [hList] at hGet
      cases hGet
    | some columns =>
      have hColumns : document.columnsUnder decl = columns := by
        rw [Document.columnsUnder, hList, Option.getD_some]
      simp only [hList, ← hColumns] at h
      rcases Stop.bind_eq_error_iff.mp h with hStop | ⟨middle, hMiddle, hRest⟩
      · rcases registerColumns_conflict hStop with ⟨name, rfl, hTwice⟩ | ⟨id, rfl, hTwice⟩
        · exact Or.inr (Or.inl ⟨decl, List.mem_cons_self, name, hTwice, rfl⟩)
        · exact Or.inr (Or.inr ⟨id, hTwice.mono_sublist (List.sublist_append_left _ _), rfl⟩)
      · obtain ⟨-, -, hTables, hEntries⟩ := (registerColumns_eq_ok_iff List.nodup_nil).mp hMiddle
        have hMiddleIds : ∀ decl ∈ rest, middle.idOfTable? decl.name = some decl.id := by
          simpa only [Registry.idOfTable?, hTables] using hRestIds
        rcases ih hMiddleIds hRest with ⟨other, hOther, hMissing, rfl⟩ |
          ⟨other, hOther, name, hTwice, rfl⟩ | ⟨id, hTwice, rfl⟩
        · exact Or.inl ⟨other, List.mem_cons_of_mem _ hOther, hMissing, rfl⟩
        · exact Or.inr (Or.inl ⟨other, List.mem_cons_of_mem _ hOther, name, hTwice, rfl⟩)
        · rw [keys_of_entries_eq_append hEntries, List.map_map] at hTwice
          exact Or.inr (Or.inr ⟨id, hTwice, rfl⟩)

/-- The assembly stops at a defect of the document, or at a model whose name cannot be formed. -/
theorem assembleTables_error {separator : String} {document : Document} {stop : Stop}
    (h : assembleTables separator document = .error stop) :
    (∃ fault, stop = .fault fault ∧ document.Defect fault) ∨
      ∃ decl ∈ document.tables, stop = .unnameable decl.name ∧
        Naming.modelName decl.name = none := by
  rcases Stop.bind_eq_error_iff.mp h with hDeclared | ⟨⟨start, declared⟩, hDeclared, h⟩
  · rcases declareTables_error hDeclared with ⟨name, rfl, hTwice⟩ | ⟨id, rfl, hTwice⟩ | hUnformed
    · exact Or.inl ⟨_, rfl, .tableName hTwice⟩
    · exact Or.inl ⟨_, rfl, .tableId hTwice⟩
    · exact Or.inr hUnformed
  -- the names of the models are formed from here on
  refine Or.inl ?_
  obtain ⟨hNames, -, -, hColumns, hTableIds, -⟩ := declareTables_eq_ok_iff.mp hDeclared
  rcases Stop.bind_eq_error_iff.mp h with hLists | ⟨⟨⟩, -, h⟩
  · obtain ⟨id, hList, hNone, rfl⟩ := checkColumnLists_error hLists
    refine ⟨_, rfl, .orphanList hList fun hTable => ?_⟩
    rw [← nameOfTable?_isSome_iff hTableIds, hNone] at hTable
    cases hTable
  rcases Stop.bind_eq_error_iff.mp h with hFull | ⟨full, -, h⟩
  · rw [keys_of_declareTables hDeclared] at hFull
    have hStartIds : ∀ decl ∈ document.tables, start.idOfTable? decl.name = some decl.id :=
      fun _ hDecl => idOfTable?_of_mem hTableIds hNames hDecl
    rcases declareColumns_conflict hStartIds hFull with ⟨decl, hDecl, hMissing, rfl⟩ |
      ⟨decl, hDecl, name, hTwice, rfl⟩ | ⟨id, hTwice, rfl⟩
    · exact ⟨_, rfl, .missingList hDecl hMissing⟩
    · exact ⟨_, rfl, .columnName hDecl hTwice⟩
    · rw [hColumns] at hTwice
      exact ⟨_, rfl, .columnId hTwice⟩
  · cases h

/-! ## Relations -/

theorem exists_of_mapM_error {α β : Type} {check : α → Except Stop β} {l : List α} {stop : Stop}
    (h : l.mapM check = .error stop) : ∃ a ∈ l, check a = .error stop := by
  induction l with
  | nil => cases h
  | cons a rest ih =>
    rw [List.mapM_cons] at h
    rcases Stop.bind_eq_error_iff.mp h with hHead | ⟨b, -, h⟩
    · exact ⟨a, List.mem_cons_self, hHead⟩
    rcases Stop.bind_eq_error_iff.mp h with hRest | ⟨out, -, h⟩
    · obtain ⟨a', ha', hStop⟩ := ih hRest
      exact ⟨a', List.mem_cons_of_mem _ ha', hStop⟩
    · cases h

namespace Assembled

variable {separator : String} {document : Document} {registry : Registry} {tables : Keyed Table}

theorem ofEndpoint_defect (h : Assembled separator document registry tables)
    {endpoint : Endpoint} (hEndpoint : endpoint ∈ document.endpoints) {stop : Stop}
    (hStop : Place.ofEndpoint registry endpoint = .error stop) :
    ∃ fault, stop = .fault fault ∧ document.Defect fault := by
  unfold Place.ofEndpoint Registry.tableOfColumn? Registry.nameOfColumn? at hStop
  cases hColumn : registry.columns.get? endpoint.columnId with
  | none =>
    simp only [hColumn, Option.map_none] at hStop
    refine ⟨_, (Except.error.inj hStop).symm, .unknownColumn hEndpoint fun hMem => ?_⟩
    obtain ⟨column, hIn, hId⟩ := List.mem_map.mp hMem
    obtain ⟨owner, hOwner, hIn⟩ := List.mem_flatMap.mp hIn
    rw [h.column_get?_eq_some_iff.mpr ⟨owner, hOwner, column, hIn, hId, rfl⟩] at hColumn
    cases hColumn
  | some entry =>
    obtain ⟨owner, hOwner, column, hIn, hId, rfl⟩ := h.column_get?_eq_some_iff.mp hColumn
    simp only [hColumn, Option.map_some] at hStop
    cases hTable : registry.nameOfTable? endpoint.tableId with
    | none =>
      simp only [hTable] at hStop
      refine ⟨_, (Except.error.inj hStop).symm, .unknownTable hEndpoint fun hMem => ?_⟩
      obtain ⟨declared, hDeclared, hTableId⟩ := List.mem_map.mp hMem
      rw [h.nameOfTable?_eq_some_iff.mpr ⟨declared, hDeclared, hTableId, rfl⟩] at hTable
      cases hTable
    | some name =>
      obtain ⟨declared, hDeclared, hTableId, rfl⟩ := h.nameOfTable?_eq_some_iff.mp hTable
      simp only [hTable] at hStop
      split at hStop
      · cases hStop
      · rename_i hOther
        exact ⟨_, (Except.error.inj hStop).symm, .foreignEnd hEndpoint hOwner
          (List.mem_map.mpr ⟨column, hIn, hId⟩) hDeclared hTableId hOther⟩

/-- Relations cannot be resolved only because of a defect of the document. -/
theorem mapM_ofDecl_defect (h : Assembled separator document registry tables) {stop : Stop}
    (hStop : document.relations.mapM (Edge.ofDecl registry) = .error stop) :
    ∃ fault, stop = .fault fault ∧ document.Defect fault := by
  obtain ⟨decl, hDecl, hStop⟩ := exists_of_mapM_error hStop
  have hEnds : decl.source ∈ document.endpoints ∧ decl.target ∈ document.endpoints := by
    constructor
    · exact List.mem_flatMap.mpr ⟨decl, hDecl, List.mem_cons_self⟩
    · exact List.mem_flatMap.mpr ⟨decl, hDecl, List.mem_cons_of_mem _ List.mem_cons_self⟩
  rcases Stop.bind_eq_error_iff.mp hStop with hSource | ⟨source, -, hStop⟩
  · exact h.ofEndpoint_defect hEnds.1 hSource
  rcases Stop.bind_eq_error_iff.mp hStop with hTarget | ⟨target, -, hStop⟩
  · exact h.ofEndpoint_defect hEnds.2 hTarget
  · cases hStop

end Assembled

end SchemaScaffold
