import Mathlib.Logic.Equiv.Basic
import SchemaScaffold.Proofs.Assembly.Course

/-!
# Documents with other ids

Ids only tell declarations apart. No name and no text is made of them, and ids of tables are never
compared with ids of columns.

* `Renaming`: other ids for ids, different ones for different ones; the empty id stays.
* `Document.renameIds`, `Registry.renameIds`, `Stop.renameIds`: other ids wherever they stand.
* `assembleTables_renameIds`, `mapM_ofDecl_renameIds`: the assembly and the edges of a document with
  other ids.
* `Course.renameIds`, `resolve_renameIds`: its build asks the same and gives the same schema, or it
  stops in the same way.
-/

namespace SchemaScaffold

universe u

/-! ## Renamings -/

/-- Other ids for ids, different ones for different ones; the empty id stays. -/
structure Renaming where
  apply : String → String
  injective : Function.Injective apply
  apply_empty : apply "" = ""

namespace Renaming

instance : CoeFun Renaming fun _ => String → String := ⟨apply⟩

/-- Two ids change places. -/
def swap (a b : String) (ha : a ≠ "") (hb : b ≠ "") : Renaming where
  apply := Equiv.swap a b
  injective := (Equiv.swap a b).injective
  apply_empty := Equiv.swap_apply_of_ne_of_ne ha.symm hb.symm

variable (f : Renaming)

@[simp] theorem apply_inj {a b : String} : f a = f b ↔ a = b := f.injective.eq_iff

@[simp] theorem apply_eq_empty_iff {a : String} : f a = "" ↔ a = "" := by
  simpa only [f.apply_empty] using f.apply_inj (b := "")

end Renaming

variable (f : Renaming)

/-! ## Ordered maps -/

namespace Keyed

variable {α : Type u}

/-- The map with its values under other ids, in the same order. -/
def renameKeys (m : Keyed α) : Keyed α where
  entries := m.entries.map fun entry => (f entry.1, entry.2)
  nodup_keys := by
    have hNodup := m.nodup_keys.map f.injective
    rwa [List.map_map] at hNodup ⊢

@[simp] theorem keys_renameKeys (m : Keyed α) : (m.renameKeys f).keys = m.keys.map f := by
  simp [keys, renameKeys, Function.comp_def]

@[simp] theorem get?_renameKeys (m : Keyed α) (key : String) :
    (m.renameKeys f).get? (f key) = m.get? key := by
  refine Option.ext fun value => ?_
  rw [get?_eq_some_iff, get?_eq_some_iff]
  simp [renameKeys]

@[simp] theorem contains_renameKeys (m : Keyed α) (key : String) :
    (m.renameKeys f).contains (f key) = m.contains key := by
  rw [contains_eq_isSome, contains_eq_isSome, get?_renameKeys]

theorem renameKeys_insert (m : Keyed α) (key : String) (value : α) :
    (m.insert key value).renameKeys f = (m.renameKeys f).insert (f key) value := by
  have hPut : ∀ entries : List (String × α),
      (put key value entries).map (fun entry => (f entry.1, entry.2)) =
        put (f key) value (entries.map fun entry => (f entry.1, entry.2)) := by
    intro entries
    induction entries with
    | nil => rfl
    | cons entry rest ih =>
      by_cases hKey : entry.1 = key
      · simp [put, hKey]
      · simp [put, hKey, ih]
  exact Keyed.ext (hPut m.entries)

end Keyed

/-! ## Documents -/

/-- The declaration of a table under another id. -/
def TableDecl.renameIds (decl : TableDecl) : TableDecl := { decl with id := f decl.id }

/-- The pointer to what has another id. -/
def Pointer.renameIds (pointer : Pointer) : Pointer := { pointer with id := pointer.id.map f }

/-- The foreign key with other ids. -/
def KeyDecl.renameIds (key : KeyDecl) : KeyDecl where
  references := key.references.map (Pointer.renameIds f)
  on := key.on.map (Pointer.renameIds f)

/-- The declaration of a column with other ids. -/
def ColumnDecl.renameIds (decl : ColumnDecl) : ColumnDecl :=
  { decl with id := f decl.id, foreignKey := decl.foreignKey.map (KeyDecl.renameIds f) }

/-- The endpoint with other ids. -/
def Endpoint.renameIds (endpoint : Endpoint) : Endpoint := ⟨f endpoint.tableId, f endpoint.columnId⟩

/-- The relation with other ids. -/
def RelationDecl.renameIds (decl : RelationDecl) : RelationDecl :=
  ⟨decl.source.renameIds f, decl.target.renameIds f⟩

/-- The document with other ids, everywhere. -/
def Document.renameIds (document : Document) : Document where
  tables := document.tables.map (TableDecl.renameIds f)
  columns := (document.columns.renameKeys f).mapValues (List.map (ColumnDecl.renameIds f))
  relations := document.relations.map (RelationDecl.renameIds f)

@[simp] theorem KeyDecl.columnId?_renameIds (key : KeyDecl) :
    (key.renameIds f).columnId? = key.columnId?.map f := by
  obtain ⟨references, on⟩ := key
  cases references with
  | none => rfl
  | some pointer =>
    obtain ⟨id, name⟩ := pointer
    cases id with
    | none => rfl
    | some id =>
      by_cases hEmpty : id = "" <;>
        simp [columnId?, renameIds, Pointer.renameIds, Option.filter, hEmpty, f.apply_empty]

@[simp] theorem Document.get?_columns_renameIds (document : Document) (id : String) :
    (document.renameIds f).columns.get? (f id) =
      (document.columns.get? id).map (List.map (ColumnDecl.renameIds f)) := by
  rw [renameIds, Keyed.get?_mapValues, Keyed.get?_renameKeys]

/-! ## Stops -/

/-- The problem with other ids where it quotes any. -/
def Problem.renameIds : Problem → Problem
  | .duplicateTableId id => .duplicateTableId (f id)
  | .orphanColumnList id => .orphanColumnList (f id)
  | .missingColumnList table id => .missingColumnList table (f id)
  | .duplicateColumnId id => .duplicateColumnId (f id)
  | .foreignEndpoint columnId owner declared => .foreignEndpoint (f columnId) owner declared
  | problem => problem

/-- The id that was never declared, by its other id. -/
def Reference.renameIds : Reference → Reference
  | .table id => .table (f id)
  | .column id => .column (f id)

/-- The cause with other ids where it quotes any. -/
def Cause.renameIds : Cause → Cause
  | .invalid problem => .invalid (problem.renameIds f)
  | .unresolved reference => .unresolved (reference.renameIds f)
  | cause => cause

/-- The fault with other ids where its causes quote any. -/
def Fault.renameIds (fault : Fault) : Fault :=
  ⟨fault.cause.renameIds f, fault.behind.map (Cause.renameIds f)⟩

/-- The stop with other ids where it quotes any. -/
def Stop.renameIds : Stop → Stop
  | .fault causes => .fault (causes.renameIds f)
  | .unnameable table => .unnameable table

/-- What an outcome becomes under other ids, if a function tells what becomes of a success. -/
def Stop.renamed {α β : Type} (g : α → β) (outcome : Except Stop α) : Except Stop β :=
  (outcome.map g).mapError (Stop.renameIds f)

namespace Stop

variable {α β γ δ : Type}

theorem renamed_bind {g : α → β} {h : γ → δ} {outcome : Except Stop α} {next : α → Except Stop γ}
    {next' : β → Except Stop δ} (hNext : ∀ a, next' (g a) = renamed f h (next a)) :
    renamed f g outcome >>= next' = renamed f h (outcome >>= next) := by
  cases outcome with
  | error stop => rfl
  | ok a => exact hNext a

theorem renamed_mapM {g : α → β} {h : γ → δ} {check : α → Except Stop γ}
    {check' : β → Except Stop δ} (hCheck : ∀ a, check' (g a) = renamed f h (check a))
    (l : List α) : (l.map g).mapM check' = renamed f (List.map h) (l.mapM check) := by
  induction l with
  | nil => rfl
  | cons a rest ih =>
    rw [List.map_cons, List.mapM_cons, List.mapM_cons, hCheck, ih]
    refine renamed_bind f fun c => renamed_bind f fun cs => rfl

end Stop

/-! ## Registries -/

/-- The registry with other ids. -/
def Registry.renameIds (registry : Registry) : Registry :=
  ⟨registry.tables.renameKeys f, registry.columns.renameKeys f⟩

namespace Registry

variable (registry : Registry)

@[simp] theorem nameOfTable?_renameIds (id : String) :
    (registry.renameIds f).nameOfTable? (f id) = registry.nameOfTable? id :=
  Keyed.get?_renameKeys f _ _

@[simp] theorem nameOfColumn?_renameIds (id : String) :
    (registry.renameIds f).nameOfColumn? (f id) = registry.nameOfColumn? id := by
  simp [nameOfColumn?, renameIds]

@[simp] theorem tableOfColumn?_renameIds (id : String) :
    (registry.renameIds f).tableOfColumn? (f id) = registry.tableOfColumn? id := by
  simp [tableOfColumn?, renameIds]

@[simp] theorem idOfTable?_renameIds (name : String) :
    (registry.renameIds f).idOfTable? name = (registry.idOfTable? name).map f := by
  simp only [idOfTable?, renameIds, Keyed.renameKeys, List.find?_map, Option.map_map,
    Function.comp_def]

theorem addTable_renameIds (id name : String) :
    (registry.renameIds f).addTable (f id) name =
      ((registry.addTable id name).1, (registry.addTable id name).2.renameIds f) := by
  unfold addTable
  simp only [renameIds, Keyed.contains_renameKeys]
  split
  · rfl
  · rw [Keyed.renameKeys_insert]

theorem addColumn_renameIds (id table name : String) :
    (registry.renameIds f).addColumn (f id) table name =
      ((registry.addColumn id table name).1, (registry.addColumn id table name).2.renameIds f) := by
  unfold addColumn
  simp only [renameIds, Keyed.contains_renameKeys]
  split
  · rfl
  · rw [Keyed.renameKeys_insert]

end Registry

/-! ## Tables and columns -/

theorem declareTables_renameIds {separator : String} (decls : List TableDecl) :
    ∀ (registry : Registry) (tables : Keyed Table),
      declareTables separator (registry.renameIds f) tables (decls.map (TableDecl.renameIds f)) =
        Stop.renamed f (Prod.map (Registry.renameIds f) id)
          (declareTables separator registry tables decls) := by
  induction decls with
  | nil => exact fun _ _ => rfl
  | cons decl rest ih =>
    intro registry tables
    rw [List.map_cons, declareTables, declareTables, TableDecl.renameIds,
      registry.addTable_renameIds f]
    split
    · rfl
    · obtain ⟨added, next⟩ := registry.addTable decl.id decl.name
      cases added with
      | false => rfl
      | true =>
        cases Naming.modelName decl.name with
        | none => rfl
        | some model => exact ih next _

theorem checkColumnLists_renameIds (document : Document) (registry : Registry) :
    checkColumnLists (document.renameIds f) (registry.renameIds f) =
      Stop.renamed f id (checkColumnLists document registry) := by
  unfold checkColumnLists
  simp only [Document.renameIds, Keyed.keys_mapValues, Keyed.keys_renameKeys, List.find?_map,
    Function.comp_def, Registry.nameOfTable?_renameIds]
  cases document.columns.keys.find? fun id => (registry.nameOfTable? id).isNone <;> rfl

theorem registerColumns_renameIds {table : String} (decls : List ColumnDecl) :
    ∀ (names : List String) (registry : Registry),
      registerColumns table names (registry.renameIds f) (decls.map (ColumnDecl.renameIds f)) =
        Stop.renamed f (Registry.renameIds f) (registerColumns table names registry decls) := by
  induction decls with
  | nil => exact fun _ _ => rfl
  | cons decl rest ih =>
    intro names registry
    rw [List.map_cons, registerColumns, registerColumns, ColumnDecl.renameIds,
      registry.addColumn_renameIds f]
    split
    · rfl
    · obtain ⟨added, next⟩ := registry.addColumn decl.id table decl.name
      cases added with
      | false => rfl
      | true => exact ih _ next

theorem declareColumns_renameIds {document : Document} (names : List String) :
    ∀ registry : Registry,
      declareColumns (document.renameIds f) (registry.renameIds f) names =
        Stop.renamed f (Registry.renameIds f) (declareColumns document registry names) := by
  induction names with
  | nil => exact fun _ => rfl
  | cons table rest ih =>
    intro registry
    rw [declareColumns, declareColumns, registry.idOfTable?_renameIds f]
    cases registry.idOfTable? table with
    | none => rfl
    | some id =>
      simp only [Option.map_some, Document.get?_columns_renameIds]
      cases document.columns.get? id with
      | none => rfl
      | some decls =>
        simp only [Option.map_some, registerColumns_renameIds]
        exact Stop.renamed_bind f ih

theorem Column.ofDecl_renameIds (registry : Registry) (decl : ColumnDecl) :
    Column.ofDecl (registry.renameIds f) (decl.renameIds f) = Column.ofDecl registry decl := by
  have hKey : ∀ key : KeyDecl,
      (key.renameIds f).resolve? (registry.renameIds f) = key.resolve? registry := by
    intro key
    simp only [KeyDecl.resolve?, KeyDecl.columnId?_renameIds]
    cases key.columnId? <;> simp
  have hForeignKey : (decl.renameIds f).foreignKey.bind (KeyDecl.resolve? (registry.renameIds f)) =
      decl.foreignKey.bind (KeyDecl.resolve? registry) := by
    rw [ColumnDecl.renameIds, Option.bind_map]
    exact congrArg decl.foreignKey.bind (funext hKey)
  rw [Column.ofDecl, hForeignKey]
  rfl

theorem Document.columnsOf_renameIds (document : Document) (registry : Registry) (table : String) :
    (document.renameIds f).columnsOf (registry.renameIds f) table =
      (document.columnsOf registry table).map (ColumnDecl.renameIds f) := by
  rw [columnsOf, columnsOf, Registry.idOfTable?_renameIds]
  cases registry.idOfTable? table with
  | none => rfl
  | some id =>
    simp only [Option.map_some, Option.bind_some, get?_columns_renameIds]
    cases document.columns.get? id <;> rfl

theorem Table.withKeyedColumns_renameIds (document : Document) (registry : Registry)
    (table : Table) : table.withKeyedColumns (document.renameIds f) (registry.renameIds f) =
      table.withKeyedColumns document registry := by
  rw [withKeyedColumns, withKeyedColumns, Document.columnsOf_renameIds, List.map_map]
  simp only [Function.comp_def, Column.ofDecl_renameIds]
  rfl

/-- The tables of a document with other ids are the same, and their ids the other ones. -/
theorem assembleTables_renameIds (separator : String) (document : Document) :
    assembleTables separator (document.renameIds f) =
      Stop.renamed f (Prod.map (Registry.renameIds f) id) (assembleTables separator document) := by
  have hTables : declareTables separator .empty .empty (document.renameIds f).tables = _ :=
    declareTables_renameIds f document.tables .empty .empty
  rw [assembleTables_eq, assembleTables_eq, hTables]
  refine Stop.renamed_bind f fun (registry, tables) => ?_
  simp only [Prod.map_apply, id_eq, checkColumnLists_renameIds]
  refine Stop.renamed_bind f fun _ => ?_
  rw [declareColumns_renameIds]
  refine Stop.renamed_bind f fun registry => ?_
  have hColumns : Table.withKeyedColumns (document.renameIds f) (registry.renameIds f) =
      Table.withKeyedColumns document registry :=
    funext (Table.withKeyedColumns_renameIds f document registry)
  rw [hColumns]
  rfl

/-! ## Edges -/

theorem Place.ofEndpoint_renameIds (registry : Registry) (endpoint : Endpoint) :
    Place.ofEndpoint (registry.renameIds f) (endpoint.renameIds f) =
      Stop.renamed f id (Place.ofEndpoint registry endpoint) := by
  unfold Place.ofEndpoint
  simp only [Endpoint.renameIds, Registry.tableOfColumn?_renameIds,
    Registry.nameOfColumn?_renameIds, Registry.nameOfTable?_renameIds]
  split
  · split
    · rfl
    · split <;> rfl
  · rfl

theorem Edge.ofDecl_renameIds (registry : Registry) (decl : RelationDecl) :
    Edge.ofDecl (registry.renameIds f) (decl.renameIds f) =
      Stop.renamed f id (Edge.ofDecl registry decl) := by
  rw [Edge.ofDecl, Edge.ofDecl, RelationDecl.renameIds, Place.ofEndpoint_renameIds,
    Place.ofEndpoint_renameIds]
  exact Stop.renamed_bind f fun source => Stop.renamed_bind f fun target => rfl

/-- The edges of a document with other ids are the same. -/
theorem mapM_ofDecl_renameIds (registry : Registry) (document : Document) :
    (document.renameIds f).relations.mapM (Edge.ofDecl (registry.renameIds f)) =
      Stop.renamed f id (document.relations.mapM (Edge.ofDecl registry)) := by
  have hMapM := Stop.renamed_mapM f (Edge.ofDecl_renameIds f registry) document.relations
  rwa [List.map_id_fun] at hMapM

/-! ## Builds -/

variable {σ : Type}

/-- Where the first pass stops before the policy is asked, some name cannot be formed. -/
theorem unnameable_of_directCourse {policy : Policy σ} {tables : Keyed Table} {edges : List Edge}
    (hKnown : ∀ edge ∈ edges, edge.IsKnown tables) {state after : σ} {stop : Stop}
    (h : DirectCourse policy tables state (proposals tables edges) [] (.error stop) after) :
    ∃ table, stop = .unnameable table := by
  generalize hAsked : ([] : List Collision) = asked at h
  cases h with
  | unformed hPending hDone =>
    have hStop : .error stop ∈ proposals tables edges := by simp [hPending]
    obtain ⟨table, -, hStop, -⟩ := unnameable_of_mem_proposals hKnown hStop
    exact ⟨table, hStop⟩
  | unsettled hPending hDone hOwner hStop =>
    cases hStop <;> simp at hAsked

/-- What the outcome of a build becomes under other ids. Before the policy is asked, a stop quotes
the other ids. Afterwards only the policy itself can speak of ids, and what it says stays. -/
def renamedOutcome (asked : List Collision) (outcome : Except Stop Schema) : Except Stop Schema :=
  if asked = [] then outcome.mapError (Stop.renameIds f) else outcome

theorem renamedOutcome_ok (asked : List Collision) (schema : Schema) :
    renamedOutcome f asked (.ok schema) = .ok schema := by
  unfold renamedOutcome
  split <;> rfl

/-- What stops the first pass quotes no ids of the document. -/
theorem renamedOutcome_of_directCourse {policy : Policy σ} {tables : Keyed Table}
    {edges : List Edge} (hKnown : ∀ edge ∈ edges, edge.IsKnown tables) {state after : σ}
    {asked : List Collision} {stop : Stop}
    (h : DirectCourse policy tables state (proposals tables edges) asked (.error stop) after) :
    renamedOutcome f asked (.error stop) = .error stop := by
  unfold renamedOutcome
  split
  · rename_i hAsked
    subst hAsked
    obtain ⟨table, rfl⟩ := unnameable_of_directCourse hKnown h
    rfl
  · rfl

namespace Course

variable {separator : String} {policy : Policy σ} {document : Document} {state after : σ}
  {asked : List Collision} {outcome : Except Stop Schema}

/-- The build of a document with other ids takes the same course. -/
theorem renameIds (h : Course separator policy document state asked outcome after) :
    Course separator policy (document.renameIds f) state asked (renamedOutcome f asked outcome)
      after := by
  have hTables' := assembleTables_renameIds f separator document
  cases h with
  | unassembled hTables =>
    rw [hTables] at hTables'
    exact .unassembled hTables'
  | @unresolved registry tables stop hTables hEdges =>
    have hEdges' := mapM_ofDecl_renameIds f registry document
    rw [hTables] at hTables'
    rw [hEdges] at hEdges'
    exact .unresolved hTables' hEdges'
  | @stopped registry tables edges stop asked after hTables hEdges hDirect =>
    have hEdges' := mapM_ofDecl_renameIds f registry document
    rw [hTables] at hTables'
    rw [hEdges] at hEdges'
    obtain ⟨-, -, hAssembled⟩ := assembleTables_eq_ok_iff.mp hTables
    rw [renamedOutcome_of_directCourse f (hAssembled.isKnown hEdges) hDirect]
    exact .stopped hTables' hEdges' hDirect
  | @completed registry tables direct final edges asked additions after hTables hEdges hDirect hRun
      hThrough =>
    have hEdges' := mapM_ofDecl_renameIds f registry document
    rw [hTables] at hTables'
    rw [hEdges] at hEdges'
    rw [renamedOutcome_ok]
    exact .completed hTables' hEdges' hDirect hRun hThrough

end Course

/-- **Ids are opaque**: under every policy, whatever its state, the build of a document with other
ids puts the same questions to the policy and leaves it in the same state. It gives the same schema,
or it stops in the same way, where only the ids that are quoted are the other ones. -/
theorem resolve_renameIds (separator : String) (policy : Policy σ) (document : Document)
    (state : σ) :
    ∃ asked outcome after,
      (resolve separator policy document).result state = (outcome, after) ∧
      (resolve separator policy (document.renameIds f)).result state =
        (renamedOutcome f asked outcome, after) ∧
      (resolve separator policy.recorded document).result (state, []) = (outcome, after, asked) ∧
      (resolve separator policy.recorded (document.renameIds f)).result (state, []) =
        (renamedOutcome f asked outcome, after, asked) := by
  obtain ⟨asked, outcome, after, hCourse⟩ := exists_course separator policy document state
  have hRenamed := hCourse.renameIds f
  exact ⟨asked, outcome, after, hCourse.result_eq, hRenamed.result_eq,
    (hCourse.recorded []).result_eq, (hRenamed.recorded []).result_eq⟩

/-- When a table and a column of `letters` exchange their ids, the build asks the same two questions
and gives the same schema. -/
theorem resolve_renameIds_letters :
    ∃ schema,
      schema.tables.entries.map (fun entry => (entry.1, entry.2.relationships.keys)) =
        [("staff", ["mail", "received"]), ("mail", ["staff", "receiver"])] ∧
      (resolve "_" Policy.dictated letters).result ["receiver", "received"] = (.ok schema, []) ∧
      (resolve "_" Policy.dictated
          (letters.renameIds (.swap "2" "11" (by decide) (by decide)))).result
            ["receiver", "received"] = (.ok schema, []) ∧
      (resolve "_" Policy.dictated.recorded
          (letters.renameIds (.swap "2" "11" (by decide) (by decide)))).result
            (["receiver", "received"], []) =
        (.ok schema, [], [⟨"mail", "staff", ["staff"]⟩, ⟨"staff", "mail", ["mail"]⟩]) := by
  have hNames : (((resolve "_" Policy.dictated.recorded letters).result
      (["receiver", "received"], [])).1.toOption.map fun schema =>
        schema.tables.entries.map fun entry => (entry.1, entry.2.relationships.keys),
      ((resolve "_" Policy.dictated.recorded letters).result (["receiver", "received"], [])).2) =
      (some [("staff", ["mail", "received"]), ("mail", ["staff", "receiver"])],
        [], [⟨"mail", "staff", ["staff"]⟩, ⟨"staff", "mail", ["mail"]⟩]) := by
    decide +kernel
  obtain ⟨schema, hSchema, hKeys⟩ := exists_result_of_map_eq hNames
  obtain ⟨asked, outcome, after, hPlain, hRenamed, hRecorded, hBoth⟩ :=
    resolve_renameIds (.swap "2" "11" (by decide) (by decide)) "_" .dictated letters
      ["receiver", "received"]
  rw [hSchema, Prod.mk.injEq, Prod.mk.injEq] at hRecorded
  obtain ⟨rfl, rfl, rfl⟩ := hRecorded
  rw [renamedOutcome_ok] at hRenamed hBoth
  exact ⟨schema, hKeys, hPlain, hRenamed, hBoth⟩

/-- A table and a column of the same id, and a relation that ends nowhere. -/
def lonelyNews : Document where
  tables := [⟨"1", "news", false, false⟩]
  columns := .ofList [("1", [{ id := "1", name := "id" }])]
  relations := [⟨⟨"1", "1"⟩, ⟨"1", "2"⟩⟩]

-- when the two ids change places, the end of the relation is missed under the other one
example :
    (resolve "_" (.suffix : Policy Unit) lonelyNews).result () =
        (.error (.fault (.unresolved (.column "2"))), ()) ∧
      (resolve "_" (.suffix : Policy Unit)
          (lonelyNews.renameIds (.swap "1" "2" (by decide) (by decide)))).result () =
        (.error (.fault (.unresolved (.column "1"))), ()) := by
  decide +kernel

end SchemaScaffold
