import SchemaScaffold.Proofs.Assembly.Defects
import SchemaScaffold.Proofs.Assembly.Integrity
import SchemaScaffold.Proofs.Relationships.Suffix

/-!
# Documents with their tables in another order

* `Alike`: two maps of tables hold the same, perhaps in another order.
* `Assembled.alike`, `Assembled.ofDecl_eq`: what is assembled from documents that declare the same
  tables is alike, and resolves relations alike.
* `relateDirectly_suffix`: on maps that are alike the first pass gives such maps again, or it stops on
  both at the same name.
* `resolve_reordered`: the same for whole builds, up to the first pass.
-/

namespace SchemaScaffold

/-- The same table stands under each name. -/
def Alike (tables tables' : Keyed Table) : Prop := ∀ key, tables.get? key = tables'.get? key

theorem Alike.symm {tables tables' : Keyed Table} (h : Alike tables tables') :
    Alike tables' tables := fun key => (h key).symm

theorem Alike.insert {tables tables' : Keyed Table} (h : Alike tables tables') (key : String)
    (table : Table) : Alike (tables.insert key table) (tables'.insert key table) := by
  intro other
  rw [Keyed.get?_insert, Keyed.get?_insert, h other]

theorem Column.ofDecl_congr {registry registry' : Registry}
    (h : ∀ id, registry.columns.get? id = registry'.columns.get? id) :
    Column.ofDecl registry = Column.ofDecl registry' := by
  funext decl
  refine ofDecl_eq_of_foreignKey_eq (Option.ext fun key => ?_)
  simp only [foreignKey_ofDecl_eq_some_iff, h]

theorem Edge.ofDecl_congr {registry registry' : Registry}
    (hTables : ∀ id, registry.nameOfTable? id = registry'.nameOfTable? id)
    (hColumns : ∀ id, registry.columns.get? id = registry'.columns.get? id) :
    Edge.ofDecl registry = Edge.ofDecl registry' := by
  have hPlace : Place.ofEndpoint registry = Place.ofEndpoint registry' := by
    funext endpoint
    simp only [Place.ofEndpoint, Registry.tableOfColumn?, Registry.nameOfColumn?, hTables, hColumns]
  funext decl
  rw [Edge.ofDecl, Edge.ofDecl, hPlace]

/-! ## Assembly -/

namespace Assembled

variable {separator : String} {document document' : Document} {registry registry' : Registry}
  {tables tables' : Keyed Table}

theorem columns_get?_eq (h : Assembled separator document registry tables)
    (h' : Assembled separator document' registry' tables')
    (hSame : document.SameTables document') (id : String) :
    registry.columns.get? id = registry'.columns.get? id := by
  refine Option.ext fun entry => ?_
  rw [h.column_get?_eq_some_iff, h'.column_get?_eq_some_iff, hSame.columnsUnder_eq]
  simp only [hSame.tables.mem_iff]

theorem nameOfTable?_eq (h : Assembled separator document registry tables)
    (h' : Assembled separator document' registry' tables')
    (hSame : document.SameTables document') (id : String) :
    registry.nameOfTable? id = registry'.nameOfTable? id := by
  refine Option.ext fun name => ?_
  rw [h.nameOfTable?_eq_some_iff, h'.nameOfTable?_eq_some_iff]
  simp only [hSame.tables.mem_iff]

/-- Every declaration gives the same table. -/
theorem assembled_eq (h : Assembled separator document registry tables)
    (h' : Assembled separator document' registry' tables')
    (hSame : document.SameTables document') (decl : TableDecl) :
    decl.assembled separator document registry = decl.assembled separator document' registry' := by
  rw [TableDecl.assembled, TableDecl.assembled, hSame.columnsUnder_eq,
    Column.ofDecl_congr (h.columns_get?_eq h' hSame)]

theorem alike (h : Assembled separator document registry tables)
    (h' : Assembled separator document' registry' tables')
    (hSame : document.SameTables document') : Alike tables tables' := by
  intro name
  refine Option.ext fun table => ?_
  rw [h.get?_eq_some_iff, h'.get?_eq_some_iff]
  simp only [hSame.tables.mem_iff, h.assembled_eq h' hSame]

theorem ofDecl_eq (h : Assembled separator document registry tables)
    (h' : Assembled separator document' registry' tables')
    (hSame : document.SameTables document') :
    Edge.ofDecl registry = Edge.ofDecl registry' :=
  Edge.ofDecl_congr (h.nameOfTable?_eq h' hSame) (h.columns_get?_eq h' hSame)

end Assembled

/-! ## The first pass under the policy of numbers -/

variable {σ : Type}

/-- Proposals for known tables are registered alike on maps that are alike, up to the first one
whose name cannot be formed. -/
theorem registerAll_suffix (state : σ) :
    ∀ (pending : List (Except Stop Proposal)) {tables tables' : Keyed Table}, Alike tables tables' →
      (∀ proposal, .ok proposal ∈ pending → proposal.owner ∈ tables.keys) →
      (∀ stop, .error stop ∈ pending → ∃ table, stop = .unnameable table) →
      (∃ final final', (pending.foldlM (registerNext .suffix) tables).result state =
          (.ok final, state) ∧
        (pending.foldlM (registerNext .suffix) tables').result state = (.ok final', state) ∧
        Alike final final') ∨
      ∃ table, (pending.foldlM (registerNext .suffix) tables).result state =
          (.error (.unnameable table), state) ∧
        (pending.foldlM (registerNext .suffix) tables').result state =
          (.error (.unnameable table), state) := by
  intro pending
  induction pending with
  | nil =>
    intro tables tables' hAlike _ _
    exact Or.inl ⟨tables, tables', rfl, rfl, hAlike⟩
  | cons outcome rest ih =>
    intro tables tables' hAlike hKnown hNames
    simp only [List.foldlM_cons, Build.result_bind]
    cases outcome with
    | error stop =>
      obtain ⟨table, rfl⟩ := hNames stop List.mem_cons_self
      exact Or.inr ⟨table, rfl, rfl⟩
    | ok proposal =>
      obtain ⟨owner, hOwner⟩ := Keyed.mem_keys_iff.mp (hKnown proposal List.mem_cons_self)
      obtain ⟨name, hRegister⟩ := register_suffix (σ := σ) owner proposal
      simp only [result_registerNext_ok, hRegister tables state hOwner,
        hRegister tables' state (hAlike _ ▸ hOwner)]
      refine ih (hAlike.insert _ _) ?_ ?_
      · intro other hOther
        rw [Keyed.keys_insert_of_get? hOwner]
        exact hKnown other (List.mem_cons_of_mem _ hOther)
      · intro stop hStop
        exact hNames stop (List.mem_cons_of_mem _ hStop)

theorem relateDirectly_suffix {tables tables' : Keyed Table} {edges : List Edge}
    (hAlike : Alike tables tables') (hKnown : ∀ edge ∈ edges, edge.IsKnown tables) (state : σ) :
    (∃ final final', (relateDirectly .suffix tables edges).result state = (.ok final, state) ∧
      (relateDirectly .suffix tables' edges).result state = (.ok final', state) ∧
      Alike final final') ∨
    ∃ table, (relateDirectly .suffix tables edges).result state =
        (.error (.unnameable table), state) ∧
      (relateDirectly .suffix tables' edges).result state = (.error (.unnameable table), state) := by
  rw [relateDirectly_eq_foldlM, relateDirectly_eq_foldlM, ← proposals_congr hAlike]
  refine registerAll_suffix state _ hAlike ?_ ?_
  · intro proposal hProposal
    obtain ⟨edge, -, hProposes⟩ := mem_proposals_iff.mp hProposal
    exact hProposes.owner_mem hKnown
  · intro stop hStop
    obtain ⟨table, -, hStop, -⟩ := unnameable_of_mem_proposals hKnown hStop
    exact ⟨table, hStop⟩

/-! ## Builds -/

/-- Where the name of some model cannot be formed, the build of a valid document stops at a name. -/
theorem resolve_of_not_hasModels {document : Document} (hValid : document.IsValid)
    (hHas : ¬ document.HasModels) (separator : String) (policy : Policy σ) (state : σ) :
    ∃ table, (resolve separator policy document).result state =
      (.error (.unnameable table), state) := by
  cases hTables : assembleTables separator document with
  | ok out => exact absurd (assembleTables_eq_ok_iff.mp hTables).2.1 hHas
  | error stop =>
    rcases assembleTables_error hTables with ⟨fault, -, hDefect⟩ | ⟨decl, -, rfl, -⟩
    · exact absurd hValid hDefect.not_isValid
    · exact ⟨decl.name, by simp only [resolve, Build.result_bind, Build.result_lift, hTables]⟩

/-- Valid documents that differ in the order of their tables are built through stages that are
alike, or both builds stop because some name cannot be formed. -/
theorem resolve_reordered {document document' : Document}
    (hSame : document.SameButTableOrder document') (hValid : document.IsValid)
    (separator : String) (state : σ) :
    (∃ schema schema' registry registry' tables tables' edges direct direct',
      (resolve separator .suffix document).result state = (.ok schema, state) ∧
      (resolve separator .suffix document').result state = (.ok schema', state) ∧
      Staged separator document registry tables edges direct schema.tables ∧
      Staged separator document' registry' tables' edges direct' schema'.tables ∧
      Alike tables tables' ∧ Alike direct direct') ∨
    ∃ table table',
      (resolve separator .suffix document).result state = (.error (.unnameable table), state) ∧
      (resolve separator .suffix document').result state = (.error (.unnameable table'), state) := by
  have hOrder := hSame.sameUpToOrder
  have hTablesValid := hValid.toHasValidTables
  have hTablesValid' := hOrder.hasValidTables hTablesValid
  have hModels : document.HasModels ↔ document'.HasModels := by
    simp only [Document.HasModels, hSame.tables.mem_iff]
  by_cases hHas : document.HasModels
  · obtain ⟨registry, tables, hAssembled⟩ := hTablesValid.exists_assembled separator
    obtain ⟨registry', tables', hAssembled'⟩ := hTablesValid'.exists_assembled separator
    have hTables := assembleTables_eq_ok_iff.mpr ⟨hTablesValid, hHas, hAssembled⟩
    have hTables' := assembleTables_eq_ok_iff.mpr ⟨hTablesValid', hModels.mp hHas, hAssembled'⟩
    have hAlike := hAssembled.alike hAssembled' hOrder.toSameTables
    obtain ⟨edges, hEdges⟩ := (hAssembled.exists_edges_iff hTablesValid).mpr hValid
    have hEdges' : document'.relations.mapM (Edge.ofDecl registry') = .ok edges := by
      rw [← hSame.relations, ← hAssembled.ofDecl_eq hAssembled' hOrder.toSameTables]
      exact hEdges
    rcases relateDirectly_suffix hAlike (hAssembled.isKnown hEdges) state with
      ⟨direct, direct', hDirect, hDirect', hDirectAlike⟩ | ⟨table, hDirect, hDirect'⟩
    · obtain ⟨schema, hSchema, hStaged⟩ := resolve_of_relateDirectly hTables hEdges hDirect
      obtain ⟨schema', hSchema', hStaged'⟩ := resolve_of_relateDirectly hTables' hEdges' hDirect'
      exact Or.inl ⟨schema, schema', registry, registry', tables, tables', edges, direct, direct',
        hSchema, hSchema', hStaged, hStaged', hAlike, hDirectAlike⟩
    · exact Or.inr ⟨table, table,
        by simp only [resolve, Build.result_bind, Build.result_lift, hTables, hEdges, hDirect],
        by simp only [resolve, Build.result_bind, Build.result_lift, hTables', hEdges', hDirect']⟩
  · obtain ⟨table, hStop⟩ := resolve_of_not_hasModels hValid hHas separator .suffix state
    obtain ⟨table', hStop'⟩ := resolve_of_not_hasModels (hOrder.isValid hValid)
      (fun h => hHas (hModels.mpr h)) separator .suffix state
    exact Or.inr ⟨table, table', hStop, hStop'⟩

end SchemaScaffold
