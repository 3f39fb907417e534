import SchemaScaffold.Proofs.Assembly.Stages

/-!
# The final check

* `Schema.checkIntegrity_eq_ok_iff`: what the final check asks of a schema.
* `Staged.checkIntegrity`: what the stages of a build leave always passes it.
* `resolve_of_relateDirectly`: so no build stops after the first pass.
-/

namespace SchemaScaffold

/-! ## What the check asks -/

namespace Schema

variable {schema : Schema}

theorem missingReference?_eq_none_iff :
    schema.missingReference? = none ↔ ∀ table ∈ schema.tables.values,
      ∀ column ∈ table.columns.values, ∀ key, column.foreignKey = some key →
        schema.hasColumn key = true := by
  simp only [missingReference?, List.findSome?_eq_none_iff, Option.map_eq_none_iff,
    Option.filter_eq_none_iff, Bool.not_eq_true', Bool.not_eq_false]

theorem missingTarget?_eq_none_iff :
    schema.missingTarget? = none ↔ ∀ table ∈ schema.tables.values,
      ∀ name r, (name, r) ∈ table.relationships.entries → (schema.table? r.table).isSome = true := by
  simp only [missingTarget?, List.findSome?_eq_none_iff, Prod.forall, ite_eq_left_iff, reduceCtorEq,
    imp_false, Decidable.not_not]

theorem brokenPassage?_eq_none_iff :
    schema.brokenPassage? = none ↔ ∀ table ∈ schema.tables.values,
      ∀ name r, (name, r) ∈ table.relationships.entries → ∀ passage, r.passage? = some passage →
        schema.hasPassage table passage = true := by
  simp only [brokenPassage?, List.findSome?_eq_none_iff, Prod.forall, Option.map_eq_none_iff,
    Option.filter_eq_none_iff, Bool.not_eq_true', Bool.not_eq_false]

/-- The final check passes if and only if none of its searches finds a problem. -/
theorem checkIntegrity_eq_ok_iff :
    schema.checkIntegrity = .ok () ↔
      schema.missingReference? = none ∧ schema.missingTarget? = none ∧
        schema.brokenPassage? = none := by
  unfold checkIntegrity
  cases schema.missingReference? with
  | some _ => simp [Stop.invalid]
  | none =>
    cases schema.missingTarget? with
    | some _ => simp [Stop.invalid]
    | none => cases schema.brokenPassage? <;> simp [Stop.invalid]

end Schema

/-! ## What the stages leave -/

namespace Staged

variable {separator : String} {document : Document} {registry : Registry} {tables : Keyed Table}
  {edges : List Edge} {direct final : Keyed Table}

theorem final_bare_eq (h : Staged separator document registry tables edges direct final) :
    final.mapValues Table.bare = tables.mapValues Table.bare := by
  obtain ⟨additions, hRun⟩ := h.run
  exact hRun.bare_eq.trans h.bare_eq

theorem final_leadsInto (h : Staged separator document registry tables edges direct final) :
    LeadsInto tables final := by
  obtain ⟨additions, hRun⟩ := h.run
  exact hRun.leadsInto h.leadsInto

theorem final_soundThrough (h : Staged separator document registry tables edges direct final) :
    SoundThrough final := by
  obtain ⟨additions, hRun⟩ := h.run
  exact hRun.soundThrough h.allDirect

/-- A finished table was assembled with the same columns. -/
theorem exists_assembled (h : Staged separator document registry tables edges direct final)
    {name : String} {table : Table} (hTable : final.get? name = some table) :
    ∃ start, tables.get? name = some start ∧ start.columns = table.columns := by
  obtain ⟨start, hStart, hSame⟩ := exists_get?_of_bare_eq h.final_bare_eq.symm hTable
  exact ⟨start, hStart, (Table.fields_eq_of_bare_eq hSame).2.2.2⟩

/-- An assembled table is finished with the same columns. -/
theorem exists_finished (h : Staged separator document registry tables edges direct final)
    {name : String} {start : Table} (hStart : tables.get? name = some start) :
    ∃ table, final.get? name = some table ∧ table.columns = start.columns := by
  obtain ⟨table, hTable, hSame⟩ := exists_get?_of_bare_eq h.final_bare_eq hStart
  exact ⟨table, hTable, (Table.fields_eq_of_bare_eq hSame).2.2.2⟩

theorem missingReference?_eq_none
    (h : Staged separator document registry tables edges direct final) :
    Schema.missingReference? ⟨final⟩ = none := by
  refine Schema.missingReference?_eq_none_iff.mpr fun table hTable column hColumn key hKey => ?_
  obtain ⟨⟨name, _⟩, hEntry, rfl⟩ := List.mem_map.mp hTable
  obtain ⟨start, hStart, hColumns⟩ := h.exists_assembled (Keyed.get?_eq_some_iff.mpr hEntry)
  rw [← hColumns] at hColumn
  obtain ⟨target, hTarget, hReferenced⟩ :=
    h.assembled.exists_referenced h.valid hStart hColumn hKey
  obtain ⟨finished, hFinished, hSame⟩ := h.exists_finished hTarget
  simp only [Schema.hasColumn, Schema.table?, hFinished, Option.any_some, hSame]
  exact Keyed.contains_iff.mpr hReferenced

theorem missingTarget?_eq_none (h : Staged separator document registry tables edges direct final) :
    Schema.missingTarget? ⟨final⟩ = none := by
  refine Schema.missingTarget?_eq_none_iff.mpr fun table hTable name r hr => ?_
  obtain ⟨⟨owner, _⟩, hEntry, rfl⟩ := List.mem_map.mp hTable
  obtain ⟨start, hStart, -⟩ := h.final_leadsInto owner name r
    ⟨_, Keyed.get?_eq_some_iff.mpr hEntry, Keyed.get?_eq_some_iff.mpr hr⟩
  obtain ⟨finished, hFinished, -⟩ := h.exists_finished hStart
  simp [Schema.table?, hFinished]

theorem brokenPassage?_eq_none (h : Staged separator document registry tables edges direct final) :
    Schema.brokenPassage? ⟨final⟩ = none := by
  refine Schema.brokenPassage?_eq_none_iff.mpr fun table hTable name r hr passage hPassage => ?_
  obtain ⟨⟨owner, _⟩, hEntry, rfl⟩ := List.mem_map.mp hTable
  have hOwner := Keyed.get?_eq_some_iff.mpr hEntry
  obtain ⟨first, second, hChained⟩ := h.final_soundThrough owner name r passage
    ⟨_, hOwner, Keyed.get?_eq_some_iff.mpr hr⟩ hPassage
  obtain ⟨table', hTable', hFirst⟩ := hChained.owns_first
  obtain ⟨middle, hMiddle, hSecond⟩ := hChained.owns_second
  have hEq := Option.some.inj (hOwner.symm.trans hTable')
  subst hEq
  simp only [Schema.hasPassage, Schema.table?, hFirst, Option.bind_some, hMiddle, Option.any_some,
    hChained.relatedMethod_eq]
  exact Keyed.contains_iff.mpr (Keyed.mem_keys_iff.mpr ⟨second, hSecond⟩)

/-- What the stages of a build leave passes the final check. -/
theorem checkIntegrity (h : Staged separator document registry tables edges direct final) :
    Schema.checkIntegrity ⟨final⟩ = .ok () :=
  Schema.checkIntegrity_eq_ok_iff.mpr
    ⟨h.missingReference?_eq_none, h.missingTarget?_eq_none, h.brokenPassage?_eq_none⟩

end Staged

/-- After the first pass nothing stops a build. -/
theorem resolve_of_relateDirectly {σ : Type} {separator : String} {policy : Policy σ}
    {document : Document} {registry : Registry} {tables direct : Keyed Table} {edges : List Edge}
    {state after : σ} (hTables : assembleTables separator document = .ok (registry, tables))
    (hEdges : document.relations.mapM (Edge.ofDecl registry) = .ok edges)
    (hDirect : (relateDirectly policy tables edges).result state = (.ok direct, after)) :
    ∃ schema, (resolve separator policy document).result state = (.ok schema, after) ∧
      Staged separator document registry tables edges direct schema.tables := by
  obtain ⟨additions, final, hThrough, hRun⟩ := relateThrough_run policy direct after
  have hStaged := staged_of_run hTables hEdges hDirect hRun
  exact ⟨⟨final⟩, resolve_eq_ok_iff.mpr ⟨registry, tables, edges, direct, hTables, hEdges, hDirect,
    hThrough, hStaged.checkIntegrity⟩, hStaged⟩

end SchemaScaffold
