import SchemaScaffold.Proofs.Artifacts.ModelClasses
import SchemaScaffold.Proofs.Naming.Signs

/-!
# The names of migrations and models

* `convert_migrations_name`: there is a migration for each declared table, under its name.
* `convert_exists_model_name`: a model is named after a declared table, and its name has no slash.
-/

namespace SchemaScaffold

theorem TableDecl.slash_not_mem_model (decl : TableDecl) : '/' ∉ decl.model.toList := by
  unfold TableDecl.model
  cases hModel : Naming.modelName decl.name with
  | none => decide
  | some model => exact Naming.slash_not_mem_modelName hModel

/-- The finished tables are the declared ones, in order, but for their relationships. -/
theorem Staged.entries_map_bare {separator : String} {document : Document} {registry : Registry}
    {tables direct final : Keyed Table} {edges : List Edge}
    (h : Staged separator document registry tables edges direct final) :
    final.entries.map (fun entry => (entry.1, entry.2.bare)) =
      document.tables.map fun decl =>
        (decl.name, (decl.assembled separator document registry).bare) := by
  have hEntries := congrArg Keyed.entries h.final_bare_eq
  simp only [Keyed.mapValues, h.assembled.entries, List.map_map] at hEntries
  exact hEntries

theorem Staged.values_map_bare {separator : String} {document : Document} {registry : Registry}
    {tables direct final : Keyed Table} {edges : List Edge}
    (h : Staged separator document registry tables edges direct final) :
    final.values.map Table.bare =
      document.tables.map fun decl => (decl.assembled separator document registry).bare := by
  have hValues := congrArg (List.map Prod.snd) h.entries_map_bare
  rw [List.map_map, List.map_map] at hValues
  rw [Keyed.values, List.map_map]
  exact hValues

variable {σ : Type} {separator : String} {policy : Policy σ} {document : Document} {state final : σ}
  {artifacts : Artifacts}

theorem convert_hasValidTables
    (h : (convert separator policy document).result state = (.ok artifacts, final)) :
    document.HasValidTables := by
  obtain ⟨schema, hResolve, -⟩ := convert_eq_ok_iff.mp h
  obtain ⟨registry, tables, edges, direct, hStaged⟩ := exists_staged hResolve
  exact hStaged.valid

/-- There is a migration for each declared table, under its name. -/
theorem convert_migrations_name
    (h : (convert separator policy document).result state = (.ok artifacts, final)) :
    artifacts.migrations.map Migration.name = document.tables.map TableDecl.name := by
  obtain ⟨schema, hResolve, rfl⟩ := convert_eq_ok_iff.mp h
  obtain ⟨registry, tables, edges, direct, hStaged⟩ := exists_staged hResolve
  have hNames := congrArg (List.map Table.name) hStaged.values_map_bare
  rw [List.map_map, List.map_map] at hNames
  simp only [Artifacts.ofSchema, Migration.ofSchema, List.map_map]
  exact hNames

theorem convert_exists_model_name
    (h : (convert separator policy document).result state = (.ok artifacts, final)) :
    ∀ model ∈ artifacts.models, ∃ decl ∈ document.tables, model.name = decl.model := by
  obtain ⟨schema, hResolve, rfl⟩ := convert_eq_ok_iff.mp h
  obtain ⟨registry, tables, edges, direct, hStaged⟩ := exists_staged hResolve
  intro model hModel
  obtain ⟨table, hTable, rfl⟩ := List.mem_map.mp hModel
  obtain ⟨hValue, -⟩ := List.mem_filter.mp hTable
  have hBare : table.bare ∈ schema.tables.values.map Table.bare := List.mem_map_of_mem hValue
  rw [hStaged.values_map_bare] at hBare
  obtain ⟨decl, hDecl, hSame⟩ := List.mem_map.mp hBare
  refine ⟨decl, hDecl, ?_⟩
  rw [← decl.model_assembled separator document registry]
  exact (Table.fields_eq_of_bare_eq hSame).1.symm

theorem convert_slash_not_mem_model_name
    (h : (convert separator policy document).result state = (.ok artifacts, final)) :
    ∀ model ∈ artifacts.models, '/' ∉ model.name.toList := by
  intro model hModel
  obtain ⟨decl, -, hName⟩ := convert_exists_model_name h model hModel
  exact hName ▸ decl.slash_not_mem_model

end SchemaScaffold
