import SchemaScaffold.Proofs.Artifacts.Names
import SchemaScaffold.Proofs.Assembly.Contributions
import SchemaScaffold.Proofs.Assembly.Reordering

/-!
# What relations and policies influence

The tables are assembled before a relation is looked at and before a policy is asked. All that
happens to them afterwards is that relationships are registered, and neither migrations nor
factories look at relationships.

* `SameButRelationships`: the same tables in the same order, but for their relationships. Both
  passes leave such tables (`relateDirectly_leaves`, `relateThrough_leaves`).
* `Migration.ofSchema_congr`, `Factory.ofSchema_congr`: such tables have the same migrations and
  factories.
* `convert_congr`: what conversions of documents that differ in relations have in common.
-/

namespace SchemaScaffold

/-- The same tables stand in the same order, but for their relationships. -/
def SameButRelationships (tables tables' : Keyed Table) : Prop :=
  tables.mapValues Table.bare = tables'.mapValues Table.bare

theorem SameButRelationships.values_eq {tables tables' : Keyed Table}
    (h : SameButRelationships tables tables') :
    tables.values.map Table.bare = tables'.values.map Table.bare := by
  have hValues := congrArg Keyed.values h
  simp only [Keyed.values, Keyed.mapValues, List.map_map] at hValues ⊢
  exact hValues

/-! ## Records -/

section

variable {schema schema' : Schema}

theorem Migration.ofSchema_congr (h : SameButRelationships schema.tables schema'.tables) :
    Migration.ofSchema schema = Migration.ofSchema schema' := by
  have hBare : ∀ schema : Schema,
      Migration.ofSchema schema = (schema.tables.values.map Table.bare).map Migration.ofTable := by
    intro schema
    rw [List.map_map]
    rfl
  rw [hBare schema, h.values_eq, ← hBare schema']

theorem Factory.ofSchema_congr (h : SameButRelationships schema.tables schema'.tables) :
    Factory.ofSchema schema = Factory.ofSchema schema' := by
  have hBare : ∀ schema : Schema, Factory.ofSchema schema =
      ((schema.tables.values.map Table.bare).filter fun table => !table.isLink).map
        Factory.ofTable := by
    intro schema
    rw [List.filter_map, List.map_map]
    rfl
  rw [hBare schema, h.values_eq, ← hBare schema']

end

/-! ## Passes and builds -/

variable {σ τ : Type}

theorem relateDirectly_leaves {policy : Policy σ} {tables final : Keyed Table} {edges : List Edge}
    {state after : σ} (h : (relateDirectly policy tables edges).result state = (.ok final, after)) :
    SameButRelationships tables final :=
  (bare_eq_of_relateDirectly h).symm

theorem relateThrough_leaves {policy : Policy σ} {tables final : Keyed Table} {state after : σ}
    (h : (relateThrough policy tables).result state = (.ok final, after)) :
    SameButRelationships tables final := by
  obtain ⟨-, additions, hRun⟩ := exists_run_of_relateThrough h
  exact hRun.bare_eq.symm

theorem Staged.sameButRelationships {separator : String} {document document' : Document}
    {registry registry' : Registry} {tables tables' direct direct' final final' : Keyed Table}
    {edges edges' : List Edge} (hSame : document.SameButRelations document')
    (h : Staged separator document registry tables edges direct final)
    (h' : Staged separator document' registry' tables' edges' direct' final') :
    SameButRelationships final final' := by
  have hDecl := h.assembled.assembled_eq h'.assembled hSame.sameTables
  refine Keyed.ext ?_
  calc final.entries.map (fun entry => (entry.1, entry.2.bare))
      = document.tables.map fun decl =>
          (decl.name, (decl.assembled separator document registry).bare) := h.entries_map_bare
    _ = document'.tables.map fun decl =>
          (decl.name, (decl.assembled separator document' registry').bare) := by
        simp only [hSame.tables, hDecl]
    _ = final'.entries.map fun entry => (entry.1, entry.2.bare) := h'.entries_map_bare.symm

/-- **Relations and policies influence only relationships and models.** Whatever tables they are
given, both passes leave them in order and change nothing but their relationships. So documents that
differ in nothing but their relations, converted under any two policies, have the same migrations
and factories, and the same tables but for their relationships. -/
theorem convert_congr {document document' : Document} (hSame : document.SameButRelations document')
    (separator : String) (policy : Policy σ) (policy' : Policy τ) :
    (∀ tables edges state final after,
      (relateDirectly policy tables edges).result state = (.ok final, after) →
        SameButRelationships tables final) ∧
    (∀ tables state final after,
      (relateThrough policy tables).result state = (.ok final, after) →
        SameButRelationships tables final) ∧
    ∀ state artifacts after state' artifacts' after',
      (convert separator policy document).result state = (.ok artifacts, after) →
      (convert separator policy' document').result state' = (.ok artifacts', after') →
        artifacts.migrations = artifacts'.migrations ∧
        artifacts.factories = artifacts'.factories ∧
        SameButRelationships artifacts.schema.tables artifacts'.schema.tables := by
  refine ⟨fun _ _ _ _ _ => relateDirectly_leaves, fun _ _ _ _ => relateThrough_leaves, ?_⟩
  intro state artifacts after state' artifacts' after' h h'
  obtain ⟨schema, hResolve, rfl⟩ := convert_eq_ok_iff.mp h
  obtain ⟨schema', hResolve', rfl⟩ := convert_eq_ok_iff.mp h'
  obtain ⟨registry, tables, edges, direct, hStaged⟩ := exists_staged hResolve
  obtain ⟨registry', tables', edges', direct', hStaged'⟩ := exists_staged hResolve'
  have hTables := hStaged.sameButRelationships hSame hStaged'
  exact ⟨Migration.ofSchema_congr hTables, Factory.ofSchema_congr hTables, hTables⟩

/-- With its relations and under a policy that is asked for four names, a document has the
migrations and factories that it has without them, although its models come to have
relationships. -/
theorem convert_congr_newsletters :
    newsletters.SameButRelations { newsletters with relations := [] } ∧
      ∃ artifacts artifacts',
        (convert "_" .dictated newsletters).result ["a", "b", "c", "d"] = (.ok artifacts, []) ∧
        (convert "_" (.reject : Policy Unit) { newsletters with relations := [] }).result () =
          (.ok artifacts', ()) ∧
        artifacts.models.map Model.hasRelations = [true, true] ∧
        artifacts'.models.map Model.hasRelations = [false, false] ∧
        artifacts.migrations = artifacts'.migrations ∧
        artifacts.factories = artifacts'.factories ∧
        SameButRelationships artifacts.schema.tables artifacts'.schema.tables := by
  have hSame : newsletters.SameButRelations { newsletters with relations := [] } := ⟨rfl, rfl⟩
  obtain ⟨artifacts, hConvert, hModels⟩ : ∃ artifacts,
      (convert "_" .dictated newsletters).result ["a", "b", "c", "d"] = (.ok artifacts, []) ∧
      artifacts.models.map Model.hasRelations = [true, true] :=
    exists_result_of_map_eq (by decide +kernel)
  have hUnrelated : ((convert "_" (.reject : Policy Unit)
      { newsletters with relations := [] }).result ()).1.toOption.map
        (fun artifacts => artifacts.models.map Model.hasRelations) = some [false, false] := by
    decide +kernel
  obtain ⟨artifacts', hConvert', hModels'⟩ := exists_result_of_map hUnrelated
  obtain ⟨-, -, hCommon⟩ := convert_congr hSame "_" .dictated (.reject : Policy Unit)
  exact ⟨hSame, artifacts, artifacts', hConvert, hConvert', hModels, hModels',
    hCommon _ _ _ _ _ _ hConvert hConvert'⟩

end SchemaScaffold
