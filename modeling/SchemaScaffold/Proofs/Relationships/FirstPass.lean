import SchemaScaffold.Proofs.Relationships.Chains
import SchemaScaffold.Proofs.Relationships.Proposals

/-!
# What both passes keep

* `Unrelated`: no table owns a relationship yet. The first pass starts from such tables, and what it
  adds goes over no other relationships (`allDirect_of_relateDirectly`).
* `LeadsInto`: every relationship leads to a table of the start, and names its model. Both passes
  keep it.
* `bare_eq_of_relateDirectly`, `ThroughRun.bare_eq`: the passes change nothing but relationships.
-/

namespace SchemaScaffold

/-- No table owns a relationship. -/
def Unrelated (tables : Keyed Table) : Prop := ∀ owner name r, ¬ Owns tables owner name r

/-- Every relationship leads to a table of the start, and its model is that of the table. -/
def LeadsInto (start tables : Keyed Table) : Prop :=
  ∀ owner name r, Owns tables owner name r →
    ∃ table, start.get? r.table = some table ∧ table.model = r.model

section FirstPass

variable {σ : Type} {policy : Policy σ} {tables final : Keyed Table} {edges : List Edge}
  {state after : σ}

theorem allDirect_of_relateDirectly (hStart : Unrelated tables)
    (h : (relateDirectly policy tables edges).result state = (.ok final, after)) :
    AllDirect final := by
  refine relateDirectly_induction (P := AllDirect) ?_ ?_ h
  · intro owner name r hOwns
    exact absurd hOwns (hStart owner name r)
  · intro before proposal _ next hBefore hMem hRegistered owner name r hOwns
    rcases hRegistered.owns_iff.mp hOwns with hOld | ⟨-, -, rfl⟩
    · exact hBefore owner name r hOld
    · obtain ⟨edge, -, hProposes⟩ := mem_proposals_iff.mp hMem
      exact hProposes.isDirect

theorem leadsInto_of_relateDirectly (hStart : Unrelated tables)
    (h : (relateDirectly policy tables edges).result state = (.ok final, after)) :
    LeadsInto tables final := by
  refine relateDirectly_induction (P := LeadsInto tables) ?_ ?_ h
  · intro owner name r hOwns
    exact absurd hOwns (hStart owner name r)
  · intro before proposal _ next hBefore hMem hRegistered owner name r hOwns
    rcases hRegistered.owns_iff.mp hOwns with hOld | ⟨-, -, rfl⟩
    · exact hBefore owner name r hOld
    · obtain ⟨edge, -, hProposes⟩ := mem_proposals_iff.mp hMem
      exact hProposes.exists_target

theorem bare_eq_of_relateDirectly
    (h : (relateDirectly policy tables edges).result state = (.ok final, after)) :
    final.mapValues Table.bare = tables.mapValues Table.bare := by
  refine relateDirectly_induction
    (P := fun reached => reached.mapValues Table.bare = tables.mapValues Table.bare) rfl ?_ h
  intro before proposal name next hBefore _ hRegistered
  exact hRegistered.bare_eq.trans hBefore

end FirstPass

namespace ThroughRun

variable {start tables final : Keyed Table} {additions : List Proposal}

theorem leadsInto (h : ThroughRun tables additions final) (hLeads : LeadsInto start tables) :
    LeadsInto start final := by
  refine h.induction hLeads fun before proposal through first second next hBefore hMissing hAdded => ?_
  intro owner name r hOwns
  rcases hAdded.owns_iff.mp hOwns with hOld | ⟨-, -, rfl⟩
  · exact hBefore owner name r hOld
  · obtain ⟨table, hTable, hModel⟩ := hBefore _ _ _ hMissing.owns_second
    exact ⟨table, hMissing.chained.table_eq ▸ hTable, hModel.trans hMissing.chained.model_eq⟩

theorem bare_eq (h : ThroughRun tables additions final) :
    final.mapValues Table.bare = tables.mapValues Table.bare := by
  refine h.induction (P := fun reached =>
    reached.mapValues Table.bare = tables.mapValues Table.bare) rfl ?_
  intro before proposal _ _ _ next hBefore _ hAdded
  exact hAdded.bare_eq.trans hBefore

end ThroughRun

end SchemaScaffold
