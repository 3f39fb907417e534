import SchemaScaffold.Assembly.Through
import SchemaScaffold.Proofs.Relationships.Registration

/-!
# What the search for relationships over others finds

* `Missing`: a proposal that the tables lack: two composable relationships, one after the other,
  lead its owner to another table, and the owner has no relationship under the second name.
* `missing_of_nextThrough?`, `saturated_iff`: the search finds only such proposals, and it finds
  nothing exactly when there is none.
* `ThroughRun`: additions that the search asks for, one after another, until it finds nothing.
  `ThroughRun.induction` and `ThroughRun.owns_iff` say what such a run keeps and what it adds.
-/

namespace SchemaScaffold

/-! ## One search -/

/-- A table lacks the proposed relationship, which goes over its own `first` to `second`. -/
structure Missing (tables : Keyed Table) (proposal : Proposal) (through : String)
    (first second : Relationship) : Prop where
  owns_first : Owns tables proposal.owner through first
  first_composable : first.isComposable = true
  owns_second : Owns tables first.table proposal.name second
  second_composable : second.isComposable = true
  leaves : second.table ≠ proposal.owner
  free : ∀ r, ¬ Owns tables proposal.owner proposal.name r
  relationship_eq : proposal.relationship = .over through first proposal.name second

/-- Wherever two composable relationships lead a table to another one, the table has a relationship
under the name of the second. -/
def Saturated (tables : Keyed Table) : Prop :=
  ∀ owner through first name second, Owns tables owner through first → first.isComposable = true →
    Owns tables first.table name second → second.isComposable = true → second.table ≠ owner →
    ∃ r, Owns tables owner name r

theorem Table.lacks_iff {owner : String} {table : Table} {name : String} {second : Relationship} :
    table.lacks owner name second = true ↔ second.isComposable = true ∧ second.table ≠ owner ∧
      table.relationships.contains name = false := by
  simp [Table.lacks, and_assoc]

/-- The search proposes only what its owner lacks. -/
theorem missing_of_nextThrough? {tables : Keyed Table} {proposal : Proposal}
    (h : nextThrough? tables = some proposal) :
    ∃ through first second, Missing tables proposal through first second := by
  unfold nextThrough? at h
  obtain ⟨⟨owner, table⟩, hTable, h⟩ := List.exists_of_findSome?_eq_some h
  obtain ⟨⟨through, first⟩, hFirst, h⟩ := List.exists_of_findSome?_eq_some h
  have hTable := Keyed.get?_eq_some_iff.mpr hTable
  have hFirst := Keyed.get?_eq_some_iff.mpr hFirst
  simp only [Table.nextOver?] at h
  split at h
  · rename_i hComposable
    obtain ⟨middle, hMiddle, h⟩ := Option.bind_eq_some_iff.mp h
    obtain ⟨⟨name, second⟩, hFound, rfl⟩ := Option.map_eq_some_iff.mp h
    have hSecond := Keyed.get?_eq_some_iff.mpr (List.mem_of_find?_eq_some hFound)
    have hLacks := List.find?_some hFound
    obtain ⟨hSecondComposable, hLeaves, hFree⟩ := Table.lacks_iff.mp hLacks
    exact ⟨through, first, second, {
      owns_first := ⟨table, hTable, hFirst⟩
      first_composable := hComposable
      owns_second := ⟨middle, hMiddle, hSecond⟩
      second_composable := hSecondComposable
      leaves := hLeaves
      free := (contains_eq_false_iff_not_owns hTable).mp hFree
      relationship_eq := rfl }⟩
  · cases h

/-- Where nothing is found, nothing is lacking. -/
theorem saturated_of_nextThrough? {tables : Keyed Table} (h : nextThrough? tables = none) :
    Saturated tables := by
  rintro owner through first name second ⟨table, hTable, hFirst⟩ hComposable
    ⟨middle, hMiddle, hSecond⟩ hSecondComposable hLeaves
  refine Classical.byContradiction fun hNone => ?_
  have hFree : table.relationships.contains name = false :=
    (contains_eq_false_iff_not_owns hTable).mpr fun r hr => hNone ⟨r, hr⟩
  have hOver := List.findSome?_eq_none_iff.mp
    (List.findSome?_eq_none_iff.mp h _ (Keyed.get?_eq_some_iff.mp hTable))
    _ (Keyed.get?_eq_some_iff.mp hFirst)
  simp only [Table.nextOver?, hComposable, if_true, hMiddle, Option.bind_some,
    Option.map_eq_none_iff] at hOver
  exact List.find?_eq_none.mp hOver _ (Keyed.get?_eq_some_iff.mp hSecond)
    (Table.lacks_iff.mpr ⟨hSecondComposable, hLeaves, hFree⟩)

theorem saturated_iff {tables : Keyed Table} :
    Saturated tables ↔ nextThrough? tables = none := by
  constructor
  · intro h
    cases hNext : nextThrough? tables with
    | none => rfl
    | some proposal =>
      obtain ⟨through, first, second, hMissing⟩ := missing_of_nextThrough? hNext
      obtain ⟨r, hr⟩ := h _ _ _ _ _ hMissing.owns_first hMissing.first_composable
        hMissing.owns_second hMissing.second_composable hMissing.leaves
      exact absurd hr (hMissing.free r)
  · exact saturated_of_nextThrough?

/-- What is lacking can be registered as it is proposed. -/
theorem Missing.registered {tables : Keyed Table} {proposal : Proposal} {through : String}
    {first second : Relationship} (h : Missing tables proposal through first second) :
    ∃ table, tables.get? proposal.owner = some table ∧
      table.relationships.contains proposal.name = false ∧
      Registered tables proposal proposal.name
        (tables.insert proposal.owner (table.relate proposal.name proposal.relationship)) := by
  obtain ⟨table, hTable, -⟩ := h.owns_first
  have hFree := (contains_eq_false_iff_not_owns hTable).mpr h.free
  exact ⟨table, hTable, hFree, table, hTable, hFree, rfl⟩

theorem Missing.passage?_eq {tables : Keyed Table} {proposal : Proposal} {through : String}
    {first second : Relationship} (h : Missing tables proposal through first second) :
    proposal.relationship.passage? = some ⟨through, first.model, proposal.name⟩ := by
  rw [h.relationship_eq]
  rfl

/-! ## A run of additions -/

/-- Additions that the search asks for, one after another, until it finds nothing. -/
inductive ThroughRun : Keyed Table → List Proposal → Keyed Table → Prop
  | done {tables : Keyed Table} (hNone : nextThrough? tables = none) : ThroughRun tables [] tables
  | add {tables next final : Keyed Table} {proposal : Proposal} {rest : List Proposal}
      (hFound : nextThrough? tables = some proposal)
      (hAdded : Registered tables proposal proposal.name next)
      (hRest : ThroughRun next rest final) : ThroughRun tables (proposal :: rest) final

namespace ThroughRun

variable {tables final : Keyed Table} {additions : List Proposal}

/-- What every addition keeps, the run keeps. -/
theorem induction {P : Keyed Table → Prop} (h : ThroughRun tables additions final)
    (hStart : P tables)
    (hStep : ∀ before proposal through first second next, P before →
      Missing before proposal through first second →
      Registered before proposal proposal.name next → P next) : P final := by
  induction h with
  | done _ => exact hStart
  | add hFound hAdded _ ih =>
    obtain ⟨through, first, second, hMissing⟩ := missing_of_nextThrough? hFound
    exact ih (hStep _ _ through first second _ hStart hMissing hAdded)

/-- What is added, and in which order, depends on the tables alone. -/
theorem unique {final' : Keyed Table} {additions' : List Proposal}
    (h : ThroughRun tables additions final) (h' : ThroughRun tables additions' final') :
    additions = additions' ∧ final = final' := by
  induction h generalizing additions' with
  | done hNone =>
    cases h' with
    | done _ => exact ⟨rfl, rfl⟩
    | add hFound _ _ =>
      rw [hNone] at hFound
      cases hFound
  | add hFound hAdded _ ih =>
    cases h' with
    | done hNone =>
      rw [hNone] at hFound
      cases hFound
    | add hFound' hAdded' hRest' =>
      have hProposal := Option.some.inj (hFound.symm.trans hFound')
      subst hProposal
      have hNext := hAdded.unique hAdded'
      subst hNext
      obtain ⟨rfl, rfl⟩ := ih hRest'
      exact ⟨rfl, rfl⟩

theorem saturated (h : ThroughRun tables additions final) : Saturated final := by
  induction h with
  | done hNone => exact saturated_of_nextThrough? hNone
  | add _ _ _ ih => exact ih

theorem keys_eq (h : ThroughRun tables additions final) : final.keys = tables.keys := by
  induction h with
  | done _ => rfl
  | add _ hAdded _ ih => exact ih.trans hAdded.keys_eq

theorem relationshipCount_eq (h : ThroughRun tables additions final) :
    relationshipCount final = relationshipCount tables + additions.length := by
  induction h with
  | done _ => rfl
  | add _ hAdded _ ih =>
    have hOne := hAdded.relationshipCount_eq
    rw [List.length_cons]
    omega

/-- Every addition goes over two others. -/
theorem isSome_passage? (h : ThroughRun tables additions final) :
    ∀ proposal ∈ additions, proposal.relationship.passage?.isSome = true := by
  induction h with
  | done _ => simp
  | add hFound _ _ ih =>
    obtain ⟨through, first, second, hMissing⟩ := missing_of_nextThrough? hFound
    refine List.forall_mem_cons.mpr ⟨?_, ih⟩
    rw [hMissing.passage?_eq]
    rfl

/-- Afterwards a table owns what it owned before, and what was added to it. -/
theorem owns_iff (h : ThroughRun tables additions final) {owner name : String}
    {r : Relationship} :
    Owns final owner name r ↔ Owns tables owner name r ∨ ⟨owner, name, r⟩ ∈ additions := by
  induction h with
  | done _ => simp
  | @add tables next final proposal rest _ hAdded _ ih =>
    rw [ih, hAdded.owns_iff, or_assoc, List.mem_cons, Proposal.mk.injEq]

theorem mono (h : ThroughRun tables additions final) {owner name : String} {r : Relationship}
    (hOwns : Owns tables owner name r) : Owns final owner name r :=
  h.owns_iff.mpr (Or.inl hOwns)

end ThroughRun

end SchemaScaffold
