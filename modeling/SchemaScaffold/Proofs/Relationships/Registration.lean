import SchemaScaffold.Assembly.Direct

/-!
# What tables own, and how registration changes it

Both passes change the tables in one way only: a relationship is put on its owner under a name that
was free there. Everything that is said about the passes goes through two relations.

* `Owns`: a table owns a relationship under a name.
* `Registered`: one registration. Afterwards a table owns what it owned before, and the new
  relationship (`Registered.owns_iff`); the tables stay in place (`Registered.keys_eq`), and there is
  one relationship more (`Registered.relationshipCount_eq`).
* `registered_of_register`: a successful `register` is such a step, under every policy.
* `relateDirectly_induction`: what every registration of a proposal keeps, the first pass keeps.
-/

namespace SchemaScaffold

/-- The table of a name owns a relationship under another name. -/
def Owns (tables : Keyed Table) (owner name : String) (relationship : Relationship) : Prop :=
  ∃ table, tables.get? owner = some table ∧ table.relationships.get? name = some relationship

/-- The relationship that the table of a name owns under another name. -/
def relationship? (tables : Keyed Table) (owner name : String) : Option Relationship :=
  (tables.get? owner).bind fun table => table.relationships.get? name

theorem owns_iff_relationship? {tables : Keyed Table} {owner name : String} {r : Relationship} :
    Owns tables owner name r ↔ relationship? tables owner name = some r :=
  Option.bind_eq_some_iff.symm

theorem Owns.unique {tables : Keyed Table} {owner name : String} {r r' : Relationship}
    (h : Owns tables owner name r) (h' : Owns tables owner name r') : r = r' := by
  obtain ⟨table, hTable, hGet⟩ := h
  obtain ⟨table', hTable', hGet'⟩ := h'
  have hEq : table = table' := Option.some.inj (hTable.symm.trans hTable')
  subst hEq
  exact Option.some.inj (hGet.symm.trans hGet')

/-- Whether two maps of tables hold the same tables matters to ownership, not their order. -/
theorem owns_congr {tables tables' : Keyed Table} (h : ∀ key, tables.get? key = tables'.get? key)
    {owner name : String} {r : Relationship} :
    Owns tables owner name r ↔ Owns tables' owner name r := by
  simp only [Owns, h]

theorem contains_eq_false_iff_not_owns {tables : Keyed Table} {owner : String} {table : Table}
    (h : tables.get? owner = some table) {name : String} :
    table.relationships.contains name = false ↔ ∀ r, ¬ Owns tables owner name r := by
  rw [Keyed.contains_eq_false_iff]
  constructor
  · rintro hNone r ⟨table', hTable', hGet⟩
    have hEq : table = table' := Option.some.inj (h.symm.trans hTable')
    rw [← hEq, hNone] at hGet
    cases hGet
  · intro hFree
    cases hGet : table.relationships.get? name with
    | none => rfl
    | some r => exact absurd ⟨table, h, hGet⟩ (hFree r)

/-! ## One registration -/

/-- A proposed relationship has been put on its owner under a name that was free there. -/
def Registered (tables : Keyed Table) (proposal : Proposal) (name : String)
    (next : Keyed Table) : Prop :=
  ∃ table, tables.get? proposal.owner = some table ∧
    table.relationships.contains name = false ∧
    next = tables.insert proposal.owner (table.relate name proposal.relationship)

namespace Registered

variable {tables next : Keyed Table} {proposal : Proposal} {name : String}

/-- A table owns afterwards what it owned before, and its owner the new relationship. -/
theorem owns_iff (h : Registered tables proposal name next) {owner other : String}
    {r : Relationship} :
    Owns next owner other r ↔ Owns tables owner other r ∨
      (owner = proposal.owner ∧ other = name ∧ r = proposal.relationship) := by
  obtain ⟨table, hTable, hFree, rfl⟩ := h
  have hNone := Keyed.contains_eq_false_iff.mp hFree
  by_cases hOwner : owner = proposal.owner
  · subst hOwner
    by_cases hOther : other = name
    · subst hOther
      simp [Owns, Keyed.get?_insert, Table.relate, hTable, hNone, eq_comm]
    · simp [Owns, Keyed.get?_insert, Table.relate, hTable, hOther]
  · simp [Owns, Keyed.get?_insert, hOwner]

theorem mono (h : Registered tables proposal name next) {owner other : String}
    {r : Relationship} (hOwns : Owns tables owner other r) : Owns next owner other r :=
  h.owns_iff.mpr (Or.inl hOwns)

/-- The tables stay where they are. -/
theorem keys_eq (h : Registered tables proposal name next) : next.keys = tables.keys := by
  obtain ⟨table, hTable, -, rfl⟩ := h
  exact Keyed.keys_insert_of_get? hTable _

theorem unique {next' : Keyed Table} (h : Registered tables proposal name next)
    (h' : Registered tables proposal name next') : next = next' := by
  obtain ⟨table, hTable, -, rfl⟩ := h
  obtain ⟨table', hTable', -, rfl⟩ := h'
  rw [Option.some.inj (hTable.symm.trans hTable')]

theorem size_eq (h : Registered tables proposal name next) : next.size = tables.size := by
  rw [Keyed.size_eq_length_keys, h.keys_eq, Keyed.size_eq_length_keys]

end Registered

/-! ## What registrations leave alone -/

/-- A table without its relationships. -/
def Table.bare (table : Table) : Table := { table with relationships := .empty }

@[simp] theorem Table.columns_bare (table : Table) : table.bare.columns = table.columns := rfl

/-- A registration changes nothing but relationships. -/
theorem Registered.bare_eq {tables next : Keyed Table} {proposal : Proposal} {name : String}
    (h : Registered tables proposal name next) :
    next.mapValues Table.bare = tables.mapValues Table.bare := by
  obtain ⟨table, hTable, -, rfl⟩ := h
  exact Keyed.mapValues_insert_of_get? hTable rfl

theorem get?_map_bare_of_bare_eq {tables tables' : Keyed Table}
    (h : tables'.mapValues Table.bare = tables.mapValues Table.bare) (name : String) :
    (tables'.get? name).map Table.bare = (tables.get? name).map Table.bare := by
  rw [← Keyed.get?_mapValues, ← Keyed.get?_mapValues, h]

theorem exists_get?_of_bare_eq {tables tables' : Keyed Table}
    (hBare : tables'.mapValues Table.bare = tables.mapValues Table.bare) {name : String}
    {table : Table} (hTable : tables.get? name = some table) :
    ∃ table', tables'.get? name = some table' ∧ table'.bare = table.bare := by
  have hGet := get?_map_bare_of_bare_eq hBare name
  rw [hTable, Option.map_some] at hGet
  exact Option.map_eq_some_iff.mp hGet

theorem Table.fields_eq_of_bare_eq {table table' : Table} (h : table'.bare = table.bare) :
    table'.model = table.model ∧ table'.isLink = table.isLink ∧
      table'.timestamps = table.timestamps ∧ table'.columns = table.columns := by
  simp only [bare, mk.injEq] at h
  obtain ⟨-, hModel, -, hTimestamps, hIsLink, hColumns, -⟩ := h
  exact ⟨hModel, hIsLink, hTimestamps, hColumns⟩

/-! ## The number of relationships -/

/-- The number of relationships of all tables. -/
def relationshipCount (tables : Keyed Table) : Nat :=
  (tables.values.flatMap fun table => table.relationships.entries).length

theorem length_flatMap_put {α β : Type} (parts : α → List β) {key : String} {old : α} (value : α) :
    ∀ {entries : List (String × α)}, entries.lookup key = some old →
      ((Keyed.put key value entries).flatMap fun entry => parts entry.2).length +
          (parts old).length =
        (entries.flatMap fun entry => parts entry.2).length + (parts value).length
  | [], h => by simp at h
  | (k, first) :: rest, h => by
    by_cases hk : k = key
    · subst hk
      rw [List.lookup_cons_self, Option.some.injEq] at h
      subst h
      simp only [Keyed.put, if_true, List.flatMap_cons, List.length_append]
      omega
    · have hne : (key == k) = false := beq_eq_false_iff_ne.mpr (Ne.symm hk)
      rw [List.lookup_cons, hne] at h
      have ih := length_flatMap_put parts value h
      simp only [Keyed.put, if_neg hk, List.flatMap_cons, List.length_append]
      omega

/-- Each registration adds one relationship. -/
theorem Registered.relationshipCount_eq {tables next : Keyed Table} {proposal : Proposal}
    {name : String} (h : Registered tables proposal name next) :
    relationshipCount next = relationshipCount tables + 1 := by
  obtain ⟨table, hTable, hFree, rfl⟩ := h
  have hAll := length_flatMap_put (fun table : Table => table.relationships.entries)
    (table.relate name proposal.relationship) hTable
  have hOne : (table.relate name proposal.relationship).relationships.entries.length =
      table.relationships.entries.length + 1 := by
    simp [Table.relate, Keyed.entries_insert_of_not_contains hFree]
  simp only [relationshipCount, Keyed.values, Keyed.insert, List.flatMap_map]
  omega

/-! ## Registering under a policy -/

variable {σ : Type}

/-- A name that a policy lets pass is free on the table. -/
theorem free_of_freeName {policy : Policy σ} {table : Table} {proposal : Proposal}
    {state after : σ} {name : String}
    (h : (freeName policy table proposal).result state = (.ok name, after)) :
    table.relationships.contains name = false := by
  unfold freeName at h
  split at h
  · obtain ⟨answer, middle, -, hAnswer⟩ := Build.result_bind_eq_ok.mp h
    split at hAnswer
    · simp at hAnswer
    · rename_i hOk
      simp only [Build.result_pure, Prod.mk.injEq, Except.ok.injEq] at hAnswer
      obtain ⟨rfl, -⟩ := hAnswer
      simpa using fun hTaken => hOk (Or.inr hTaken)
  · rename_i hFree
    simp only [Build.result_pure, Prod.mk.injEq, Except.ok.injEq] at h
    obtain ⟨rfl, -⟩ := h
    simpa using hFree

/-- A successful registration puts the relationship on its owner under a free name. -/
theorem registered_of_register {policy : Policy σ} {tables next : Keyed Table}
    {proposal : Proposal} {state after : σ}
    (h : (register policy tables proposal).result state = (.ok next, after)) :
    ∃ name, Registered tables proposal name next := by
  unfold register at h
  cases hTable : tables.get? proposal.owner with
  | none => simp [hTable, Stop.invalid] at h
  | some table =>
    simp only [hTable] at h
    obtain ⟨name, middle, hName, hNext⟩ := Build.result_bind_eq_ok.mp h
    simp only [Build.result_pure, Prod.mk.injEq, Except.ok.injEq] at hNext
    exact ⟨name, table, hTable, free_of_freeName hName, hNext.1.symm⟩

/-- A free name needs no question, so that the policy's state is left as it is. -/
theorem register_of_free (policy : Policy σ) {tables : Keyed Table} {proposal : Proposal}
    {table : Table} (hTable : tables.get? proposal.owner = some table)
    (hFree : table.relationships.contains proposal.name = false) (state : σ) :
    (register policy tables proposal).result state =
      (.ok (tables.insert proposal.owner (table.relate proposal.name proposal.relationship)),
        state) := by
  simp [register, freeName, hTable, hFree]

/-- Registers the next outcome of a list of proposals. -/
def registerNext (policy : Policy σ) (tables : Keyed Table) (outcome : Except Stop Proposal) :
    Build σ (Keyed Table) := do
  register policy tables (← Build.lift outcome)

theorem relateDirectly_eq_foldlM (policy : Policy σ) (tables : Keyed Table) (edges : List Edge) :
    relateDirectly policy tables edges =
      (proposals tables edges).foldlM (registerNext policy) tables := rfl

@[simp] theorem result_registerNext_ok (policy : Policy σ) (tables : Keyed Table)
    (proposal : Proposal) (state : σ) :
    (registerNext policy tables (.ok proposal)).result state =
      (register policy tables proposal).result state := rfl

@[simp] theorem result_registerNext_error (policy : Policy σ) (tables : Keyed Table) (stop : Stop)
    (state : σ) : (registerNext policy tables (.error stop)).result state = (.error stop, state) :=
  rfl

/-- What the registration of every proposal keeps, the first pass keeps. -/
theorem relateDirectly_induction {P : Keyed Table → Prop} {policy : Policy σ}
    {tables final : Keyed Table} {edges : List Edge} {state after : σ} (hStart : P tables)
    (hStep : ∀ before proposal name next, P before → .ok proposal ∈ proposals tables edges →
      Registered before proposal name next → P next)
    (h : (relateDirectly policy tables edges).result state = (.ok final, after)) : P final := by
  rw [relateDirectly_eq_foldlM] at h
  generalize proposals tables edges = pending at h hStep
  clear edges
  induction pending generalizing tables state with
  | nil =>
    simp only [List.foldlM_nil, Build.result_pure, Prod.mk.injEq, Except.ok.injEq] at h
    exact h.1 ▸ hStart
  | cons outcome rest ih =>
    rw [List.foldlM_cons] at h
    obtain ⟨next, middle, hNext, hRest⟩ := Build.result_bind_eq_ok.mp h
    cases outcome with
    | error stop => simp at hNext
    | ok proposal =>
      rw [result_registerNext_ok] at hNext
      obtain ⟨name, hRegistered⟩ := registered_of_register hNext
      refine ih (hStep _ proposal name next hStart List.mem_cons_self hRegistered) hRest ?_
      intro before proposal name next hBefore hMem
      exact hStep before proposal name next hBefore (List.mem_cons_of_mem _ hMem)

end SchemaScaffold
