import Mathlib.Data.List.Nodup
import SchemaScaffold.Proofs.Relationships.Search

/-!
# The second pass ends

No name is new to the tables, because an addition takes the name of its second part. So there are
never more relationships than `throughLimit`, each addition is one more of them, and the additions
that are left always suffice.

* `NamedWithin`: every relationship has one of the given names. Additions keep it
  (`Missing.namedWithin`), and it bounds the number of relationships (`NamedWithin.count_le`).
* `relateThrough_converges`: the second pass succeeds on all tables, without a question to the
  policy, after at most as many additions as there are names missing on tables.
-/

namespace SchemaScaffold

/-- Every relationship has one of the given names. -/
def NamedWithin (names : List String) (tables : Keyed Table) : Prop :=
  ∀ owner name r, Owns tables owner name r → name ∈ names

theorem mem_relationshipNames {tables : Keyed Table} {name : String} :
    name ∈ relationshipNames tables ↔ ∃ owner r, Owns tables owner name r := by
  simp only [relationshipNames, List.mem_eraseDups, List.mem_flatMap, Keyed.values, List.mem_map]
  constructor
  · rintro ⟨_, ⟨⟨owner, table⟩, hMem, rfl⟩, hName⟩
    obtain ⟨r, hr⟩ := Keyed.mem_keys_iff.mp hName
    exact ⟨owner, r, table, Keyed.get?_eq_some_iff.mpr hMem, hr⟩
  · rintro ⟨owner, r, table, hTable, hr⟩
    exact ⟨table, ⟨(owner, table), Keyed.get?_eq_some_iff.mp hTable, rfl⟩,
      Keyed.mem_keys_iff.mpr ⟨r, hr⟩⟩

theorem namedWithin_relationshipNames (tables : Keyed Table) :
    NamedWithin (relationshipNames tables) tables :=
  fun owner _ r h => mem_relationshipNames.mpr ⟨owner, r, h⟩

theorem length_flatMap_le {α β : Type} {parts : α → List β} {n : Nat} :
    ∀ {l : List α}, (∀ a ∈ l, (parts a).length ≤ n) → (l.flatMap parts).length ≤ l.length * n
  | [], _ => by simp
  | a :: rest, h => by
    obtain ⟨hHead, hRest⟩ := List.forall_mem_cons.mp h
    have ih := length_flatMap_le hRest
    rw [List.flatMap_cons, List.length_append, List.length_cons, Nat.succ_mul]
    omega

/-- No table has more relationships than there are names. -/
theorem NamedWithin.count_le {names : List String} {tables : Keyed Table}
    (h : NamedWithin names tables) : relationshipCount tables ≤ tables.size * names.length := by
  have hEach : ∀ table ∈ tables.values, table.relationships.entries.length ≤ names.length := by
    intro table hTable
    obtain ⟨⟨owner, _⟩, hMem, rfl⟩ := List.mem_map.mp hTable
    rw [← Keyed.size, Keyed.size_eq_length_keys]
    refine (Keyed.keys_nodup _).length_le_of_subset fun name hName => ?_
    obtain ⟨r, hr⟩ := Keyed.mem_keys_iff.mp hName
    exact h owner name r ⟨_, Keyed.get?_eq_some_iff.mpr hMem, hr⟩
  have hAll := length_flatMap_le hEach
  rw [Keyed.values, List.length_map, ← Keyed.size, ← Keyed.values] at hAll
  exact hAll

/-- What the search proposes has a name that is there already. -/
theorem Missing.name_mem {names : List String} {tables : Keyed Table} {proposal : Proposal}
    {through : String} {first second : Relationship}
    (h : Missing tables proposal through first second) (hNamed : NamedWithin names tables) :
    proposal.name ∈ names :=
  hNamed _ _ _ h.owns_second

theorem Missing.namedWithin {names : List String} {tables next : Keyed Table}
    {proposal : Proposal} {through : String} {first second : Relationship}
    (h : Missing tables proposal through first second) (hNamed : NamedWithin names tables)
    (hAdded : Registered tables proposal proposal.name next) : NamedWithin names next := by
  intro owner name r hOwns
  rcases hAdded.owns_iff.mp hOwns with hOld | ⟨-, rfl, -⟩
  · exact hNamed owner name r hOld
  · exact h.name_mem hNamed

/-- While something is missing, the bound is not reached. -/
theorem Missing.count_lt {names : List String} {tables : Keyed Table} {proposal : Proposal}
    {through : String} {first second : Relationship}
    (h : Missing tables proposal through first second) (hNamed : NamedWithin names tables) :
    relationshipCount tables < tables.size * names.length := by
  obtain ⟨table, -, -, hAdded⟩ := h.registered
  have hCount := hAdded.relationshipCount_eq
  have hBound := (h.namedWithin hNamed hAdded).count_le
  rw [hAdded.size_eq] at hBound
  omega

theorem ThroughRun.name_mem {names : List String} {tables final : Keyed Table}
    {additions : List Proposal} (h : ThroughRun tables additions final)
    (hNamed : NamedWithin names tables) : ∀ proposal ∈ additions, proposal.name ∈ names := by
  induction h with
  | done _ => simp
  | add hFound hAdded _ ih =>
    obtain ⟨through, first, second, hMissing⟩ := missing_of_nextThrough? hFound
    exact List.forall_mem_cons.mpr
      ⟨hMissing.name_mem hNamed, ih (hMissing.namedWithin hNamed hAdded)⟩

theorem ThroughRun.namedWithin {names : List String} {tables final : Keyed Table}
    {additions : List Proposal} (h : ThroughRun tables additions final)
    (hNamed : NamedWithin names tables) : NamedWithin names final :=
  h.induction hNamed fun _ _ _ _ _ _ hBefore hMissing hAdded =>
    hMissing.namedWithin hBefore hAdded

variable {σ : Type}

theorem relateThroughWithin_of_none {tables : Keyed Table} (h : nextThrough? tables = none)
    (policy : Policy σ) (limit left : Nat) :
    relateThroughWithin policy limit left tables = pure tables := by
  rw [relateThroughWithin.eq_def]
  simp only [h]

theorem relateThroughWithin_of_some {tables : Keyed Table} {proposal : Proposal}
    (h : nextThrough? tables = some proposal) (policy : Policy σ) (limit left : Nat) :
    relateThroughWithin policy limit (left + 1) tables =
      register policy tables proposal >>= relateThroughWithin policy limit left := by
  rw [relateThroughWithin.eq_def]
  simp only [h]

/-- While the additions that are left reach the bound on the number of relationships, there is one
left whenever the search finds something. -/
theorem relateThroughWithin_run (policy : Policy σ) (limit : Nat) (state : σ)
    {names : List String} {size : Nat} :
    ∀ (left : Nat) (tables : Keyed Table), NamedWithin names tables → tables.size = size →
      size * names.length ≤ relationshipCount tables + left →
      ∃ additions final,
        (relateThroughWithin policy limit left tables).result state = (.ok final, state) ∧
        ThroughRun tables additions final := by
  intro left
  induction left with
  | zero =>
    intro tables hNamed hSize hLeft
    cases hNext : nextThrough? tables with
    | none => exact ⟨[], tables, by simp [relateThroughWithin_of_none hNext], .done hNext⟩
    | some proposal =>
      obtain ⟨through, first, second, hMissing⟩ := missing_of_nextThrough? hNext
      have hCount := hMissing.count_lt hNamed
      rw [hSize] at hCount
      omega
  | succ left ih =>
    intro tables hNamed hSize hLeft
    cases hNext : nextThrough? tables with
    | none => exact ⟨[], tables, by simp [relateThroughWithin_of_none hNext], .done hNext⟩
    | some proposal =>
      obtain ⟨through, first, second, hMissing⟩ := missing_of_nextThrough? hNext
      obtain ⟨table, hTable, hFree, hAdded⟩ := hMissing.registered
      have hCount := hAdded.relationshipCount_eq
      obtain ⟨additions, final, hRun, hRest⟩ := ih _ (hMissing.namedWithin hNamed hAdded)
        (hAdded.size_eq.trans hSize) (by omega)
      refine ⟨proposal :: additions, final, ?_, .add hNext hAdded hRest⟩
      rw [relateThroughWithin_of_some hNext, Build.result_bind,
        register_of_free policy hTable hFree]
      exact hRun

/-- The second pass is a run of additions. -/
theorem relateThrough_run (policy : Policy σ) (tables : Keyed Table) (state : σ) :
    ∃ additions final, (relateThrough policy tables).result state = (.ok final, state) ∧
      ThroughRun tables additions final :=
  relateThroughWithin_run policy _ state _ tables (namedWithin_relationshipNames tables) rfl
    (by simp [throughLimit])

/-- What the second pass gives is the end of a run of additions. -/
theorem exists_run_of_relateThrough {policy : Policy σ} {tables final : Keyed Table}
    {state after : σ} (h : (relateThrough policy tables).result state = (.ok final, after)) :
    after = state ∧ ∃ additions, ThroughRun tables additions final := by
  obtain ⟨additions, reached, hResult, hRun⟩ := relateThrough_run policy tables state
  rw [hResult, Prod.mk.injEq, Except.ok.injEq] at h
  obtain ⟨rfl, rfl⟩ := h
  exact ⟨rfl, additions, hRun⟩

/-- **The second pass converges.** On all tables it succeeds, whatever the policy, without a
question to it. Each addition is a relationship over two others, under a name that is free on its
owner and that was there before the pass. There are at most as many additions as tables times
names, less the relationships that were there before, so that the limit stops no run. -/
theorem relateThrough_converges (policy : Policy σ) (tables : Keyed Table) (state : σ) :
    ∃ additions final,
      (relateThrough policy tables).result state = (.ok final, state) ∧
      ThroughRun tables additions final ∧
      (∀ proposal ∈ additions, proposal.relationship.passage?.isSome = true ∧
        proposal.name ∈ relationshipNames tables) ∧
      relationshipCount final = relationshipCount tables + additions.length ∧
      additions.length + relationshipCount tables ≤
        tables.size * (relationshipNames tables).length := by
  obtain ⟨additions, final, hResult, hRun⟩ := relateThrough_run policy tables state
  have hNamed := namedWithin_relationshipNames tables
  have hCount := hRun.relationshipCount_eq
  have hBound := (hRun.namedWithin hNamed).count_le
  rw [Keyed.size_eq_length_keys, hRun.keys_eq, ← Keyed.size_eq_length_keys] at hBound
  refine ⟨additions, final, hResult, hRun, ?_, hCount, by omega⟩
  intro proposal hMem
  exact ⟨hRun.isSome_passage? proposal hMem, hRun.name_mem hNamed proposal hMem⟩

/-- A table that has many rows of another one, under the name of that table. -/
def tableWithMany (name next : String) : Table where
  name := name
  model := name
  softDelete := false
  timestamps := false
  isLink := false
  columns := .empty
  relationships := Keyed.empty.insert next
    { kind := .hasMany, table := next, model := next, primaryKey := "id", foreignKey := name }

/-- Three tables that lead to each other in a circle. -/
def circleOfTables : Keyed Table :=
  .ofList [("teams", tableWithMany "teams" "projects"),
    ("projects", tableWithMany "projects" "tasks"), ("tasks", tableWithMany "tasks" "teams")]

-- each of the three tables gets one relationship more, to the table after the next
example : ((relateThrough (.reject : Policy Unit) circleOfTables).result ()).1.toOption.map
    (fun final => final.entries.map fun entry => (entry.1, entry.2.relationships.keys)) =
      some [("teams", ["projects", "tasks"]), ("projects", ["tasks", "teams"]),
        ("tasks", ["teams", "projects"])] := by
  decide

end SchemaScaffold
