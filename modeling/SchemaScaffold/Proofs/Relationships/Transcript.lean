import SchemaScaffold.Proofs.Relationships.Convergence

/-!
# Transcripts of registrations

What the tables become can be read off a list of registrations. Each of them puts one entry behind
those of one table, and only a taken name leads to a question to the policy.

* `entriesOf`: the relationships of a table with their names, in the order of registration.
* `Appended`: one entry has been put behind those of one table, and nothing else has changed. This
  is what a registration does (`registered_iff_appended`).
* `Settles`: how a name for a relationship is found, with the questions to the policy and with what
  becomes of the policy's state. Every policy settles every proposal in one way
  (`Settles.result_eq`, `exists_settles`).
* `Registrations`: registrations that succeed, one after another, with all questions.
* `Registrations.values_eq`: without their names, the relationships of a table are those it had and
  those that were proposed for it, in order.
* `Settles.recorded`, `Registrations.recorded`: a policy that keeps its questions gets the same
  answers, and keeps the questions of the transcript.
-/

namespace SchemaScaffold

/-! ## One entry more -/

/-- The relationships of the table of a name, in the order of registration. -/
def entriesOf (tables : Keyed Table) (owner : String) : List (String × Relationship) :=
  ((tables.get? owner).map fun table => table.relationships.entries).getD []

/-- One entry has been put behind those of one table, under a name that was not there. The entries
before it, those of the other tables, and all that tables have besides are as they were. -/
structure Appended (before : Keyed Table) (owner name : String) (r : Relationship)
    (after : Keyed Table) : Prop where
  fresh : name ∉ (entriesOf before owner).map Prod.fst
  entries_owner : entriesOf after owner = entriesOf before owner ++ [(name, r)]
  entries_other : ∀ other, other ≠ owner → entriesOf after other = entriesOf before other
  bare_eq : after.mapValues Table.bare = before.mapValues Table.bare

theorem entriesOf_of_get? {tables : Keyed Table} {owner : String} {table : Table}
    (h : tables.get? owner = some table) : entriesOf tables owner = table.relationships.entries := by
  rw [entriesOf, h]
  rfl

theorem map_fst_entriesOf {tables : Keyed Table} {owner : String} {table : Table}
    (h : tables.get? owner = some table) :
    (entriesOf tables owner).map Prod.fst = table.relationships.keys := by
  rw [entriesOf_of_get? h]
  rfl

/-- Tables that agree up to relationships and in the relationships are equal. -/
theorem Table.eq_of_bare_eq {table table' : Table} (hBare : table.bare = table'.bare)
    (hEntries : table.relationships.entries = table'.relationships.entries) : table = table' := by
  obtain ⟨name, model, softDelete, timestamps, isLink, columns, relationships⟩ := table
  obtain ⟨name', model', softDelete', timestamps', isLink', columns', relationships'⟩ := table'
  simp only [Table.bare, Table.mk.injEq] at hBare
  simp only [Table.mk.injEq]
  exact ⟨hBare.1, hBare.2.1, hBare.2.2.1, hBare.2.2.2.1, hBare.2.2.2.2.1, hBare.2.2.2.2.2.1,
    Keyed.ext hEntries⟩

theorem get?_eq_of_bare_eq {tables tables' : Keyed Table}
    (hBare : tables'.mapValues Table.bare = tables.mapValues Table.bare) {name : String}
    (hEntries : entriesOf tables' name = entriesOf tables name) :
    tables'.get? name = tables.get? name := by
  have hGet := get?_map_bare_of_bare_eq hBare name
  cases hTable : tables.get? name with
  | none => simpa [hTable] using hGet
  | some table =>
    rw [hTable, Option.map_some] at hGet
    obtain ⟨table', hTable', hBareEq⟩ := Option.map_eq_some_iff.mp hGet
    rw [entriesOf_of_get? hTable, entriesOf_of_get? hTable'] at hEntries
    rw [hTable', Table.eq_of_bare_eq hBareEq hEntries]

namespace Registered

variable {tables next : Keyed Table} {proposal : Proposal} {name : String}

theorem appended (h : Registered tables proposal name next) :
    Appended tables proposal.owner name proposal.relationship next := by
  have hBare := h.bare_eq
  obtain ⟨table, hTable, hFree, rfl⟩ := h
  have hNext : (tables.insert proposal.owner (table.relate name proposal.relationship)).get?
      proposal.owner = some (table.relate name proposal.relationship) := by
    simp [Keyed.get?_insert]
  refine ⟨?_, ?_, ?_, hBare⟩
  · rw [map_fst_entriesOf hTable]
    exact Keyed.contains_eq_false_iff_not_mem.mp hFree
  · rw [entriesOf_of_get? hTable, entriesOf_of_get? hNext]
    exact Keyed.entries_insert_of_not_contains hFree _
  · intro other hOther
    simp only [entriesOf, Keyed.get?_insert, if_neg hOther]

end Registered

/-- To register is to append one entry. -/
theorem registered_iff_appended {tables next : Keyed Table} {proposal : Proposal} {name : String} :
    Registered tables proposal name next ↔
      Appended tables proposal.owner name proposal.relationship next := by
  constructor
  · exact Registered.appended
  · intro h
    obtain ⟨table, hTable⟩ : ∃ table, tables.get? proposal.owner = some table := by
      have hGet := get?_map_bare_of_bare_eq h.bare_eq proposal.owner
      cases hTable : tables.get? proposal.owner with
      | some table => exact ⟨table, rfl⟩
      | none =>
        have hEntries := h.entries_owner
        rw [hTable, Option.map_none, Option.map_eq_none_iff] at hGet
        simp [entriesOf, hTable, hGet] at hEntries
    have hFree : table.relationships.contains name = false := by
      have hFresh := h.fresh
      rw [map_fst_entriesOf hTable] at hFresh
      exact Keyed.contains_eq_false_iff_not_mem.mpr hFresh
    let written := tables.insert proposal.owner (table.relate name proposal.relationship)
    have hWritten : Registered tables proposal name written := ⟨table, hTable, hFree, rfl⟩
    have hBare : next.mapValues Table.bare = written.mapValues Table.bare :=
      h.bare_eq.trans hWritten.bare_eq.symm
    have hEntries : ∀ owner, entriesOf next owner = entriesOf written owner := by
      intro owner
      by_cases hOwner : owner = proposal.owner
      · rw [hOwner, h.entries_owner, hWritten.appended.entries_owner]
      · rw [h.entries_other owner hOwner, hWritten.appended.entries_other owner hOwner]
    have hEq : next = written := by
      refine Keyed.ext_get? ?_ fun owner => get?_eq_of_bare_eq hBare (hEntries owner)
      rw [← Keyed.keys_mapValues next Table.bare, hBare, Keyed.keys_mapValues]
    exact hEq ▸ hWritten

/-! ## One name -/

variable {σ : Type} {policy : Policy σ}

/-- The question about a proposal whose name is taken on its owner: the name, and all names that are
registered on the table, in order. -/
def Table.question (table : Table) (proposal : Proposal) : Collision where
  table := proposal.owner
  proposed := proposal.name
  existing := table.relationships.keys

/-- How the name of a proposed relationship is settled: with which questions to the policy, with
which name or stop, and with what the policy's state becomes. -/
inductive Settles (policy : Policy σ) (table : Table) (proposal : Proposal) (state : σ) :
    List Collision → Except Stop String → σ → Prop
  /-- a free name is kept without a question -/
  | kept (hFree : proposal.name ∉ table.relationships.keys) :
      Settles policy table proposal state [] (.ok proposal.name) state
  /-- for a taken name the policy gives another one that is free -/
  | renamed {answer : String} {after : σ} (hTaken : proposal.name ∈ table.relationships.keys)
      (hAnswer : policy.resolve (table.question proposal) state = (.ok answer, after))
      (hNonempty : answer ≠ "") (hFree : answer ∉ table.relationships.keys) :
      Settles policy table proposal state [table.question proposal] (.ok answer) after
  /-- for a taken name the policy gives one that cannot be used -/
  | refused {answer : String} {after : σ} (hTaken : proposal.name ∈ table.relationships.keys)
      (hAnswer : policy.resolve (table.question proposal) state = (.ok answer, after))
      (hUnusable : answer = "" ∨ answer ∈ table.relationships.keys) :
      Settles policy table proposal state [table.question proposal]
        (.error (.fault (.nameTaken proposal.owner answer))) after
  /-- for a taken name the policy fails -/
  | failed {fault : Fault} {after : σ} (hTaken : proposal.name ∈ table.relationships.keys)
      (hAnswer : policy.resolve (table.question proposal) state = (.error fault, after)) :
      Settles policy table proposal state [table.question proposal] (.error (.fault fault)) after

namespace Settles

variable {table : Table} {proposal : Proposal} {state after : σ} {asked : List Collision}
  {outcome : Except Stop String}

theorem result_eq (h : Settles policy table proposal state asked outcome after) :
    (freeName policy table proposal).result state = (outcome, after) := by
  unfold freeName
  cases h with
  | kept hFree => simp [Keyed.contains_eq_false_iff_not_mem.mpr hFree]
  | renamed hTaken hAnswer hNonempty hFree =>
    rw [Table.question] at hAnswer
    simp [Keyed.contains_iff.mpr hTaken, Build.result_bind, Build.result_consult, hAnswer,
      hNonempty, Keyed.contains_eq_false_iff_not_mem.mpr hFree]
  | refused hTaken hAnswer hUnusable =>
    rw [Table.question] at hAnswer
    rw [← Keyed.contains_iff] at hUnusable
    simp [Keyed.contains_iff.mpr hTaken, Build.result_bind, Build.result_consult, hAnswer,
      hUnusable]
  | failed hTaken hAnswer =>
    rw [Table.question] at hAnswer
    simp [Keyed.contains_iff.mpr hTaken, Build.result_bind, Build.result_consult, hAnswer]

/-- A settled name is free on its owner. -/
theorem fresh {name : String} (h : Settles policy table proposal state asked (.ok name) after) :
    name ∉ table.relationships.keys := by
  cases h with
  | kept hFree => exact hFree
  | renamed hTaken hAnswer hNonempty hFree => exact hFree

/-- A policy that keeps its questions answers alike, and then knows one more question if there was
one. -/
theorem recorded (h : Settles policy table proposal state asked outcome after)
    (log : List Collision) :
    Settles policy.recorded table proposal (state, log) asked outcome (after, log ++ asked) := by
  cases h with
  | kept hFree =>
    rw [List.append_nil]
    exact .kept hFree
  | renamed hTaken hAnswer hNonempty hFree =>
    exact .renamed hTaken (by simp only [Policy.recorded, hAnswer]) hNonempty hFree
  | refused hTaken hAnswer hUnusable =>
    exact .refused hTaken (by simp only [Policy.recorded, hAnswer]) hUnusable
  | failed hTaken hAnswer =>
    exact .failed hTaken (by simp only [Policy.recorded, hAnswer])

end Settles

/-- Every policy settles every proposal. -/
theorem exists_settles (policy : Policy σ) (table : Table) (proposal : Proposal) (state : σ) :
    ∃ asked outcome after, Settles policy table proposal state asked outcome after := by
  by_cases hTaken : proposal.name ∈ table.relationships.keys
  · cases hAnswer : policy.resolve (table.question proposal) state with
    | mk answer after =>
      cases answer with
      | error fault => exact ⟨_, _, _, .failed hTaken hAnswer⟩
      | ok answer =>
        by_cases hUnusable : answer = "" ∨ answer ∈ table.relationships.keys
        · exact ⟨_, _, _, .refused hTaken hAnswer hUnusable⟩
        · rw [not_or] at hUnusable
          exact ⟨_, _, _, .renamed hTaken hAnswer hUnusable.1 hUnusable.2⟩
  · exact ⟨_, _, _, .kept hTaken⟩

/-! ## Many registrations -/

/-- Registrations that succeed, one after another: the tables and the policy's state before them,
the proposals, the questions that are put to the policy on the way, and the tables and the state
after them. -/
inductive Registrations (policy : Policy σ) :
    Keyed Table → σ → List Proposal → List Collision → Keyed Table → σ → Prop
  | nil {tables : Keyed Table} {state : σ} : Registrations policy tables state [] [] tables state
  | cons {tables next final : Keyed Table} {state middle after : σ} {proposal : Proposal}
      {rest : List Proposal} {asked more : List Collision} {table : Table} {name : String}
      (hOwner : tables.get? proposal.owner = some table)
      (hName : Settles policy table proposal state asked (.ok name) middle)
      (hAppended : Appended tables proposal.owner name proposal.relationship next)
      (hRest : Registrations policy next middle rest more final after) :
      Registrations policy tables state (proposal :: rest) (asked ++ more) final after

/-- What `register` does where the owner of a proposal is known. -/
theorem result_register {tables : Keyed Table} {proposal : Proposal} {table : Table}
    (hOwner : tables.get? proposal.owner = some table) {state after : σ} {asked : List Collision}
    {outcome : Except Stop String} (h : Settles policy table proposal state asked outcome after) :
    (register policy tables proposal).result state =
      (outcome.map fun name =>
        tables.insert proposal.owner (table.relate name proposal.relationship), after) := by
  simp only [register, hOwner]
  rw [Build.result_bind, h.result_eq]
  cases outcome <;> rfl

namespace Registrations

variable {tables final : Keyed Table} {state after : σ} {done : List Proposal}
  {asked : List Collision}

theorem result_foldlM (h : Registrations policy tables state done asked final after)
    (rest : List (Except Stop Proposal)) :
    ((done.map Except.ok ++ rest).foldlM (registerNext policy) tables).result state =
      (rest.foldlM (registerNext policy) final).result after := by
  induction h with
  | nil => rfl
  | @cons tables next final state between after proposal rest asked more table name hOwner hName
      hAppended _ ih =>
    obtain ⟨table', hTable', hFree, rfl⟩ := registered_iff_appended.mpr hAppended
    have hEq : table = table' := Option.some.inj (hOwner.symm.trans hTable')
    subst hEq
    rw [List.map_cons, List.cons_append, List.foldlM_cons, Build.result_bind,
      result_registerNext_ok, result_register hOwner hName]
    exact ih

/-- What every registration keeps, all of them keep. -/
theorem induction {P : Keyed Table → Prop}
    (h : Registrations policy tables state done asked final after) (hStart : P tables)
    (hStep : ∀ before proposal name next, P before → proposal ∈ done →
      Appended before proposal.owner name proposal.relationship next → P next) : P final := by
  induction h with
  | nil => exact hStart
  | cons hOwner hName hAppended _ ih =>
    refine ih (hStep _ _ _ _ hStart List.mem_cons_self hAppended) ?_
    intro before proposal name next hBefore hMem
    exact hStep before proposal name next hBefore (List.mem_cons_of_mem _ hMem)

theorem bare_eq (h : Registrations policy tables state done asked final after) :
    final.mapValues Table.bare = tables.mapValues Table.bare :=
  h.induction (P := fun reached => reached.mapValues Table.bare = tables.mapValues Table.bare) rfl
    fun _ _ _ _ hBefore _ hAppended => hAppended.bare_eq.trans hBefore

theorem keys_eq (h : Registrations policy tables state done asked final after) :
    final.keys = tables.keys := by
  rw [← Keyed.keys_mapValues final Table.bare, h.bare_eq, Keyed.keys_mapValues]

/-- Without their names, the relationships of a table are those it had before, and then those that
were proposed for it, in order. -/
theorem values_eq (h : Registrations policy tables state done asked final after) (owner : String) :
    (entriesOf final owner).map Prod.snd = (entriesOf tables owner).map Prod.snd ++
      (done.filter fun proposal => proposal.owner = owner).map Proposal.relationship := by
  induction h with
  | nil => simp
  | @cons tables next final state between after proposal rest asked more table name _ _ hAppended _
      ih =>
    rw [ih]
    by_cases hOwner : proposal.owner = owner
    · subst hOwner
      simp [hAppended.entries_owner]
    · simp [hAppended.entries_other owner (Ne.symm hOwner), hOwner]

/-- A policy that keeps its questions takes the same course, and keeps its questions. -/
theorem recorded (h : Registrations policy tables state done asked final after)
    (log : List Collision) :
    Registrations policy.recorded tables (state, log) done asked final (after, log ++ asked) := by
  induction h generalizing log with
  | nil =>
    rw [List.append_nil]
    exact .nil
  | cons hOwner hName hAppended _ ih =>
    rw [← List.append_assoc]
    exact .cons hOwner (hName.recorded log) hAppended (ih _)

end Registrations

/-! ## A list of proposals -/

/-- How a list of proposals is worked off, with the questions that are put to the policy on the way.
A proposal may have no name to begin with, so that it is an outcome of its own. -/
inductive DirectCourse (policy : Policy σ) (tables : Keyed Table) (state : σ)
    (pending : List (Except Stop Proposal)) :
    List Collision → Except Stop (Keyed Table) → σ → Prop
  /-- the conventional name of a relationship cannot be formed -/
  | unformed {done : List Proposal} {stop : Stop} {rest : List (Except Stop Proposal)}
      {asked : List Collision} {reached : Keyed Table} {after : σ}
      (hPending : pending = done.map Except.ok ++ .error stop :: rest)
      (hDone : Registrations policy tables state done asked reached after) :
      DirectCourse policy tables state pending asked (.error stop) after
  /-- no name is found for a relationship -/
  | unsettled {done : List Proposal} {proposal : Proposal} {rest : List (Except Stop Proposal)}
      {asked question : List Collision} {reached : Keyed Table} {table : Table} {stop : Stop}
      {middle after : σ}
      (hPending : pending = done.map Except.ok ++ .ok proposal :: rest)
      (hDone : Registrations policy tables state done asked reached middle)
      (hOwner : reached.get? proposal.owner = some table)
      (hStop : Settles policy table proposal middle question (.error stop) after) :
      DirectCourse policy tables state pending (asked ++ question) (.error stop) after
  /-- every relationship is registered -/
  | completed {done : List Proposal} {asked : List Collision} {final : Keyed Table} {after : σ}
      (hPending : pending = done.map Except.ok)
      (hDone : Registrations policy tables state done asked final after) :
      DirectCourse policy tables state pending asked (.ok final) after

namespace DirectCourse

variable {tables : Keyed Table} {state after : σ} {pending : List (Except Stop Proposal)}
  {asked : List Collision} {outcome : Except Stop (Keyed Table)}

theorem result_eq (h : DirectCourse policy tables state pending asked outcome after) :
    (pending.foldlM (registerNext policy) tables).result state = (outcome, after) := by
  cases h with
  | unformed hPending hDone =>
    rw [hPending, hDone.result_foldlM, List.foldlM_cons, Build.result_bind,
      result_registerNext_error]
  | unsettled hPending hDone hOwner hStop =>
    rw [hPending, hDone.result_foldlM, List.foldlM_cons, Build.result_bind, result_registerNext_ok,
      result_register hOwner hStop]
    rfl
  | completed hPending hDone =>
    rw [hPending, ← List.append_nil (List.map _ _), hDone.result_foldlM]
    rfl

theorem recorded (h : DirectCourse policy tables state pending asked outcome after)
    (log : List Collision) :
    DirectCourse policy.recorded tables (state, log) pending asked outcome
      (after, log ++ asked) := by
  cases h with
  | unformed hPending hDone => exact .unformed hPending (hDone.recorded log)
  | unsettled hPending hDone hOwner hStop =>
    rw [← List.append_assoc]
    exact .unsettled hPending (hDone.recorded log) hOwner (hStop.recorded _)
  | completed hPending hDone => exact .completed hPending (hDone.recorded log)

/-- One registration before the others. -/
theorem cons {next : Keyed Table} {middle : σ} {proposal : Proposal} {first : List Collision}
    {table : Table} {name : String} (hOwner : tables.get? proposal.owner = some table)
    (hName : Settles policy table proposal state first (.ok name) middle)
    (hAppended : Appended tables proposal.owner name proposal.relationship next)
    (h : DirectCourse policy next middle pending asked outcome after) :
    DirectCourse policy tables state (.ok proposal :: pending) (first ++ asked) outcome after := by
  cases h with
  | unformed hPending hDone =>
    exact .unformed (by rw [hPending]; rfl) (.cons hOwner hName hAppended hDone)
  | unsettled hPending hDone hOwner' hStop =>
    rw [← List.append_assoc]
    exact .unsettled (by rw [hPending]; rfl) (.cons hOwner hName hAppended hDone) hOwner' hStop
  | completed hPending hDone =>
    exact .completed (by rw [hPending]; rfl) (.cons hOwner hName hAppended hDone)

end DirectCourse

/-- Proposals for known tables are worked off in one way or another. -/
theorem exists_directCourse (policy : Policy σ) :
    ∀ (pending : List (Except Stop Proposal)) (tables : Keyed Table) (state : σ),
      (∀ proposal, .ok proposal ∈ pending → proposal.owner ∈ tables.keys) →
      ∃ asked outcome after, DirectCourse policy tables state pending asked outcome after := by
  intro pending
  induction pending with
  | nil =>
    intro tables state _
    exact ⟨_, _, _, .completed (by rfl) .nil⟩
  | cons first rest ih =>
    intro tables state hKnown
    cases first with
    | error stop => exact ⟨_, _, _, .unformed (by rfl) .nil⟩
    | ok proposal =>
      obtain ⟨table, hOwner⟩ := Keyed.mem_keys_iff.mp (hKnown proposal List.mem_cons_self)
      obtain ⟨first, outcome, middle, hSettles⟩ := exists_settles policy table proposal state
      cases outcome with
      | error stop => exact ⟨_, _, _, .unsettled (by rfl) .nil hOwner hSettles⟩
      | ok name =>
        have hFree := Keyed.contains_eq_false_iff_not_mem.mpr hSettles.fresh
        have hRegistered : Registered tables proposal name
          (tables.insert proposal.owner (table.relate name proposal.relationship)) :=
          ⟨table, hOwner, hFree, rfl⟩
        obtain ⟨asked, outcome, after, hRest⟩ := ih _ middle fun other hOther => by
          rw [hRegistered.keys_eq]
          exact hKnown other (List.mem_cons_of_mem _ hOther)
        exact ⟨_, _, _, hRest.cons hOwner hSettles hRegistered.appended⟩

/-! ## Registrations of relationships over others -/

/-- The second pass registers what it adds without a question. -/
theorem ThroughRun.registrations {tables final : Keyed Table} {additions : List Proposal}
    (h : ThroughRun tables additions final) (policy : Policy σ) (state : σ) :
    Registrations policy tables state additions [] final state := by
  induction h with
  | done _ => exact .nil
  | add hFound hAdded _ ih =>
    have hAppended := hAdded.appended
    obtain ⟨table, hOwner, hFree, -⟩ := hAdded
    exact .cons hOwner (.kept (Keyed.contains_eq_false_iff_not_mem.mp hFree)) hAppended ih

end SchemaScaffold
