import SchemaScaffold.Proofs.Assembly.Acceptance

/-!
# What policies agree on

Until the first name is taken, a build asks nothing, so that it does the same under every policy.
What becomes of it up to there depends on the document and the separator alone.

* `Registrations.alike`, `Course.alike`: what goes without a question goes alike under every policy.
* `Prospect`: a defect, a name that cannot be formed, a schema, or a first question.
* `Settled`, `AsksFirst`: every policy ends a build in the same way without being asked, or every
  policy is asked the same question first.
* `resolve_agrees`: every document has exactly one prospect, which holds under all policies. A name
  that cannot be formed has to be one of them (`not_agrees_without_names`).
-/

namespace SchemaScaffold

/-! ## Builds without questions -/

section

variable {σ τ : Type} {policy : Policy σ}

theorem Settles.of_not_asked {table : Table} {proposal : Proposal} {state after : σ}
    {outcome : Except Stop String} (h : Settles policy table proposal state [] outcome after) :
    proposal.name ∉ table.relationships.keys ∧ outcome = .ok proposal.name ∧ after = state := by
  cases h with
  | kept hFree => exact ⟨hFree, rfl, rfl⟩

theorem Registrations.alike {tables final : Keyed Table} {state after : σ} {done : List Proposal}
    {asked : List Collision} (h : Registrations policy tables state done asked final after)
    (hAsked : asked = []) (other : Policy τ) (start : τ) :
    Registrations other tables start done [] final start := by
  induction h with
  | nil => exact .nil
  | cons hOwner hName hAppended _ ih =>
    obtain ⟨rfl, rfl⟩ := List.append_eq_nil_iff.mp hAsked
    obtain ⟨hFree, hKept, -⟩ := hName.of_not_asked
    obtain rfl := Except.ok.inj hKept
    exact .cons hOwner (.kept hFree) hAppended (ih rfl)

theorem DirectCourse.alike {tables : Keyed Table} {state after : σ}
    {pending : List (Except Stop Proposal)} {outcome : Except Stop (Keyed Table)}
    (h : DirectCourse policy tables state pending [] outcome after) (other : Policy τ) (start : τ) :
    DirectCourse other tables start pending [] outcome start := by
  generalize hAsked : ([] : List Collision) = asked at h
  cases h with
  | unformed hPending hDone => exact hAsked ▸ .unformed hPending (hDone.alike hAsked.symm _ _)
  | unsettled hPending hDone hOwner hStop =>
    -- a build that stops at a name has asked about it
    obtain ⟨rfl, -⟩ := hStop.blocks
    simp at hAsked
  | completed hPending hDone => exact hAsked ▸ .completed hPending (hDone.alike hAsked.symm _ _)

/-- A build without a question takes the same course under every policy. -/
theorem Course.alike {separator : String} {document : Document} {state after : σ}
    {outcome : Except Stop Schema}
    (h : Course separator policy document state [] outcome after) (other : Policy τ) (start : τ) :
    Course separator other document start [] outcome start := by
  cases h with
  | unassembled hTables => exact .unassembled hTables
  | unresolved hTables hEdges => exact .unresolved hTables hEdges
  | stopped hTables hEdges hDirect => exact .stopped hTables hEdges (hDirect.alike other start)
  | completed hTables hEdges hDirect hRun _ =>
    exact .completed hTables hEdges (hDirect.alike other start) hRun (hRun.registrations _ _)

/-! ## Builds that refuse every taken name -/

/-- Where every taken name is refused, registrations that succeed need no question. -/
theorem Registrations.asked_eq_nil {tables final : Keyed Table} {state after : σ}
    {done : List Proposal} {asked : List Collision}
    (h : Registrations .reject tables state done asked final after) : asked = [] := by
  induction h with
  | nil => rfl
  | cons hOwner hName hAppended _ ih =>
    rw [ih, List.append_nil]
    cases hName with
    | kept hFree => rfl
    | renamed hTaken hAnswer => cases hAnswer

/-! ## The first question -/

theorem Policy.Blocks.settles {table : Table} {proposal : Proposal} {state after : σ} {stop : Stop}
    (hTaken : proposal.name ∈ table.relationships.keys)
    (h : policy.Blocks (table.question proposal) state stop after) :
    Settles policy table proposal state [table.question proposal] (.error stop) after := by
  cases h with
  | failed hAnswer => exact .failed hTaken hAnswer
  | unusable hAnswer hUnusable => exact .refused hTaken hAnswer hUnusable

theorem Registrations.directCourse {tables reached : Keyed Table} {state middle after : σ}
    {done : List Proposal} {pending : List (Except Stop Proposal)} {asked more : List Collision}
    {outcome : Except Stop (Keyed Table)}
    (h : Registrations policy tables state done asked reached middle)
    (hRest : DirectCourse policy reached middle pending more outcome after) :
    DirectCourse policy tables state (done.map Except.ok ++ pending) (asked ++ more) outcome
      after := by
  induction h with
  | nil => exact hRest
  | cons hOwner hName hAppended _ ih =>
    rw [List.append_assoc]
    exact (ih hRest).cons hOwner hName hAppended

/-- A taken name is the first question about the proposals from it on. -/
theorem exists_directCourse_of_taken (policy : Policy σ) {tables : Keyed Table} {table : Table}
    {proposal : Proposal} (hOwner : tables.get? proposal.owner = some table)
    (hTaken : proposal.name ∈ table.relationships.keys) {rest : List (Except Stop Proposal)}
    (hKnown : ∀ other, .ok other ∈ rest → other.owner ∈ tables.keys) (state : σ) :
    ∃ more outcome after, DirectCourse policy tables state (.ok proposal :: rest)
      (table.question proposal :: more) outcome after := by
  obtain ⟨asked, answer, middle, hSettles⟩ := exists_settles policy table proposal state
  have hAsked : asked = [table.question proposal] := by
    cases hSettles with
    | kept hFree => exact absurd hTaken hFree
    | renamed | refused | failed => rfl
  subst hAsked
  cases answer with
  | error stop =>
    have hDone : Registrations policy tables state [] [] tables state := .nil
    exact ⟨[], _, _, .unsettled (by rfl) hDone hOwner hSettles⟩
  | ok name =>
    have hRegistered : Registered tables proposal name
        (tables.insert proposal.owner (table.relate name proposal.relationship)) :=
      ⟨table, hOwner, Keyed.contains_eq_false_iff_not_mem.mpr hSettles.fresh, rfl⟩
    obtain ⟨more, outcome, after, hRest⟩ :=
      exists_directCourse policy rest _ middle fun other hOther => by
        rw [hRegistered.keys_eq]
        exact hKnown other hOther
    exact ⟨more, outcome, after, hRest.cons hOwner hSettles hRegistered.appended⟩

end

/-! ## Prospects -/

/-- What the policies have nothing to say about: a build that ends before the first question, or
that question. -/
inductive Prospect where
  /-- the document has a defect -/
  | defective (fault : Fault)
  /-- a name that the conventions ask for cannot be formed -/
  | unnameable (table : String)
  /-- no name is taken -/
  | accepted (schema : Schema)
  /-- a name is taken -/
  | collision (question : Collision)

/-- Every policy, from any state, ends the build with the outcome. It is asked nothing, and its
state is left as it was. -/
def Settled (separator : String) (document : Document) (outcome : Except Stop Schema) : Prop :=
  ∀ (σ : Type) (policy : Policy σ) (state : σ),
    (resolve separator policy document).result state = (outcome, state) ∧
      (resolve separator policy.recorded document).result (state, []) = (outcome, state, [])

/-- Every policy, from any state, is asked the question first, which is about a taken name. Refusing
every taken name stops the build there; so does any answer to it that is a fault or no free name,
and then nothing else is asked. -/
structure AsksFirst (separator : String) (document : Document) (question : Collision) : Prop where
  taken : question.proposed ∈ question.existing
  rejected : (resolve separator (.reject : Policy Unit) document).result () =
    (.error (.fault (.nameTaken question.table question.proposed)), ())
  asked : ∀ (σ : Type) (policy : Policy σ) (state : σ), ∃ more outcome after,
    (resolve separator policy.recorded document).result (state, []) =
      (outcome, after, question :: more)
  blocked : ∀ (σ : Type) (policy : Policy σ) (state : σ) (stop : Stop) (after : σ),
    policy.Blocks question state stop after →
      (resolve separator policy document).result state = (.error stop, after) ∧
      (resolve separator policy.recorded document).result (state, []) =
        (.error stop, after, [question])

/-- What a prospect says of a document. -/
def Prospect.Holds (separator : String) (document : Document) : Prospect → Prop
  | .defective fault =>
    document.Defect fault ∧ Settled separator document (.error (.fault fault))
  | .unnameable table =>
    (∃ decl ∈ document.tables, decl.name = table ∧ ¬ Naming.Inflects table) ∧
      Settled separator document (.error (.unnameable table))
  | .accepted schema => document.IsValid ∧ Settled separator document (.ok schema)
  | .collision question => document.IsValid ∧ AsksFirst separator document question

section

variable {separator : String} {document : Document}

theorem Course.settled {outcome : Except Stop Schema}
    (h : Course separator (.reject : Policy Unit) document () [] outcome ()) :
    Settled separator document outcome := by
  intro σ policy state
  have hCourse := h.alike policy state
  exact ⟨hCourse.result_eq, (hCourse.recorded []).result_eq⟩

/-- The first pass stops at a taken name, if it stops under the policy that refuses all of them. -/
theorem asksFirst_of_unsettled {registry : Registry} {tables reached : Keyed Table}
    {edges : List Edge} {done : List Proposal} {proposal : Proposal}
    {rest : List (Except Stop Proposal)} {asked : List Collision} {table : Table}
    (hTables : assembleTables separator document = .ok (registry, tables))
    (hEdges : document.relations.mapM (Edge.ofDecl registry) = .ok edges)
    (hPending : proposals tables edges = done.map Except.ok ++ .ok proposal :: rest)
    (hDone : Registrations (.reject : Policy Unit) tables () done asked reached ())
    (hOwner : reached.get? proposal.owner = some table)
    (hTaken : proposal.name ∈ table.relationships.keys) :
    AsksFirst separator document (table.question proposal) := by
  obtain ⟨-, -, hAssembled⟩ := assembleTables_eq_ok_iff.mp hTables
  have hKnown : ∀ other, .ok other ∈ rest → other.owner ∈ reached.keys := by
    intro other hOther
    rw [hDone.keys_eq]
    refine hAssembled.owner_mem hEdges ?_
    rw [hPending]
    exact List.mem_append_right _ (List.mem_cons_of_mem _ hOther)
  have hBlocked : ∀ (σ : Type) (policy : Policy σ) (state : σ) (stop : Stop) (after : σ),
      policy.Blocks (table.question proposal) state stop after →
        Course separator policy document state [table.question proposal] (.error stop) after := by
    intro σ policy state stop after hBlocks
    exact .stopped hTables hEdges
      (.unsettled hPending (hDone.alike hDone.asked_eq_nil policy state) hOwner
        (hBlocks.settles hTaken))
  refine ⟨hTaken, (hBlocked Unit .reject () _ () (.failed rfl)).result_eq, ?_, ?_⟩
  · intro σ policy state
    obtain ⟨more, outcome, after, hFrom⟩ :=
      exists_directCourse_of_taken policy hOwner hTaken hKnown state
    have hDirect := (hDone.alike hDone.asked_eq_nil policy state).directCourse hFrom
    rw [← hPending, List.nil_append] at hDirect
    cases outcome with
    | error stop =>
      have hCourse : Course separator policy document state _ _ _ :=
        .stopped hTables hEdges hDirect
      exact ⟨more, _, _, (hCourse.recorded []).result_eq⟩
    | ok direct =>
      obtain ⟨additions, final, -, hRun⟩ := relateThrough_run policy direct after
      have hCourse : Course separator policy document state _ _ _ :=
        .completed hTables hEdges hDirect hRun (hRun.registrations policy after)
      exact ⟨more, _, _, (hCourse.recorded []).result_eq⟩
  · intro σ policy state stop after hBlocks
    have hCourse := hBlocked σ policy state stop after hBlocks
    exact ⟨hCourse.result_eq, (hCourse.recorded []).result_eq⟩

theorem not_inflects_of_modelName_eq_none {table : String} (h : Naming.modelName table = none) :
    ¬ Naming.Inflects table := by
  intro hInflects
  have hSome := hInflects.isSome_modelName
  rw [h] at hSome
  cases hSome

theorem Course.exists_prospect {asked : List Collision} {outcome : Except Stop Schema}
    (h : Course separator (.reject : Policy Unit) document () asked outcome ()) :
    ∃ prospect : Prospect, prospect.Holds separator document := by
  cases h with
  | @unassembled stop hTables =>
    have hCourse : Course separator (.reject : Policy Unit) document () [] (.error stop) () :=
      .unassembled hTables
    have hSettled := hCourse.settled
    rcases assembleTables_error hTables with ⟨fault, rfl, hDefect⟩ | ⟨decl, hDecl, rfl, hNone⟩
    · exact ⟨.defective fault, hDefect, hSettled⟩
    · exact ⟨.unnameable decl.name,
        ⟨decl, hDecl, rfl, not_inflects_of_modelName_eq_none hNone⟩, hSettled⟩
  | @unresolved _ _ stop hTables hEdges =>
    obtain ⟨-, -, hAssembled⟩ := assembleTables_eq_ok_iff.mp hTables
    have hCourse : Course separator (.reject : Policy Unit) document () [] (.error stop) () :=
      .unresolved hTables hEdges
    have hSettled := hCourse.settled
    obtain ⟨fault, rfl, hDefect⟩ := hAssembled.mapM_ofDecl_defect hEdges
    exact ⟨.defective fault, hDefect, hSettled⟩
  | @stopped registry tables edges stop asked after hTables hEdges hDirect =>
    obtain ⟨hValid, -, hAssembled⟩ := assembleTables_eq_ok_iff.mp hTables
    cases hDirect with
    | @unformed done stop rest asked reached after hPending hDone =>
      have hStop : .error stop ∈ proposals tables edges := by simp [hPending]
      obtain ⟨name, hName, rfl, hUnknown⟩ :=
        unnameable_of_mem_proposals (hAssembled.isKnown hEdges) hStop
      obtain ⟨table, hTable⟩ := Keyed.mem_keys_iff.mp hName
      obtain ⟨decl, hDecl, rfl, -⟩ := hAssembled.get?_eq_some_iff.mp hTable
      obtain rfl := hDone.asked_eq_nil
      exact ⟨.unnameable decl.name, ⟨decl, hDecl, rfl, hUnknown⟩,
        (Course.stopped hTables hEdges (.unformed hPending hDone)).settled⟩
    | @unsettled done proposal rest asked question reached table stop middle after hPending hDone
        hOwner hStop =>
      have hDeclared := (hAssembled.exists_edges_iff hValid).mp ⟨_, hEdges⟩
      refine ⟨.collision (table.question proposal), hDeclared,
        asksFirst_of_unsettled hTables hEdges hPending hDone hOwner ?_⟩
      cases hStop with
      | refused hTaken => exact hTaken
      | failed hTaken => exact hTaken
  | completed hTables hEdges hDirect hRun hThrough =>
    obtain ⟨hValid, -, hAssembled⟩ := assembleTables_eq_ok_iff.mp hTables
    have hDeclared := (hAssembled.exists_edges_iff hValid).mp ⟨_, hEdges⟩
    cases hDirect with
    | completed hPending hDone =>
      obtain rfl := hDone.asked_eq_nil
      exact ⟨.accepted _, hDeclared,
        (Course.completed hTables hEdges (.completed hPending hDone) hRun hThrough).settled⟩

/-! ## One prospect for each document -/

theorem Prospect.Holds.recorded {prospect : Prospect} (h : prospect.Holds separator document) :
    ∃ more outcome, (resolve separator (Policy.reject : Policy Unit).recorded document).result
        ((), []) = (outcome, (), more) ∧
      match prospect with
      | .defective fault => outcome = .error (.fault fault) ∧ more = []
      | .unnameable table => outcome = .error (.unnameable table) ∧ more = []
      | .accepted schema => outcome = .ok schema ∧ more = []
      | .collision question => more.head? = some question := by
  cases prospect with
  | defective fault => exact ⟨_, _, (h.2 Unit .reject ()).2, rfl, rfl⟩
  | unnameable table => exact ⟨_, _, (h.2 Unit .reject ()).2, rfl, rfl⟩
  | accepted schema => exact ⟨_, _, (h.2 Unit .reject ()).2, rfl, rfl⟩
  | collision question =>
    obtain ⟨more, outcome, after, hAsked⟩ := h.2.asked Unit .reject ()
    exact ⟨_, _, hAsked, rfl⟩

theorem Prospect.Holds.unique {prospect other : Prospect}
    (h : prospect.Holds separator document) (hOther : other.Holds separator document) :
    prospect = other := by
  obtain ⟨more, outcome, hResult, hSays⟩ := h.recorded
  obtain ⟨more', outcome', hResult', hSays'⟩ := hOther.recorded
  rw [hResult, Prod.mk.injEq, Prod.mk.injEq] at hResult'
  obtain ⟨rfl, -, rfl⟩ := hResult'
  cases prospect <;> cases other <;> grind

/-- **Policies agree up to the first collision.** Every document has exactly one prospect, and it is
the same for every policy and whatever its state. Either the document has a defect, or a name that
the conventions ask for cannot be formed, or the document is valid and no name is taken: then every
policy ends the build with the same fault, stop or schema, without being asked. Or the document is
valid and every policy is first asked the same question, about the same table, name and existing
names: then the policy that refuses every taken name stops there, and so does any policy whose
answer is a fault, with this fault. -/
theorem resolve_agrees (separator : String) (document : Document) :
    ∃! prospect : Prospect, prospect.Holds separator document := by
  obtain ⟨asked, outcome, after, hCourse⟩ :=
    exists_course separator (.reject : Policy Unit) document ()
  obtain ⟨prospect, hHolds⟩ := hCourse.exists_prospect
  exact ⟨prospect, hHolds, fun other hOther => hOther.unique hHolds⟩

end

/-- A table whose model has no name: the singular of `𝐀bXéese` cannot be put behind the capital. -/
def alphabets : Document where
  tables := [⟨"1", "𝐀b xéese", false, false⟩]
  columns := .ofList [("1", [{ id := "11", name := "id" }])]
  relations := []

/-- A document can be valid and yet have no schema and no first question. -/
theorem not_agrees_without_names :
    alphabets.IsValid ∧ (∀ schema, ¬ Settled "_" alphabets (.ok schema)) ∧
      ∀ question, ¬ AsksFirst "_" alphabets question := by
  have hStop : (resolve "_" (.reject : Policy Unit) alphabets).result () =
      (.error (.unnameable "𝐀b xéese"), ()) := by
    decide +kernel
  refine ⟨?_, ?_, ?_⟩
  · exact {
      tableNames := by decide
      tableIds := by decide
      columnLists := fun _ => Iff.rfl
      columnNames := by decide
      columnIds := by decide
      endpoints := by decide }
  · intro schema hSettled
    have hSchema := (hSettled Unit .reject ()).1
    rw [hStop] at hSchema
    cases hSchema
  · intro question hAsks
    have hRejected := hAsks.rejected
    rw [hStop] at hRejected
    cases hRejected

end SchemaScaffold
