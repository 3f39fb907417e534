import SchemaScaffold.Proofs.Assembly.Edges
import SchemaScaffold.Proofs.Assembly.Integrity
import SchemaScaffold.Proofs.Relationships.Transcript

/-!
# The course of a build

A build takes one of four courses. It stops at the tables, or at the ends of the relations, before
any relationship is registered; it stops in the first pass, at a name; or it registers all
relationships of both passes and comes to an end.

* `Course`: the courses, with the questions that are put to the policy on the way.
* `Course.result_eq`, `exists_course`: every build takes one, and ends as it does.
* `resolve_appends`: so every build is a transcript of registrations, and nothing is ever lost from
  the tables.
-/

namespace SchemaScaffold

variable {σ : Type}

/-- What can happen in a build under a policy that starts from a state: the questions that are put
to the policy, the outcome, and what the policy's state becomes. -/
inductive Course (separator : String) (policy : Policy σ) (document : Document) (state : σ) :
    List Collision → Except Stop Schema → σ → Prop
  /-- the tables and their columns cannot be assembled -/
  | unassembled {stop : Stop} (hTables : assembleTables separator document = .error stop) :
      Course separator policy document state [] (.error stop) state
  /-- the end of a relation cannot be resolved -/
  | unresolved {registry : Registry} {tables : Keyed Table} {stop : Stop}
      (hTables : assembleTables separator document = .ok (registry, tables))
      (hEdges : document.relations.mapM (Edge.ofDecl registry) = .error stop) :
      Course separator policy document state [] (.error stop) state
  /-- the first pass stops -/
  | stopped {registry : Registry} {tables : Keyed Table} {edges : List Edge} {stop : Stop}
      {asked : List Collision} {after : σ}
      (hTables : assembleTables separator document = .ok (registry, tables))
      (hEdges : document.relations.mapM (Edge.ofDecl registry) = .ok edges)
      (hDirect : DirectCourse policy tables state (proposals tables edges) asked (.error stop)
        after) :
      Course separator policy document state asked (.error stop) after
  /-- both passes register all their relationships, the second one without a question -/
  | completed {registry : Registry} {tables direct final : Keyed Table} {edges : List Edge}
      {asked : List Collision} {additions : List Proposal} {after : σ}
      (hTables : assembleTables separator document = .ok (registry, tables))
      (hEdges : document.relations.mapM (Edge.ofDecl registry) = .ok edges)
      (hDirect : DirectCourse policy tables state (proposals tables edges) asked (.ok direct) after)
      (hRun : ThroughRun direct additions final)
      (hThrough : Registrations policy direct after additions [] final after) :
      Course separator policy document state asked (.ok ⟨final⟩) after

namespace Course

variable {separator : String} {policy : Policy σ} {document : Document} {state after : σ}
  {asked : List Collision} {outcome : Except Stop Schema}

/-- A build ends as its course does. -/
theorem result_eq (h : Course separator policy document state asked outcome after) :
    (resolve separator policy document).result state = (outcome, after) := by
  cases h with
  | unassembled hTables =>
    simp only [resolve, Build.result_bind, Build.result_lift, hTables]
  | unresolved hTables hEdges =>
    simp only [resolve, Build.result_bind, Build.result_lift, hTables, hEdges]
  | stopped hTables hEdges hDirect =>
    have hResult := hDirect.result_eq
    rw [← relateDirectly_eq_foldlM] at hResult
    simp only [resolve, Build.result_bind, Build.result_lift, hTables, hEdges, hResult]
  | @completed registry tables direct final edges asked additions after hTables hEdges hDirect hRun
      _ =>
    have hResult := hDirect.result_eq
    rw [← relateDirectly_eq_foldlM] at hResult
    obtain ⟨additions', final', hThrough, hRun'⟩ := relateThrough_run policy direct after
    obtain ⟨-, rfl⟩ := hRun.unique hRun'
    have hStaged := staged_of_run hTables hEdges hResult hRun
    exact resolve_eq_ok_iff.mpr ⟨registry, tables, edges, direct, hTables, hEdges, hResult,
      hThrough, hStaged.checkIntegrity⟩

theorem recorded (h : Course separator policy document state asked outcome after)
    (log : List Collision) :
    Course separator policy.recorded document (state, log) asked outcome (after, log ++ asked) := by
  cases h with
  | unassembled hTables =>
    rw [List.append_nil]
    exact .unassembled hTables
  | unresolved hTables hEdges =>
    rw [List.append_nil]
    exact .unresolved hTables hEdges
  | stopped hTables hEdges hDirect => exact .stopped hTables hEdges (hDirect.recorded log)
  | completed hTables hEdges hDirect hRun hThrough =>
    exact .completed hTables hEdges (hDirect.recorded log) hRun (hRun.registrations _ _)

end Course

/-- What the relations propose is for assembled tables. -/
theorem Assembled.owner_mem {separator : String} {document : Document} {registry : Registry}
    {tables : Keyed Table} {edges : List Edge} {proposal : Proposal}
    (h : Assembled separator document registry tables)
    (hEdges : document.relations.mapM (Edge.ofDecl registry) = .ok edges)
    (hProposal : .ok proposal ∈ proposals tables edges) : proposal.owner ∈ tables.keys := by
  obtain ⟨edge, -, hProposes⟩ := mem_proposals_iff.mp hProposal
  exact hProposes.owner_mem (h.isKnown hEdges)

/-- Every build takes one of the courses. -/
theorem exists_course (separator : String) (policy : Policy σ) (document : Document) (state : σ) :
    ∃ asked outcome after, Course separator policy document state asked outcome after := by
  cases hTables : assembleTables separator document with
  | error stop => exact ⟨_, _, _, .unassembled hTables⟩
  | ok assembled =>
    obtain ⟨registry, tables⟩ := assembled
    obtain ⟨-, -, hAssembled⟩ := assembleTables_eq_ok_iff.mp hTables
    cases hEdges : document.relations.mapM (Edge.ofDecl registry) with
    | error stop => exact ⟨_, _, _, .unresolved hTables hEdges⟩
    | ok edges =>
      obtain ⟨asked, outcome, after, hDirect⟩ :=
        exists_directCourse policy _ tables state fun _ => hAssembled.owner_mem hEdges
      cases outcome with
      | error stop => exact ⟨_, _, _, .stopped hTables hEdges hDirect⟩
      | ok direct =>
        obtain ⟨additions, final, -, hRun⟩ := relateThrough_run policy direct after
        exact ⟨_, _, _, .completed hTables hEdges hDirect hRun (hRun.registrations policy after)⟩

/-- A build that gives a schema has been completed. -/
theorem exists_course_of_ok {separator : String} {policy : Policy σ} {document : Document}
    {state final : σ} {schema : Schema}
    (h : (resolve separator policy document).result state = (.ok schema, final)) :
    ∃ asked, Course separator policy document state asked (.ok schema) final := by
  obtain ⟨asked, outcome, after, hCourse⟩ := exists_course separator policy document state
  have hResult := hCourse.result_eq
  rw [h, Prod.mk.injEq] at hResult
  obtain ⟨rfl, rfl⟩ := hResult
  exact ⟨asked, hCourse⟩

/-- **Builds only append.** Under every policy, whatever its state, a build takes one of the courses:
the tables change by registrations alone, each of which puts one entry behind those of one table
under a name that was not there; the policy is asked about every proposed name that is taken and
about no other, in the first pass only; and a build stops where its answer is no free name. The
course gives the outcome, what the policy's state becomes, and the questions that a policy keeps
which is asked the same. -/
theorem resolve_appends (separator : String) (policy : Policy σ) (document : Document) (state : σ) :
    ∃ asked outcome after, Course separator policy document state asked outcome after ∧
      (resolve separator policy document).result state = (outcome, after) ∧
      (resolve separator policy.recorded document).result (state, []) =
        (outcome, after, asked) := by
  obtain ⟨asked, outcome, after, hCourse⟩ := exists_course separator policy document state
  exact ⟨asked, outcome, after, hCourse, hCourse.result_eq, (hCourse.recorded []).result_eq⟩

/-- Letters, which know two members of the staff. -/
def letters : Document where
  tables := [⟨"1", "staff", false, false⟩, ⟨"2", "mail", false, false⟩]
  columns := .ofList [("1", [{ id := "11", name := "id" }]),
    ("2", [{ id := "21", name := "sender_id" }, { id := "22", name := "receiver_id" }])]
  relations := [⟨⟨"2", "21"⟩, ⟨"1", "11"⟩⟩, ⟨⟨"2", "22"⟩, ⟨"1", "11"⟩⟩]

-- the second key asks for the names that the first one has taken, on both tables
example :
    let build := (resolve "_" Policy.dictated.recorded letters).result
      (["receiver", "received"], [])
    build.1.toOption.map (fun schema =>
        schema.tables.entries.map fun entry => (entry.1, entry.2.relationships.keys)) =
      some [("staff", ["mail", "received"]), ("mail", ["staff", "receiver"])] ∧
    build.2 = ([], [⟨"mail", "staff", ["staff"]⟩, ⟨"staff", "mail", ["mail"]⟩]) := by
  decide +kernel

end SchemaScaffold
