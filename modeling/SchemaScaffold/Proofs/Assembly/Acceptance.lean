import SchemaScaffold.Proofs.Assembly.Contributions
import SchemaScaffold.Proofs.Assembly.Defects
import SchemaScaffold.Proofs.Relationships.Suffix

/-!
# When a build succeeds

As far as the inflection rules know the names of the tables, only two things stop a build: a defect
of the document, and a policy that fails or gives a name that cannot be used.

* `Document.Inflects`: the inflection rules have both forms of every table name.
* `Policy.stateAfter`: what the state of a policy becomes with the questions it is asked.
* `Policy.Blocks`: what a policy can do to stop a build. Numbers never do it
  (`Policy.not_blocks_suffix`).
* `Verdict`, `exists_verdict`: how builds end.
* `resolve_accepts_valid`: with numbers exactly the valid documents get a schema.
-/

namespace SchemaScaffold

/-- The inflection rules have both forms of every table name. -/
def Document.Inflects (document : Document) : Prop :=
  ∀ decl ∈ document.tables, Naming.Inflects decl.name

/-! ## Policies that stop a build -/

variable {σ : Type}

/-- The state of a policy after it has been asked questions, one after another. -/
def Policy.stateAfter (policy : Policy σ) (state : σ) (asked : List Collision) : σ :=
  asked.foldl (fun state question => (policy.resolve question state).2) state

theorem Policy.stateAfter_append (policy : Policy σ) (state : σ) (asked more : List Collision) :
    policy.stateAfter state (asked ++ more) =
      policy.stateAfter (policy.stateAfter state asked) more :=
  List.foldl_append

theorem Settles.eq_stateAfter {policy : Policy σ} {table : Table} {proposal : Proposal}
    {state after : σ} {asked : List Collision} {outcome : Except Stop String}
    (h : Settles policy table proposal state asked outcome after) :
    after = policy.stateAfter state asked := by
  cases h with
  | kept hFree => rfl
  | renamed hTaken hAnswer => exact (congrArg Prod.snd hAnswer).symm
  | refused hTaken hAnswer => exact (congrArg Prod.snd hAnswer).symm
  | failed hTaken hAnswer => exact (congrArg Prod.snd hAnswer).symm

theorem Registrations.eq_stateAfter {policy : Policy σ} {tables final : Keyed Table}
    {state after : σ} {done : List Proposal} {asked : List Collision}
    (h : Registrations policy tables state done asked final after) :
    after = policy.stateAfter state asked := by
  induction h with
  | nil => rfl
  | cons hOwner hName hAppended _ ih => rw [ih, hName.eq_stateAfter, Policy.stateAfter_append]

/-- The answer of a policy to a question stops a build: it is a fault, or no free name. -/
inductive Policy.Blocks (policy : Policy σ) (question : Collision) (state : σ) : Stop → σ → Prop
  | failed {fault : Fault} {after : σ}
      (hAnswer : policy.resolve question state = (.error fault, after)) :
      policy.Blocks question state (.fault fault) after
  | unusable {answer : String} {after : σ}
      (hAnswer : policy.resolve question state = (.ok answer, after))
      (hUnusable : answer = "" ∨ answer ∈ question.existing) :
      policy.Blocks question state (.fault (.nameTaken question.table answer)) after

theorem Settles.blocks {policy : Policy σ} {table : Table} {proposal : Proposal} {state after : σ}
    {asked : List Collision} {stop : Stop}
    (h : Settles policy table proposal state asked (.error stop) after) :
    asked = [table.question proposal] ∧
      policy.Blocks (table.question proposal) state stop after := by
  cases h with
  | refused hTaken hAnswer hUnusable => exact ⟨rfl, .unusable hAnswer hUnusable⟩
  | failed hTaken hAnswer => exact ⟨rfl, .failed hAnswer⟩

/-- Numbers never stop a build. -/
theorem Policy.not_blocks_suffix (question : Collision) (state : σ) (stop : Stop) (after : σ) :
    ¬ (Policy.suffix : Policy σ).Blocks question state stop after := by
  obtain ⟨answer, hNonempty, hFree, hAnswer⟩ := Policy.exists_suffix_answer (σ := σ) question
  intro h
  cases h with
  | failed hFails =>
    rw [hAnswer] at hFails
    cases hFails
  | unusable hGives hUnusable =>
    rw [hAnswer, Prod.mk.injEq, Except.ok.injEq] at hGives
    obtain ⟨rfl, -⟩ := hGives
    rcases hUnusable with hEmpty | hTaken
    · exact hNonempty hEmpty
    · exact hFree hTaken

/-! ## How builds end -/

/-- How a build ends: the questions that are put to the policy, the outcome, and what the policy's
state becomes. -/
inductive Verdict (policy : Policy σ) (document : Document) (state : σ) :
    List Collision → Except Stop Schema → σ → Prop
  | defective {fault : Fault} (hDefect : document.Defect fault) :
      Verdict policy document state [] (.error (.fault fault)) state
  | blocked {earlier : List Collision} {question : Collision} {stop : Stop} {after : σ}
      (hValid : document.IsValid)
      (hBlocks : policy.Blocks question (policy.stateAfter state earlier) stop after) :
      Verdict policy document state (earlier ++ [question]) (.error stop) after
  | accepted {asked : List Collision} {schema : Schema} {after : σ} (hValid : document.IsValid) :
      Verdict policy document state asked (.ok schema) after

theorem Course.verdict {separator : String} {policy : Policy σ} {document : Document}
    {state after : σ} {asked : List Collision} {outcome : Except Stop Schema}
    (hInflects : document.Inflects)
    (h : Course separator policy document state asked outcome after) :
    Verdict policy document state asked outcome after := by
  cases h with
  | unassembled hTables =>
    rcases assembleTables_error hTables with ⟨fault, rfl, hDefect⟩ | ⟨decl, hDecl, -, hNone⟩
    · exact .defective hDefect
    · have hSome := (hInflects decl hDecl).isSome_modelName
      rw [hNone] at hSome
      cases hSome
  | unresolved hTables hEdges =>
    obtain ⟨-, -, hAssembled⟩ := assembleTables_eq_ok_iff.mp hTables
    obtain ⟨fault, rfl, hDefect⟩ := hAssembled.mapM_ofDecl_defect hEdges
    exact .defective hDefect
  | completed hTables hEdges =>
    obtain ⟨hTablesValid, -, hAssembled⟩ := assembleTables_eq_ok_iff.mp hTables
    exact .accepted ((hAssembled.exists_edges_iff hTablesValid).mp ⟨_, hEdges⟩)
  | @stopped registry tables edges stop asked after hTables hEdges hDirect =>
    obtain ⟨hTablesValid, -, hAssembled⟩ := assembleTables_eq_ok_iff.mp hTables
    have hValid := (hAssembled.exists_edges_iff hTablesValid).mp ⟨_, hEdges⟩
    -- no name is missing, so that only the policy is left to stop the first pass
    cases hDirect with
    | @unformed done stop rest asked reached after hPending hDone =>
      have hStop : .error stop ∈ proposals tables edges := by simp [hPending]
      obtain ⟨name, hName, -, hUnknown⟩ :=
        unnameable_of_mem_proposals (hAssembled.isKnown hEdges) hStop
      obtain ⟨table, hTable⟩ := Keyed.mem_keys_iff.mp hName
      obtain ⟨decl, hDecl, rfl, -⟩ := hAssembled.get?_eq_some_iff.mp hTable
      exact absurd (hInflects decl hDecl) hUnknown
    | unsettled hPending hDone hOwner hStop =>
      obtain ⟨rfl, hBlocks⟩ := hStop.blocks
      exact .blocked hValid (hDone.eq_stateAfter ▸ hBlocks)

/-- Every build ends in one of the three ways. -/
theorem exists_verdict {document : Document} (hInflects : document.Inflects) (separator : String)
    (policy : Policy σ) (state : σ) :
    ∃ asked outcome after, Verdict policy document state asked outcome after ∧
      (resolve separator policy document).result state = (outcome, after) ∧
      (resolve separator policy.recorded document).result (state, []) =
        (outcome, after, asked) := by
  obtain ⟨asked, outcome, after, hCourse⟩ := exists_course separator policy document state
  exact ⟨asked, outcome, after, hCourse.verdict hInflects, hCourse.result_eq,
    (hCourse.recorded []).result_eq⟩

section

variable {document : Document}

/-- With numbers exactly the valid documents get a schema. -/
theorem exists_resolveWithSuffix_iff (hInflects : document.Inflects) (separator : String) :
    (∃ schema, resolveWithSuffix document separator = .ok schema) ↔ document.IsValid := by
  obtain ⟨asked, outcome, after, hVerdict, hResult, -⟩ :=
    exists_verdict hInflects separator (.suffix : Policy Unit) ()
  rw [resolveWithSuffix, hResult]
  cases hVerdict with
  | defective hDefect =>
    constructor
    · rintro ⟨schema, hSchema⟩
      cases hSchema
    · intro hValid
      exact absurd hValid hDefect.not_isValid
  | blocked hValid hBlocks => exact absurd hBlocks (Policy.not_blocks_suffix _ _ _ _)
  | @accepted asked schema after hValid => exact ⟨fun _ => hValid, fun _ => ⟨schema, rfl⟩⟩

/-- A document that is not valid fails before the policy is asked anything. -/
theorem exists_defect_of_not_isValid (hInflects : document.Inflects) (hInvalid : ¬ document.IsValid)
    (separator : String) (policy : Policy σ) (state : σ) :
    ∃ fault, document.Defect fault ∧
      (resolve separator policy document).result state = (.error (.fault fault), state) ∧
      (resolve separator policy.recorded document).result (state, []) =
        (.error (.fault fault), state, []) := by
  obtain ⟨asked, outcome, after, hVerdict, hResult, hRecorded⟩ :=
    exists_verdict hInflects separator policy state
  cases hVerdict with
  | defective hDefect => exact ⟨_, hDefect, hResult, hRecorded⟩
  | blocked hValid hBlocks => exact absurd hValid hInvalid
  | accepted hValid => exact absurd hValid hInvalid

/-- A valid document fails only at the answer to the last question. -/
theorem exists_blocks_of_isValid (hInflects : document.Inflects) (hValid : document.IsValid)
    {separator : String} {policy : Policy σ} {state after : σ} {stop : Stop}
    (hStop : (resolve separator policy document).result state = (.error stop, after)) :
    ∃ earlier question,
      (resolve separator policy.recorded document).result (state, []) =
        (.error stop, after, earlier ++ [question]) ∧
      policy.Blocks question (policy.stateAfter state earlier) stop after := by
  obtain ⟨asked, outcome, after', hVerdict, hResult, hRecorded⟩ :=
    exists_verdict hInflects separator policy state
  rw [hStop, Prod.mk.injEq] at hResult
  obtain ⟨rfl, rfl⟩ := hResult
  cases hVerdict with
  | defective hDefect => exact absurd hValid hDefect.not_isValid
  | blocked _ hBlocks => exact ⟨_, _, hRecorded, hBlocks⟩

end

/-- **Exactly the valid documents are accepted**, as far as the inflection rules know the names of
the tables. With numbers behind taken names, a document gets a schema if and only if it is valid.
Under every policy, a document that is not valid fails for one of its defects, before the policy is
asked anything; and where a valid document fails, the last question to the policy is the reason: the
policy fails there, or what it answers is no free name. -/
theorem resolve_accepts_valid {document : Document} (hInflects : document.Inflects)
    (separator : String) (policy : Policy σ) (state : σ) :
    ((∃ schema, resolveWithSuffix document separator = .ok schema) ↔ document.IsValid) ∧
    (¬ document.IsValid → ∃ fault, document.Defect fault ∧
      (fault.isInvalid = true ∨ fault.isUnresolved = true) ∧
      (resolve separator policy document).result state = (.error (.fault fault), state) ∧
      (resolve separator policy.recorded document).result (state, []) =
        (.error (.fault fault), state, [])) ∧
    (document.IsValid → ∀ stop after,
      (resolve separator policy document).result state = (.error stop, after) →
        ∃ earlier question,
          (resolve separator policy.recorded document).result (state, []) =
            (.error stop, after, earlier ++ [question]) ∧
          policy.Blocks question (policy.stateAfter state earlier) stop after) := by
  refine ⟨exists_resolveWithSuffix_iff hInflects separator, ?_, ?_⟩
  · intro hInvalid
    obtain ⟨fault, hDefect, hResult, hRecorded⟩ :=
      exists_defect_of_not_isValid hInflects hInvalid separator policy state
    exact ⟨fault, hDefect, hDefect.isInvalid_or_isUnresolved, hResult, hRecorded⟩
  · intro hValid stop after hStop
    exact exists_blocks_of_isValid hInflects hValid hStop

theorem newsletters_isValid : newsletters.IsValid where
  tableNames := by decide
  tableIds := by decide
  columnLists := fun _ => Iff.rfl
  columnNames := by decide
  columnIds := by decide
  endpoints := by decide

/-- Without numbers the second way from `mail` to `news` stops the build. -/
theorem resolve_accepts_valid_newsletters :
    newsletters.Inflects ∧ newsletters.IsValid ∧
      (∃ schema, resolveWithSuffix newsletters "_" = .ok schema) ∧
      ∃ earlier question,
        (resolve "_" (Policy.reject : Policy Unit).recorded newsletters).result ((), []) =
          (.error (.fault (.nameTaken "mail" "news")), (), earlier ++ [question]) ∧
        (Policy.reject : Policy Unit).Blocks question () (.fault (.nameTaken "mail" "news")) () := by
  have hInflects : newsletters.Inflects := by
    unfold Document.Inflects
    decide +kernel
  have hRejected : (resolve "_" (.reject : Policy Unit) newsletters).result () =
      (.error (.fault (.nameTaken "mail" "news")), ()) := by
    decide +kernel
  obtain ⟨hAccepts, -, hBlocked⟩ := resolve_accepts_valid hInflects "_" (.reject : Policy Unit) ()
  exact ⟨hInflects, newsletters_isValid, hAccepts.mpr newsletters_isValid,
    hBlocked newsletters_isValid _ _ hRejected⟩

end SchemaScaffold
