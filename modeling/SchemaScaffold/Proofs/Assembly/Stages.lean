import SchemaScaffold.Assembly.Resolve
import SchemaScaffold.Proofs.Assembly.Declarations
import SchemaScaffold.Proofs.Relationships.Convergence
import SchemaScaffold.Proofs.Relationships.FirstPass

/-!
# The stages of a build

* `resolve_eq_ok_iff`: a build succeeds if and only if its stages do, one after another.
* `Staged`: what stands between the stages of a successful build, with what each stage left there.
* `resolve_chains`: in every schema that comes out, relationships over two others are sound,
  well-founded and saturated.
-/

namespace SchemaScaffold

variable {σ : Type}

theorem resolve_eq_ok_iff {separator : String} {policy : Policy σ} {document : Document}
    {state final : σ} {schema : Schema} :
    (resolve separator policy document).result state = (.ok schema, final) ↔
      ∃ registry tables edges direct, assembleTables separator document = .ok (registry, tables) ∧
        document.relations.mapM (Edge.ofDecl registry) = .ok edges ∧
        (relateDirectly policy tables edges).result state = (.ok direct, final) ∧
        (relateThrough policy direct).result final = (.ok schema.tables, final) ∧
        schema.checkIntegrity = .ok () := by
  unfold resolve
  constructor
  · intro h
    obtain ⟨⟨registry, tables⟩, _, hTables, h⟩ := Build.result_bind_eq_ok.mp h
    obtain ⟨edges, _, hEdges, h⟩ := Build.result_bind_eq_ok.mp h
    obtain ⟨direct, middle, hDirect, h⟩ := Build.result_bind_eq_ok.mp h
    obtain ⟨reached, last, hReached, h⟩ := Build.result_bind_eq_ok.mp h
    obtain ⟨_, _, hCheck, h⟩ := Build.result_bind_eq_ok.mp h
    simp only [Build.result_lift, Build.result_pure, Prod.mk.injEq, Except.ok.injEq] at *
    obtain ⟨hTables, rfl⟩ := hTables
    obtain ⟨hEdges, rfl⟩ := hEdges
    obtain ⟨hCheck, rfl⟩ := hCheck
    obtain ⟨rfl, rfl⟩ := h
    obtain ⟨rfl, -⟩ := exists_run_of_relateThrough hReached
    exact ⟨registry, tables, edges, direct, hTables, hEdges, hDirect, hReached, hCheck⟩
  · rintro ⟨registry, tables, edges, direct, hTables, hEdges, hDirect, hThrough, hCheck⟩
    simp only [Build.result_bind, Build.result_lift, Build.result_pure, hTables, hEdges, hDirect,
      hThrough, hCheck]

/-- What stands between the stages of a build: the assembled tables, the edges, the tables after the
first pass, and those after the second. -/
structure Staged (separator : String) (document : Document) (registry : Registry)
    (tables : Keyed Table) (edges : List Edge) (direct final : Keyed Table) : Prop where
  valid : document.HasValidTables
  assembled : Assembled separator document registry tables
  edges_eq : document.relations.mapM (Edge.ofDecl registry) = .ok edges
  allDirect : AllDirect direct
  leadsInto : LeadsInto tables direct
  bare_eq : direct.mapValues Table.bare = tables.mapValues Table.bare
  run : ∃ additions, ThroughRun direct additions final

theorem Assembled.unrelated {separator : String} {document : Document} {registry : Registry}
    {tables : Keyed Table} (h : Assembled separator document registry tables) :
    Unrelated tables := by
  rintro owner name r ⟨table, hTable, hGet⟩
  rw [h.relationships_eq hTable] at hGet
  cases hGet

theorem staged_of_run {separator : String} {policy : Policy σ} {document : Document}
    {registry : Registry} {tables direct final : Keyed Table} {edges : List Edge} {state after : σ}
    {additions : List Proposal}
    (hTables : assembleTables separator document = .ok (registry, tables))
    (hEdges : document.relations.mapM (Edge.ofDecl registry) = .ok edges)
    (hDirect : (relateDirectly policy tables edges).result state = (.ok direct, after))
    (hRun : ThroughRun direct additions final) :
    Staged separator document registry tables edges direct final := by
  obtain ⟨hValid, -, hAssembled⟩ := assembleTables_eq_ok_iff.mp hTables
  exact {
    valid := hValid
    assembled := hAssembled
    edges_eq := hEdges
    allDirect := allDirect_of_relateDirectly hAssembled.unrelated hDirect
    leadsInto := leadsInto_of_relateDirectly hAssembled.unrelated hDirect
    bare_eq := bare_eq_of_relateDirectly hDirect
    run := ⟨additions, hRun⟩ }

theorem exists_staged {separator : String} {policy : Policy σ} {document : Document}
    {state final : σ} {schema : Schema}
    (h : (resolve separator policy document).result state = (.ok schema, final)) :
    ∃ registry tables edges direct,
      Staged separator document registry tables edges direct schema.tables := by
  obtain ⟨registry, tables, edges, direct, hTables, hEdges, hDirect, hThrough, -⟩ :=
    resolve_eq_ok_iff.mp h
  obtain ⟨-, additions, hRun⟩ := exists_run_of_relateThrough hThrough
  exact ⟨registry, tables, edges, direct, staged_of_run hTables hEdges hDirect hRun⟩

/-- **Relationships over two others are sound, well-founded and saturated** in every schema that a
build gives, whatever the separator and the policy. Each agrees with its two parts; putting the
parts in its place, again and again, ends in a direct path of at least two hops that leads where it
leads; and wherever two composable relationships lead a table to another one, the table has a
relationship under the name of the second. -/
theorem resolve_chains {separator : String} {policy : Policy σ} {document : Document}
    {state final : σ} {schema : Schema}
    (h : (resolve separator policy document).result state = (.ok schema, final)) :
    SoundThrough schema.tables ∧ WellFoundedThrough schema.tables ∧ Saturated schema.tables := by
  obtain ⟨registry, tables, edges, direct, hStaged⟩ := exists_staged h
  obtain ⟨additions, hRun⟩ := hStaged.run
  exact ⟨hRun.soundThrough hStaged.allDirect, hRun.wellFoundedThrough hStaged.allDirect,
    hRun.saturated⟩

theorem exists_ok_of_map {α β : Type} {x : Except Stop α} {f : α → β} {b : β}
    (h : x.toOption.map f = some b) : ∃ a, x = .ok a ∧ f a = b := by
  cases x with
  | error _ => cases h
  | ok a => exact ⟨a, rfl, Option.some.inj h⟩

theorem exists_result_of_map_eq {α β : Type} {result : Except Stop α × σ} {after : σ} {f : α → β}
    {b : β} (h : (result.1.toOption.map f, result.2) = (some b, after)) :
    ∃ a, result = (.ok a, after) ∧ f a = b := by
  obtain ⟨hMap, hAfter⟩ := Prod.mk.inj h
  obtain ⟨a, hOutcome, hf⟩ := exists_ok_of_map hMap
  exact ⟨a, Prod.ext hOutcome hAfter, hf⟩

theorem exists_result_of_map {α β : Type} {result : Except Stop α × Unit} {f : α → β} {b : β}
    (h : result.1.toOption.map f = some b) : ∃ a, result = (.ok a, ()) ∧ f a = b :=
  exists_result_of_map_eq (Prod.ext h rfl)

/-- Four tables, each with a key to the one before it. -/
def rowOfTables : Document where
  tables := [⟨"1", "news", false, false⟩, ⟨"2", "mail", false, false⟩, ⟨"3", "rice", false, false⟩,
    ⟨"4", "tuna", false, false⟩]
  columns := .ofList [
    ("1", [{ id := "11", name := "id" }]),
    ("2", [{ id := "21", name := "id" }, { id := "22", name := "news_id" }]),
    ("3", [{ id := "31", name := "id" }, { id := "32", name := "mail_id" }]),
    ("4", [{ id := "42", name := "rice_id" }])]
  relations := [⟨⟨"2", "22"⟩, ⟨"1", "11"⟩⟩, ⟨⟨"3", "32"⟩, ⟨"2", "21"⟩⟩, ⟨⟨"4", "42"⟩, ⟨"3", "31"⟩⟩]

/-- The first of the tables reaches the last one over a relationship that itself goes over two
others. -/
theorem resolve_chains_rowOfTables :
    ∃ schema final tuna rice,
      (resolve "_" (.suffix : Policy Unit) rowOfTables).result () = (.ok schema, final) ∧
      Owns schema.tables "news" "tuna" tuna ∧ tuna.passage? = some ⟨"rice", "Rice", "tuna"⟩ ∧
      Owns schema.tables "news" "rice" rice ∧ rice.passage? = some ⟨"mail", "Mail", "rice"⟩ ∧
      SoundThrough schema.tables ∧ WellFoundedThrough schema.tables ∧ Saturated schema.tables := by
  have hPassages : ((resolve "_" (.suffix : Policy Unit) rowOfTables).result ()).1.toOption.map
      (fun schema => ((relationship? schema.tables "news" "tuna").bind Relationship.passage?,
        (relationship? schema.tables "news" "rice").bind Relationship.passage?)) =
      some (some ⟨"rice", "Rice", "tuna"⟩, some ⟨"mail", "Mail", "rice"⟩) := by
    decide +kernel
  obtain ⟨schema, hSchema, hParts⟩ := exists_ok_of_map hPassages
  simp only [Prod.mk.injEq, Option.bind_eq_some_iff, ← owns_iff_relationship?] at hParts
  obtain ⟨⟨tuna, hTuna, hOverRice⟩, rice, hRice, hOverMail⟩ := hParts
  have hRun : (resolve "_" (.suffix : Policy Unit) rowOfTables).result () = (.ok schema, ()) :=
    Prod.ext hSchema rfl
  exact ⟨schema, _, tuna, rice, hRun, hTuna, hOverRice, hRice, hOverMail, resolve_chains hRun⟩

end SchemaScaffold
