import SchemaScaffold.Artifact.Basic
import SchemaScaffold.Proofs.Artifacts.AccessorCalls
import SchemaScaffold.Proofs.Assembly.Edges
import SchemaScaffold.Proofs.Assembly.Integrity

/-!
# The classes that models name

The methods of a model name the classes of other models. A class that is named but not made stays
unnoticed until the generated code runs.

* `Accessor.className?`, `Accessor.nextMethod?`: what the text of a method names.
* `Artifacts.Resolves`: there is a model of that class, with the method that is named on it.
* `LinksPointedAt`: relationships lead to a link table only where a relation points at it.
* `convert_resolves`: all methods resolve but those that lead over such a link table.
* `convert_names_missing_class`: a relation that points at a link table does break a method.
-/

namespace SchemaScaffold

/-! ## What a method names -/

/-- The class of the model that the text of a method names. -/
def Accessor.className? (accessor : Accessor) : Option String := do
  let (path, _) ← openingArguments? accessor.body
  let name ← "App/Models/".toList.isPrefixOf? path.toList
  some (String.ofList name)

/-- The method of that model over which a relationship over two others goes on. -/
def Accessor.nextMethod? (accessor : Accessor) : Option String :=
  match accessor.kind with
  | .hasManyThrough _ => (openingArguments? accessor.body).map Prod.snd
  | _ => none

/-- There is a model of the class that a method names, and it has the method over which a
relationship over two others goes on. -/
def Artifacts.Resolves (artifacts : Artifacts) (accessor : Accessor) : Prop :=
  ∃ model ∈ artifacts.models, accessor.className? = some model.name ∧
    ∀ method, accessor.nextMethod? = some method → ∃ next ∈ model.relations, next.name = method

def Relationship.toAccessor (name : String) (r : Relationship) : Accessor :=
  ⟨name, r.kind, r.accessor⟩

theorem Relationship.exists_openingArguments? (r : Relationship) :
    ∃ second, openingArguments? r.accessor = some (modelPath r.namedModel, second) ∧
      ∀ passage, r.passage? = some passage → second = passage.relatedMethod := by
  obtain ⟨kind, table, model, primaryKey, foreignKey⟩ := r
  have hName : '(' ∉ ("return this." ++ kind.name).toList := by
    cases kind <;> simp only [RelationshipKind.name] <;> decide
  have hCall (first second : String) (rest : List String) (after : String) :
      openingArguments? ("return this." ++ kind.name ++ "(" ++
        arguments (quoted first :: quoted second :: rest) ++ after) = some (first, second) :=
    openingArguments?_call hName first second rest after
  cases kind with
  | belongsTo => exact ⟨_, hCall _ _ _ _, by simp [passage?]⟩
  | hasOne => exact ⟨_, hCall _ _ _ _, by simp [passage?]⟩
  | hasMany => exact ⟨_, hCall _ _ _ _, by simp [passage?]⟩
  | hasManyThrough passage => exact ⟨_, hCall _ _ _ _, by simp [passage?]⟩
  | belongsToMany pivot =>
    refine ⟨foreignKey, ?_, by simp [passage?]⟩
    simp only [accessor, String.append_assoc, List.map_cons, List.map_nil] at hCall ⊢
    exact hCall _ _ _ _

theorem Relationship.className?_toAccessor (name : String) (r : Relationship) :
    (r.toAccessor name).className? = some r.namedModel := by
  obtain ⟨second, hOpening, -⟩ := r.exists_openingArguments?
  have hPath : "App/Models/".toList.isPrefixOf? (modelPath r.namedModel).toList =
      some r.namedModel.toList :=
    List.isPrefixOf?_eq_some_iff_append_eq.mpr (String.toList_append ..).symm
  simp only [Accessor.className?, toAccessor, hOpening, Option.bind_eq_bind, Option.bind_some,
    hPath, String.ofList_toList]

theorem Relationship.nextMethod?_toAccessor (name : String) (r : Relationship) :
    (r.toAccessor name).nextMethod? = r.passage?.map Passage.relatedMethod := by
  obtain ⟨second, hOpening, hSecond⟩ := r.exists_openingArguments?
  cases hKind : r.kind with
  | hasManyThrough passage =>
    have hPassage : r.passage? = some passage := by rw [passage?, hKind]
    simp [Accessor.nextMethod?, toAccessor, hKind, hOpening, hPassage, hSecond passage hPassage]
  | _ => simp [Accessor.nextMethod?, toAccessor, passage?, hKind]

/-- The method of a relationship names the model of the relationship itself or of the first of its
two parts, and in that case the second part is there. -/
theorem SoundThrough.exists_leg {tables : Keyed Table} (h : SoundThrough tables)
    {owner name : String} {r : Relationship} (hOwns : Owns tables owner name r) :
    ∃ legName leg, Owns tables owner legName leg ∧ leg.model = r.namedModel ∧
      ∀ passage, r.passage? = some passage →
        ∃ second, Owns tables leg.table passage.relatedMethod second := by
  cases hPassage : r.passage? with
  | none => exact ⟨name, r, hOwns, by simp [Relationship.namedModel, hPassage], by simp⟩
  | some passage =>
    obtain ⟨first, second, hChained⟩ := h owner name r passage hOwns hPassage
    refine ⟨passage.through, first, hChained.owns_first, ?_, ?_⟩
    · simp [Relationship.namedModel, hPassage, hChained.throughModel_eq]
    · rintro _ ⟨⟩
      exact ⟨second, hChained.relatedMethod_eq ▸ hChained.owns_second⟩

/-! ## Relationships into link tables -/

/-- Where a relationship leads to a link table, an edge points at the table. -/
def LinksPointedAt (start : Keyed Table) (edges : List Edge) (tables : Keyed Table) : Prop :=
  ∀ owner name r, Owns tables owner name r →
    ∀ table, start.get? r.table = some table → table.isLink = true →
      ∃ edge ∈ edges, edge.target.table = r.table

theorem Proposes.pointsAt_link {tables : Keyed Table} {edges : List Edge} {edge : Edge}
    {proposal : Proposal} (h : Proposes tables edges edge proposal) (hEdge : edge ∈ edges)
    {table : Table} (hTable : tables.get? proposal.relationship.table = some table)
    (hLink : table.isLink = true) :
    ∃ edge ∈ edges, edge.target.table = proposal.relationship.table := by
  cases h with
  | belongsTo => exact ⟨edge, hEdge, rfl⟩
  | has hSource _ hNoLink =>
    rw [Option.some.inj (hSource.symm.trans hTable), hLink] at hNoLink
    cases hNoLink
  | link => exact ⟨edge, hEdge, rfl⟩

theorem linksPointedAt_of_relateDirectly {σ : Type} {policy : Policy σ}
    {tables direct : Keyed Table} {edges : List Edge} {state after : σ}
    (hStart : Unrelated tables)
    (h : (relateDirectly policy tables edges).result state = (.ok direct, after)) :
    LinksPointedAt tables edges direct := by
  refine relateDirectly_induction (P := LinksPointedAt tables edges) ?_ ?_ h
  · intro owner name r hOwns
    exact absurd hOwns (hStart owner name r)
  · intro before proposal _ next hBefore hMem hRegistered owner name r hOwns table hTable hLink
    rcases hRegistered.owns_iff.mp hOwns with hOld | ⟨-, -, rfl⟩
    · exact hBefore owner name r hOld table hTable hLink
    · obtain ⟨edge, hEdge, hProposes⟩ := mem_proposals_iff.mp hMem
      exact hProposes.pointsAt_link hEdge hTable hLink

/-- A relationship over two others leads where the second one leads. -/
theorem ThroughRun.linksPointedAt {start tables final : Keyed Table} {edges : List Edge}
    {additions : List Proposal} (h : ThroughRun tables additions final)
    (hTables : LinksPointedAt start edges tables) : LinksPointedAt start edges final := by
  refine h.induction hTables ?_
  intro before proposal through first second next hBefore hMissing hAdded owner name r hOwns
  rcases hAdded.owns_iff.mp hOwns with hOld | ⟨-, -, rfl⟩
  · exact hBefore owner name r hOld
  · rw [← hMissing.chained.table_eq]
    exact hBefore _ _ _ hMissing.owns_second

/-! ## The models of a schema -/

theorem Schema.mem_entityTables_iff {schema : Schema} {table : Table} :
    table ∈ schema.entityTables ↔
      (∃ name, schema.table? name = some table) ∧ table.isLink = false := by
  simp only [entityTables, List.mem_filter, Bool.not_eq_eq_eq_not, Bool.not_true, table?,
    Keyed.get?_eq_some_iff, Keyed.values, List.mem_map, Prod.exists, exists_eq_right]

theorem Model.mem_relations_ofTable_iff {table : Table} {accessor : Accessor} :
    accessor ∈ (Model.ofTable table).relations ↔
      ∃ name r, table.relationships.get? name = some r ∧ r.toAccessor name = accessor := by
  simp only [ofTable, List.mem_map, Prod.exists, Keyed.get?_eq_some_iff, Relationship.toAccessor]

theorem convert_eq_ok_iff {σ : Type} {separator : String} {policy : Policy σ}
    {document : Document} {state final : σ} {artifacts : Artifacts} :
    (convert separator policy document).result state = (.ok artifacts, final) ↔
      ∃ schema, (resolve separator policy document).result state = (.ok schema, final) ∧
        Artifacts.ofSchema schema = artifacts := by
  rw [convert, map_eq_pure_bind, Build.result_bind_eq_ok]
  simp

/-! ## What resolves -/

/-- A relation of the document points at a declared table. -/
def Document.PointsAt (document : Document) (decl : TableDecl) : Prop :=
  ∃ relation ∈ document.relations, relation.target.tableId = decl.id

/-- The model that a method names belongs to a link table at which a relation points. -/
def Document.LeadsToLink (document : Document) (separator : String) (accessor : Accessor) : Prop :=
  ∃ decl ∈ document.tables, Naming.isLinkName decl.name separator = true ∧
    document.PointsAt decl ∧ accessor.className? = some decl.model

theorem Staged.exists_pointsAt {separator : String} {document : Document} {registry : Registry}
    {tables direct final : Keyed Table} {edges : List Edge}
    (h : Staged separator document registry tables edges direct final) {edge : Edge}
    (hEdge : edge ∈ edges) :
    ∃ decl ∈ document.tables, decl.name = edge.target.table ∧ document.PointsAt decl := by
  obtain ⟨relation, hRelation, hEnds⟩ := exists_of_mem_mapM h.edges_eq hEdge
  obtain ⟨-, hTarget⟩ := Edge.ofDecl_eq_ok_iff.mp hEnds
  obtain ⟨-, hTable⟩ := Place.ofEndpoint_eq_ok_iff.mp hTarget
  obtain ⟨decl, hDecl, hId, hName⟩ := h.assembled.nameOfTable?_eq_some_iff.mp hTable
  exact ⟨decl, hDecl, hName, relation, hRelation, hId.symm⟩

/-- A relationship of a finished table leads to a table whose model it names. If that is a link
table, then a relation of the document points at it. -/
theorem Staged.exists_target {separator : String} {document : Document} {registry : Registry}
    {tables direct final : Keyed Table} {edges : List Edge}
    (h : Staged separator document registry tables edges direct final)
    (hLinks : LinksPointedAt tables edges final) {owner name : String} {r : Relationship}
    (hOwns : Owns final owner name r) :
    ∃ table, final.get? r.table = some table ∧ table.model = r.model ∧
      (table.isLink = true → ∃ decl ∈ document.tables,
        Naming.isLinkName decl.name separator = true ∧ document.PointsAt decl ∧
          decl.model = table.model) := by
  obtain ⟨start, hStart, hModel⟩ := h.final_leadsInto owner name r hOwns
  obtain ⟨table, hTable, hSame⟩ := exists_get?_of_bare_eq h.final_bare_eq hStart
  obtain ⟨hModels, hIsLink, -, -⟩ := Table.fields_eq_of_bare_eq hSame
  refine ⟨table, hTable, hModels.trans hModel, fun hLink => ?_⟩
  rw [hIsLink] at hLink
  obtain ⟨edge, hEdge, hName⟩ := hLinks owner name r hOwns start hStart hLink
  obtain ⟨decl, hDecl, hDeclName, hPoints⟩ := h.exists_pointsAt hEdge
  obtain ⟨other, hOther, hOtherName, rfl⟩ := h.assembled.get?_eq_some_iff.mp hStart
  have hEq : other = decl := List.inj_on_of_nodup_map h.valid.tableNames hOther hDecl
    (hOtherName.trans (hName.symm.trans hDeclName.symm))
  subst hEq
  rw [TableDecl.isLink_assembled] at hLink
  rw [TableDecl.model_assembled] at hModels
  exact ⟨other, hDecl, hLink, hPoints, hModels.symm⟩

variable {σ : Type}

/-- **Every method of a model resolves, unless it leads over a link table at which a relation
points**, whatever the separator and the policy: the class that its text names is that of a model,
and a method over two others finds the second of them on that model. -/
theorem convert_resolves {separator : String} {policy : Policy σ} {document : Document}
    {state final : σ} {artifacts : Artifacts}
    (h : (convert separator policy document).result state = (.ok artifacts, final)) :
    ∀ model ∈ artifacts.models, ∀ accessor ∈ model.relations,
      artifacts.Resolves accessor ∨ document.LeadsToLink separator accessor := by
  intro model hModel accessor hAccessor
  obtain ⟨schema, hResolve, rfl⟩ := convert_eq_ok_iff.mp h
  obtain ⟨registry, tables, edges, direct, hTables, hEdges, hDirect, hThrough, -⟩ :=
    resolve_eq_ok_iff.mp hResolve
  obtain ⟨-, additions, hRun⟩ := exists_run_of_relateThrough hThrough
  have hStaged := staged_of_run hTables hEdges hDirect hRun
  have hLinks := hRun.linksPointedAt
    (linksPointedAt_of_relateDirectly hStaged.assembled.unrelated hDirect)
  obtain ⟨table, hTable, rfl⟩ := List.mem_map.mp hModel
  obtain ⟨⟨owner, hOwner⟩, -⟩ := Schema.mem_entityTables_iff.mp hTable
  obtain ⟨name, r, hr, rfl⟩ := Model.mem_relations_ofTable_iff.mp hAccessor
  have hOwns : Owns schema.tables owner name r := ⟨table, hOwner, hr⟩
  -- the class that the method names is the model of the table to which this leg leads
  obtain ⟨legName, leg, hLeg, hNamed, hNext⟩ :=
    (hRun.soundThrough hStaged.allDirect).exists_leg hOwns
  obtain ⟨target, hTarget, hModelName, hLink⟩ := hStaged.exists_target hLinks hLeg
  have hClass : (r.toAccessor name).className? = some target.model := by
    rw [r.className?_toAccessor, ← hNamed, hModelName]
  cases hIsLink : target.isLink with
  | true =>
    obtain ⟨decl, hDecl, hMarked, hPoints, hDeclModel⟩ := hLink hIsLink
    exact Or.inr ⟨decl, hDecl, hMarked, hPoints, hDeclModel ▸ hClass⟩
  | false =>
    have hEntity : target ∈ schema.entityTables :=
      Schema.mem_entityTables_iff.mpr ⟨⟨leg.table, hTarget⟩, hIsLink⟩
    refine Or.inl ⟨Model.ofTable target, List.mem_map.mpr ⟨target, hEntity, rfl⟩, hClass, ?_⟩
    intro method hMethod
    rw [r.nextMethod?_toAccessor] at hMethod
    obtain ⟨passage, hPassage, rfl⟩ := Option.map_eq_some_iff.mp hMethod
    obtain ⟨second, found, hFound, hSecond⟩ := hNext passage hPassage
    rw [← Option.some.inj (hTarget.symm.trans hFound)] at hSecond
    exact ⟨second.toAccessor passage.relatedMethod,
      Model.mem_relations_ofTable_iff.mpr ⟨_, second, hSecond, rfl⟩, rfl⟩

/-- In a row of tables without a link table, a method over a relationship that itself goes over two
others resolves. -/
theorem convert_resolves_rowOfTables :
    ∃ artifacts final, ∃ model ∈ artifacts.models, ∃ accessor ∈ model.relations,
      (convert "_" (.suffix : Policy Unit) rowOfTables).result () = (.ok artifacts, final) ∧
      accessor.nextMethod? = some "tuna" ∧ artifacts.Resolves accessor := by
  have hMethods : ((convert "_" (.suffix : Policy Unit) rowOfTables).result ()).1.toOption.map
      (fun artifacts => artifacts.models.any fun model => model.relations.any fun accessor =>
        accessor.nextMethod? = some "tuna") = some true := by
    decide +kernel
  obtain ⟨artifacts, hRun, hAny⟩ := exists_result_of_map hMethods
  obtain ⟨model, hModel, hAny⟩ := List.any_eq_true.mp hAny
  obtain ⟨accessor, hAccessor, hMethod⟩ := List.any_eq_true.mp hAny
  refine ⟨artifacts, (), model, hModel, accessor, hAccessor, hRun, of_decide_eq_true hMethod, ?_⟩
  have hNoLink : ∀ decl ∈ rowOfTables.tables, ¬ Naming.isLinkName decl.name "_" = true := by
    decide +kernel
  rcases convert_resolves hRun model hModel accessor hAccessor with hResolves | hLeads
  · exact hResolves
  · obtain ⟨decl, hDecl, hMarked, -⟩ := hLeads
    exact absurd hMarked (hNoLink decl hDecl)

/-- News that point at the link table between news and mail. -/
def newsOfLink : Document where
  tables := [⟨"1", "news", false, false⟩, ⟨"2", "news_mail", false, false⟩]
  columns := .ofList [
    ("1", [{ id := "11", name := "id" }, { id := "12", name := "news_mail_id" }]),
    ("2", [{ id := "21", name := "id" }])]
  relations := [⟨⟨"1", "12"⟩, ⟨"2", "21"⟩⟩]

/-- **A relation that points at a link table breaks a method**: the model `News` names the class
`NewsMail`, and no model of that name is made. -/
theorem convert_names_missing_class :
    ∃ artifacts final, (convert "_" (.suffix : Policy Unit) newsOfLink).result () =
        (.ok artifacts, final) ∧
      ∃ model ∈ artifacts.models, ∃ accessor ∈ model.relations,
        accessor.className? = some "NewsMail" ∧ ¬ artifacts.Resolves accessor := by
  have hClasses : ((convert "_" (.suffix : Policy Unit) newsOfLink).result ()).1.toOption.map
      (fun artifacts => artifacts.models.map fun model =>
        (model.name, model.relations.map Accessor.className?)) =
      some [("News", [some "NewsMail"])] := by
    decide +kernel
  obtain ⟨artifacts, hRun, hModels⟩ := exists_result_of_map hClasses
  obtain ⟨model, rest, hSplit, hModel, hRest⟩ := List.map_eq_cons_iff.mp hModels
  obtain ⟨hName, hRelations⟩ := Prod.mk.inj hModel
  obtain ⟨accessor, more, hSplit', hClass, -⟩ := List.map_eq_cons_iff.mp hRelations
  have hRest : rest = [] := List.map_eq_nil_iff.mp hRest
  refine ⟨artifacts, (), hRun, model, by simp [hSplit], accessor, by simp [hSplit'], hClass, ?_⟩
  rintro ⟨other, hOther, hNamed, -⟩
  rw [hSplit, hRest, List.mem_singleton] at hOther
  rw [hOther, hClass, hName] at hNamed
  exact absurd hNamed (by decide)

end SchemaScaffold
