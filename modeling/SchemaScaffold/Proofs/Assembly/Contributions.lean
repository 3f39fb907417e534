import SchemaScaffold.Proofs.Assembly.Course

/-!
# What the relations of a document contribute

Every direct relationship of a finished schema is due to a declared relation, and the relations can
be gone through one by one to say which they are: no name and no id plays a part in that.

* `DeclaredColumn`, `DeclaredRelation`: columns and relations of a document, with their tables.
  `Document.columnAt?` finds the column of an endpoint.
* `Contribution`: a relationship that a relation gives to a table. A relation gives the two sides of
  its key (`DeclaredRelation.pointing`, `DeclaredRelation.pointedAt`), or, over a link table, a way
  from the target of every relation beside it (`DeclaredRelation.across`).
* `contributions`: those of all relations, in order.
* `resolve_accounts`: the direct relationships of every table are the contributions to it, in order.
-/

namespace SchemaScaffold

/-! ## Declared relations -/

/-- A declared column and its table. -/
structure DeclaredColumn where
  table : TableDecl
  column : ColumnDecl
  deriving Repr, DecidableEq

/-- A declared relation: the column that holds the key, and the column it points at. -/
structure DeclaredRelation where
  source : DeclaredColumn
  target : DeclaredColumn
  deriving Repr, DecidableEq

/-- Both the table and the column are declared in a document. -/
structure DeclaredColumn.IsIn (declared : DeclaredColumn) (document : Document) : Prop where
  table_mem : declared.table ∈ document.tables
  column_mem : declared.column ∈ document.columnsUnder declared.table

/-- The column that an endpoint names, by the id of its table and its own. -/
def Document.columnAt? (document : Document) (endpoint : Endpoint) : Option DeclaredColumn :=
  (document.tables.find? fun table => table.id = endpoint.tableId).bind fun table =>
    ((document.columnsUnder table).find? fun column => column.id = endpoint.columnId).map
      fun column => ⟨table, column⟩

/-- The columns at the ends of a relation. -/
def Document.relationAt? (document : Document) (decl : RelationDecl) : Option DeclaredRelation :=
  (document.columnAt? decl.source).bind fun source =>
    (document.columnAt? decl.target).map fun target => ⟨source, target⟩

/-- All relations with the columns at their ends, in order. -/
def Document.declaredRelations? (document : Document) : Option (List DeclaredRelation) :=
  document.relations.mapM document.relationAt?

/-! ## Contributions -/

/-- A relationship that a relation gives to a table. -/
structure Contribution where
  owner : String
  relationship : Relationship
  deriving Repr, DecidableEq

namespace DeclaredRelation

/-- The side of the table that holds the key. -/
def pointing (relation : DeclaredRelation) : Contribution where
  owner := relation.source.table.name
  relationship :=
    { kind := .belongsTo
      table := relation.target.table.name
      model := relation.target.table.model
      primaryKey := relation.target.column.name
      foreignKey := relation.source.column.name }

/-- The side of the table that the key points at: one row there, if the column that holds the key
is unique, or many. -/
def pointedAt (relation : DeclaredRelation) : Contribution where
  owner := relation.target.table.name
  relationship :=
    { kind := if relation.source.column.unique then .hasOne else .hasMany
      table := relation.source.table.name
      model := relation.source.table.model
      primaryKey := relation.target.column.name
      foreignKey := relation.source.column.name }

/-- The way over the link table from the target of another relation to the target of this one. -/
def across (relation other : DeclaredRelation) : Contribution where
  owner := other.target.table.name
  relationship :=
    { kind := .belongsToMany
        { relatedForeignKey := relation.source.column.name
          relatedPrimaryKey := relation.target.column.name
          table := relation.source.table.name
          withTimestamps := relation.source.table.timestamps }
      table := relation.target.table.name
      model := relation.target.table.model
      primaryKey := other.target.column.name
      foreignKey := other.source.column.name }

/-- Whether another relation leaves the same table from a different column. -/
def isBeside (relation other : DeclaredRelation) : Bool :=
  other.source.table.name = relation.source.table.name &&
    other.source.column.name ≠ relation.source.column.name

/-- What one of the relations contributes. -/
def contributions (separator : String) (relations : List DeclaredRelation)
    (relation : DeclaredRelation) : List Contribution :=
  if Naming.isLinkName relation.source.table.name separator then
    (relations.filter relation.isBeside).map relation.across
  else [relation.pointing, relation.pointedAt]

end DeclaredRelation

/-- What all relations contribute, in order. -/
def contributions (separator : String) (relations : List DeclaredRelation) : List Contribution :=
  relations.flatMap (DeclaredRelation.contributions separator relations)

/-- The direct relationships of the table of a name, in the order of registration. -/
def directRelationships (tables : Keyed Table) (owner : String) : List Relationship :=
  ((entriesOf tables owner).map Prod.snd).filter Relationship.isDirect

/-! ## Edges of declared relations -/

/-- A declared column, by the names of its table and itself. -/
def DeclaredColumn.place (declared : DeclaredColumn) : Place :=
  ⟨declared.table.name, declared.column.name⟩

/-- A declared relation, by the names of the columns at its ends. -/
def DeclaredRelation.edge (relation : DeclaredRelation) : Edge :=
  ⟨relation.source.place, relation.target.place⟩

/-- A proposal without its name. -/
def Proposal.contribution (proposal : Proposal) : Contribution :=
  ⟨proposal.owner, proposal.relationship⟩

theorem find?_eq_some_iff_of_nodup {α β : Type} [DecidableEq β] {f : α → β} {l : List α}
    (h : (l.map f).Nodup) {key : β} {a : α} :
    l.find? (fun b => f b = key) = some a ↔ a ∈ l ∧ f a = key := by
  constructor
  · intro hFind
    exact ⟨List.mem_of_find?_eq_some hFind, by simpa using List.find?_some hFind⟩
  · rintro ⟨ha, rfl⟩
    exact find?_of_nodup_map f h ha

theorem Document.columnAt?_eq_some_iff {document : Document} (hValid : document.HasValidTables)
    {endpoint : Endpoint} {declared : DeclaredColumn} :
    document.columnAt? endpoint = some declared ↔ declared.IsIn document ∧
      declared.table.id = endpoint.tableId ∧ declared.column.id = endpoint.columnId := by
  have hColumnIds : ∀ table ∈ document.tables,
      ((document.columnsUnder table).map ColumnDecl.id).Nodup := by
    have hAll := hValid.columnIds_nodup
    rw [Document.allColumns, List.map_flatMap, List.nodup_flatMap] at hAll
    exact hAll.1
  unfold Document.columnAt?
  simp only [Option.bind_eq_some_iff, Option.map_eq_some_iff,
    find?_eq_some_iff_of_nodup hValid.tableIds]
  constructor
  · rintro ⟨table, ⟨hTable, hTableId⟩, column, hFind, rfl⟩
    obtain ⟨hColumn, hColumnId⟩ :=
      (find?_eq_some_iff_of_nodup (hColumnIds table hTable)).mp hFind
    exact ⟨⟨hTable, hColumn⟩, hTableId, hColumnId⟩
  · rintro ⟨⟨hTable, hColumn⟩, hTableId, hColumnId⟩
    exact ⟨declared.table, ⟨hTable, hTableId⟩, declared.column,
      (find?_eq_some_iff_of_nodup (hColumnIds _ hTable)).mpr ⟨hColumn, hColumnId⟩, rfl⟩

theorem Document.isIn_of_declaredRelations? {document : Document}
    (hValid : document.HasValidTables) {relations : List DeclaredRelation}
    (h : document.declaredRelations? = some relations) :
    ∀ relation ∈ relations, relation.source.IsIn document ∧ relation.target.IsIn document := by
  unfold Document.declaredRelations? at h
  generalize document.relations = decls at h
  induction decls generalizing relations with
  | nil =>
    cases h
    simp
  | cons decl rest ih =>
    simp only [List.mapM_cons, Option.bind_eq_bind, Option.bind_eq_some_iff, Option.pure_def,
      Option.some.injEq] at h
    obtain ⟨relation, hHead, others, hRest, rfl⟩ := h
    obtain ⟨source, hSource, hHead⟩ := Option.bind_eq_some_iff.mp hHead
    obtain ⟨target, hTarget, rfl⟩ := Option.map_eq_some_iff.mp hHead
    refine List.forall_mem_cons.mpr ⟨⟨?_, ?_⟩, ih hRest⟩
    · exact ((document.columnAt?_eq_some_iff hValid).mp hSource).1
    · exact ((document.columnAt?_eq_some_iff hValid).mp hTarget).1

/-- Lists of parts that correspond one by one correspond as a whole. -/
theorem forall₂_flatMap {α β γ : Type} {R : β → γ → Prop} {f : α → List β} {g : α → List γ} :
    ∀ {l : List α}, (∀ a ∈ l, List.Forall₂ R (f a) (g a)) →
      List.Forall₂ R (l.flatMap f) (l.flatMap g)
  | [], _ => .nil
  | a :: rest, h => by
    obtain ⟨hHead, hRest⟩ := List.forall_mem_cons.mp h
    rw [List.flatMap_cons, List.flatMap_cons]
    exact List.rel_append hHead (forall₂_flatMap hRest)

/-- Where a proposal has a name, it contributes what is expected of it. -/
def Expects (outcome : Except Stop Proposal) (contribution : Contribution) : Prop :=
  ∀ proposal, outcome = .ok proposal → proposal.contribution = contribution

theorem expects_make {owner namedAfter : String} {formed : Option String}
    {relationship : Relationship} :
    Expects (Proposal.make owner namedAfter formed relationship) ⟨owner, relationship⟩ := by
  intro proposal hMake
  obtain ⟨name, -, rfl⟩ := Proposal.make_eq_ok_iff.mp hMake
  rfl

namespace Assembled

variable {separator : String} {document : Document} {registry : Registry} {tables : Keyed Table}

theorem ofEndpoint_eq_ok_iff (h : Assembled separator document registry tables)
    (hValid : document.HasValidTables) {endpoint : Endpoint} {place : Place} :
    Place.ofEndpoint registry endpoint = .ok place ↔
      ∃ declared, document.columnAt? endpoint = some declared ∧ declared.place = place := by
  obtain ⟨tableName, columnName⟩ := place
  simp only [Place.ofEndpoint_eq_ok_iff, h.column_get?_eq_some_iff, h.nameOfTable?_eq_some_iff,
    Document.columnAt?_eq_some_iff hValid, ColumnEntry.mk.injEq, DeclaredColumn.place,
    Place.mk.injEq]
  constructor
  · rintro ⟨⟨table, hTable, column, hColumn, hId, rfl, rfl⟩, other, hOther, hOtherId, hSame⟩
    have hEq : other = table := List.inj_on_of_nodup_map hValid.tableNames hOther hTable hSame
    subst hEq
    exact ⟨⟨other, column⟩, ⟨⟨hTable, hColumn⟩, hOtherId, hId⟩, rfl, rfl⟩
  · rintro ⟨⟨table, column⟩, ⟨⟨hTable, hColumn⟩, hTableId, hColumnId⟩, rfl, rfl⟩
    exact ⟨⟨table, hTable, column, hColumn, hColumnId, rfl, rfl⟩, table, hTable, hTableId, rfl⟩

theorem ofDecl_eq_ok_iff (h : Assembled separator document registry tables)
    (hValid : document.HasValidTables) {decl : RelationDecl} {edge : Edge} :
    Edge.ofDecl registry decl = .ok edge ↔
      ∃ relation, document.relationAt? decl = some relation ∧ relation.edge = edge := by
  obtain ⟨source, target⟩ := edge
  simp only [Edge.ofDecl_eq_ok_iff, h.ofEndpoint_eq_ok_iff hValid, Document.relationAt?,
    Option.bind_eq_some_iff, Option.map_eq_some_iff]
  constructor
  · rintro ⟨⟨source, hSource, rfl⟩, target, hTarget, rfl⟩
    exact ⟨⟨source, target⟩, ⟨source, hSource, target, hTarget, rfl⟩, rfl⟩
  · rintro ⟨_, ⟨source, hSource, target, hTarget, rfl⟩, hEdge⟩
    cases hEdge
    exact ⟨⟨source, hSource, rfl⟩, target, hTarget, rfl⟩

/-- The edges of a build are those of the declared relations. -/
theorem exists_declaredRelations (h : Assembled separator document registry tables)
    (hValid : document.HasValidTables) {edges : List Edge}
    (hEdges : document.relations.mapM (Edge.ofDecl registry) = .ok edges) :
    ∃ relations, document.declaredRelations? = some relations ∧
      edges = relations.map DeclaredRelation.edge := by
  have hAll := mapM_eq_ok_iff.mp hEdges
  clear hEdges
  unfold Document.declaredRelations?
  generalize document.relations = decls at hAll
  induction hAll with
  | nil => exact ⟨[], rfl, rfl⟩
  | cons hHead _ ih =>
    obtain ⟨relation, hRelation, rfl⟩ := (h.ofDecl_eq_ok_iff hValid).mp hHead
    obtain ⟨rest, hRest, rfl⟩ := ih
    exact ⟨relation :: rest, by simp [List.mapM_cons, hRelation, hRest], rfl⟩

theorem get?_table_name (h : Assembled separator document registry tables)
    {decl : TableDecl} (hDecl : decl ∈ document.tables) :
    tables.get? decl.name = some (decl.assembled separator document registry) :=
  h.get?_eq_some_iff.mpr ⟨decl, hDecl, rfl, rfl⟩

/-- A declared column is a column of its assembled table. -/
theorem get?_column_name (h : Assembled separator document registry tables)
    (hValid : document.HasValidTables) {declared : DeclaredColumn}
    (hDeclared : declared.IsIn document) :
    (declared.table.assembled separator document registry).columns.get? declared.column.name =
      some (Column.ofDecl registry declared.column) := by
  have hTable := h.get?_table_name hDeclared.table_mem
  exact Keyed.get?_eq_some_iff.mpr ((h.column_mem_iff hValid hTable).mpr
    ⟨declared.table, hDeclared.table_mem, rfl, declared.column, hDeclared.column_mem, rfl, rfl⟩)

theorem isUnique_eq (h : Assembled separator document registry tables)
    (hValid : document.HasValidTables) {declared : DeclaredColumn}
    (hDeclared : declared.IsIn document) :
    (declared.table.assembled separator document registry).isUnique declared.column.name =
      declared.column.unique := by
  rw [Table.isUnique, h.get?_column_name hValid hDeclared]
  rfl

/-- The foreign key that an assembled column keeps leads to the column that it refers to. -/
theorem foreignKey_eq_some_iff (h : Assembled separator document registry tables)
    {decl : ColumnDecl} {key : ForeignKey} :
    (Column.ofDecl registry decl).foreignKey = some key ↔ ∃ target : DeclaredColumn,
      target.IsIn document ∧ decl.RefersTo target.column ∧
        key = ⟨target.table.name, target.column.name⟩ := by
  rw [Column.foreignKey_ofDecl_eq_some_iff]
  simp only [h.column_get?_eq_some_iff, ColumnEntry.mk.injEq, ColumnDecl.refersTo_iff]
  constructor
  · rintro ⟨id, hRefers, table, hTable, column, hColumn, rfl, hNames⟩
    obtain ⟨keyTable, keyColumn⟩ := key
    obtain ⟨rfl, rfl⟩ := hNames
    exact ⟨⟨table, column⟩, ⟨hTable, hColumn⟩, hRefers, rfl⟩
  · rintro ⟨target, hIn, hRefers, rfl⟩
    exact ⟨_, hRefers, target.table, hIn.table_mem, target.column, hIn.column_mem, rfl, rfl, rfl⟩

/-- One edge proposes what its relation contributes. -/
theorem expects_edgeProposals (h : Assembled separator document registry tables)
    (hValid : document.HasValidTables) (relations : List DeclaredRelation)
    {relation : DeclaredRelation} (hSource : relation.source.IsIn document)
    (hTarget : relation.target.IsIn document) :
    List.Forall₂ Expects (edgeProposals tables (relations.map DeclaredRelation.edge) relation.edge)
      (relation.contributions separator relations) := by
  have hSourceTable : tables.get? relation.edge.source.table = _ :=
    h.get?_table_name hSource.table_mem
  have hTargetTable : tables.get? relation.edge.target.table = _ :=
    h.get?_table_name hTarget.table_mem
  have hBeside : (relations.map DeclaredRelation.edge).filter relation.edge.isPartner =
      (relations.filter relation.isBeside).map DeclaredRelation.edge := List.filter_map
  have hIsLink := relation.source.table.isLink_assembled separator document registry
  simp only [edgeProposals, hSourceTable, hTargetTable, DeclaredRelation.contributions]
  by_cases hLink : Naming.isLinkName relation.source.table.name separator = true
  · rw [if_pos (hIsLink.trans hLink), if_pos hLink, hBeside, List.map_map, List.forall₂_map_left_iff,
      List.forall₂_map_right_iff, List.forall₂_same]
    intro other _
    simp only [Function.comp_apply, linkProposal, TableDecl.timestamps_assembled,
      TableDecl.model_assembled]
    exact expects_make
  · have hUnique : (relation.source.table.assembled separator document registry).isUnique
        relation.edge.source.column = _ := h.isUnique_eq hValid hSource
    rw [if_neg (hIsLink ▸ hLink), if_neg hLink]
    simp only [keyProposals, hUnique, TableDecl.model_assembled]
    exact .cons expects_make (.cons expects_make .nil)

/-- The proposals of the first pass, if all of them have names, are the contributions. -/
theorem map_contribution_eq (h : Assembled separator document registry tables)
    (hValid : document.HasValidTables) {relations : List DeclaredRelation}
    (hRelations : ∀ relation ∈ relations, relation.source.IsIn document ∧
      relation.target.IsIn document) {done : List Proposal}
    (hDone : proposals tables (relations.map DeclaredRelation.edge) = done.map Except.ok) :
    done.map Proposal.contribution = contributions separator relations := by
  have hExpects : List.Forall₂ Expects
      (proposals tables (relations.map DeclaredRelation.edge))
      (contributions separator relations) := by
    rw [proposals, List.flatMap_map]
    refine forall₂_flatMap fun relation hRelation => ?_
    obtain ⟨hSource, hTarget⟩ := hRelations relation hRelation
    exact h.expects_edgeProposals hValid relations hSource hTarget
  rw [hDone, List.forall₂_map_left_iff] at hExpects
  rw [← List.forall₂_eq_eq_eq, List.forall₂_map_left_iff]
  exact hExpects.imp fun proposal _ hProposal => hProposal proposal rfl

theorem entriesOf_eq_nil (h : Assembled separator document registry tables) (owner : String) :
    entriesOf tables owner = [] := by
  cases hTable : tables.get? owner with
  | none => rw [entriesOf, hTable, Option.map_none, Option.getD_none]
  | some table =>
    rw [entriesOf_of_get? hTable, h.relationships_eq hTable, Keyed.entries_empty]

end Assembled

/-! ## What is left of the names -/

theorem ThroughRun.filter_isDirect_eq_nil {tables final : Keyed Table} {additions : List Proposal}
    (h : ThroughRun tables additions final) (owner : String) :
    ((additions.filter fun proposal => proposal.owner = owner).map
      Proposal.relationship).filter Relationship.isDirect = [] := by
  rw [List.filter_eq_nil_iff]
  intro r hr hDirect
  obtain ⟨proposal, hProposal, rfl⟩ := List.mem_map.mp hr
  have hPassage := h.isSome_passage? proposal (List.mem_of_mem_filter hProposal)
  rw [Relationship.passage?_of_isDirect hDirect] at hPassage
  cases hPassage

theorem filter_isDirect_of_proposals {tables : Keyed Table} {edges : List Edge}
    {done : List Proposal} (hDone : proposals tables edges = done.map Except.ok) (owner : String) :
    ((done.filter fun proposal => proposal.owner = owner).map
        Proposal.relationship).filter Relationship.isDirect =
      ((done.map Proposal.contribution).filter fun contribution =>
        contribution.owner = owner).map Contribution.relationship := by
  have hDirect : ∀ r ∈ (done.filter fun proposal => proposal.owner = owner).map
      Proposal.relationship, r.isDirect = true := by
    intro r hr
    obtain ⟨proposal, hProposal, rfl⟩ := List.mem_map.mp hr
    obtain ⟨edge, -, hProposes⟩ :=
      exists_proposes_of_mem hDone (List.mem_of_mem_filter hProposal)
    exact hProposes.isDirect
  rw [List.filter_eq_self.mpr hDirect, List.filter_map, List.map_map]
  rfl

variable {σ : Type}

/-- **The direct relationships account for the relations.** In every schema that a build gives, all
relations run between declared columns, every contribution has its owner among the tables, and the
direct relationships of a table are the contributions to it, in order: none is lost, none is there
twice, and none comes from elsewhere. -/
theorem resolve_accounts {separator : String} {policy : Policy σ} {document : Document}
    {state final : σ} {schema : Schema}
    (h : (resolve separator policy document).result state = (.ok schema, final)) :
    ∃ relations, document.declaredRelations? = some relations ∧
      (∀ contribution ∈ contributions separator relations,
        contribution.owner ∈ schema.tables.keys) ∧
      ∀ owner, directRelationships schema.tables owner =
        ((contributions separator relations).filter fun contribution =>
          contribution.owner = owner).map Contribution.relationship := by
  obtain ⟨asked, hCourse⟩ := exists_course_of_ok h
  cases hCourse with
  | @completed registry tables direct final edges asked additions after hTables hEdges hDirect hRun
      hThrough =>
    obtain ⟨hValid, -, hAssembled⟩ := assembleTables_eq_ok_iff.mp hTables
    obtain ⟨relations, hRelations, rfl⟩ := hAssembled.exists_declaredRelations hValid hEdges
    cases hDirect with
    | @completed done asked direct after hPending hDone =>
      have hMap := hAssembled.map_contribution_eq hValid
        (document.isIn_of_declaredRelations? hValid hRelations) hPending
      refine ⟨relations, hRelations, ?_, ?_⟩
      · intro contribution hContribution
        rw [← hMap] at hContribution
        obtain ⟨proposal, hProposal, rfl⟩ := List.mem_map.mp hContribution
        obtain ⟨edge, -, hProposes⟩ := exists_proposes_of_mem hPending hProposal
        have hOwner := hProposes.owner_mem (hAssembled.isKnown hEdges)
        rw [hThrough.keys_eq, hDone.keys_eq]
        exact hOwner
      · intro owner
        rw [directRelationships, hThrough.values_eq, hDone.values_eq,
          hAssembled.entriesOf_eq_nil, List.map_nil, List.nil_append, List.filter_append,
          hRun.filter_isDirect_eq_nil, List.append_nil, filter_isDirect_of_proposals hPending, hMap]

/-- A link table with three keys, two of them to a table that also points at itself. -/
def newsletters : Document where
  tables := [⟨"N", "news", false, false⟩, ⟨"M", "mail", false, false⟩,
    ⟨"L", "news_mail", false, true⟩]
  columns := .ofList [
    ("N", [{ id := "N1", name := "id" }]),
    ("M", [{ id := "M1", name := "id" }, { id := "M2", name := "reply_id", unique := true }]),
    ("L", [{ id := "L1", name := "news_id" }, { id := "L2", name := "mail_id" },
      { id := "L3", name := "copy_id" }])]
  relations := [⟨⟨"M", "M2"⟩, ⟨"M", "M1"⟩⟩, ⟨⟨"L", "L1"⟩, ⟨"N", "N1"⟩⟩,
    ⟨⟨"L", "L2"⟩, ⟨"M", "M1"⟩⟩, ⟨⟨"L", "L3"⟩, ⟨"M", "M1"⟩⟩]

theorem newsletters_builds :
    ∃ schema final, (resolve "_" (.suffix : Policy Unit) newsletters).result () =
      (.ok schema, final) := by
  have hBuilds : ((resolve "_" (.suffix : Policy Unit) newsletters).result ()).1.toOption.map
      (fun _ => ()) = some () := by
    decide +kernel
  obtain ⟨schema, hResult, -⟩ := exists_result_of_map hBuilds
  exact ⟨schema, (), hResult⟩

/-- Six relationships of `mail` come from its own key and from the link table, although only three
names are proposed for them. -/
theorem resolve_accounts_newsletters :
    ∃ schema final relations,
      (resolve "_" (.suffix : Policy Unit) newsletters).result () = (.ok schema, final) ∧
      newsletters.declaredRelations? = some relations ∧
      (∀ contribution ∈ contributions "_" relations,
        contribution.owner ∈ schema.tables.keys) ∧
      (directRelationships schema.tables "mail").map
          (fun r => (r.kind.name, r.table, r.foreignKey)) =
        [("belongsTo", "mail", "reply_id"), ("hasOne", "mail", "reply_id"),
          ("belongsToMany", "news", "mail_id"), ("belongsToMany", "news", "copy_id"),
          ("belongsToMany", "mail", "copy_id"), ("belongsToMany", "mail", "mail_id")] := by
  obtain ⟨schema, final, hBuild⟩ := newsletters_builds
  obtain ⟨relations, hRelations, hOwners, hDirect⟩ := resolve_accounts hBuild
  refine ⟨schema, final, relations, hBuild, hRelations, hOwners, ?_⟩
  have hMail : newsletters.declaredRelations?.map (fun relations =>
      (((contributions "_" relations).filter fun contribution =>
        contribution.owner = "mail").map Contribution.relationship).map
          fun r => (r.kind.name, r.table, r.foreignKey)) =
      some [("belongsTo", "mail", "reply_id"), ("hasOne", "mail", "reply_id"),
        ("belongsToMany", "news", "mail_id"), ("belongsToMany", "news", "copy_id"),
        ("belongsToMany", "mail", "copy_id"), ("belongsToMany", "mail", "mail_id")] := by
    decide +kernel
  rw [hRelations, Option.map_some, Option.some.injEq] at hMail
  rw [hDirect, hMail]

end SchemaScaffold
