import SchemaScaffold.Proofs.Assembly.Contributions

/-!
# Referential integrity

The final check of a build asks little of the keys of a relationship. What a schema promises about
them holds all the same: both passes copy keys, and the ends of the relations are columns.

* `Relationship.Fits`: a relationship leads to a table whose model it names, and its keys are columns
  of the tables where its kind has them.
* `Schema.IsReferential`: all relationships fit, and all foreign keys of columns point at columns.
* `Proposes.exists_fits`, `FitsInto`: what the relations propose fits, and both passes keep that.
* `resolve_isReferential`: so every schema that a build gives has integrity.
-/

namespace SchemaScaffold

/-! ## Keys and columns -/

/-- The keys of a relationship between two tables are columns in the places that its kind has for
them. Relationships over two others have their keys from the first of these. -/
inductive Relationship.KeysFit (tables : Keyed Table) (owner related : Table) (r : Relationship) :
    Prop
  | belongsTo (hKind : r.kind = .belongsTo) (hOwner : owner.isLink = false)
      (hForeign : r.foreignKey ∈ owner.columns.keys)
      (hPrimary : r.primaryKey ∈ related.columns.keys) :
      r.KeysFit tables owner related
  | has {column : Column} (hKind : r.kind = if column.unique then .hasOne else .hasMany)
      (hRelated : related.isLink = false)
      (hForeign : related.columns.get? r.foreignKey = some column)
      (hPrimary : r.primaryKey ∈ owner.columns.keys) :
      r.KeysFit tables owner related
  | belongsToMany {pivot : Pivot} {link : Table} (hKind : r.kind = .belongsToMany pivot)
      (hLink : tables.get? pivot.table = some link) (hIsLink : link.isLink = true)
      (hForeign : r.foreignKey ∈ link.columns.keys)
      (hRelatedForeign : pivot.relatedForeignKey ∈ link.columns.keys)
      (hDifferent : r.foreignKey ≠ pivot.relatedForeignKey)
      (hPrimary : r.primaryKey ∈ owner.columns.keys)
      (hRelatedPrimary : pivot.relatedPrimaryKey ∈ related.columns.keys)
      (hTimestamps : pivot.withTimestamps = link.timestamps) :
      r.KeysFit tables owner related
  | hasManyThrough {passage : Passage} (hKind : r.kind = .hasManyThrough passage) :
      r.KeysFit tables owner related

/-- A relationship of a table leads to another one, whose model it names, and its keys fit. -/
structure Relationship.Fits (tables : Keyed Table) (owner related : Table) (r : Relationship) :
    Prop where
  table_eq : tables.get? r.table = some related
  model_eq : r.model = related.model
  keys : r.KeysFit tables owner related

/-- There is a table of a name with a column of another one. -/
def HasColumn (tables : Keyed Table) (table column : String) : Prop :=
  ∃ found, tables.get? table = some found ∧ column ∈ found.columns.keys

theorem HasColumn.mem {tables : Keyed Table} {name column : String} {table : Table}
    (h : HasColumn tables name column) (hTable : tables.get? name = some table) :
    column ∈ table.columns.keys := by
  obtain ⟨found, hFound, hColumn⟩ := h
  rwa [Option.some.inj (hTable.symm.trans hFound)]

/-- All relationships fit, and all foreign keys of columns point at columns. -/
structure Schema.IsReferential (schema : Schema) : Prop where
  relationships : ∀ owner table, schema.table? owner = some table →
    ∀ name r, table.relationships.get? name = some r →
      ∃ related, r.Fits schema.tables table related
  columns : ∀ name table, schema.table? name = some table →
    ∀ column ∈ table.columns.values, ∀ key, column.foreignKey = some key →
      HasColumn schema.tables key.table key.column

/-! ## Relationships do not matter -/

theorem HasColumn.of_bare_eq {tables tables' : Keyed Table} {name column : String}
    (h : HasColumn tables name column)
    (hBare : tables'.mapValues Table.bare = tables.mapValues Table.bare) :
    HasColumn tables' name column := by
  obtain ⟨table, hTable, hColumn⟩ := h
  obtain ⟨table', hTable', hSame⟩ := exists_get?_of_bare_eq hBare hTable
  obtain ⟨-, -, -, hColumns⟩ := Table.fields_eq_of_bare_eq hSame
  exact ⟨table', hTable', hColumns ▸ hColumn⟩

theorem Relationship.KeysFit.of_bare_eq {tables tables' : Keyed Table}
    {owner owner' related related' : Table} {r : Relationship}
    (h : r.KeysFit tables owner related)
    (hBare : tables'.mapValues Table.bare = tables.mapValues Table.bare)
    (hOwner : owner'.bare = owner.bare) (hRelated : related'.bare = related.bare) :
    r.KeysFit tables' owner' related' := by
  obtain ⟨-, hOwnerLink, -, hOwnerColumns⟩ := Table.fields_eq_of_bare_eq hOwner
  obtain ⟨-, hRelatedLink, -, hRelatedColumns⟩ := Table.fields_eq_of_bare_eq hRelated
  cases h with
  | belongsTo hKind hIsLink hForeign hPrimary =>
    exact .belongsTo hKind (hOwnerLink.trans hIsLink) (hOwnerColumns ▸ hForeign)
      (hRelatedColumns ▸ hPrimary)
  | has hKind hIsLink hForeign hPrimary =>
    exact .has hKind (hRelatedLink.trans hIsLink) (hRelatedColumns ▸ hForeign)
      (hOwnerColumns ▸ hPrimary)
  | belongsToMany hKind hLink hIsLink hForeign hRelatedForeign hDifferent hPrimary hRelatedPrimary
      hTimestamps =>
    obtain ⟨link', hLink', hSame⟩ := exists_get?_of_bare_eq hBare hLink
    obtain ⟨-, hLinkLink, hLinkTimestamps, hLinkColumns⟩ := Table.fields_eq_of_bare_eq hSame
    exact .belongsToMany hKind hLink' (hLinkLink.trans hIsLink) (hLinkColumns ▸ hForeign)
      (hLinkColumns ▸ hRelatedForeign) hDifferent (hOwnerColumns ▸ hPrimary)
      (hRelatedColumns ▸ hRelatedPrimary) (hTimestamps.trans hLinkTimestamps.symm)
  | hasManyThrough hKind => exact .hasManyThrough hKind

/-- Whether a relationship fits depends on what tables have besides relationships. -/
theorem Relationship.Fits.of_bare_eq {tables tables' : Keyed Table} {owner owner' related : Table}
    {r : Relationship} (h : r.Fits tables owner related)
    (hBare : tables'.mapValues Table.bare = tables.mapValues Table.bare)
    (hOwner : owner'.bare = owner.bare) : ∃ related', r.Fits tables' owner' related' := by
  obtain ⟨related', hRelated, hSame⟩ := exists_get?_of_bare_eq hBare h.table_eq
  exact ⟨related', {
    table_eq := hRelated
    model_eq := h.model_eq.trans (Table.fields_eq_of_bare_eq hSame).1.symm
    keys := h.keys.of_bare_eq hBare hOwner hSame }⟩

/-! ## What is proposed fits -/

/-- Both ends of an edge are columns. -/
def Edge.JoinsColumns (tables : Keyed Table) (edge : Edge) : Prop :=
  HasColumn tables edge.source.table edge.source.column ∧
    HasColumn tables edge.target.table edge.target.column

theorem Assembled.joinsColumns {separator : String} {document : Document} {registry : Registry}
    {tables : Keyed Table} (h : Assembled separator document registry tables)
    (hValid : document.HasValidTables) {edges : List Edge}
    (hEdges : document.relations.mapM (Edge.ofDecl registry) = .ok edges) :
    ∀ edge ∈ edges, edge.JoinsColumns tables := by
  intro edge hEdge
  obtain ⟨decl, -, hDecl⟩ := exists_of_mem_mapM hEdges hEdge
  obtain ⟨hSource, hTarget⟩ := Edge.ofDecl_eq_ok_iff.mp hDecl
  exact ⟨h.exists_column hValid (Place.ofEndpoint_eq_ok_iff.mp hSource).1,
    h.exists_column hValid (Place.ofEndpoint_eq_ok_iff.mp hTarget).1⟩

theorem Table.exists_column_of_mem {table : Table} {name : String}
    (h : name ∈ table.columns.keys) :
    ∃ column, table.columns.get? name = some column ∧ table.isUnique name = column.unique := by
  obtain ⟨column, hColumn⟩ := Keyed.mem_keys_iff.mp h
  refine ⟨column, hColumn, ?_⟩
  rw [isUnique, hColumn, Option.any_some]

/-- What an edge between columns proposes fits. -/
theorem Proposes.exists_fits {tables : Keyed Table} {edges : List Edge} {edge : Edge}
    {proposal : Proposal} (h : Proposes tables edges edge proposal) (hEdge : edge ∈ edges)
    (hColumns : ∀ edge ∈ edges, edge.JoinsColumns tables) :
    ∃ owner related, tables.get? proposal.owner = some owner ∧
      proposal.relationship.Fits tables owner related := by
  obtain ⟨hSourceColumn, hTargetColumn⟩ := hColumns edge hEdge
  cases h with
  | @belongsTo source target name hSource hTarget hLink =>
    exact ⟨source, target, hSource, hTarget, rfl,
      .belongsTo rfl hLink (hSourceColumn.mem hSource) (hTargetColumn.mem hTarget)⟩
  | @has source target name hSource hTarget hLink =>
    obtain ⟨column, hColumn, hUnique⟩ := Table.exists_column_of_mem (hSourceColumn.mem hSource)
    exact ⟨target, source, hTarget, hSource, rfl,
      .has (by rw [hUnique]) hLink hColumn (hTargetColumn.mem hTarget)⟩
  | @link source target other name hSource hTarget hLink hOther hPartner =>
    obtain ⟨hOtherSource, owner, hOwner, hOtherColumn⟩ := hColumns other hOther
    obtain ⟨hSame, hDifferent⟩ : other.source.table = edge.source.table ∧
        other.source.column ≠ edge.source.column := by
      simpa [Edge.isPartner] using hPartner
    -- both edges leave the link table, so that both columns are columns of it
    rw [hSame] at hOtherSource
    exact ⟨owner, target, hOwner, hTarget, rfl,
      .belongsToMany rfl hSource hLink (hOtherSource.mem hSource) (hSourceColumn.mem hSource)
        hDifferent hOtherColumn (hTargetColumn.mem hTarget) rfl⟩

/-! ## What both passes keep -/

/-- All relationships fit the tables of the start. -/
def FitsInto (start tables : Keyed Table) : Prop :=
  ∀ owner name r, Owns tables owner name r →
    ∃ table related, start.get? owner = some table ∧ r.Fits start table related

theorem fitsInto_of_relateDirectly {σ : Type} {policy : Policy σ} {tables direct : Keyed Table}
    {edges : List Edge} {state after : σ} (hStart : Unrelated tables)
    (hColumns : ∀ edge ∈ edges, edge.JoinsColumns tables)
    (h : (relateDirectly policy tables edges).result state = (.ok direct, after)) :
    FitsInto tables direct := by
  refine relateDirectly_induction (P := FitsInto tables) ?_ ?_ h
  · intro owner name r hOwns
    exact absurd hOwns (hStart owner name r)
  · intro before proposal _ next hBefore hMem hRegistered owner name r hOwns
    rcases hRegistered.owns_iff.mp hOwns with hOld | ⟨rfl, -, rfl⟩
    · exact hBefore owner name r hOld
    · obtain ⟨edge, hEdge, hProposes⟩ := mem_proposals_iff.mp hMem
      exact hProposes.exists_fits hEdge hColumns

/-- A relationship over two others belongs to the owner of the first one, and leads where the
second one leads. -/
theorem ThroughRun.fitsInto {start tables final : Keyed Table} {additions : List Proposal}
    (h : ThroughRun tables additions final) (hFits : FitsInto start tables) :
    FitsInto start final := by
  refine h.induction hFits fun before proposal through first second next hBefore hMissing hAdded => ?_
  intro owner name r hOwns
  rcases hAdded.owns_iff.mp hOwns with hOld | ⟨rfl, -, rfl⟩
  · exact hBefore owner name r hOld
  · obtain ⟨table, -, hTable, -⟩ := hBefore _ _ _ hMissing.owns_first
    obtain ⟨_, related, _, hSecond⟩ := hBefore _ _ _ hMissing.owns_second
    rw [hMissing.relationship_eq]
    exact ⟨table, related, hTable, hSecond.table_eq, hSecond.model_eq, .hasManyThrough rfl⟩

/-! ## The finished schema -/

variable {σ : Type}

/-- **Every schema that a build gives has referential integrity**, whatever the separator and the
policy: a relationship leads to a table of the schema whose model it names, its keys are columns of
the tables where its kind has them, with a link table between the sides of a `belongsToMany`, and
the foreign keys of columns point at columns. -/
theorem resolve_isReferential {separator : String} {policy : Policy σ} {document : Document}
    {state final : σ} {schema : Schema}
    (h : (resolve separator policy document).result state = (.ok schema, final)) :
    schema.IsReferential := by
  obtain ⟨registry, tables, edges, direct, hTables, hEdges, hDirect, hThrough, -⟩ :=
    resolve_eq_ok_iff.mp h
  obtain ⟨-, additions, hRun⟩ := exists_run_of_relateThrough hThrough
  have hStaged := staged_of_run hTables hEdges hDirect hRun
  have hBare := hStaged.final_bare_eq
  have hColumns := hStaged.assembled.joinsColumns hStaged.valid hEdges
  have hFits := hRun.fitsInto
    (fitsInto_of_relateDirectly hStaged.assembled.unrelated hColumns hDirect)
  refine ⟨?_, ?_⟩
  · intro owner table hTable name r hr
    obtain ⟨start, related, hStart, hFit⟩ := hFits owner name r ⟨table, hTable, hr⟩
    obtain ⟨table', hTable', hSame⟩ := exists_get?_of_bare_eq hBare hStart
    have hEq : table = table' := Option.some.inj (hTable.symm.trans hTable')
    subst hEq
    exact hFit.of_bare_eq hBare hSame
  · intro name table hTable column hColumn key hKey
    obtain ⟨start, hStart, hSame⟩ := hStaged.exists_assembled hTable
    rw [← hSame] at hColumn
    have hReferenced : HasColumn tables key.table key.column :=
      hStaged.assembled.exists_referenced hStaged.valid hStart hColumn hKey
    exact hReferenced.of_bare_eq hBare

/-- The second way from `mail` to `news` goes over the link table like the first one. -/
theorem resolve_isReferential_newsletters :
    ∃ schema final r,
      (resolve "_" (.suffix : Policy Unit) newsletters).result () = (.ok schema, final) ∧
      Owns schema.tables "mail" "news2" r ∧
      r.pivot? = some ⟨"news_id", "id", "news_mail", true⟩ ∧ schema.IsReferential := by
  have hPivot : ((resolve "_" (.suffix : Policy Unit) newsletters).result ()).1.toOption.map
      (fun schema => (relationship? schema.tables "mail" "news2").bind Relationship.pivot?) =
      some (some ⟨"news_id", "id", "news_mail", true⟩) := by
    decide +kernel
  obtain ⟨schema, hBuild, hNews⟩ := exists_result_of_map hPivot
  obtain ⟨r, hr, hPivot⟩ := Option.bind_eq_some_iff.mp hNews
  exact ⟨schema, (), r, hBuild, owns_iff_relationship?.mpr hr, hPivot,
    resolve_isReferential hBuild⟩

end SchemaScaffold
