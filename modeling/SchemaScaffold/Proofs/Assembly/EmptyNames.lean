import SchemaScaffold.Proofs.Assembly.Contributions
import SchemaScaffold.Proofs.Assembly.TableOrder
import SchemaScaffold.Proofs.Naming.Emptiness

/-!
# Relationships under the empty name

A policy may not answer with the empty name. The names that the conventions form are taken as they
are, and some of them are empty.

* `OwnsNameless`: some table owns a relationship under the empty name.
* `Registrations.ownsNameless_iff`: it comes in under a conventional name only.
* `DeclaredRelation.AsksForNothing`: the relations that ask for such a name.
* `resolve_names_iff`: a schema has such a relationship if and only if the document has such a
  relation. `resolve_dashed` is a schema that has one.
-/

namespace SchemaScaffold

/-- Some table owns a relationship under the empty name. -/
def OwnsNameless (tables : Keyed Table) : Prop := ∃ owner r, Owns tables owner "" r

/-! ## Where the empty name comes from -/

section

variable {σ : Type} {policy : Policy σ}

/-- The empty name is settled on if the conventions ask for it, unless it is taken already. -/
theorem Settles.empty_iff {table : Table} {proposal : Proposal} {state after : σ}
    {asked : List Collision} {name : String}
    (h : Settles policy table proposal state asked (.ok name) after) :
    "" ∈ table.relationships.keys ∨ name = "" ↔
      "" ∈ table.relationships.keys ∨ proposal.name = "" := by
  cases h with
  | kept hFree => exact Iff.rfl
  | renamed hTaken hAnswer hNonempty hFree =>
    constructor
    · intro hEmpty
      exact Or.inl (hEmpty.resolve_right hNonempty)
    · rintro (hEmpty | hEmpty)
      · exact Or.inl hEmpty
      · exact Or.inl (hEmpty ▸ hTaken)

theorem ownsNameless_of_mem_keys {tables : Keyed Table} {owner : String} {table : Table}
    (hTable : tables.get? owner = some table) (hEmpty : "" ∈ table.relationships.keys) :
    OwnsNameless tables := by
  obtain ⟨r, hr⟩ := Keyed.mem_keys_iff.mp hEmpty
  exact ⟨owner, r, table, hTable, hr⟩

/-- After a registration there is a relationship under the empty name if there was one before, or if
the conventions ask for one. -/
theorem Registered.ownsNameless_iff {tables next : Keyed Table} {proposal : Proposal}
    {table : Table} {state after : σ} {asked : List Collision} {name : String}
    (h : Registered tables proposal name next) (hOwner : tables.get? proposal.owner = some table)
    (hName : Settles policy table proposal state asked (.ok name) after) :
    OwnsNameless next ↔ OwnsNameless tables ∨ proposal.name = "" := by
  have hSplit : OwnsNameless next ↔ OwnsNameless tables ∨ name = "" := by
    constructor
    · rintro ⟨owner, r, hOwns⟩
      rcases h.owns_iff.mp hOwns with hOld | ⟨-, hEmpty, -⟩
      · exact Or.inl ⟨owner, r, hOld⟩
      · exact Or.inr hEmpty.symm
    · rintro (⟨owner, r, hOld⟩ | rfl)
      · exact ⟨owner, r, h.mono hOld⟩
      · exact ⟨proposal.owner, _, h.owns_iff.mpr (Or.inr ⟨rfl, rfl, rfl⟩)⟩
  rw [hSplit]
  constructor
  · rintro (hOld | hEmpty)
    · exact Or.inl hOld
    · exact (hName.empty_iff.mp (Or.inr hEmpty)).imp_left (ownsNameless_of_mem_keys hOwner)
  · rintro (hOld | hEmpty)
    · exact Or.inl hOld
    · exact (hName.empty_iff.mpr (Or.inr hEmpty)).imp_left (ownsNameless_of_mem_keys hOwner)

theorem Registrations.ownsNameless_iff {tables final : Keyed Table} {state after : σ}
    {done : List Proposal} {asked : List Collision}
    (h : Registrations policy tables state done asked final after) :
    OwnsNameless final ↔ OwnsNameless tables ∨ ∃ proposal ∈ done, proposal.name = "" := by
  induction h with
  | nil => simp
  | cons hOwner hName hAppended _ ih =>
    have hRegistered := registered_iff_appended.mpr hAppended
    rw [ih, hRegistered.ownsNameless_iff hOwner hName, List.exists_mem_cons_iff, or_assoc]

/-- The second pass finds no names but those that are there. -/
theorem ThroughRun.ownsNameless_iff {tables final : Keyed Table} {additions : List Proposal}
    (h : ThroughRun tables additions final) : OwnsNameless final ↔ OwnsNameless tables := by
  constructor
  · rintro ⟨owner, r, hOwns⟩
    have hNamed := h.namedWithin (namedWithin_relationshipNames tables)
    exact mem_relationshipNames.mp (hNamed owner "" r hOwns)
  · rintro ⟨owner, r, hOwns⟩
    exact ⟨owner, r, h.mono hOwns⟩

end

/-! ## Relations that ask for it -/

namespace DeclaredRelation

/-- A name that the conventions form for a relation is empty. -/
def AsksForNothing (separator : String) (relations : List DeclaredRelation)
    (relation : DeclaredRelation) : Prop :=
  if Naming.isLinkName relation.source.table.name separator = true then
    (∃ other ∈ relations, relation.isBeside other = true) ∧
      Naming.HasNoPlural relation.target.table.name
  else
    (relation.source.table.name ≠ relation.target.table.name ∧
      Naming.HasNoSingular relation.target.table.name) ∨
    if relation.source.column.unique then Naming.HasNoSingular relation.source.table.name
    else Naming.HasNoPlural relation.source.table.name

instance (separator : String) (relations : List DeclaredRelation) (relation : DeclaredRelation) :
    Decidable (relation.AsksForNothing separator relations) :=
  inferInstanceAs (Decidable (if Naming.isLinkName relation.source.table.name separator = true then
    _ ∧ _ else _ ∨ if relation.source.column.unique then _ else _))

end DeclaredRelation

/-- One edge asks for the empty name if its relation does. -/
theorem Assembled.exists_nameless_iff {separator : String} {document : Document}
    {registry : Registry} {tables : Keyed Table}
    (h : Assembled separator document registry tables) (hValid : document.HasValidTables)
    {relations : List DeclaredRelation} {relation : DeclaredRelation}
    (hSource : relation.source.IsIn document) (hTarget : relation.target.IsIn document) :
    (∃ proposal, Proposes tables (relations.map DeclaredRelation.edge) relation.edge proposal ∧
        proposal.name = "") ↔ relation.AsksForNothing separator relations := by
  have hSourceTable : tables.get? relation.edge.source.table = _ :=
    h.get?_table_name hSource.table_mem
  have hTargetTable : tables.get? relation.edge.target.table = _ :=
    h.get?_table_name hTarget.table_mem
  have hIsLink := relation.source.table.isLink_assembled separator document registry
  have hUnique : (relation.source.table.assembled separator document registry).isUnique
      relation.edge.source.column = _ := h.isUnique_eq hValid hSource
  constructor
  · rintro ⟨proposal, hProposes, hEmpty⟩
    cases hProposes with
    | @belongsTo source target name hFound hFound' hLink hName =>
      obtain rfl := Option.some.inj (hSourceTable.symm.trans hFound)
      obtain rfl : name = "" := hEmpty
      rw [DeclaredRelation.AsksForNothing, if_neg (by rw [← hIsLink, hLink]; decide)]
      exact Or.inl (Naming.belongsToName_eq_empty_iff.mp hName)
    | @has source target name hFound hFound' hLink hName =>
      obtain rfl := Option.some.inj (hSourceTable.symm.trans hFound)
      obtain rfl : name = "" := hEmpty
      rw [hUnique] at hName
      rw [DeclaredRelation.AsksForNothing, if_neg (by rw [← hIsLink, hLink]; decide)]
      exact Or.inr (Naming.hasName_eq_empty_iff.mp hName)
    | @link source target other name hFound hFound' hLink hOther hPartner hName =>
      obtain rfl := Option.some.inj (hSourceTable.symm.trans hFound)
      obtain rfl : name = "" := hEmpty
      obtain ⟨beside, hBeside, rfl⟩ := List.mem_map.mp hOther
      rw [DeclaredRelation.AsksForNothing, if_pos (hIsLink ▸ hLink)]
      exact ⟨⟨beside, hBeside, hPartner⟩, Naming.belongsToManyName_eq_empty_iff.mp hName⟩
  · intro hAsks
    rw [DeclaredRelation.AsksForNothing] at hAsks
    by_cases hLink : Naming.isLinkName relation.source.table.name separator = true
    · rw [if_pos hLink] at hAsks
      obtain ⟨⟨beside, hBeside, hPartner⟩, hNoPlural⟩ := hAsks
      have hOther : beside.edge ∈ relations.map DeclaredRelation.edge :=
        List.mem_map.mpr ⟨beside, hBeside, rfl⟩
      exact ⟨_, .link hSourceTable hTargetTable (hIsLink.trans hLink) hOther hPartner
        (Naming.belongsToManyName_eq_empty_iff.mpr hNoPlural), rfl⟩
    · rw [if_neg hLink] at hAsks
      rw [Bool.not_eq_true] at hLink
      rcases hAsks with hPointing | hPointedAt
      · exact ⟨_, .belongsTo hSourceTable hTargetTable (hIsLink.trans hLink)
          (Naming.belongsToName_eq_empty_iff.mpr hPointing), rfl⟩
      · have hName := Naming.hasName_eq_empty_iff.mpr hPointedAt
        rw [← hUnique] at hName
        exact ⟨_, .has hSourceTable hTargetTable (hIsLink.trans hLink) hName, rfl⟩

/-- One of the proposals has no name if one of the relations asks for none. -/
theorem Assembled.exists_mem_nameless_iff {separator : String} {document : Document}
    {registry : Registry} {tables : Keyed Table}
    (h : Assembled separator document registry tables) (hValid : document.HasValidTables)
    {relations : List DeclaredRelation} {done : List Proposal}
    (hIsIn : ∀ relation ∈ relations,
      relation.source.IsIn document ∧ relation.target.IsIn document)
    (hPending : proposals tables (relations.map DeclaredRelation.edge) = done.map .ok) :
    (∃ proposal ∈ done, proposal.name = "") ↔
      ∃ relation ∈ relations, relation.AsksForNothing separator relations := by
  constructor
  · rintro ⟨proposal, hProposal, hEmpty⟩
    obtain ⟨edge, hEdge, hProposes⟩ := exists_proposes_of_mem hPending hProposal
    obtain ⟨relation, hRelation, rfl⟩ := List.mem_map.mp hEdge
    obtain ⟨hSource, hTarget⟩ := hIsIn relation hRelation
    exact ⟨relation, hRelation,
      (h.exists_nameless_iff hValid hSource hTarget).mp ⟨proposal, hProposes, hEmpty⟩⟩
  · rintro ⟨relation, hRelation, hAsks⟩
    obtain ⟨hSource, hTarget⟩ := hIsIn relation hRelation
    obtain ⟨proposal, hProposes, hEmpty⟩ :=
      (h.exists_nameless_iff hValid hSource hTarget).mpr hAsks
    have hProposal : .ok proposal ∈ proposals tables (relations.map DeclaredRelation.edge) :=
      mem_proposals_iff.mpr ⟨relation.edge, List.mem_map.mpr ⟨relation, hRelation, rfl⟩, hProposes⟩
    rw [hPending] at hProposal
    obtain ⟨other, hOther, hEq⟩ := List.mem_map.mp hProposal
    exact ⟨other, hOther, Except.ok.inj hEq ▸ hEmpty⟩

/-! ## Finished schemas -/

variable {σ : Type}

/-- **Which relationships have a name.** In a schema that a build gives, whatever the separator and
the policy, all relationships of all tables have a name that is not empty if and only if no relation
asks for the empty one. It does so over the name of a table with no letter and no number in it or,
where the singular is formed, with none but one `s`. -/
theorem resolve_names_iff {separator : String} {policy : Policy σ} {document : Document}
    {state final : σ} {schema : Schema}
    (h : (resolve separator policy document).result state = (.ok schema, final)) :
    ∃ relations, document.declaredRelations? = some relations ∧
      ((∀ owner name r, Owns schema.tables owner name r → name ≠ "") ↔
        ∀ relation ∈ relations, ¬ relation.AsksForNothing separator relations) := by
  obtain ⟨asked, hCourse⟩ := exists_course_of_ok h
  cases hCourse with
  | @completed registry tables direct last edges asked additions after hTables hEdges hDirect hRun
      hThrough =>
    obtain ⟨hValid, -, hAssembled⟩ := assembleTables_eq_ok_iff.mp hTables
    obtain ⟨relations, hRelations, rfl⟩ := hAssembled.exists_declaredRelations hValid hEdges
    have hIsIn := document.isIn_of_declaredRelations? hValid hRelations
    cases hDirect with
    | @completed done asked direct after hPending hDone =>
      have hUnrelated : ¬ OwnsNameless tables := by
        rintro ⟨owner, r, hOwns⟩
        exact hAssembled.unrelated owner "" r hOwns
      have hProposed := hAssembled.exists_mem_nameless_iff hValid hIsIn hPending
      have hNameless : OwnsNameless last ↔
          ∃ relation ∈ relations, relation.AsksForNothing separator relations := by
        rw [hRun.ownsNameless_iff, hDone.ownsNameless_iff, or_iff_right hUnrelated, hProposed]
      refine ⟨relations, hRelations, ?_⟩
      constructor
      · intro hNames relation hRelation hAsks
        obtain ⟨owner, r, hOwns⟩ := hNameless.mpr ⟨relation, hRelation, hAsks⟩
        exact hNames owner "" r hOwns rfl
      · rintro hNone owner name r hOwns rfl
        obtain ⟨relation, hRelation, hAsks⟩ := hNameless.mp ⟨owner, r, hOwns⟩
        exact hNone relation hRelation hAsks

/-- No relation between news, mail and their link table asks for the empty name, so that all
relationships have names. -/
theorem resolve_names_iff_newsletters :
    ∃ schema final, (resolve "_" (.suffix : Policy Unit) newsletters).result () =
        (.ok schema, final) ∧
      ∀ owner name r, Owns schema.tables owner name r → name ≠ "" := by
  obtain ⟨schema, final, hBuild⟩ := newsletters_builds
  obtain ⟨relations, hRelations, hNames⟩ := resolve_names_iff hBuild
  have hNone : newsletters.declaredRelations?.map (fun relations =>
      decide (∀ relation ∈ relations, ¬ relation.AsksForNothing "_" relations)) = some true := by
    decide +kernel
  rw [hRelations, Option.map_some, Option.some.injEq, decide_eq_true_eq] at hNone
  exact ⟨schema, final, hBuild, hNames.mpr hNone⟩

/-- News point at a table that is called by a dash. -/
def dashed : Document where
  tables := [plainTable "1" "news", plainTable "2" "-"]
  columns := .ofList [
    ("1", [plainColumn "11" "id", plainColumn "12" "dash_id"]),
    ("2", [plainColumn "21" "id"])]
  relations := [relationBetween "1" "12" "2" "21"]

/-- A build can succeed and yet register a relationship under the empty name. -/
theorem resolve_dashed :
    ∃ schema, (resolve "_" (.suffix : Policy Unit) dashed).result () = (.ok schema, ()) ∧
      Owns schema.tables "news" ""
        { kind := .belongsTo
          table := "-"
          model := ""
          primaryKey := "id"
          foreignKey := "dash_id" } := by
  have hNews : ((resolve "_" (.suffix : Policy Unit) dashed).result ()).1.toOption.map
      (fun schema => relationship? schema.tables "news" "") =
      some (some {
        kind := .belongsTo
        table := "-"
        model := ""
        primaryKey := "id"
        foreignKey := "dash_id" }) := by
    decide +kernel
  obtain ⟨schema, hBuild, hOwns⟩ := exists_result_of_map hNews
  exact ⟨schema, hBuild, owns_iff_relationship?.mpr hOwns⟩

end SchemaScaffold
