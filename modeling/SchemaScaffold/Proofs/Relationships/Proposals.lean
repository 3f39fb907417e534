import SchemaScaffold.Proofs.Relationships.Registration

/-!
# What the relations propose

* `Proposes`: one edge gives a proposal: a side of its key, or a way over its link table.
* `mem_proposals_iff`: the proposals of the first pass are those of the edges.
* `Proposes.isDirect`, `Proposes.exists_target`: a proposed relationship goes over no other ones,
  and it leads to a table of the map, whose model it names.
* `proposals_congr`: the proposals do not depend on the order of the tables.
* `unnameable_of_mem_proposals`: between known tables only a name can fail, and none of tables that
  the inflection rules know (`Naming.Inflects`).
-/

namespace SchemaScaffold

/-! ## Names that can be formed -/

/-- The inflection rules have a singular and a plural of the name of a table. -/
def Naming.Inflects (table : String) : Prop :=
  (Inflection.singularize (camelCase table)).isSome = true ∧
    (Inflection.pluralize (camelCase table)).isSome = true

instance (table : String) : Decidable (Naming.Inflects table) :=
  inferInstanceAs (Decidable (_ ∧ _))

namespace Naming.Inflects

variable {table : String}

theorem isSome_modelName (h : Inflects table) : (modelName table).isSome = true := by
  rw [modelName, Option.isSome_map]
  exact h.1

theorem isSome_belongsToName (h : Inflects table) (source targetModel : String) :
    (belongsToName source table targetModel).isSome = true := by
  unfold belongsToName
  split
  · rfl
  · exact h.1

theorem isSome_hasName (h : Inflects table) (unique : Bool) :
    (hasName table unique).isSome = true := by
  unfold hasName
  split
  · exact h.1
  · exact h.2

theorem isSome_belongsToManyName (h : Inflects table) : (belongsToManyName table).isSome = true :=
  h.2

end Naming.Inflects

/-! ## Proposals of an edge -/

/-- One edge gives a proposal. -/
inductive Proposes (tables : Keyed Table) (edges : List Edge) (edge : Edge) : Proposal → Prop
  /-- the side of the key that points -/
  | belongsTo {source target : Table} {name : String}
      (hSource : tables.get? edge.source.table = some source)
      (hTarget : tables.get? edge.target.table = some target) (hLink : source.isLink = false)
      (hName : Naming.belongsToName edge.source.table edge.target.table target.model = some name) :
      Proposes tables edges edge ⟨edge.source.table, name,
        { kind := .belongsTo
          table := edge.target.table
          model := target.model
          primaryKey := edge.target.column
          foreignKey := edge.source.column }⟩
  /-- the side that is pointed at -/
  | has {source target : Table} {name : String}
      (hSource : tables.get? edge.source.table = some source)
      (hTarget : tables.get? edge.target.table = some target) (hLink : source.isLink = false)
      (hName : Naming.hasName edge.source.table (source.isUnique edge.source.column) =
        some name) :
      Proposes tables edges edge ⟨edge.target.table, name,
        { kind := if source.isUnique edge.source.column then .hasOne else .hasMany
          table := edge.source.table
          model := source.model
          primaryKey := edge.target.column
          foreignKey := edge.source.column }⟩
  /-- the way over a link table from another edge that leaves it -/
  | link {source target : Table} {other : Edge} {name : String}
      (hSource : tables.get? edge.source.table = some source)
      (hTarget : tables.get? edge.target.table = some target) (hLink : source.isLink = true)
      (hOther : other ∈ edges) (hPartner : edge.isPartner other = true)
      (hName : Naming.belongsToManyName edge.target.table = some name) :
      Proposes tables edges edge ⟨other.target.table, name,
        { kind := .belongsToMany
            { relatedForeignKey := edge.source.column
              relatedPrimaryKey := edge.target.column
              table := edge.source.table
              withTimestamps := source.timestamps }
          table := edge.target.table
          model := target.model
          primaryKey := other.target.column
          foreignKey := other.source.column }⟩

theorem Proposal.make_eq_ok_iff {owner namedAfter : String} {formed : Option String}
    {relationship : Relationship} {proposal : Proposal} :
    Proposal.make owner namedAfter formed relationship = .ok proposal ↔
      ∃ name, formed = some name ∧ proposal = ⟨owner, name, relationship⟩ := by
  cases formed with
  | none => simp [make, Stop.named, Except.map]
  | some name => simp [make, Stop.named, Except.map, eq_comm]

/-- A proposal can fail only because the inflection rules do not know the table it is named after. -/
theorem Proposal.unnameable_of_make_error {owner namedAfter : String} {formed : Option String}
    {relationship : Relationship} {stop : Stop}
    (hFormed : Naming.Inflects namedAfter → formed.isSome = true)
    (h : Proposal.make owner namedAfter formed relationship = .error stop) :
    stop = .unnameable namedAfter ∧ ¬ Naming.Inflects namedAfter := by
  cases formed with
  | none =>
    simp only [make, Stop.named, Except.map, Except.error.injEq] at h
    exact ⟨h.symm, fun hForms => Bool.false_ne_true (hFormed hForms)⟩
  | some name => simp [make, Stop.named, Except.map] at h

theorem mem_edgeProposals_iff {tables : Keyed Table} {edges : List Edge} {edge : Edge}
    {proposal : Proposal} :
    .ok proposal ∈ edgeProposals tables edges edge ↔ Proposes tables edges edge proposal := by
  constructor
  · intro h
    unfold edgeProposals at h
    split at h
    · rename_i source target hSource hTarget
      split at h
      · rename_i hLink
        obtain ⟨other, hOther, hMake⟩ := List.mem_map.mp h
        obtain ⟨hMem, hPartner⟩ := List.mem_filter.mp hOther
        obtain ⟨name, hName, rfl⟩ := Proposal.make_eq_ok_iff.mp hMake
        exact .link hSource hTarget hLink hMem hPartner hName
      · rename_i hLink
        rw [Bool.not_eq_true] at hLink
        simp only [keyProposals, List.mem_cons, List.not_mem_nil, or_false] at h
        rcases h with hMake | hMake
        · obtain ⟨name, hName, rfl⟩ := Proposal.make_eq_ok_iff.mp hMake.symm
          exact .belongsTo hSource hTarget hLink hName
        · obtain ⟨name, hName, rfl⟩ := Proposal.make_eq_ok_iff.mp hMake.symm
          exact .has hSource hTarget hLink hName
    · simp [Stop.invalid] at h
    · simp [Stop.invalid] at h
  · intro h
    cases h with
    | belongsTo hSource hTarget hLink hName =>
      simp only [edgeProposals, hSource, hTarget, hLink, keyProposals]
      exact List.mem_cons.mpr (Or.inl (Proposal.make_eq_ok_iff.mpr ⟨_, hName, rfl⟩).symm)
    | has hSource hTarget hLink hName =>
      simp only [edgeProposals, hSource, hTarget, hLink, keyProposals]
      exact List.mem_cons_of_mem _
        (List.mem_singleton.mpr (Proposal.make_eq_ok_iff.mpr ⟨_, hName, rfl⟩).symm)
    | @link source target other name hSource hTarget hLink hOther hPartner hName =>
      simp only [edgeProposals, hSource, hTarget, hLink, if_true]
      exact List.mem_map.mpr ⟨other, List.mem_filter.mpr ⟨hOther, hPartner⟩,
        Proposal.make_eq_ok_iff.mpr ⟨_, hName, rfl⟩⟩

/-- The proposals of the first pass are those of the edges. -/
theorem mem_proposals_iff {tables : Keyed Table} {edges : List Edge} {proposal : Proposal} :
    .ok proposal ∈ proposals tables edges ↔ ∃ edge ∈ edges, Proposes tables edges edge proposal := by
  simp only [proposals, List.mem_flatMap, mem_edgeProposals_iff]

theorem exists_proposes_of_mem {tables : Keyed Table} {edges : List Edge} {done : List Proposal}
    (hDone : proposals tables edges = done.map Except.ok) {proposal : Proposal}
    (hProposal : proposal ∈ done) : ∃ edge ∈ edges, Proposes tables edges edge proposal := by
  rw [← mem_proposals_iff, hDone]
  exact List.mem_map.mpr ⟨proposal, hProposal, rfl⟩

namespace Proposes

variable {tables : Keyed Table} {edges : List Edge} {edge : Edge} {proposal : Proposal}

theorem isDirect (h : Proposes tables edges edge proposal) :
    proposal.relationship.isDirect = true := by
  cases h with
  | belongsTo => rfl
  | @has source =>
    simp only [Relationship.isDirect, Relationship.passage?]
    cases source.isUnique edge.source.column <;> rfl
  | link => rfl

theorem exists_target (h : Proposes tables edges edge proposal) :
    ∃ table, tables.get? proposal.relationship.table = some table ∧
      table.model = proposal.relationship.model := by
  cases h with
  | belongsTo hSource hTarget => exact ⟨_, hTarget, rfl⟩
  | has hSource hTarget => exact ⟨_, hSource, rfl⟩
  | link hSource hTarget => exact ⟨_, hTarget, rfl⟩

end Proposes

/-- Which table stands under a name matters to the proposals, not the order of the tables. -/
theorem proposals_congr {tables tables' : Keyed Table}
    (h : ∀ key, tables.get? key = tables'.get? key) (edges : List Edge) :
    proposals tables edges = proposals tables' edges := by
  have hEdge : edgeProposals tables edges = edgeProposals tables' edges := by
    funext edge
    simp only [edgeProposals, h]
  rw [proposals, proposals, hEdge]

/-! ## Edges between known tables -/

/-- Both ends of an edge are in tables of the map. -/
def Edge.IsKnown (tables : Keyed Table) (edge : Edge) : Prop :=
  edge.source.table ∈ tables.keys ∧ edge.target.table ∈ tables.keys

theorem Proposes.owner_mem {tables : Keyed Table} {edges : List Edge} {edge : Edge}
    {proposal : Proposal} (h : Proposes tables edges edge proposal)
    (hKnown : ∀ edge ∈ edges, edge.IsKnown tables) : proposal.owner ∈ tables.keys := by
  cases h with
  | belongsTo hSource => exact Keyed.mem_keys_iff.mpr ⟨_, hSource⟩
  | has hSource hTarget => exact Keyed.mem_keys_iff.mpr ⟨_, hTarget⟩
  | link hSource hTarget hLink hOther => exact (hKnown _ hOther).2

/-- Between known tables a proposal can fail only because a form of a table name is not known. -/
theorem unnameable_of_mem_proposals {tables : Keyed Table} {edges : List Edge} {stop : Stop}
    (hKnown : ∀ edge ∈ edges, edge.IsKnown tables) (h : .error stop ∈ proposals tables edges) :
    ∃ table ∈ tables.keys, stop = .unnameable table ∧ ¬ Naming.Inflects table := by
  obtain ⟨edge, hEdge, h⟩ := List.mem_flatMap.mp h
  obtain ⟨hSourceKey, hTargetKey⟩ := hKnown edge hEdge
  obtain ⟨source, hSource⟩ := Keyed.mem_keys_iff.mp hSourceKey
  obtain ⟨target, hTarget⟩ := Keyed.mem_keys_iff.mp hTargetKey
  simp only [edgeProposals, hSource, hTarget] at h
  split at h
  · obtain ⟨other, -, hMake⟩ := List.mem_map.mp h
    exact ⟨_, hTargetKey, Proposal.unnameable_of_make_error
      (fun hForms => hForms.isSome_belongsToManyName) hMake⟩
  · simp only [keyProposals, List.mem_cons, List.not_mem_nil, or_false] at h
    rcases h with hMake | hMake
    · exact ⟨_, hTargetKey, Proposal.unnameable_of_make_error
        (fun hForms => hForms.isSome_belongsToName _ _) hMake.symm⟩
    · exact ⟨_, hSourceKey, Proposal.unnameable_of_make_error
        (fun hForms => hForms.isSome_hasName _) hMake.symm⟩

end SchemaScaffold
