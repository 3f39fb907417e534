import SchemaScaffold.Assembly.Tables

/-!
# Direct relationships

Each declared relation gives relationships to the tables at its ends. A relation that leaves a table
of its own gives a `belongsTo` there and a `hasOne` or `hasMany` at the other end. A relation that
leaves a link table gives, together with every other relation that leaves the same table from a
different column, a `belongsToMany` between the two tables pointed at.

* `Edge.ofDecl`: a declared relation with both ends resolved to names.
* `proposals`: the relationships that the relations give, in order, with their owners and
  conventional names.
* `register`: puts a relationship under its name; a taken name goes to the policy.
* `relateDirectly`: registers every proposal.
-/

namespace SchemaScaffold

/-! ## Edges -/

/-- A column of a table, by name. -/
structure Place where
  table : String
  column : String
  deriving Repr, DecidableEq

/-- A relation with its ends resolved. -/
structure Edge where
  source : Place
  target : Place
  deriving Repr, DecidableEq

/-- The column that an endpoint names; its table id must be that of the column's table. -/
def Place.ofEndpoint (registry : Registry) (endpoint : Endpoint) : Except Stop Place :=
  match registry.tableOfColumn? endpoint.columnId, registry.nameOfColumn? endpoint.columnId with
  | some table, some column =>
    match registry.nameOfTable? endpoint.tableId with
    | none => .error (.fault (.unresolved (.table endpoint.tableId)))
    | some declared =>
      if declared = table then .ok ⟨table, column⟩
      else Stop.invalid (.foreignEndpoint endpoint.columnId table declared)
  | _, _ => .error (.fault (.unresolved (.column endpoint.columnId)))

/-- A declared relation with its ends resolved, the source first. -/
def Edge.ofDecl (registry : Registry) (decl : RelationDecl) : Except Stop Edge := do
  let source ← Place.ofEndpoint registry decl.source
  let target ← Place.ofEndpoint registry decl.target
  .ok ⟨source, target⟩

/-! ## Proposals -/

/-- A relationship for a table, under its conventional name. -/
structure Proposal where
  owner : String
  name : String
  relationship : Relationship
  deriving Repr, DecidableEq

/-- A proposal whose name may not be formable. -/
def Proposal.make (owner namedAfter : String) (name : Option String)
    (relationship : Relationship) : Except Stop Proposal :=
  (Stop.named namedAfter name).map fun name => ⟨owner, name, relationship⟩

/-- Whether a column holds each value at most once. -/
def Table.isUnique (table : Table) (column : String) : Bool :=
  (table.columns.get? column).any Column.unique

/-- The two sides of a foreign key. -/
def keyProposals (source target : Table) (edge : Edge) : List (Except Stop Proposal) :=
  let unique := source.isUnique edge.source.column
  [Proposal.make edge.source.table edge.target.table
     (Naming.belongsToName edge.source.table edge.target.table target.model)
     { kind := .belongsTo
       table := edge.target.table
       model := target.model
       primaryKey := edge.target.column
       foreignKey := edge.source.column },
   Proposal.make edge.target.table edge.source.table (Naming.hasName edge.source.table unique)
     { kind := if unique then .hasOne else .hasMany
       table := edge.source.table
       model := source.model
       primaryKey := edge.target.column
       foreignKey := edge.source.column }]

/-- Whether another edge leaves the same table from a different column. -/
def Edge.isPartner (edge other : Edge) : Bool :=
  other.source.table = edge.source.table && other.source.column ≠ edge.source.column

/-- The relationship over a link table that leads from the target of one edge to that of another. -/
def linkProposal (link target : Table) (edge other : Edge) : Except Stop Proposal :=
  Proposal.make other.target.table edge.target.table (Naming.belongsToManyName edge.target.table)
    { kind := .belongsToMany
        { relatedForeignKey := edge.source.column
          relatedPrimaryKey := edge.target.column
          table := edge.source.table
          withTimestamps := link.timestamps }
      table := edge.target.table
      model := target.model
      primaryKey := other.target.column
      foreignKey := other.source.column }

/-- The relationships that one edge gives. -/
def edgeProposals (tables : Keyed Table) (edges : List Edge) (edge : Edge) :
    List (Except Stop Proposal) :=
  match tables.get? edge.source.table, tables.get? edge.target.table with
  | some source, some target =>
    if source.isLink then
      (edges.filter edge.isPartner).map (linkProposal source target edge)
    else keyProposals source target edge
  | none, _ => [Stop.invalid (.unknownTable edge.source.table)]
  | some _, none => [Stop.invalid (.unknownTable edge.target.table)]

/-- The relationships that the edges give, in order. -/
def proposals (tables : Keyed Table) (edges : List Edge) : List (Except Stop Proposal) :=
  edges.flatMap (edgeProposals tables edges)

/-! ## Registration -/

variable {σ : Type}

/-- The name under which a relationship can be registered: the conventional one if it is free, else
the answer of the policy, which must be a free name and not empty. -/
def freeName (policy : Policy σ) (table : Table) (proposal : Proposal) : Build σ String :=
  if table.relationships.contains proposal.name then do
    let answer ← consult policy ⟨proposal.owner, proposal.name, table.relationships.keys⟩
    if answer = "" ∨ table.relationships.contains answer then
      throw (.fault (.nameTaken proposal.owner answer))
    else pure answer
  else pure proposal.name

/-- Puts a relationship on its owner. -/
def register (policy : Policy σ) (tables : Keyed Table) (proposal : Proposal) :
    Build σ (Keyed Table) :=
  match tables.get? proposal.owner with
  | none => Build.lift (Stop.invalid (.unknownOwner proposal.name proposal.owner))
  | some table => do
    let name ← freeName policy table proposal
    pure (tables.insert proposal.owner (table.relate name proposal.relationship))

/-- Registers the relationships of the declared relations. -/
def relateDirectly (policy : Policy σ) (tables : Keyed Table) (edges : List Edge) :
    Build σ (Keyed Table) :=
  (proposals tables edges).foldlM
    (fun tables proposal => do register policy tables (← Build.lift proposal)) tables

end SchemaScaffold
