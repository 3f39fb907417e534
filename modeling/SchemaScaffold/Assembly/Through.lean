import SchemaScaffold.Assembly.Direct

/-!
# Relationships over others

A composable relationship of a table followed by a composable one of the table it leads to gives the
first table a `hasManyThrough`, under the name of the second relationship. The tables are searched
in order for one that is missing, it is registered, and the search starts again.

* `nextThrough?`: the first missing one.
* `relateThrough`: registers them until none is missing. Every new name is one that was there
  before, and no table takes a name twice, so `throughLimit` bounds their number.
-/

namespace SchemaScaffold

/-- The relationship over `first`, named `through`, and then `second`, named `name`. -/
def Relationship.over (through : String) (first : Relationship) (name : String)
    (second : Relationship) : Relationship where
  kind := .hasManyThrough
    { through := through
      throughModel := first.model
      relatedMethod := name }
  table := second.table
  model := second.model
  primaryKey := first.primaryKey
  foreignKey := first.foreignKey

/-- Whether a table lacks the relationship that ends with the given one. -/
def Table.lacks (owner : String) (table : Table) (name : String) (second : Relationship) : Bool :=
  second.isComposable && second.table ≠ owner && !table.relationships.contains name

/-- The first relationship over the given one that its owner lacks. -/
def Table.nextOver? (tables : Keyed Table) (owner : String) (table : Table) (through : String)
    (first : Relationship) : Option Proposal :=
  if first.isComposable then
    (tables.get? first.table).bind fun middle =>
      (middle.relationships.entries.find? fun entry => table.lacks owner entry.1 entry.2).map
        fun entry => ⟨owner, entry.1, .over through first entry.1 entry.2⟩
  else none

/-- The first relationship over others that a table lacks, in the order of the tables. -/
def nextThrough? (tables : Keyed Table) : Option Proposal :=
  tables.entries.findSome? fun (owner, table) =>
    table.relationships.entries.findSome? fun (through, first) =>
      Table.nextOver? tables owner table through first

/-- The relationship names of all tables, each once. -/
def relationshipNames (tables : Keyed Table) : List String :=
  (tables.values.flatMap fun table => table.relationships.keys).eraseDups

/-- The number of tables times the number of relationship names. -/
def throughLimit (tables : Keyed Table) : Nat := tables.size * (relationshipNames tables).length

variable {σ : Type}

/-- Registers missing relationships while the given number of additions is left. -/
def relateThroughWithin (policy : Policy σ) (limit : Nat) :
    Nat → Keyed Table → Build σ (Keyed Table)
  | left, tables =>
    match nextThrough? tables with
    | none => pure tables
    | some proposal =>
      match left with
      | 0 => throw (.fault ⟨.notConverging limit, []⟩)
      | left + 1 => do
        let tables ← register policy tables proposal
        relateThroughWithin policy limit left tables

/-- Registers relationships over others until no table lacks one. -/
def relateThrough (policy : Policy σ) (tables : Keyed Table) : Build σ (Keyed Table) :=
  relateThroughWithin policy (throughLimit tables) (throughLimit tables) tables

end SchemaScaffold
