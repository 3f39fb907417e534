import SchemaScaffold.Inflection.Number
import SchemaScaffold.Naming.CamelCase

/-!
# Naming conventions

What models and relationships are called, derived from the names of tables. A name has no answer
where the casing of an inflected word cannot be restored.

* `modelName`: `posts_categories` gives `PostsCategory`.
* `belongsToName`, `hasName`, `belongsToManyName`: the names of relationships.
* `isLinkName`: whether a table name marks a table that only links others.
-/

namespace SchemaScaffold.Naming

open Inflection

/-- The model of a table: singular, in camel case, with a capital. -/
def modelName (table : String) : Option String := (singularize (camelCase table)).map upperFirst

/-- The name of the side of a foreign key that points at another table. A table that points at
itself has a parent, so that the name does not read as its own. -/
def belongsToName (source target targetModel : String) : Option String :=
  if source = target then some ("parent" ++ targetModel) else singularize (camelCase target)

/-- The name of the side of a foreign key that is pointed at: singular if there is at most one. -/
def hasName (source : String) (unique : Bool) : Option String :=
  if unique then singularize (camelCase source) else pluralize (camelCase source)

/-- The name of a relationship over a link table. -/
def belongsToManyName (partner : String) : Option String := pluralize (camelCase partner)

/-- Whether a text occurs in another one. -/
def occursIn (part : List Char) : List Char → Bool
  | [] => part.isEmpty
  | c :: rest => part.isPrefixOf (c :: rest) || occursIn part rest

/-- Whether a table name contains the separator that marks link tables; an empty one marks none. -/
def isLinkName (table separator : String) : Bool :=
  separator ≠ "" && occursIn separator.toList table.toList

end SchemaScaffold.Naming
