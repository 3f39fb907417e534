/-!
# Settings

* `CollisionRule`: what to do about taken relationship names.
* `Settings`: where the document is, where output goes, how link tables are marked, what to do about
  taken names, and whether questions are answered with yes.
-/

namespace SchemaScaffold

/-- What to do about a taken relationship name. -/
inductive CollisionRule where
  | suffix
  | reject
  | prompt
  deriving Repr, DecidableEq

namespace CollisionRule

/-- The name of a rule. -/
def name : CollisionRule → String
  | .suffix => "suffix"
  | .reject => "reject"
  | .prompt => "prompt"

/-- The rule of a name. -/
def ofName? (name : String) : Option CollisionRule :=
  [CollisionRule.suffix, .reject, .prompt].find? fun rule => rule.name = name

theorem ofName?_name (rule : CollisionRule) : ofName? rule.name = some rule := by
  cases rule <;> decide

end CollisionRule

/-- The settings of a run. -/
structure Settings where
  document : String := "schema.json"
  output : String := "database"
  linkSeparator : String := "_"
  onCollision : CollisionRule := .suffix
  assumeYes : Bool := false
  deriving Repr, DecidableEq

/-- The settings that hold unless others are given. -/
def Settings.standard : Settings := {}

end SchemaScaffold
