import SchemaScaffold.Inflection.Rules
import SchemaScaffold.Unicode.CaseMap

/-!
# Singular and plural

* `restoreCase?`: a word in the casing of another one.
* `Rule.rewritten`: the rewriting of a word at a rule's match.
* `pluralize`, `singularize`: exceptions first, then uncountable words, then the rules.

A capitalised word can be given an ending only where its casing can be restored. `restoreCase?`
refuses to put a text behind a capital when its own first character is not one byte long in UTF-8,
and then the whole inflection has no answer.
-/

namespace SchemaScaffold.Inflection

open Unicode

/-! ## Casing -/

/-- The text in the casing of the model: as it is for the model itself, else all small or all
capital as the model is, else unchanged after a capital and small otherwise. -/
def restoreCase? (model text : List Char) : Option (List Char) :=
  if model = text then some text
  else if model = lowerText model then some (lowerText text)
  else if model = upperText model then some (upperText text)
  else if model.head?.any isUppercase then
    match text with
    | [] => some []
    | c :: rest => if c.utf8Size = 1 then some (c :: rest) else none
  else some (lowerText text)

/-! ## Templates -/

/-- Replaces every occurrence of a mark of two characters by a text, from left to right. -/
def replaceMark (first second : Char) (text : List Char) : List Char → List Char
  | a :: b :: rest =>
    if a = first ∧ b = second then text ++ replaceMark first second text rest
    else a :: replaceMark first second text (b :: rest)
  | short => short

/-- Replaces `$0`, `$1`, … by the texts in turn, each put into the casing of the word. -/
def fillTemplate? (word : List Char) : Nat → List (List Char) → List Char → Option (List Char)
  | _, [], filled => some filled
  | index, text :: rest, filled => do
    let restored ← restoreCase? word text
    fillTemplate? word (index + 1) rest (replaceMark '$' (Char.ofNat (48 + index)) restored filled)

/-- Drops every dollar sign together with the character after it, if there is one. -/
def dropMarks : List Char → List Char
  | '$' :: _ :: rest => dropMarks rest
  | ['$'] => []
  | c :: rest => c :: dropMarks rest
  | [] => []

/-- Rewrites a word at the match of a rule. -/
def Rule.rewritten (rule : Rule) (word : List Char) (found : Pattern.Match) :
    Option (List Char) := do
  let template ← restoreCase? word rule.template.toList
  let filled ← fillTemplate? word 0 (found.matched :: found.groups) template
  some (dropMarks (found.before ++ filled ++ found.after))

/-! ## Inflection -/

/-- The last rule of a list that matches, with its match. -/
def lastMatch? (rules : List Rule) (word : List Char) : Option (Rule × Pattern.Match) :=
  rules.reverse.findSome? fun rule => (rule.pattern.find? word).map fun found => (rule, found)

/-- One direction of inflection: words that already have the wanted form, each with its other form,
exceptions with their answer, and rules. -/
structure Direction where
  kept : List (String × String)
  replaced : List (String × String)
  rules : List Rule

/-- The value given last for a key. -/
def lookupLast? (key : String) (pairs : List (String × String)) : Option String :=
  pairs.reverse.lookup key

/-- Towards the plural. -/
def toPlural : Direction where
  kept := irregulars.map Prod.swap
  replaced := irregulars
  rules := pluralRules

/-- Towards the singular. -/
def toSingular : Direction where
  kept := irregulars
  replaced := irregulars.map Prod.swap
  rules := singularRules

/-- The inflected form of a word, if its casing can be restored. -/
def Direction.inflect (direction : Direction) (word : String) : Option String :=
  let chars := word.toList
  let token := String.ofList (lowerText chars)
  if (lookupLast? token direction.kept).isSome then
    (restoreCase? chars token.toList).map String.ofList
  else
    match lookupLast? token direction.replaced with
    | some other => (restoreCase? chars other.toList).map String.ofList
    | none =>
      if token = "" || uncountables.contains token then some word
      else
        match lastMatch? direction.rules chars with
        | some (rule, found) => (rule.rewritten chars found).map String.ofList
        | none => some word

/-- The plural of a word. -/
def pluralize (word : String) : Option String := toPlural.inflect word

/-- The singular of a word. -/
def singularize (word : String) : Option String := toSingular.inflect word

theorem pluralize_empty : pluralize "" = some "" := by decide +kernel

theorem singularize_empty : singularize "" = some "" := by decide +kernel

end SchemaScaffold.Inflection
