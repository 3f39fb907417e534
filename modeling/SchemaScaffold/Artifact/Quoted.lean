/-!
# Quoted text in generated scripts

* `quoted`: a text in single quotes, with a backslash before each quote and each backslash.
* `arguments`: several texts, separated by commas.
-/

namespace SchemaScaffold

/-- A character inside a single-quoted literal. -/
def quotedChar (c : Char) : List Char := if c = '\'' ∨ c = '\\' then ['\\', c] else [c]

/-- A text as a single-quoted literal. -/
def quoted (text : String) : String :=
  String.ofList ('\'' :: text.toList.flatMap quotedChar ++ ['\''])

/-- The arguments of a call. -/
def arguments (parts : List String) : String := ", ".intercalate parts

end SchemaScaffold
