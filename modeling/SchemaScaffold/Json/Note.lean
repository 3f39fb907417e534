import SchemaScaffold.Json.Reader

/-!
# Notes of a reader

* `Note`: what a reader of JSON says about a text, with the place it speaks of.
* `Note.ofText`: the note that a text stands for. A place stands at the end of the text; a number
  beyond 64 bits names none.
* `Note.message`: the text of a note. Lines are counted from 1, so line 0 is no place and is not
  written.
-/

namespace SchemaScaffold.Json

/-- A note of a reader and its place in the text that was read. -/
structure Note where
  text : String
  line : Nat := 0
  column : Nat := 0
  deriving Repr, DecidableEq

namespace Note

/-- The words in front of a line. -/
def lineMark : String := " at line "

/-- The words in front of a column. -/
def columnMark : String := " column "

/-- The number of 64 bits that a row of digits denotes. -/
def word? (digits : List Char) : Option Nat :=
  let value := digits.foldl (fun n c => n * 10 + digitValue c) 0
  if digits ≠ [] ∧ value ≤ maxWord then some value else none

/-- The number at the end of a text behind a mark, and what stands in front of the mark; the text
is given backwards, and so is the second part of the result. -/
def takeLast? (mark : String) (reversed : List Char) : Option (Nat × List Char) := do
  let (digits, rest) := spanDigits reversed
  let value ← word? digits.reverse
  let front ← mark.toList.reverse.isPrefixOf? rest
  some (value, front)

/-- The note of a text that ends with a place. -/
def placed? (text : String) : Option Note := do
  let (column, rest) ← takeLast? columnMark text.toList.reverse
  let (line, front) ← takeLast? lineMark rest
  some ⟨String.ofList front.reverse, line, column⟩

/-- The note that a text stands for. -/
def ofText (text : String) : Note := (placed? text).getD ⟨text, 0, 0⟩

/-- The text of a note, with its place if it has one. -/
def message (note : Note) : String :=
  if note.line = 0 then note.text
  else note.text ++ lineMark ++ toString note.line ++ columnMark ++ toString note.column

end Note

end SchemaScaffold.Json
