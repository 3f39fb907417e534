import SchemaScaffold.Settings.Basic

/-!
# Settings in TOML

A settings file assigns a string or a truth value to each of some keys, one to a line. The rule for
taken names may also be written as a table with one key, the rule, and an empty value. No setting
takes any other value, so a file that holds one is refused, whether it is TOML or not.

* `Toml.readLines?`: the assignments and section headers of a file, in order.
* `Settings.assign?`: the settings with one key set.
* `Settings.ofToml?`: the settings of a file; what it does not mention stays as it is by default.
-/

namespace SchemaScaffold

namespace Toml

/-- A value that a setting can take. -/
inductive Value where
  | string (s : String)
  | bool (b : Bool)
  /-- an empty array or table -/
  | empty
  /-- a table on one line whose only key has an empty value -/
  | single (key : String)
  deriving Repr, DecidableEq

/-- A line that is not blank. -/
inductive Line where
  | assign (path : List String) (value : Value)
  | header (path : List String)
  deriving Repr, DecidableEq

/-! ## Lines -/

/-- A blank within a line. -/
def isBlankChar (c : Char) : Bool := c = ' ' || c = '\t'

/-- The text from its first character that is no blank. -/
def skipBlanks (text : List Char) : List Char := text.dropWhile isBlankChar

/-- Whether a character may stand in a comment or a literal string. -/
def isPlain (c : Char) : Bool := c = '\t' || (0x20 ≤ c.toNat && c.toNat ≠ 0x7F)

/-- The text behind a line break. -/
def lineBreak? : List Char → Option (List Char)
  | '\n' :: rest => some rest
  | '\r' :: '\n' :: rest => some rest
  | _ => none

/-- The text behind the rest of a line that holds nothing but blanks and a comment. -/
def endLine? (text : List Char) : Option (List Char) :=
  let text :=
    match skipBlanks text with
    | '#' :: rest => rest.dropWhile isPlain
    | rest => rest
  if text.isEmpty then some [] else lineBreak? text

/-! ## Strings -/

/-- The value of a hexadecimal digit. -/
def hexDigit? (c : Char) : Option Nat :=
  if c.isDigit then some (c.toNat - 48)
  else if 'a' ≤ c ∧ c ≤ 'f' then some (c.toNat - 87)
  else if 'A' ≤ c ∧ c ≤ 'F' then some (c.toNat - 55)
  else none

/-- The character whose code point the first digits of a text give. -/
def readCodePoint? (count : Nat) (text : List Char) : Option (Char × List Char) := do
  let digits ← (text.take count).mapM hexDigit?
  let code := digits.foldl (fun n d => n * 16 + d) 0
  if digits.length = count ∧ code.isValidChar then some (Char.ofNat code, text.drop count)
  else none

/-- The character behind a backslash. -/
def readEscape? : List Char → Option (Char × List Char)
  | 'b' :: rest => some (Char.ofNat 0x08, rest)
  | 't' :: rest => some ('\t', rest)
  | 'n' :: rest => some ('\n', rest)
  | 'f' :: rest => some (Char.ofNat 0x0C, rest)
  | 'r' :: rest => some ('\r', rest)
  | '"' :: rest => some ('"', rest)
  | '\\' :: rest => some ('\\', rest)
  | 'u' :: rest => readCodePoint? 4 rest
  | 'U' :: rest => readCodePoint? 8 rest
  | _ => none

/-- The four ways to write a string: with or without escapes, on one line or on several. -/
structure StringStyle where
  mark : Char
  escapes : Bool
  multiline : Bool
  deriving Repr, DecidableEq

/-- The text behind blanks and line breaks. -/
def skipSpace : List Char → List Char
  | [] => []
  | '\r' :: '\n' :: rest => skipSpace rest
  | c :: rest => if isBlankChar c || c = '\n' then skipSpace rest else c :: rest

/-- The text behind a line break that follows blanks only, and behind the space that follows it. -/
def skipFolded? (text : List Char) : Option (List Char) :=
  (lineBreak? (skipBlanks text)).map skipSpace

/-- The number of marks at the start of a text. -/
def countMarks (mark : Char) (text : List Char) : Nat := (text.takeWhile (· = mark)).length

/-- Reads a string behind its opening marks, given the text so far, reversed; the first argument
bounds the number of steps. Up to two marks may stand before the closing ones of a string over
several lines. -/
def readString? (style : StringStyle) : Nat → List Char → List Char → Option (String × List Char)
  | 0, _, _ | _, _, [] => none
  | steps + 1, text, c :: rest =>
    if c = style.mark then
      if !style.multiline then some (String.ofList text.reverse, rest)
      else
        let marks := countMarks style.mark (c :: rest)
        if marks < 3 then readString? style steps (c :: text) rest
        else if marks ≤ 5 then
          some (String.ofList ((List.replicate (marks - 3) c ++ text).reverse),
            (c :: rest).drop marks)
        else none
    else if c = '\\' ∧ style.escapes then
      match if style.multiline then skipFolded? rest else none with
      | some folded => readString? style steps text folded
      | none =>
        match readEscape? rest with
        | some (meant, rest) => readString? style steps (meant :: text) rest
        | none => none
    else if isPlain c then readString? style steps (c :: text) rest
    else if style.multiline then
      match lineBreak? (c :: rest) with
      | some rest => readString? style steps ('\n' :: text) rest
      | none => none
    else none

/-- The text without a line break at its start. -/
def dropFirstBreak (text : List Char) : List Char := (lineBreak? text).getD text

/-- Reads a string that starts with the given mark. -/
def readQuoted? (mark : Char) (multilineAllowed : Bool) (text : List Char) :
    Option (String × List Char) :=
  let escapes : Bool := mark = '"'
  let steps := text.length + 1
  if multilineAllowed && [mark, mark, mark].isPrefixOf text then
    readString? ⟨mark, escapes, true⟩ steps [] (dropFirstBreak (text.drop 3))
  else readString? ⟨mark, escapes, false⟩ steps [] (text.drop 1)

/-! ## Keys and values -/

/-- Whether a character may stand in a key without quotes. -/
def isKeyChar (c : Char) : Bool := c.isAlphanum || c = '-' || c = '_'

/-- Reads a key. -/
def readKey? (text : List Char) : Option (String × List Char) :=
  match text with
  | '"' :: _ => readQuoted? '"' false text
  | '\'' :: _ => readQuoted? '\'' false text
  | _ =>
    let key := text.takeWhile isKeyChar
    if key.isEmpty then none else some (String.ofList key, text.dropWhile isKeyChar)

/-- Reads keys with dots between them and the blanks behind them; the first argument bounds the
number of keys. -/
def readPath? : Nat → List Char → Option (List String × List Char)
  | 0, _ => none
  | keys + 1, text => do
    let (key, rest) ← readKey? (skipBlanks text)
    match skipBlanks rest with
    | '.' :: rest =>
      let (others, rest) ← readPath? keys rest
      some (key :: others, rest)
    | rest => some ([key], rest)

/-- The text behind blanks, comments and line breaks; the first argument bounds the number of
lines. -/
def skipLines : Nat → List Char → List Char
  | 0, text => text
  | lines + 1, text =>
    match endLine? text with
    | some rest => skipLines lines rest
    | none => skipBlanks text

/-- The text behind an empty table or array. -/
def emptyValue? : List Char → Option (List Char)
  | '{' :: rest =>
    match skipBlanks rest with
    | '}' :: rest => some rest
    | _ => none
  | '[' :: rest =>
    match skipLines (rest.length + 1) rest with
    | ']' :: rest => some rest
    | _ => none
  | _ => none

/-- Reads a table on one line whose only key has an empty value. -/
def readSingle? : List Char → Option (Value × List Char)
  | '{' :: rest => do
    let (key, rest) ← readKey? (skipBlanks rest)
    match skipBlanks rest with
    | '=' :: rest =>
      match skipBlanks (← emptyValue? (skipBlanks rest)) with
      | '}' :: rest => some (.single key, rest)
      | _ => none
    | _ => none
  | _ => none

/-- Reads a value. -/
def readValue? (text : List Char) : Option (Value × List Char) :=
  match text with
  | '"' :: _ => (readQuoted? '"' true text).map fun (s, rest) => (.string s, rest)
  | '\'' :: _ => (readQuoted? '\'' true text).map fun (s, rest) => (.string s, rest)
  | 't' :: 'r' :: 'u' :: 'e' :: rest => some (.bool true, rest)
  | 'f' :: 'a' :: 'l' :: 's' :: 'e' :: rest => some (.bool false, rest)
  | text =>
    match emptyValue? text with
    | some rest => some (.empty, rest)
    | none => readSingle? text

/-! ## Files -/

/-- Reads an assignment or a section header. -/
def readLine? (text : List Char) : Option (Line × List Char) :=
  match text with
  | '[' :: rest => do
    let (path, rest) ← readPath? (rest.length + 1) rest
    match rest with
    | ']' :: rest => some (.header path, rest)
    | _ => none
  | text => do
    let (path, rest) ← readPath? (text.length + 1) text
    match rest with
    | '=' :: rest =>
      let (value, rest) ← readValue? (skipBlanks rest)
      some (.assign path value, rest)
    | _ => none

/-- Reads all lines; the first argument bounds their number. -/
def readAll? : Nat → List Char → Option (List Line)
  | 0, _ => none
  | lines + 1, text =>
    if text.isEmpty then some []
    else
      match endLine? text with
      | some rest => readAll? lines rest
      | none => do
        let (line, rest) ← readLine? (skipBlanks text)
        let others ← readAll? lines (← endLine? rest)
        some (line :: others)

/-- The lines of a file that are not blank. The file may start with a byte order mark. -/
def readLines? (text : String) : Option (List Line) :=
  let chars :=
    match text.toList with
    | c :: rest => if c.toNat = 0xFEFF then rest else c :: rest
    | [] => []
  readAll? (chars.length + 1) chars

end Toml

namespace Settings

open Toml

/-- The settings with the rule of a name. -/
def withRule? (settings : Settings) (name : String) : Option Settings :=
  (CollisionRule.ofName? name).map fun rule => { settings with onCollision := rule }

/-- The settings with one key set. -/
def assign? (settings : Settings) : List String × Value → Option Settings
  | (["schema"], .string s) => some { settings with document := s }
  | (["output"], .string s) => some { settings with output := s }
  | (["link-separator"], .string s) => some { settings with linkSeparator := s }
  | (["on-collision"], .string s) => settings.withRule? s
  | (["on-collision"], .single s) => settings.withRule? s
  | (["on-collision", s], .empty) => settings.withRule? s
  | (["assume-yes"], .bool b) => some { settings with assumeYes := b }
  | _ => none

/-- The assignments in front of the first section, and the lines from there on. -/
def splitSections : List Line → List (List String × Value) × List Line
  | .assign path value :: rest =>
    let (assignments, sections) := splitSections rest
    ((path, value) :: assignments, sections)
  | sections => ([], sections)

/-- The rule that the sections of a file choose, whichever way they write the table for it. -/
def chosenRule? : List Line → Option String
  | [.header ["on-collision"], .assign [rule] .empty] => some rule
  | [.header ["on-collision", rule]] => some rule
  | [.header ["on-collision"], .header ["on-collision", rule]] => some rule
  | [.header ["on-collision", rule], .header ["on-collision"]] => some rule
  | _ => none

/-- The settings with the rule that the sections choose, if there are any. -/
def assignSections? (settings : Settings) : List Line → Option Settings
  | [] => some settings
  | sections => (chosenRule? sections).bind settings.withRule?

/-- Whether no key is assigned twice. -/
def distinctKeys : List String → Bool
  | [] => true
  | key :: rest => !rest.contains key && distinctKeys rest

/-- The settings of a file. -/
def ofToml? (text : String) : Option Settings := do
  let (assignments, sections) := splitSections (← readLines? text)
  let keys := assignments.filterMap fun assignment => assignment.1.head?
  let sectionKeys := if sections.isEmpty then [] else ["on-collision"]
  if distinctKeys (keys ++ sectionKeys) then
    (← assignments.foldlM assign? standard).assignSections? sections
  else none

end Settings

end SchemaScaffold
