import SchemaScaffold.Unicode.Alphanumeric
import SchemaScaffold.Unicode.CaseMap

/-!
# Words and camel case

* `pieces`: the maximal alphanumeric stretches of a text.
* `words`: the words of one piece. A word ends after a small letter that a capital follows, and
  before the last capital of a row of capitals that a small letter follows.
* `camelCase`: the words joined, the first in lower case and every other one capitalised.
* `upperFirst`: a text with its first character in upper case.
-/

namespace SchemaScaffold.Naming

open Unicode

/-! ## Pieces -/

/-- Splits a text at every character that is neither letter nor number, keeping empty pieces. -/
def pieces : List Char → List (List Char)
  | [] => [[]]
  | c :: rest =>
    if isAlphanumeric c then
      match pieces rest with
      | [] => [[c]]
      | piece :: more => (c :: piece) :: more
    else [] :: pieces rest

/-! ## Words of a piece -/

/-- What has been seen since the last word boundary. -/
inductive Mode where
  | boundary
  | lowercase
  | uppercase
  deriving Repr, DecidableEq

/-- The mode after a character; a character without case leaves it as it is. -/
def Mode.after (mode : Mode) (c : Char) : Mode :=
  if isLowercase c then .lowercase else if isUppercase c then .uppercase else mode

/-- The words of a piece, given the mode and the current word so far, reversed. -/
def wordsFrom (mode : Mode) (word : List Char) : List Char → List (List Char)
  | [] => if word.isEmpty then [] else [word.reverse]
  | [c] => [(c :: word).reverse]
  | c :: next :: rest =>
    let following := mode.after c
    if following = .lowercase && isUppercase next then
      (c :: word).reverse :: wordsFrom .boundary [] (next :: rest)
    else if mode = .uppercase && isUppercase c && isLowercase next then
      word.reverse :: wordsFrom .boundary [c] (next :: rest)
    else wordsFrom following (c :: word) (next :: rest)

/-- The words of one alphanumeric piece. -/
def wordsOfPiece (piece : List Char) : List (List Char) := wordsFrom .boundary [] piece

/-- The words of a text, in order. -/
def words (text : List Char) : List (List Char) := (pieces text).flatMap wordsOfPiece

/-! ## Camel case -/

/-- A word in lower case; a capital sigma that ends it becomes the final small sigma. -/
def lowerWord : List Char → List Char
  | [] => []
  | [c] => if c = capitalSigma then [finalSigma] else lowerOf c
  | c :: rest => lowerOf c ++ lowerWord rest

/-- A word with its first character in upper case and the others in lower case. -/
def capitalise : List Char → List Char
  | [] => []
  | c :: rest => upperOf c ++ lowerWord rest

/-- The words joined, the first in lower case and every other one capitalised. -/
def camelWords : List (List Char) → List Char
  | [] => []
  | first :: rest => lowerWord first ++ rest.flatMap capitalise

/-- The camel case of a name, `blog_posts` becoming `blogPosts`. -/
def camelCase (name : String) : String := String.ofList (camelWords (words name.toList))

/-- A text with its first character in upper case and the rest untouched. -/
def upperFirst (text : String) : String :=
  match text.toList with
  | [] => ""
  | c :: rest => String.ofList (upperOf c ++ rest)

theorem upperFirst_empty : upperFirst "" = "" := by decide

theorem camelCase_empty : camelCase "" = "" := by decide

end SchemaScaffold.Naming
