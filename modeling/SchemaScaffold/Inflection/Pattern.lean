import SchemaScaffold.Unicode.WordCharacter

/-!
# Patterns over the end of a word

A small pattern language without repetition, so that matching is a structural recursion.

* `Pattern`: one character of a class, sequence, ordered choice, group, word boundary, and the two
  ends of the text. An optional part is a choice whose second side is empty.
* `Pattern.run`: ordered matching, the first alternative that lets the rest match.
* `Pattern.find?`: the leftmost match of a text, with the groups that took part in it.

Letters are compared without case: `foldCase` sends each character that a pattern can name to one
representative, also the long s and the Kelvin sign.
-/

namespace SchemaScaffold.Inflection

open Unicode

/-- The representative of a character under simple case folding, on the letters patterns name. -/
def foldCase (c : Char) : Char :=
  if c.toNat < 0x80 then c.toLower
  else if c.toNat = 0x17F then 's'
  else if c.toNat = 0x212A then 'k'
  else if c.toNat = 0xC9 then Char.ofNat 0xE9
  else c

/-- A pattern; every letter in it stands for its case variants too. -/
inductive Pattern where
  /-- nothing -/
  | empty
  /-- one of the listed characters -/
  | oneOf (chars : List Char)
  /-- one character that is none of the listed ones -/
  | noneOf (chars : List Char)
  /-- one character that no variant of is below U+0080 -/
  | nonAscii
  /-- one character that belongs to no word -/
  | nonWord
  /-- the place between a word character and one that is none -/
  | wordBoundary
  /-- the start of the text -/
  | start
  /-- the end of the text -/
  | finish
  /-- one pattern after the other -/
  | seq (first second : Pattern)
  /-- the first pattern, or else the second -/
  | choice (first second : Pattern)
  /-- a pattern whose text is remembered -/
  | group (inner : Pattern)
  deriving Repr, DecidableEq

namespace Pattern

/-! ## Building patterns -/

/-- The characters of a text in a row. -/
def word (text : String) : Pattern :=
  text.toList.foldr (fun c rest => .seq (.oneOf [c]) rest) .empty

/-- The patterns in a row. -/
def all (parts : List Pattern) : Pattern := parts.foldr .seq .empty

/-- The first of the patterns that lets the rest match. -/
def any : List Pattern → Pattern
  | [] => .oneOf []
  | [last] => last
  | first :: rest => .choice first (any rest)

/-- One of the texts. -/
def anyWord (texts : List String) : Pattern := any (texts.map word)

/-- The pattern if possible, else nothing. -/
def optional (inner : Pattern) : Pattern := .choice inner .empty

/-! ## Matching -/

/-- A place in a text, with the groups closed so far, latest first. -/
structure Place where
  /-- what lies before the place, nearest first -/
  before : List Char
  after : List Char
  groups : List (List Char)
  deriving Repr

/-- Whether the place lies between a word character and one that is none. -/
def Place.atBoundary (place : Place) : Bool :=
  place.before.head?.any isWordCharacter != place.after.head?.any isWordCharacter

/-- Moves over one character that satisfies the test. -/
def Place.advance (place : Place) (test : Char → Bool) : Option Place :=
  match place.after with
  | [] => none
  | c :: rest =>
    if test c then some { place with before := c :: place.before, after := rest } else none

/-- The first way to match the pattern at a place that the continuation accepts. -/
def run : Pattern → Place → (Place → Option Place) → Option Place
  | .empty, place, next => next place
  | .oneOf chars, place, next =>
    (place.advance fun c => chars.contains (foldCase c)).bind next
  | .noneOf chars, place, next =>
    (place.advance fun c => !chars.contains (foldCase c)).bind next
  | .nonAscii, place, next => (place.advance fun c => 0x80 ≤ (foldCase c).toNat).bind next
  | .nonWord, place, next => (place.advance fun c => !isWordCharacter c).bind next
  | .wordBoundary, place, next => if place.atBoundary then next place else none
  | .start, place, next => if place.before.isEmpty then next place else none
  | .finish, place, next => if place.after.isEmpty then next place else none
  | .seq first second, place, next => first.run place fun middle => second.run middle next
  | .choice first second, place, next =>
    match first.run place next with
    | some found => some found
    | none => second.run place next
  | .group inner, place, next =>
    inner.run place fun stop =>
      let text := place.after.take (place.after.length - stop.after.length)
      next { stop with groups := text :: stop.groups }

/-- A match: the text before it, the matched text, the text after it, and the groups that took part
in it, in the order in which they close. -/
structure Match where
  before : List Char
  matched : List Char
  after : List Char
  groups : List (List Char)
  deriving Repr, DecidableEq

/-- The match that starts at the given place, if there is one. -/
def matchAt? (pattern : Pattern) (before after : List Char) : Option Match :=
  (pattern.run ⟨before, after, []⟩ some).map fun stop =>
    { before := before.reverse
      matched := after.take (after.length - stop.after.length)
      after := stop.after
      groups := stop.groups.reverse }

/-- The leftmost match at or after the given place. -/
def findFrom? (pattern : Pattern) (before : List Char) : List Char → Option Match
  | [] => pattern.matchAt? before []
  | c :: rest =>
    match pattern.matchAt? before (c :: rest) with
    | some found => some found
    | none => pattern.findFrom? (c :: before) rest

/-- The leftmost match of a text. -/
def find? (pattern : Pattern) (text : List Char) : Option Match := pattern.findFrom? [] text

end Pattern

end SchemaScaffold.Inflection
