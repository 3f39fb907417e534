import SchemaScaffold.Json.Reading

/-!
# The reader of JSON text

* `readNumber`, `readString`, `readValue`: the reading of one token or value at the start of a
  text, with the rest of the text unless reading had to stop.
* `Reading.ofText`: the reading of a whole text.
* `Json.parse?`: the value of a text that holds exactly one.

Whole numbers beyond 64 bits and literals with a point or an exponent are floating-point numbers.
Their digits are taken as long as the whole number they form fits 64 bits; of the further digits
only the places before the point count.
-/

namespace SchemaScaffold.Json

/-- The rest of a text, none where reading had to stop. -/
abbrev Rest := Option (List Char)

/-- The white space of JSON. -/
def isSpace (c : Char) : Bool := c = ' ' || c = '\n' || c = '\t' || c = '\r'

/-- The text from its first character that is no white space. -/
def skipSpace (text : List Char) : List Char := text.dropWhile isSpace

/-! ## Numbers -/

/-- The largest number of 64 bits. -/
def maxWord : Nat := Nat.pow 2 64 - 1

/-- The value of a decimal digit. -/
def digitValue (c : Char) : Nat := c.toNat - '0'.toNat

/-- Takes digits into a number as long as it fits 64 bits; the digits left over are the second
part. -/
def takeDigits (significand : Nat) : List Char → Nat × List Char
  | [] => (significand, [])
  | c :: rest =>
    let next := significand * 10 + digitValue c
    if next ≤ maxWord then takeDigits next rest else (significand, c :: rest)

/-- The digits at the start of a text and the rest of it. -/
def spanDigits (text : List Char) : List Char × List Char :=
  (text.takeWhile Char.isDigit, text.dropWhile Char.isDigit)

/-- The part of a literal after its exponent mark. -/
inductive ExponentPart where
  | absent
  | present (negative : Bool) (digits : List Char)
  deriving Repr, DecidableEq

/-- A number literal. -/
structure NumberLiteral where
  negative : Bool
  whole : List Char
  /-- the digits after the point, if there is a point -/
  fraction : Option (List Char)
  exponent : ExponentPart
  deriving Repr, DecidableEq

/-- The power of ten that a literal's exponent and its points add up to, within 32 bits. -/
def clampPower (power : Int) : Int := max (-(Int.pow 2 31)) (min power (Int.pow 2 31 - 1))

/-- The number that a literal denotes, if it is not too large. -/
def NumberLiteral.value? (literal : NumberLiteral) : Option Number :=
  let (significand, wholeLeft) := takeDigits 0 literal.whole
  match literal.fraction, literal.exponent, wholeLeft with
  | none, .absent, [] =>
    if !literal.negative then some (.natural significand)
    else if significand = 0 ∨ significand > Nat.pow 2 63 then
      (Binary64.scale? significand 0).map fun x => .real (x.withSign true)
    else some (.negative significand)
  | fraction, exponent, _ =>
    let (significand, taken) :=
      match fraction with
      | none => (significand, 0)
      | some digits =>
        let (significand, left) := takeDigits significand digits
        (significand, digits.length - left.length)
    let power : Int := (wholeLeft.length : Int) - taken
    let real (power : Int) : Option Number :=
      (Binary64.scale? significand power).map fun x => .real (x.withSign literal.negative)
    match exponent with
    | .absent => real power
    | .present negative digits =>
      let size := digits.foldl (fun n c => n * 10 + digitValue c) 0
      if size < Nat.pow 2 31 then
        real (clampPower (if negative then power - size else power + size))
      else if significand ≠ 0 && !negative then none
      else some (.real (Binary64.zero.withSign literal.negative))

/-- The reading of a literal. -/
def NumberLiteral.reading (literal : NumberLiteral) : Reading :=
  match literal.value? with
  | some n => .scalar (.number n)
  | none => .unreadable .malformed none

/-- A place where a number misses a digit; passing over a number, the end counts as a fault of
form. -/
def missingDigit (text : List Char) : Reading × Rest :=
  (.unreadable (if text.isEmpty then .truncated else .malformed) (some .malformed), none)

/-- The rest of a number after its digits. -/
def readExponent (negative : Bool) (whole : List Char) (fraction : Option (List Char))
    (text : List Char) : Reading × Rest :=
  match text with
  | mark :: afterMark =>
    if mark = 'e' ∨ mark = 'E' then
      let (down, afterSign) :=
        match afterMark with
        | '+' :: rest => (false, rest)
        | '-' :: rest => (true, rest)
        | rest => (false, rest)
      match spanDigits afterSign with
      | ([], rest) => missingDigit rest
      | (digits, rest) =>
        (NumberLiteral.reading ⟨negative, whole, fraction, .present down digits⟩, some rest)
    else (NumberLiteral.reading ⟨negative, whole, fraction, .absent⟩, some text)
  | [] => (NumberLiteral.reading ⟨negative, whole, fraction, .absent⟩, some [])

/-- Reads a number after its sign. -/
def readNumber (negative : Bool) (text : List Char) : Reading × Rest :=
  match spanDigits text with
  | ([], rest) => missingDigit rest
  | ('0' :: _ :: _, _) => (.broken .malformed, none)
  | (whole, '.' :: rest) =>
    match spanDigits rest with
    | ([], rest) => missingDigit rest
    | (digits, rest) => readExponent negative whole (some digits) rest
  | (whole, rest) => readExponent negative whole none rest

/-! ## Strings -/

/-- The value of a hexadecimal digit. -/
def hexValue? (c : Char) : Option Nat :=
  if c.isDigit then some (c.toNat - 48)
  else if 'a' ≤ c ∧ c ≤ 'f' then some (c.toNat - 87)
  else if 'A' ≤ c ∧ c ≤ 'F' then some (c.toNat - 55)
  else none

/-- The value of four hexadecimal digits. -/
def hexWord? (a b c d : Char) : Option Nat := do
  some ((← hexValue? a) * 4096 + (← hexValue? b) * 256 + (← hexValue? c) * 16 + (← hexValue? d))

/-- The character behind a backslash that stands for itself or for a control character. -/
def escaped? (c : Char) : Option Char :=
  if c = '"' ∨ c = '\\' ∨ c = '/' then some c
  else if c = 'b' then some (Char.ofNat 0x08)
  else if c = 'f' then some (Char.ofNat 0x0C)
  else if c = 'n' then some '\n'
  else if c = 'r' then some '\r'
  else if c = 't' then some '\t'
  else none

/-- Whether fewer than four bytes are left. -/
def endsWithinWord (text : List Char) : Bool := text.foldl (fun n c => n + c.utf8Size) 0 < 4

/-- What stands behind a backslash, with the number of characters it takes. -/
inductive Escape where
  | char (c : Char) (length : Nat)
  /-- half of a surrogate pair that stands alone -/
  | half (length : Nat)
  /-- half of a pair, before a text that ends before the other half could be complete -/
  | cut (length : Nat)
  | fault (fault : TextFault)
  deriving Repr, DecidableEq

/-- Four hexadecimal digits at the start of a text. -/
def readWord16 : List Char → Except TextFault Nat
  | a :: b :: c :: d :: _ =>
    match hexWord? a b c d with
    | some n => .ok n
    | none => .error .malformed
  | short => .error (if endsWithinWord short then .truncated else .malformed)

/-- What follows the first half of a surrogate pair. -/
def readSecondHalf (high : Nat) : List Char → Escape
  | [] | ['\\'] => .cut 5
  | '\\' :: 'u' :: rest =>
    match readWord16 rest with
    | .error .truncated => .cut 5
    | .error .malformed => .half 5
    | .ok low =>
      if 0xDC00 ≤ low ∧ low ≤ 0xDFFF then
        .char (Char.ofNat (0x10000 + (high - 0xD800) * 0x400 + (low - 0xDC00))) 11
      else .half 5
  | _ => .half 5

/-- What stands behind a backslash. -/
def readEscape : List Char → Escape
  | [] => .fault .truncated
  | 'u' :: rest =>
    match readWord16 rest with
    | .error fault => .fault fault
    | .ok n =>
      if 0xDC00 ≤ n ∧ n ≤ 0xDFFF then .half 5
      else if 0xD800 ≤ n ∧ n ≤ 0xDBFF then readSecondHalf n (rest.drop 4)
      else .char (Char.ofNat n) 5
  | c :: _ =>
    match escaped? c with
    | some meant => .char meant 1
    | none => .fault .malformed

/-- The outcome of scanning a string literal behind its opening quote. -/
inductive StringScan where
  /-- the literal is closed; it denotes no text if half of a surrogate pair stands alone -/
  | closed (text : Option (List Char)) (rest : List Char)
  | stopped (read skipped : TextFault)
  deriving Repr, DecidableEq

/-- A fault in a string literal. After half of a pair alone the literal denotes nothing anyway. -/
def StringScan.fault (lone : Bool) (fault : TextFault) : StringScan :=
  .stopped (if lone then .malformed else fault) fault

/-- Scans a string literal, given the text so far, reversed, and whether half of a pair has been
met alone; the first argument bounds the number of steps. -/
def scanString : Nat → List Char → Bool → List Char → StringScan
  | 0, _, lone, _ | _, _, lone, [] => .fault lone .truncated
  | steps + 1, text, lone, c :: rest =>
    if c = '"' then .closed (if lone then none else some text.reverse) rest
    else if c = '\\' then
      match readEscape rest with
      | .char meant length => scanString steps (meant :: text) lone (rest.drop length)
      | .half length => scanString steps text true (rest.drop length)
      | .cut length => scanString steps text lone (rest.drop length)
      | .fault fault => .fault lone fault
    else if c.toNat < 0x20 then .fault lone .malformed
    else scanString steps (c :: text) lone rest

/-- Scans a string literal behind its opening quote. -/
def scanLiteral (text : List Char) : StringScan := scanString text.length [] false text

/-- Reads a string behind its opening quote. -/
def readString (text : List Char) : Reading × Rest :=
  match scanLiteral text with
  | .closed (some chars) rest => (.scalar (.string (String.ofList chars)), some rest)
  | .closed none rest => (.unreadable .malformed none, some rest)
  | .stopped read skipped => (.unreadable read (some skipped), none)

/-! ## Values -/

/-- Reads the rest of a word that stands for a value. -/
def readWord (value : Scalar) : List Char → List Char → Reading × Rest
  | [], text => (.scalar value, some text)
  | _ :: _, [] => (.broken .truncated, none)
  | expected :: more, c :: rest =>
    if c = expected then readWord value more rest else (.broken .malformed, none)

mutual

/-- Reads the value at the start of a text; the first argument bounds the depth of the recursion
and is at least the length of the text. -/
def readValue : Nat → List Char → Reading × Rest
  | 0, _ => (.broken .truncated, none)
  | fuel + 1, text =>
    match skipSpace text with
    | [] => (.broken .truncated, none)
    | c :: rest =>
      if c = 'n' then readWord .null ['u', 'l', 'l'] rest
      else if c = 't' then readWord (.bool true) ['r', 'u', 'e'] rest
      else if c = 'f' then readWord (.bool false) ['a', 'l', 's', 'e'] rest
      else if c = '"' then readString rest
      else if c = '-' then readNumber true rest
      else if c.isDigit then readNumber false (c :: rest)
      else if c = '[' then
        match skipSpace rest with
        | [] => (.array [] (some .truncated), none)
        | ']' :: rest => (.array [] none, some rest)
        | text =>
          let (items, stop, rest) := readItems fuel text
          (.array items stop, rest)
      else if c = '\x7b' then
        match skipSpace rest with
        | '\x7d' :: rest => (.object [] none, some rest)
        | text =>
          let (members, stop, rest) := readMembers fuel text
          (.object members stop, rest)
      else (.broken .malformed, none)

/-- Reads the items of an array and its closing bracket. -/
def readItems : Nat → List Char → List Reading × Option TextFault × Rest
  | 0, _ => ([], some .truncated, none)
  | fuel + 1, text =>
    match readValue fuel text with
    | (item, none) => ([item], none, none)
    | (item, some rest) =>
      match skipSpace rest with
      | [] => ([item], some .truncated, none)
      | ']' :: rest => ([item], none, some rest)
      | ',' :: rest =>
        let (items, stop, rest) := readItems fuel rest
        (item :: items, stop, rest)
      | _ => ([item], some .malformed, none)

/-- Reads the members of an object and its closing brace. -/
def readMembers : Nat → List Char → List (Option String × Reading) × Option TextFault × Rest
  | 0, _ => ([], some .truncated, none)
  | fuel + 1, text =>
    match skipSpace text with
    | [] => ([], some .truncated, none)
    | '"' :: rest =>
      match scanLiteral rest with
      | .stopped read skipped =>
        if read = skipped then ([], some read, none) else ([(none, .broken skipped)], none, none)
      | .closed key rest =>
        let key := key.map String.ofList
        match skipSpace rest with
        | [] => ([(key, .broken .truncated)], none, none)
        | ':' :: rest =>
          match readValue fuel rest with
          | (value, none) => ([(key, value)], none, none)
          | (value, some rest) =>
            match skipSpace rest with
            | [] => ([(key, value)], some .truncated, none)
            | '\x7d' :: rest => ([(key, value)], none, some rest)
            | ',' :: rest =>
              let (members, stop, rest) := readMembers fuel rest
              ((key, value) :: members, stop, rest)
            | _ => ([(key, value)], some .malformed, none)
        | _ => ([(key, .broken .malformed)], none, none)
    | _ => ([], some .malformed, none)

end

/-- The reading of a text and what follows the value it starts with. -/
def Reading.ofText (text : String) : Reading × Rest :=
  let chars := text.toList
  readValue (2 * chars.length + 2) chars

/-- The value of a text that holds exactly one. -/
def parse? (text : String) : Option Json :=
  match Reading.ofText text with
  | (reading, some rest) => if (skipSpace rest).isEmpty then reading.toJson? else none
  | (_, none) => none

end SchemaScaffold.Json
