import SchemaScaffold.Json.Decoder
import SchemaScaffold.Unicode.Blank

/-!
# Column lengths

A length is written as a whole number or as a numeral in a string. Nothing, zero and white space
all mean that there is no length.

* `numeral?`: the number that a text denotes, an optional plus sign before decimal digits.
* `decodeLength`: the length that a reading denotes.
-/

namespace SchemaScaffold.Json

/-- The largest length. -/
def maxLength : Nat := Nat.pow 2 32 - 1

/-- The number that a row of decimal digits denotes. -/
def digitsValue (digits : List Char) : Nat := digits.foldl (fun n c => n * 10 + (c.toNat - 48)) 0

/-- The number that a numeral denotes: decimal digits behind an optional plus sign, up to the
largest length. -/
def numeral? (text : List Char) : Option Nat :=
  let digits :=
    match text with
    | '+' :: rest => rest
    | _ => text
  if digits ≠ [] ∧ digits.all Char.isDigit ∧ digitsValue digits ≤ maxLength then
    some (digitsValue digits)
  else none

/-- A number as a length; zero is none. -/
def positive? (n : Nat) : Option Nat := if n = 0 then none else some n

/-- The length that the text of a string denotes. -/
def lengthOfString (s : String) : Except ReadFault (Option Nat) :=
  let trimmed := Unicode.trimBlanks s.toList
  if trimmed.isEmpty then .ok none
  else
    match numeral? trimmed with
    | some n => .ok (positive? n)
    | none => .error (.shape (.badLength s))

/-- How many containers the text of a length may nest. -/
def lengthDepth : Nat := 123

/-- The fault of a length that must be taken in as a whole before it is judged. -/
def lengthFault? (source : Source) (reading : Reading) : Option TextFault :=
  match source with
  | .text => reading.contentFault? lengthDepth
  | .value => none

/-- Decodes a column length. -/
def decodeLength : Decoder (Option Nat) := fun source reading =>
  match reading with
  | .scalar .null => .ok none
  | .scalar (.number (.natural n)) =>
    if n ≤ maxLength then .ok (positive? n) else .error (.shape .noLength)
  | .scalar (.string s) => lengthOfString s
  | reading => do
    checkStop (lengthFault? source reading)
    .error (.shape .noLength)

end SchemaScaffold.Json
