import SchemaScaffold.Json.Basic

/-!
# Readings of JSON text

* `Reading`: what is found when a text is read from the left. A reading goes as far as the first
  fault, which stays in the tree at the place where it was met, so that a decoder that walks the
  tree in order meets shape problems and faults in the order of the text.
* `Reading.skipFault?`: the fault met when a value is passed over without being looked at.
* `Reading.contentFault?`: the fault met when a value is taken in as a whole.
* `Reading.toJson?`, `Reading.ofJson`: the values among the readings.
-/

namespace SchemaScaffold.Json

/-- Why a text is not JSON. -/
inductive TextFault where
  /-- the text goes on with something that cannot stand there -/
  | malformed
  /-- the text ends too early -/
  | truncated
  deriving Repr, DecidableEq

/-- What a text holds, up to its first fault. -/
inductive Reading where
  | scalar (value : Scalar)
  /-- the items, and the fault that took the place of a comma or of the closing bracket -/
  | array (items : List Reading) (stop : Option TextFault)
  /-- the members, and the fault that took the place of a comma, a key or the closing brace; a key
  is missing where it can be passed over but denotes no string -/
  | object (members : List (Option String × Reading)) (stop : Option TextFault)
  /-- something that denotes no value: the fault of reading it, and that of passing it over, if
  there is one -/
  | unreadable (read : TextFault) (skipped : Option TextFault)
  deriving Repr

namespace Reading

/-- A place where the text stops being JSON, whichever way it is read. -/
def broken (fault : TextFault) : Reading := .unreadable fault (some fault)

/-! ## Faults -/

mutual

/-- The fault that passing over the value meets. -/
def skipFault? : Reading → Option TextFault
  | .scalar _ => none
  | .array items stop => (skipItems? items).or stop
  | .object members stop => (skipMembers? members).or stop
  | .unreadable _ skipped => skipped

/-- The fault that passing over the items meets. -/
def skipItems? : List Reading → Option TextFault
  | [] => none
  | item :: rest => (skipFault? item).or (skipItems? rest)

/-- The fault that passing over the members meets. -/
def skipMembers? : List (Option String × Reading) → Option TextFault
  | [] => none
  | (_, value) :: rest => (skipFault? value).or (skipMembers? rest)

end

mutual

/-- The fault that taking in the value meets; containers may nest as deep as the limit. -/
def contentFault? (depth : Nat) : Reading → Option TextFault
  | .scalar _ => none
  | .array items stop =>
    match depth with
    | 0 => some .malformed
    | depth + 1 => (contentItems? depth items).or stop
  | .object members stop =>
    match depth with
    | 0 => some .malformed
    | depth + 1 => (contentMembers? depth members).or stop
  | .unreadable read _ => some read

/-- The fault that taking in the items meets. -/
def contentItems? (depth : Nat) : List Reading → Option TextFault
  | [] => none
  | item :: rest => (contentFault? depth item).or (contentItems? depth rest)

/-- The fault that taking in the members meets. -/
def contentMembers? (depth : Nat) : List (Option String × Reading) → Option TextFault
  | [] => none
  | (none, _) :: _ => some .malformed
  | (some _, value) :: rest => (contentFault? depth value).or (contentMembers? depth rest)

end

/-! ## Values among the readings -/

mutual

/-- A value as a reading. -/
def ofJson : Json → Reading
  | .scalar value => .scalar value
  | .array items => .array (ofItems items) none
  | .object members => .object (ofMembers members) none

/-- The items of an array as readings. -/
def ofItems : List Json → List Reading
  | [] => []
  | item :: rest => ofJson item :: ofItems rest

/-- The members of an object as readings. -/
def ofMembers : List (String × Json) → List (Option String × Reading)
  | [] => []
  | (key, value) :: rest => (some key, ofJson value) :: ofMembers rest

end

/-- Adds a member; a repeated key keeps its first place and takes the last value. -/
def putMember (key : String) (value : Json) : List (String × Json) → List (String × Json)
  | [] => [(key, value)]
  | (k, old) :: rest =>
    if k = key then (key, value) :: rest else (k, old) :: putMember key value rest

mutual

/-- The value that a reading without faults denotes. -/
def toJson? : Reading → Option Json
  | .scalar value => some (.scalar value)
  | .array items none => (toItems? items).map .array
  | .object members none => (toMembers? [] members).map .object
  | _ => none

/-- The values that the items denote. -/
def toItems? : List Reading → Option (List Json)
  | [] => some []
  | item :: rest => do
    let value ← toJson? item
    let values ← toItems? rest
    some (value :: values)

/-- The members that the readings denote, added to those before them. -/
def toMembers? (before : List (String × Json)) :
    List (Option String × Reading) → Option (List (String × Json))
  | [] => some before
  | (none, _) :: _ => none
  | (some key, item) :: rest => do
    let value ← toJson? item
    toMembers? (putMember key value before) rest

end

end Reading

end SchemaScaffold.Json
