import SchemaScaffold.Json.Reading
import SchemaScaffold.Unicode.Visible

/-!
# Decoding readings into records

* `ShapeFault`, `ReadFault`: why a reading does not decode, and the wording.
* `Record`: a record type by its fields, in order. A record is written as an object, whose unknown
  keys are passed over, or as an array of its fields; `Record.decode` reads both.
* `decodeList`, `decodeMap`, `decodeOptional`, `decodeString`, `decodeBool`: the other shapes.

The first problem in the order of the reading is the one reported. Readings of a text and of a
value differ in one point only: what an array says that holds more items than the record fields.
-/

namespace SchemaScaffold.Json

/-! ## Faults -/

/-- What stands where something else was expected. -/
inductive Found where
  | null
  | bool (b : Bool)
  | number (n : Number)
  | string (s : String)
  | sequence
  | map
  deriving Repr, DecidableEq

/-- What was expected. -/
inductive Expected where
  | bool
  | string
  | sequence
  | map
  | record (name : String)
  deriving Repr, DecidableEq

/-- Why a value does not have the expected shape. -/
inductive ShapeFault where
  | wrongType (found : Found) (expected : Expected)
  | missingField (key : String)
  | duplicateField (key : String)
  /-- an array ends before a required field; `fields` is the number of fields of the record -/
  | tooFewItems (count : Nat) (record : String) (fields : Nat)
  | tooManyItems (count : Nat)
  | badLength (text : String)
  | noLength
  deriving Repr, DecidableEq

/-- Why a reading does not decode. -/
inductive ReadFault where
  | text (fault : TextFault)
  | shape (fault : ShapeFault)
  deriving Repr, DecidableEq

/-- How a message names what was found. -/
def Found.description : Found → String
  | .null => "null"
  | .bool b => "boolean `" ++ (if b then "true" else "false") ++ "`"
  | .number (.real x) => "floating point `" ++ Number.realText x ++ "`"
  | .number n => "integer `" ++ n.text ++ "`"
  | .string s => "string " ++ Unicode.quoteVisible s
  | .sequence => "sequence"
  | .map => "map"

/-- How a message names what was expected. -/
def Expected.description : Expected → String
  | .bool => "a boolean"
  | .string => "a string"
  | .sequence => "a sequence"
  | .map => "a map"
  | .record name => "struct " ++ name

/-- The message of a shape fault. -/
def ShapeFault.message : ShapeFault → String
  | .wrongType found expected =>
    "invalid type: " ++ found.description ++ ", expected " ++ expected.description
  | .missingField key => "missing field `" ++ key ++ "`"
  | .duplicateField key => "duplicate field `" ++ key ++ "`"
  | .tooFewItems count record fields =>
    "invalid length " ++ toString count ++ ", expected struct " ++ record ++ " with " ++
      toString fields ++ " elements"
  | .tooManyItems count =>
    "invalid length " ++ toString count ++ ", expected fewer elements in array"
  | .badLength text => "invalid column length `" ++ text ++ "`"
  | .noLength => "data did not match any variant of untagged enum Length"

/-- The message of a fault. -/
def ReadFault.message : ReadFault → String
  | .text .malformed => "malformed JSON"
  | .text .truncated => "unexpected end of JSON"
  | .shape fault => fault.message

/-! ## Decoders -/

/-- Where a reading comes from. -/
inductive Source where
  | text
  | value
  deriving Repr, DecidableEq

/-- A way to decode readings. -/
abbrev Decoder (α : Type) := Source → Reading → Except ReadFault α

/-- The fault of finding the wrong thing. -/
def mismatch {α : Type} (expected : Expected) : Reading → Except ReadFault α
  | .scalar .null => .error (.shape (.wrongType .null expected))
  | .scalar (.bool b) => .error (.shape (.wrongType (.bool b) expected))
  | .scalar (.number n) => .error (.shape (.wrongType (.number n) expected))
  | .scalar (.string s) => .error (.shape (.wrongType (.string s) expected))
  | .array _ _ => .error (.shape (.wrongType .sequence expected))
  | .object _ _ => .error (.shape (.wrongType .map expected))
  | .unreadable read _ => .error (.text read)

/-- Decodes a string. -/
def decodeString : Decoder String := fun _ reading =>
  match reading with
  | .scalar (.string s) => .ok s
  | reading => mismatch .string reading

/-- Decodes a truth value. -/
def decodeBool : Decoder Bool := fun _ reading =>
  match reading with
  | .scalar (.bool b) => .ok b
  | reading => mismatch .bool reading

/-- Decodes a value that may be `null`. -/
def decodeOptional {α : Type} (decode : Decoder α) : Decoder (Option α) := fun source reading =>
  match reading with
  | .scalar .null => .ok none
  | reading => (decode source reading).map some

/-- Fails where a fault took the place of a container's continuation. -/
def checkStop : Option TextFault → Except ReadFault Unit
  | none => .ok ()
  | some fault => .error (.text fault)

/-- Decodes an array. -/
def decodeList {α : Type} (decode : Decoder α) : Decoder (List α) := fun source reading =>
  match reading with
  | .array items stop => do
    let values ← items.mapM (decode source)
    checkStop stop
    .ok values
  | reading => mismatch .sequence reading

/-- Decodes the members of an object and gives each to a function, in order. -/
def foldMembers {α β : Type} (decode : Reading → Except ReadFault α) (add : β → String → α → β) :
    β → List (Option String × Reading) → Except ReadFault β
  | result, [] => .ok result
  | _, (none, _) :: _ => .error (.text .malformed)
  | result, (some key, reading) :: rest => do
    let value ← decode reading
    foldMembers decode add (add result key value) rest

/-- Decodes an object whose keys are free. -/
def decodeMap {α β : Type} (decode : Decoder α) (start : β) (add : β → String → α → β) :
    Decoder β := fun source reading =>
  match reading with
  | .object members stop => do
    let result ← foldMembers (decode source) add start members
    checkStop stop
    .ok result
  | reading => mismatch .map reading

/-! ## Records -/

/-- A field: its key, whether a record must have it, and how its value is put into a record. -/
structure Field (α : Type) where
  key : String
  required : Bool
  decode : Source → Reading → α → Except ReadFault α

/-- A field whose value is decoded and then set. -/
def Field.of {α β : Type} (key : String) (required : Bool) (decode : Decoder β)
    (set : α → β → α) : Field α where
  key := key
  required := required
  decode source reading record := (decode source reading).map (set record)

/-- A record type: its name, the record with every field at its default, and the fields. -/
structure Record (α : Type) where
  name : String
  blank : α
  fields : List (Field α)

namespace Record

variable {α : Type}

/-- Decodes the members of an object into a record, given the keys seen so far. -/
def decodeMembers (record : Record α) (source : Source) (seen : List String) (value : α) :
    List (Option String × Reading) → Except ReadFault (List String × α)
  | [] => .ok (seen, value)
  | (none, _) :: _ => .error (.text .malformed)
  | (some key, reading) :: rest =>
    match record.fields.find? fun field => field.key = key with
    | none => do
      checkStop reading.skipFault?
      record.decodeMembers source seen value rest
    | some field =>
      if seen.contains key then .error (.shape (.duplicateField key))
      else do
        let value ← field.decode source reading value
        record.decodeMembers source (key :: seen) value rest

/-- The first required field that no key named. -/
def missing? (record : Record α) (seen : List String) : Option String :=
  (record.fields.find? fun field => field.required && !seen.contains field.key).map Field.key

/-- Decodes the items of an array as the fields from the given one on; a field without an item
keeps its default. -/
def decodeItems (record : Record α) (source : Source) (stop : Option TextFault) (value : α) :
    Nat → List (Field α) → List Reading → Except ReadFault (α × List Reading)
  | _, [], items => .ok (value, items)
  | index, field :: fields, item :: items => do
    let value ← field.decode source item value
    record.decodeItems source stop value (index + 1) fields items
  | index, field :: fields, [] => do
    checkStop stop
    if field.required then
      .error (.shape (.tooFewItems index record.name record.fields.length))
    else record.decodeItems source stop value (index + 1) fields []

/-- What is wrong with items beyond the last field. -/
def extraItems (source : Source) (count : Nat) : ReadFault :=
  match source with
  | .text => .text .malformed
  | .value => .shape (.tooManyItems count)

/-- Decodes a record written as an object or as an array. -/
def decode (record : Record α) : Decoder α := fun source reading =>
  match reading with
  | .object members stop => do
    let (seen, value) ← record.decodeMembers source [] record.blank members
    checkStop stop
    match record.missing? seen with
    | some key => .error (.shape (.missingField key))
    | none => .ok value
  | .array items stop => do
    let (value, extra) ← record.decodeItems source stop record.blank 0 record.fields items
    if extra.isEmpty then do
      checkStop stop
      .ok value
    else .error (extraItems source items.length)
  | reading => mismatch (.record record.name) reading

end Record

end SchemaScaffold.Json
