/-!
# Column types

* `ColumnType`: every type a diagram can name, and the names that are none.
* `ColumnType.ofName`, `ColumnType.name`: types and their names.
* `ColumnType.canonical`: the canonical type of a column, given whether it has a length and
  whether it counts up by itself.
* `ColumnType.name_ofName`, `ColumnType.canonical_canonical`: naming loses nothing, and a
  canonical type stays as it is.
-/

namespace SchemaScaffold

/-- The type of a column. -/
inductive ColumnType where
  | tinyInteger
  | smallInteger
  | mediumInteger
  | integer
  | bigInteger
  | char
  | string
  | text
  | tinyText
  | mediumText
  | longText
  | double
  | float
  | decimal
  | date
  | dateTime
  | timestamp
  | time
  | boolean
  /-- a primary key that counts up by itself -/
  | increments
  /-- a name that is no known type -/
  | unknown (raw : String)
  deriving Repr, DecidableEq

namespace ColumnType

/-- The type of a name. -/
def ofName (name : String) : ColumnType :=
  match name with
  | "tinyInteger" => .tinyInteger
  | "smallInteger" => .smallInteger
  | "mediumInteger" => .mediumInteger
  | "integer" => .integer
  | "bigInteger" => .bigInteger
  | "char" => .char
  | "string" => .string
  | "text" => .text
  | "tinyText" => .tinyText
  | "mediumText" => .mediumText
  | "longText" => .longText
  | "double" => .double
  | "float" => .float
  | "decimal" => .decimal
  | "date" => .date
  | "dateTime" => .dateTime
  | "timestamp" => .timestamp
  | "time" => .time
  | "boolean" => .boolean
  | "increments" => .increments
  | other => .unknown other

/-- The name of a type. -/
def name : ColumnType → String
  | .tinyInteger => "tinyInteger"
  | .smallInteger => "smallInteger"
  | .mediumInteger => "mediumInteger"
  | .integer => "integer"
  | .bigInteger => "bigInteger"
  | .char => "char"
  | .string => "string"
  | .text => "text"
  | .tinyText => "tinyText"
  | .mediumText => "mediumText"
  | .longText => "longText"
  | .double => "double"
  | .float => "float"
  | .decimal => "decimal"
  | .date => "date"
  | .dateTime => "dateTime"
  | .timestamp => "timestamp"
  | .time => "time"
  | .boolean => "boolean"
  | .increments => "increments"
  | .unknown raw => raw

/-- The type of a column without a declared one. -/
def undeclared : ColumnType := .unknown ""

/-- The integer type that stands for the smaller ones too. -/
def widened : ColumnType → ColumnType
  | .tinyInteger | .smallInteger | .mediumInteger => .integer
  | type => type

/-- A text type with a length is a string. -/
def sized : ColumnType → ColumnType
  | .text | .char => .string
  | type => type

/-- The types that have a canonical spelling of their own. -/
def respelled : ColumnType → ColumnType
  | .double => .float
  | .char => .text
  | type => type

/-- The canonical type of a column: counting up overrides everything, and a length turns text into
a string before `char` is respelled. -/
def canonical (type : ColumnType) (hasLength autoIncrement : Bool) : ColumnType :=
  if autoIncrement then .increments
  else (if hasLength then type.widened.sized else type.widened).respelled

/-- Whether a type is what normalization leaves, unknown names excluded. -/
def isCanonical : ColumnType → Bool
  | .tinyInteger | .smallInteger | .mediumInteger | .char | .double | .unknown _ => false
  | _ => true

/-- Whether the type is none that is known. -/
def isUnknown : ColumnType → Bool
  | .unknown _ => true
  | _ => false

/-- Whether the type counts up by itself. -/
def countsUp : ColumnType → Bool
  | .increments => true
  | _ => false

/-- The size that the name of a text type starts with. -/
def textSize? : ColumnType → Option String
  | .tinyText => some "tiny"
  | .mediumText => some "medium"
  | .longText => some "long"
  | _ => none

/-- Whether the type is a text type of a named size. -/
def isSized (type : ColumnType) : Bool := type.textSize?.isSome

/-- Whether the type is a string or a text of any size. -/
def isTextual : ColumnType → Bool
  | .string | .text => true
  | type => type.isSized

/-- Whether the type is a canonical integer type. -/
def isInteger : ColumnType → Bool
  | .integer | .bigInteger => true
  | _ => false

/-! ## Laws -/

theorem name_ofName (name : String) : (ofName name).name = name := by
  unfold ofName
  split <;> rfl

theorem canonical_canonical (type : ColumnType) (hasLength autoIncrement : Bool) :
    (type.canonical hasLength autoIncrement).canonical hasLength autoIncrement =
      type.canonical hasLength autoIncrement := by
  cases autoIncrement <;> cases hasLength <;> cases type <;> rfl

end ColumnType

end SchemaScaffold
