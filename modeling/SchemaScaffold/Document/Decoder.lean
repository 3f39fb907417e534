import SchemaScaffold.Document.Basic
import SchemaScaffold.Document.Length
import SchemaScaffold.Json.Reader

/-!
# Documents in JSON

* `TableDecl.record`, `ColumnDecl.record`, …: the records of a document by their fields.
* `Document.ofJson`: the document that a value denotes.
* `Document.ofText`: the document that a text denotes; the text holds one value and nothing else.
-/

namespace SchemaScaffold

open Json

/-- The fields of a table declaration. -/
def TableDecl.record : Record TableDecl where
  name := "TableDef"
  blank := { id := "", name := "" }
  fields :=
    [.of "id" true decodeString fun r id => { r with id },
     .of "name" true decodeString fun r name => { r with name },
     .of "softDelete" false decodeBool fun r softDelete => { r with softDelete },
     .of "timeStamp" false decodeBool fun r timestamps => { r with timestamps }]

/-- The fields of a pointer. -/
def Pointer.record : Record Pointer where
  name := "RefDef"
  blank := {}
  fields :=
    [.of "id" false (decodeOptional decodeString) fun r id => { r with id },
     .of "name" false (decodeOptional decodeString) fun r name => { r with name }]

/-- The fields of a foreign key. -/
def KeyDecl.record : Record KeyDecl where
  name := "ForeignKeyDef"
  blank := {}
  fields :=
    [.of "references" false (decodeOptional Pointer.record.decode)
       fun r references => { r with references },
     .of "on" false (decodeOptional Pointer.record.decode) fun r on => { r with on }]

/-- The fields of a column declaration. -/
def ColumnDecl.record : Record ColumnDecl where
  name := "ColumnDef"
  blank := { id := "", name := "" }
  fields :=
    [.of "id" true decodeString fun r id => { r with id },
     .of "name" true decodeString fun r name => { r with name },
     .of "type" false (decodeOptional decodeString) fun r type => { r with type },
     .of "length" false decodeLength fun r length => { r with length },
     .of "nullable" false decodeBool fun r nullable => { r with nullable },
     .of "unique" false decodeBool fun r unique => { r with unique },
     .of "index" false decodeBool fun r index => { r with index },
     .of "unsigned" false decodeBool fun r unsigned => { r with unsigned },
     .of "defValue" false (decodeOptional decodeString)
       fun r defaultValue => { r with defaultValue },
     .of "comment" false (decodeOptional decodeString) fun r comment => { r with comment },
     .of "autoInc" false decodeBool fun r autoIncrement => { r with autoIncrement },
     .of "foreignKey" false (decodeOptional KeyDecl.record.decode)
       fun r foreignKey => { r with foreignKey }]

/-- The fields of an endpoint. -/
def Endpoint.record : Record Endpoint where
  name := "EndpointDef"
  blank := { tableId := "", columnId := "" }
  fields :=
    [.of "tableId" true decodeString fun r tableId => { r with tableId },
     .of "columnId" true decodeString fun r columnId => { r with columnId }]

/-- The fields of a relation declaration. -/
def RelationDecl.record : Record RelationDecl where
  name := "RelationDef"
  blank := { source := Endpoint.record.blank, target := Endpoint.record.blank }
  fields :=
    [.of "source" true Endpoint.record.decode fun r source => { r with source },
     .of "target" true Endpoint.record.decode fun r target => { r with target }]

/-- Decodes the column lists; a repeated table id keeps its first place and its last list. -/
def decodeColumnLists : Decoder (Keyed (List ColumnDecl)) :=
  decodeMap (decodeList ColumnDecl.record.decode) .empty Keyed.insert

namespace Document

/-- The fields of a document. -/
def record : Record Document where
  name := "Document"
  blank := { tables := [] }
  fields :=
    [.of "tables" true (decodeList TableDecl.record.decode) fun r tables => { r with tables },
     .of "columns" false decodeColumnLists fun r columns => { r with columns },
     .of "relations" false (decodeList RelationDecl.record.decode)
       fun r relations => { r with relations }]

/-- The document that a value denotes. -/
def ofJson (value : Json) : Except ReadFault Document :=
  record.decode .value (.ofJson value)

/-- The document that a text denotes. -/
def ofText (text : String) : Except ReadFault Document := do
  let (reading, rest) := Reading.ofText text
  let document ← record.decode .text reading
  match rest with
  | some rest => if (skipSpace rest).isEmpty then .ok document else .error (.text .malformed)
  | none => .error (.text .truncated)

end Document

end SchemaScaffold
