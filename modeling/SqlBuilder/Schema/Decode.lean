import SqlBuilder.Json.Part
import SqlBuilder.Json.Record
import SqlBuilder.Toml.Reader

/-!
Schemas from documents, and back.
-/

namespace SqlBuilder

open Json

namespace ForeignKey

def fields : List String := ["table", "column", "owner"]

def read : Read Json := recordOf [(["table"], whole), (["column"], whole), (["owner"], whole)]

def decode (strictness : Strictness) (json : Json) : Except DecodeFault ForeignKey := do
  let members ← record strictness fields json
  let table ← decodeText (← field members ["table"])
  let column ← decodeText (← field members ["column"])
  let owner ← fieldOr members ["owner"] decodeText ""
  return ⟨table, column, owner⟩

def json (key : ForeignKey) : Json :=
  .object [("table", .string key.table), ("column", .string key.column),
    ("owner", .string key.owner)]

end ForeignKey

namespace Column

def fields : List String := ["name", "type", "nullable", "length", "foreign_keys"]

def read : Read Json :=
  recordOf [(["name"], whole), (["type", "typ"], whole), (["nullable"], whole),
    (["length"], whole), (["foreign_keys"], listOf ForeignKey.read)]

def decodeLength (json : Json) : Except DecodeFault UInt32 :=
  (decodeNat (UInt32.size - 1) json).map UInt32.ofNat

def decode (strictness : Strictness) (json : Json) : Except DecodeFault Column := do
  let members ← record strictness fields json
  let name ← decodeText (← field members ["name"])
  let tag ← decodeText (← field members ["type", "typ"])
  let nullable ← fieldOr members ["nullable"] decodeBool false
  let length ← fieldOr members ["length"] (decodeOption decodeLength) none
  let foreignKeys ← fieldOr members ["foreign_keys"]
    (decodeList (ForeignKey.decode strictness)) []
  return ⟨name, .ofTag tag, nullable, length, foreignKeys⟩

def json (c : Column) : Json :=
  .object [("name", .string c.name), ("type", .string c.type.tag), ("nullable", .bool c.nullable),
    ("length", match c.length with
      | some n => .integer n.toNat
      | none => .null),
    ("foreign_keys", .array (c.foreignKeys.map ForeignKey.json))]

end Column

namespace Table

def fields : List String := ["name", "columns"]

def read : Read Json := recordOf [(["name"], whole), (["columns"], listOf Column.read)]

def decode (strictness : Strictness) (json : Json) : Except DecodeFault Table := do
  let members ← record strictness fields json
  let name ← decodeText (← field members ["name"])
  let columns ← decodeList (Column.decode strictness) (← field members ["columns"])
  return ⟨name, columns⟩

def json (t : Table) : Json :=
  .object [("name", .string t.name), ("columns", .array (t.columns.map Column.json))]

end Table

namespace Schema

def fields : List String := ["tables"]

/-- The parts of a document that make up a schema. -/
def read : Read Json := recordOf [(["tables"], listOf Table.read)]

def decode (strictness : Strictness) (json : Json) : Except DecodeFault Schema := do
  let members ← record strictness fields json
  let tables ← decodeList (Table.decode strictness) (← field members ["tables"])
  return ⟨tables⟩

/-- Every field of every table, column and key. -/
def json (s : Schema) : Json := .object [("tables", .array (s.tables.map Table.json))]

/-- A schema with its foreign keys linked, or why there is none. -/
def load (decoded : Except DecodeFault Schema) : Except Error Schema :=
  match decoded with
  | .ok schema => .ok schema.link
  | .error fault => .error (.schemaLoad (.undecodable fault))

def ofJson (json : Json) : Except Error Schema := load (decode .strict json)

def ofJsonText (text : String) : Except Error Schema :=
  match readDocument read text with
  | some json => ofJson json
  | none => .error (.schemaLoad (.undecodable .notJson))

def ofTomlText (text : String) : Except Error Schema :=
  match Toml.parse? text with
  | some json => load (decode .lenient json)
  | none => .error (.schemaLoad (.undecodable .notToml))

end Schema

end SqlBuilder
