import SqlBuilder.Join.Basic
import SqlBuilder.Json.Record

/-!
Joins that are written out in full, from JSON and back.
-/

namespace SqlBuilder

open Json

namespace JoinKind

def lowerWord : JoinKind → String
  | inner => "inner"
  | left => "left"
  | right => "right"
  | full => "full"
  | cross => "cross"

def all : List JoinKind := [inner, left, right, full, cross]

def decode (json : Json) : Except DecodeFault JoinKind := do
  let word ← decodeVariant (· == .null) json
  match all.find? fun kind => kind.lowerWord == word with
  | some kind => return kind
  | none => throw (.mistyped "a kind of join")

end JoinKind

namespace ProjectedField

def decode (json : Json) : Except DecodeFault ProjectedField := do
  let members ← record .strict ["source", "exposed"] json
  let source ← decodeText (← field members ["source"])
  let exposed ← decodeText (← field members ["exposed"])
  return ⟨source, exposed⟩

def json (f : ProjectedField) : Json :=
  .object [("source", .string f.source), ("exposed", .string f.exposed)]

end ProjectedField

namespace OnEntry

/-- A link is an object that names its form. A pair has its columns by name, never by place. -/
def decode : Json → Except DecodeFault OnEntry
  | .object [("Column", value)] => (decodeText value).map column
  | .object [("Raw", value)] => (decodeText value).map raw
  | .object [("Pair", .object members)] => do
    let origin ← decodeText (← field members ["origin"])
    let joined ← decodeText (← field members ["joined"])
    return pair origin joined
  | _ => .error (.mistyped "a link of a join")

def json : OnEntry → Json
  | column name => .object [("Column", .string name)]
  | pair origin joined =>
    .object [("Pair", .object [("origin", .string origin), ("joined", .string joined)])]
  | raw sql => .object [("Raw", .string sql)]

end OnEntry

namespace Join

def recordFields : List String :=
  ["table", "alias", "kind", "origin", "origin_alias", "on", "fields", "filter"]

def decode (json : Json) : Except DecodeFault Join := do
  let members ← record .strict recordFields json
  let table ← decodeText (← field members ["table"])
  let alias? ← fieldOr members ["alias"] (decodeOption decodeText) none
  let kind ← fieldOr members ["kind"] JoinKind.decode .inner
  let origin ← decodeText (← field members ["origin"])
  let aliasOfOrigin ← fieldOr members ["origin_alias"] (decodeOption decodeText) none
  let on ← fieldOr members ["on"] (decodeList OnEntry.decode) []
  let fields ← fieldOr members ["fields"] (decodeList ProjectedField.decode) []
  let filter ← fieldOr members ["filter"] (decodeOption .ok) none
  return { table, alias?, kind, origin, aliasOfOrigin, on, fields, filter }

end Join

end SqlBuilder
