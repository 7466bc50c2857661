import SqlBuilder.Json.Record
import SqlBuilder.Statement.Build

/-!
Requests for selections, from JSON.
-/

namespace SqlBuilder

open Json

/-- The directions by their words, in lower or upper case. -/
def SortOrder.decode (json : Json) : Except DecodeFault SortOrder := do
  match ← decodeVariant (· == .null) json with
  | "asc" => return .ascending
  | "ASC" => return .ascending
  | "desc" => return .descending
  | "DESC" => return .descending
  | _ => throw (.mistyped "a direction")

def OrderEntry.decode (json : Json) : Except DecodeFault OrderEntry := do
  let members ← record .strict ["column", "direction"] json
  let column ← decodeText (← field members ["column"])
  let order ← fieldOr members ["direction"] SortOrder.decode .ascending
  return ⟨column, order⟩

namespace SelectQuery

def recordFields : List String :=
  ["table", "alias", "fields", "joins", "where", "group_by", "order_by", "limit", "offset"]

def decodeCount : Json → Except DecodeFault (Option Nat) :=
  decodeOption (decodeNat (Word.bound - 1))

def decode (json : Json) : Except DecodeFault SelectQuery := do
  let members ← record .strict recordFields json
  let table ← decodeText (← field members ["table"])
  let alias? ← fieldOr members ["alias"] (decodeOption decodeText) none
  let fields ← fieldOr members ["fields"] (decodeList decodeText) []
  let joins ← fieldOr members ["joins"] .ok .null
  let filter ← fieldOr members ["where"] .ok .null
  let groupBy ← fieldOr members ["group_by"] (decodeList decodeText) []
  let orderBy ← fieldOr members ["order_by"] (decodeList OrderEntry.decode) []
  let limit ← fieldOr members ["limit"] decodeCount none
  let offset ← fieldOr members ["offset"] decodeCount none
  return { table, alias?, fields, joins, filter, groupBy, orderBy, limit, offset }

end SelectQuery

end SqlBuilder
