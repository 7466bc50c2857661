import SqlBuilder.Number.Binary64

/-!
JSON values. The members of an object keep their order, which carries meaning for the readers of
conditions and joins.
-/

namespace SqlBuilder

inductive Json where
  | null
  | bool (value : Bool)
  | integer (value : Int)
  | float (value : Binary64)
  | string (value : String)
  | array (items : List Json)
  | object (members : List (String × Json))
deriving Repr, BEq, Inhabited

namespace Json

/-- The value of the first member with the name. -/
def get? (json : Json) (name : String) : Option Json :=
  match json with
  | object members => members.lookup name
  | _ => none

/-- Gives the member its value: in place if the name is there, at the end if not. -/
def put (members : List (String × Json)) (name : String) (value : Json) : List (String × Json) :=
  match members with
  | [] => [(name, value)]
  | (first, old) :: rest =>
    if first = name then (name, value) :: rest else (first, old) :: put rest name value

/-- Of members with one name the last value stays, in the place of the first. -/
def lastWins (members : List (String × Json)) : List (String × Json) :=
  members.foldl (fun kept (name, value) => put kept name value) []

end Json

end SqlBuilder
