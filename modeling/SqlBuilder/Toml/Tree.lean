import SqlBuilder.Json.Basic

/-!
Tables of a TOML document while it is read. A table may be opened by one header only, and what
dotted keys have made cannot be opened by a header, nor the other way round.
-/

namespace SqlBuilder.Toml

/-- How a table came about: on the way to another one, by dotted keys, or by a header. -/
inductive TableKind where
  | implied
  | dotted
  | opened
deriving Repr, DecidableEq

inductive Node where
  | value (json : Json)
  | table (kind : TableKind) (members : List (String × Node))
  | tables (items : List (List (String × Node)))
deriving Inhabited

abbrev Members := List (String × Node)

/-- Gives the member its node: in place if the name is there, at the end if not. -/
def put (members : Members) (name : String) (node : Node) : Members :=
  match members with
  | [] => [(name, node)]
  | (first, old) :: rest =>
    if first = name then (name, node) :: rest else (first, old) :: put rest name node

/-- Changes the last of some tables. -/
def changeLast (change : Members → Option Members) : List Members → Option (List Members)
  | [] => none
  | [last] => (change last).map fun changed => [changed]
  | first :: next :: rest => (changeLast change (next :: rest)).map (first :: ·)

/-- Changes the table at the end of a path of headers. Tables on the way come about as needed, and
of an array of tables the last is meant. -/
def changeAt : List String → (Members → Option Members) → Members → Option Members
  | [], change, members => change members
  | name :: path, change, members => do
    let node ← match members.lookup name with
      | none => (changeAt path change []).map (Node.table .implied)
      | some (.table kind inner) => (changeAt path change inner).map (Node.table kind)
      | some (.tables items) => (changeLast (changeAt path change) items).map Node.tables
      | some (.value _) => none
    return put members name node

/-- Adds a value under a dotted key. A table that a header opened is not extended, and the table
that holds the value is one that dotted keys made. -/
def addDotted (path : List String) (name : String) (json : Json) (members : Members) :
    Option Members :=
  match path with
  | [] => if (members.lookup name).isSome then none else some (members ++ [(name, .value json)])
  | first :: path => do
    let node ← match members.lookup first with
      | none => (addDotted path name json []).map (Node.table .dotted)
      | some (.table .dotted inner) => (addDotted path name json inner).map (Node.table .dotted)
      | some (.table .implied inner) =>
        if path.isEmpty then none
        else (addDotted path name json inner).map (Node.table .implied)
      | some (.tables items) =>
        if path.isEmpty then none
        else (changeLast (addDotted path name json) items).map Node.tables
      | some _ => none
    return put members first node

/-- Opens a table by its header. -/
def openTable (name : String) (members : Members) : Option Members :=
  match members.lookup name with
  | none => some (members ++ [(name, .table .opened [])])
  | some (.table .implied inner) => some (put members name (.table .opened inner))
  | some _ => none

/-- Adds a table to an array of tables. -/
def addTable (name : String) (members : Members) : Option Members :=
  match members.lookup name with
  | none => some (members ++ [(name, .tables [[]])])
  | some (.tables items) => some (put members name (.tables (items ++ [[]])))
  | some _ => none

mutual

def Node.json : Node → Json
  | .value json => json
  | .table _ members => .object (membersJson members)
  | .tables items => .array (tablesJson items)

def membersJson : List (String × Node) → List (String × Json)
  | [] => []
  | (name, node) :: rest => (name, node.json) :: membersJson rest

def tablesJson : List (List (String × Node)) → List Json
  | [] => []
  | members :: rest => .object (membersJson members) :: tablesJson rest

end

end SqlBuilder.Toml
