import SqlBuilder.Clause.Build

/-!
Join clauses. A link that is not given is found from the foreign keys: first those of the origin
table, then those of the joined one. There has to be exactly one.
-/

namespace SqlBuilder

/-- One of the tests that link two tables. -/
inductive Link where
  | equal (left right : ColumnName)
  | verbatim (sql : String)
  | filter (clauses : List Clause)

namespace Link

def sql (style : Quoting) : Link → String
  | equal left right => left.text ++ " = " ++ right.text
  | verbatim sql => "(" ++ sql ++ ")"
  | filter clauses => "(" ++ Clause.joined style .and clauses ++ ")"

end Link

structure JoinClause where
  kind : JoinKind
  table : String
  alias? : Option String
  links : List Link

/-- A table as a statement introduces it. -/
def Identifier.introduce (table : String) : Option String → String
  | some name => Identifier.quote table ++ " AS " ++ Identifier.quote name
  | none => Identifier.quote table

def JoinClause.sql (style : Quoting) (clause : JoinClause) : String :=
  let head := clause.kind.word ++ " JOIN " ++ Identifier.introduce clause.table clause.alias?
  if clause.links.isEmpty then head
  else head ++ " ON " ++ Text.joinWith " AND " (clause.links.map (Link.sql style))

namespace Join

def originColumn (j : Join) (column : String) : ColumnName := ⟨some j.originName, column⟩

def joinedColumn (j : Join) (column : String) : ColumnName := ⟨some j.name, column⟩

/-- The foreign keys from one table to another, of the given column if there is one. -/
def keysBetween (source target : Table) (column : Option String) : List ForeignKey :=
  (source.foreignKeysTo target.name).filter fun key => column.all (key.owner == ·)

/-- The link that the foreign keys give. -/
def inferLink (schema : Schema) (j : Join) (column : Option String) : Traced Link := do
  let origin ← schema.getTable j.origin
  let joined ← schema.getTable j.table
  match keysBetween origin joined column with
  | [key] =>
    let left := j.originColumn key.owner
    let right := j.joinedColumn key.column
    Traced.note (.inferredOn left right origin.name key.owner)
    return .equal left right
  | first :: second :: rest =>
    throw (.ambiguousForeignKey origin.name joined.name (first :: second :: rest))
  | [] =>
    match keysBetween joined origin column with
    | [key] =>
      let left := j.originColumn key.column
      let right := j.joinedColumn key.owner
      Traced.note (.inferredOn left right joined.name key.owner)
      return .equal left right
    | [] => throw (.noForeignKey origin.name joined.name)
    | keys => throw (.ambiguousForeignKey joined.name origin.name keys)

/-- A pair of columns that both have to exist. -/
def pairLink (schema : Schema) (j : Join) (left right : String) : Except Error Link := do
  let origin ← schema.getTable j.origin
  let joined ← schema.getTable j.table
  let _ ← origin.getColumn left
  let _ ← joined.getColumn right
  return .equal (j.originColumn left) (j.joinedColumn right)

def entryLink (schema : Schema) (j : Join) : OnEntry → Traced Link
  | .column name => inferLink schema j (some name)
  | .pair left right => pairLink schema j left right
  | .raw sql => return .verbatim sql

def entryLinks (schema : Schema) (j : Join) : List OnEntry → Traced (List Link)
  | [] => return []
  | entry :: rest => do
    let link ← entryLink schema j entry
    let links ← entryLinks schema j rest
    return link :: links

/-- The links that the entries give. Without entries one is inferred, except for a cross join. -/
def onLinks (schema : Schema) (j : Join) : Traced (List Link) :=
  if j.on.isEmpty then
    if j.kind = .cross then return []
    else do
      let link ← inferLink schema j none
      return [link]
  else entryLinks schema j j.on

/-- The scope of the filter of a join. -/
def filterScope (j : Join) (validate : Bool) : Scope :=
  { table := some j.table, alias? := j.alias?, validate }

/-- The filter as one more link, unless nothing is left of it. -/
def filterLinks (schema : Schema) (validate : Bool) (j : Join) : Traced (List Link) :=
  match j.filter with
  | none => return []
  | some input => do
    let clauses ← Condition.compileInput schema (j.filterScope validate) input
    return if clauses.isEmpty then [] else [.filter clauses]

def clause (schema : Schema) (validate : Bool) (j : Join) : Traced JoinClause := do
  let links ← onLinks schema j
  let filters ← filterLinks schema validate j
  return ⟨j.kind, j.table, j.alias?, links ++ filters⟩

end Join

end SqlBuilder
