import SqlBuilder.Join.Reader
import SqlBuilder.Statement.Basic

/-!
Statements from requests.
-/

namespace SqlBuilder

structure OrderEntry where
  column : String
  order : SortOrder := .ascending
deriving Repr, DecidableEq

/-- A request for a selection. Without fields all columns of the table are shown. -/
structure SelectQuery where
  table : String
  alias? : Option String := none
  fields : List String := []
  joins : Json := .null
  filter : Json := .null
  groupBy : List String := []
  orderBy : List OrderEntry := []
  limit : Option Nat := none
  offset : Option Nat := none

/-- Input that has nothing in it. -/
def Json.isEmptyInput : Json → Bool
  | null => true
  | array [] => true
  | object [] => true
  | _ => false

namespace Statement

/-- Checks every member of the data against the column of its name. -/
def checkMembers (table : Table) : List (String × Json) → Except Error Unit
  | [] => .ok ()
  | (column, json) :: rest =>
    match Value.ofJson? json with
    | none => .error (.unsupportedValue (.objectFor column))
    | some value => do
      table.check column value
      checkMembers table rest

def checkData (schema : Schema) (table : String) (data : Json) : Except Error Unit := do
  let table ← schema.getTable table
  match data with
  | .object members => checkMembers table members
  | _ => return ()

def assignmentScope (table : String) (validate : Bool) : Scope :=
  { Scope.assignments table with validate }

def filterScope (table : String) (validate : Bool) : Scope :=
  { Scope.filter table with validate }

/-- Puts the data into the table as a row. -/
def ofInsert (schema : Schema) (validate : Bool) (verb : InsertVerb) (table : String)
    (data : Json) : Traced Statement :=
  if data.isEmptyInput then return .insertDefaults verb table
  else do
    if validate then checkData schema table data
    let assignments ← Condition.compileInput schema (assignmentScope table validate) data
    return .insert verb table assignments

/-- Sets the data where the filter holds. Without data there is no statement. -/
def ofUpdate (schema : Schema) (validate : Bool) (table : String) (filter data : Json) :
    Traced (Option Statement) :=
  if data.isEmptyInput then return none
  else do
    let filter ← Condition.compileInput schema (filterScope table validate) filter
    let assignments ← Condition.compileInput schema (assignmentScope table validate) data
    return some (.update table assignments filter)

def ofDelete (schema : Schema) (validate : Bool) (table : String) (filter : Json) :
    Traced Statement := do
  let filter ← Condition.compileInput schema (filterScope table validate) filter
  return .delete table filter

end Statement

namespace Selection

/-- A column that has to exist in its table, if the table is known. -/
def checkedColumn (schema : Schema) (scope : Scope) (column : String) :
    Except Error ColumnName := do
  let subject ← Subject.find schema scope column
  return subject.reference.name

def checkedColumns (schema : Schema) (scope : Scope) : List String → Except Error (List ColumnName)
  | [] => .ok []
  | column :: rest => do
    let name ← checkedColumn schema scope column
    let names ← checkedColumns schema scope rest
    return name :: names

def orderedColumns (schema : Schema) (scope : Scope) :
    List OrderEntry → Except Error (List (ColumnName × SortOrder))
  | [] => .ok []
  | entry :: rest => do
    let name ← checkedColumn schema scope entry.column
    let names ← orderedColumns schema scope rest
    return (name, entry.order) :: names

/-- The columns of the origin table that are shown. Joins play no part in them. -/
def ownShown (schema : Schema) (scope : Scope) (table : String) (fields : List String) :
    Except Error (List Shown) :=
  if fields.isEmpty then .ok [.every (scope.alias?.getD table)]
  else (checkedColumns schema scope fields).map fun names => names.map Shown.column

def fieldsShown (table : Table) (join : Join) : List ProjectedField → Except Error (List Shown)
  | [] => .ok []
  | field :: rest => do
    let _ ← table.getColumn field.source
    let name := join.joinedColumn field.source
    let shown : Shown :=
      if field.exposed = field.source then .column name else .renamed name field.exposed
    let others ← fieldsShown table join rest
    return shown :: others

/-- The fields of the joined tables that are shown. -/
def joinsShown (schema : Schema) : List Join → Except Error (List Shown)
  | [] => .ok []
  | join :: rest => do
    let table ← schema.getTable join.table
    let shown ← fieldsShown table join join.fields
    let others ← joinsShown schema rest
    return shown ++ others

def joinClauses (schema : Schema) (validate : Bool) : List Join → Traced (List JoinClause)
  | [] => return []
  | join :: rest => do
    let clause ← join.clause schema validate
    let clauses ← joinClauses schema validate rest
    return clause :: clauses

def ofQuery (schema : Schema) (validate : Bool) (query : SelectQuery) : Traced Selection := do
  let _ ← schema.getTable query.table
  let joins ← Join.read query.table query.alias? query.joins
  let scope : Scope := { table := some query.table, alias? := query.alias?, validate }
  let own ← ownShown schema scope query.table query.fields
  let others ← joinsShown schema joins
  let clauses ← joinClauses schema validate joins
  let scope := { scope with joins }
  let filter ← Condition.compileInput schema scope query.filter
  let groupBy ← checkedColumns schema scope query.groupBy
  let orderBy ← orderedColumns schema scope query.orderBy
  return {
    shown := own ++ others, table := query.table, alias? := query.alias?, joins := clauses
    filter, groupBy, orderBy, limit := query.limit, offset := query.offset }

end Selection

/-- Selects what the query asks for. -/
def Statement.ofQuery (schema : Schema) (validate : Bool) (query : SelectQuery) :
    Traced Statement := do
  let selection ← Selection.ofQuery schema validate query
  return .select selection

end SqlBuilder
