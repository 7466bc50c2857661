import SqlBuilder.Clause.Basic
import SqlBuilder.Condition.Reader
import SqlBuilder.Reference
import SqlBuilder.Traced
import SqlBuilder.Validation

/-!
Clauses from conditions: columns are found in the schema, values are checked and written as
literals, and what always holds is left out.
-/

namespace SqlBuilder

/-- Where conditions stand. In a filter an equality with null asks for null; in assignments it
sets it. -/
structure Scope where
  table : Option String := none
  alias? : Option String := none
  joins : List Join := []
  glue : Glue := .and
  filtering : Bool := true
  validate : Bool := true

namespace Scope

/-- A filter on the table. -/
def filter (table : String) : Scope := { table := some table }

/-- Assignments to columns of the table. -/
def assignments (table : String) : Scope :=
  { table := some table, glue := .comma, filtering := false }

/-- The name of the table in the statement. -/
def tableName? (scope : Scope) : Option String := scope.alias?.orElse fun _ => scope.table

def resolve (scope : Scope) (column : String) : Reference :=
  Reference.resolve column scope.table scope.joins scope.alias?

/-- The table of the scope, which has to be in the schema. -/
def getTable (scope : Scope) (schema : Schema) : Except Error (Option Table) :=
  match scope.table with
  | none => .ok none
  | some name => (schema.getTable name).map some

end Scope

/-- A column of a predicate with its declaration, if it has one. -/
structure Subject where
  reference : Reference
  owner : Option (Table × Column)

namespace Subject

def find (schema : Schema) (scope : Scope) (column : String) : Except Error Subject := do
  let reference := scope.resolve column
  let owner ← reference.owner schema
  return ⟨reference, owner⟩

def type? (s : Subject) : Option ColumnType := s.owner.map (·.2.type)

/-- Checks a value against the declaration. Null passes for a column that a join provides, since
an outer join may make it null. -/
def check (s : Subject) (validate : Bool) (value : Value) : Except Error Unit :=
  if !validate || (s.reference.viaJoin && value.isNull) then .ok ()
  else match s.owner with
    | some (table, _) => table.check s.reference.column value
    | none => .ok ()

def literal (s : Subject) (value : Value) : Except Error Literal := Literal.ofValue value s.type?

def checkedLiterals (s : Subject) (validate : Bool) : List Value → Except Error (List Literal)
  | [] => .ok []
  | value :: rest => do
    s.check validate value
    let literal ← s.literal value
    let literals ← s.checkedLiterals validate rest
    return literal :: literals

end Subject

/-- What becomes of a predicate: a clause, or nothing, because it excludes nothing. -/
inductive Settled where
  | clause (c : Clause)
  | vacuous (column : ColumnName)

namespace Predicate

/-- The operator as it is written. In a filter, null is compared by `IS` and `IS NOT`. -/
def settledOperator (p : Predicate) (filtering : Bool) : Except Error String :=
  let operator := Text.upper (Identifier.sanitize (Text.trim p.operator))
  if p.value.isNull && filtering then
    if operator = "=" then .ok "IS"
    else if operator = "!=" then .ok "IS NOT"
    else .error (.nullOperator operator)
  else .ok operator

/-- The columns of a full text search. They have to exist; their types do not matter. -/
def searchColumns (schema : Schema) (scope : Scope) : List String → Except Error (List ColumnName)
  | [] => .ok []
  | name :: rest => do
    let subject ← Subject.find schema scope name
    let names ← searchColumns schema scope rest
    return subject.reference.name :: names

def settleSearch (schema : Schema) (scope : Scope) (p : Predicate) : Except Error Settled := do
  if p.column.names.isEmpty then throw .columnNotText
  let columns ← searchColumns schema scope p.column.names
  let value ← Literal.ofValue p.value none
  return .clause (.search columns value)

def settleBetween (s : Subject) (validate : Bool) (value : Value) : Except Error Settled :=
  match value with
  | .list [low, high] =>
    if low.isNull || high.isNull then .error (.badBetween s.reference.column)
    else do
      s.check validate low
      s.check validate high
      let low ← s.literal low
      let high ← s.literal high
      return .clause (.between s.reference.name low high)
  | _ => .error (.badBetween s.reference.column)

/-- Membership in a list. In an empty list there is nothing, and outside it is everything. -/
def settleMember (s : Subject) (validate : Bool) (operator : String) (value : Value) :
    Except Error Settled :=
  match value with
  | .list [] => .ok (if operator = "IN" then .clause .never else .vacuous s.reference.name)
  | .list items => do
    let literals ← s.checkedLiterals validate items
    return .clause (.member s.reference.name operator literals)
  | _ => .error (.operatorNeedsList operator)

def settleCompare (s : Subject) (validate : Bool) (operator : String) (value : Value) :
    Except Error Settled := do
  s.check validate value
  let literal ← s.literal value
  return .clause (.compare s.reference.name operator literal)

/-- A predicate on one column. -/
def settleOn (schema : Schema) (scope : Scope) (column operator : String) (value : Value) :
    Except Error Settled := do
  let subject ← Subject.find schema scope column
  if operator = "BETWEEN" then settleBetween subject scope.validate value
  else if operator = "IN" ∨ operator = "NOT IN" then
    settleMember subject scope.validate operator value
  else settleCompare subject scope.validate operator value

def settle (schema : Schema) (scope : Scope) (p : Predicate) : Except Error Settled := do
  let operator ← p.settledOperator scope.filtering
  if operator = "MATCH" then settleSearch schema scope p
  else match p.column with
    | .one column => settleOn schema scope column operator p.value
    | .many _ => throw .columnNotText

/-- The clause of a predicate, or a note that there is none. -/
def clauses (schema : Schema) (scope : Scope) (p : Predicate) : Traced (List Clause) := do
  match ← p.settle schema scope with
  | .clause c => return [c]
  | .vacuous column =>
    Traced.note (.droppedNotIn column)
    return []

end Predicate

namespace Condition

/-- A group without members is left out. -/
def groupOf (glue : Glue) (clauses : List Clause) : Traced (List Clause) :=
  if clauses.isEmpty then do
    Traced.note (.droppedGroup glue)
    return []
  else return [.group glue clauses]

mutual

def clauses (schema : Schema) (scope : Scope) : Condition → Traced (List Clause)
  | predicate p => p.clauses schema scope
  | raw sql => return [.verbatim sql]
  | group glue children => do
    let inner ← clausesAll schema scope children
    groupOf glue inner

def clausesAll (schema : Schema) (scope : Scope) : List Condition → Traced (List Clause)
  | [] => return []
  | condition :: rest => do
    let first ← clauses schema scope condition
    let others ← clausesAll schema scope rest
    return first ++ others

end

/-- The clauses of conditions on the table of the scope, which has to exist. -/
def compile (schema : Schema) (scope : Scope) (conditions : List Condition) :
    Traced (List Clause) := do
  let _ ← scope.getTable schema
  clausesAll schema scope conditions

/-- The clauses of an input. -/
def compileInput (schema : Schema) (scope : Scope) (input : Json) : Traced (List Clause) := do
  let table ← scope.getTable schema
  let conditions ← read table input
  clausesAll schema scope conditions

end Condition

end SqlBuilder
