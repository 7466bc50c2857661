import SqlBuilder.Condition.Basic
import SqlBuilder.Error

/-!
Reading conditions from JSON. A level is an object or an array of entries. Entries of an array,
and members of an object whose name is an index, are positional; the others are named.

* A named scalar is an equality, a named pair an operator and a value, or a point.
* A positional text is raw SQL, a positional pair a column and a value, and any array of three a
  column, an operator and a value.
* `AND` and `OR` as the name, as the only name of an object, or as the first of a pair make a
  group, and so does an object of `sub` and `operator` at a position.
-/

namespace SqlBuilder

/-- The place of an entry in its level. -/
inductive Key where
  | positional
  | named (name : String)
deriving Repr, DecidableEq

namespace Key

def ofName (name : String) : Key := if Text.isIndex name then positional else named name

def logical? : Key → Option Glue
  | positional => none
  | named name => Glue.logical? name

end Key

namespace Condition

def readColumnNames : List Json → Option (List String)
  | [] => some []
  | .string name :: rest => (readColumnNames rest).map (name :: ·)
  | _ :: _ => none

/-- A name, or a list of at least one name. -/
def readColumn : Json → Except Error ColumnRef
  | .string name => .ok (.one name)
  | .array (first :: rest) =>
    match readColumnNames (first :: rest) with
    | some names => .ok (.many names)
    | none => .error .columnNotText
  | _ => .error .columnNotText

def readOperator : Json → Except Error String
  | .string operator => .ok (Predicate.canonicalOperator operator)
  | json => .error (.malformedCondition (.operatorNotText json))

def readValue (json : Json) : Except Error Value :=
  match Value.ofJson? json with
  | some value => .ok value
  | none => .error (.unsupportedValue (.object json))

/-- A text as it is, anything else as JSON. -/
def shownTag : Json → String
  | .string tag => tag
  | json => json.text

def logicalTag? : Json → Option Glue
  | .string tag => Glue.logical? tag
  | _ => none

def isPointColumn (table : Option Table) (column : String) : Bool :=
  match table.bind (·.column? column) with
  | some c => c.type = .point
  | none => false

def equality (column : String) (json : Json) : Except Error Condition := do
  let value ← readValue json
  return .predicate ⟨.one column, "=", value⟩

/-- A pair that is not a group: a point, an operator and a value, or a column and a value. -/
def readPair (table : Option Table) (key : Key) (first second : Json) : Except Error Condition :=
  match key with
  | .named column =>
    if isPointColumn table column then equality column (.array [first, second])
    else do
      let operator ← readOperator first
      let value ← readValue second
      return .predicate ⟨.one column, operator, value⟩
  | .positional => do
    let column ← readColumn first
    let value ← readValue second
    return .predicate ⟨column, "=", value⟩

def readTriple (column operator value : Json) : Except Error Condition := do
  let column ← readColumn column
  let operator ← readOperator operator
  let value ← readValue value
  return .predicate ⟨column, operator, value⟩

def readScalar (key : Key) (item : Json) : Except Error Condition :=
  match key, item with
  | .positional, .string sql => .ok (.raw sql)
  | .positional, item => .error (.malformedCondition (.positionalItem item))
  | .named column, item => equality column item

mutual

def readItems (table : Option Table) : List Json → Except Error (List Condition)
  | [] => .ok []
  | item :: rest => do
    let condition ← readEntry table .positional item
    let conditions ← readItems table rest
    return condition :: conditions

def readMembers (table : Option Table) : List (String × Json) → Except Error (List Condition)
  | [] => .ok []
  | (name, item) :: rest => do
    let condition ← readEntry table (Key.ofName name) item
    let conditions ← readMembers table rest
    return condition :: conditions

/-- A group of the entries of an object or array. Anything else is the fault. -/
def readGroup (table : Option Table) (glue : Glue) (fault : Error) :
    Json → Except Error Condition
  | .array items => do
    let children ← readItems table items
    return .group glue children
  | .object members => do
    let children ← readMembers table members
    return .group glue children
  | _ => .error fault

/-- One entry of a level. -/
def readEntry (table : Option Table) (key : Key) : Json → Except Error Condition
  | .object members =>
    match key.logical? with
    | some glue => do
      let children ← readMembers table members
      return .group glue children
    | none =>
      match members with
      | [(name, inner)] =>
        match Glue.logical? name with
        | some glue => readGroup table glue (.operatorNeedsList glue.word) inner
        | none => .error (.malformedCondition (.entryCount 1))
      | [(name, inner), (name', inner')] =>
        if key = .positional ∧ name = "sub" ∧ name' = "operator" then
          match logicalTag? inner' with
          | some glue => readGroup table glue (.malformedCondition .subNotMapping) inner
          | none => .error (.subGroupOperator (shownTag inner'))
        else if key = .positional ∧ name = "operator" ∧ name' = "sub" then
          match logicalTag? inner with
          | some glue => readGroup table glue (.malformedCondition .subNotMapping) inner'
          | none => .error (.subGroupOperator (shownTag inner))
        else .error (.malformedCondition (.entryCount 2))
      | _ => .error (.malformedCondition (.entryCount members.length))
  | .array items =>
    match key.logical? with
    | some glue => do
      let children ← readItems table items
      return .group glue children
    | none =>
      match items with
      | [.object [(name, inner)]] =>
        match Glue.logical? name with
        | some glue => readGroup table glue (.operatorNeedsList glue.word) inner
        | none => .error (.malformedCondition (.itemCount 1))
      | [first, second] =>
        match logicalTag? first with
        | some glue => readGroup table glue (.operatorNeedsList (shownTag first)) second
        | none => readPair table key first second
      | [column, operator, value] => readTriple column operator value
      | _ => .error (.malformedCondition (.itemCount items.length))
  | item => readScalar key item

end

/-- Reads the conditions of an input. Nothing is no condition, and an integer is an id. Only the
types of the table's columns are looked at, to tell points. -/
def read (table : Option Table) : Json → Except Error (List Condition)
  | .null => .ok []
  | .integer n => .ok [.predicate ⟨.one "id", "=", .integer n⟩]
  | .array items => readItems table items
  | .object members => readMembers table members
  | json => .error (.malformedCondition (.notMapping json))

end Condition

end SqlBuilder
