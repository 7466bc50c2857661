import SqlBuilder.Error
import SqlBuilder.Identifier
import SqlBuilder.Join.Basic
import SqlBuilder.Suggestion

/-!
References to columns: which table a name belongs to, and how the statement writes it.
-/

namespace SqlBuilder

/-- A column reference made definite. A qualified name has no table to be checked against. -/
structure Reference where
  table : Option String
  column : String
  name : ColumnName
  viaJoin : Bool
deriving Repr, DecidableEq

/-- The first field of a join that is exposed under the name, with its join. -/
def Join.findProjected? (joins : List Join) (exposed : String) : Option (Join × ProjectedField) :=
  joins.findSome? fun join => (join.projected? exposed).map fun field => (join, field)

/-- A qualified name is taken as it stands; otherwise a join that exposes the name provides it;
otherwise it is a column of the origin table, which is named by its alias if it has one. -/
def Reference.resolve (column : String) (origin : Option String) (joins : List Join)
    (alias? : Option String) : Reference :=
  let clean := Identifier.sanitize column
  match Identifier.split? clean with
  | some (table, column) => ⟨none, column, ⟨some table, column⟩, false⟩
  | none =>
    match Join.findProjected? joins clean with
    | some (join, field) => ⟨some join.table, field.source, ⟨some join.name, field.source⟩, true⟩
    | none => ⟨origin, clean, ⟨alias?.orElse fun _ => origin, clean⟩, false⟩

/-- The column of the table, which has to be there. -/
def Table.getColumn (t : Table) (column : String) : Except Error Column :=
  match t.column? column with
  | some c => .ok c
  | none => .error (.missingColumn t.name column (Suggestion.suggest? column t.columnNames))

/-- The table and the declaration of a column that has a known table. -/
def Reference.owner (r : Reference) (schema : Schema) : Except Error (Option (Table × Column)) :=
  match r.table with
  | none => .ok none
  | some name => do
    let table ← schema.getTable name
    let column ← table.getColumn r.column
    return some (table, column)

end SqlBuilder
