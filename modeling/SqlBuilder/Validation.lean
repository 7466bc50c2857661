import SqlBuilder.Calendar.Moment
import SqlBuilder.Error
import SqlBuilder.Suggestion
import SqlBuilder.Value

/-!
Values checked against the declared types of columns.
-/

namespace SqlBuilder

namespace Value

/-- A date or time, or a text that names one. -/
def namesMoment : Value → Bool
  | date _ => true
  | time _ => true
  | dateTime _ _ => true
  | text s => Calendar.isMoment (Text.trim s)
  | _ => false

/-- Two numbers. -/
def isPoint : Value → Bool
  | list [x, y] => x.number?.isSome && y.number?.isSome
  | _ => false

end Value

/-- The length of the value's text and the most that the column takes, when both are known and
the text is too long. -/
def Column.excess? (c : Column) (value : Value) : Option (Nat × Nat) := do
  let most ← c.length
  let text ← value.scalarText?
  let actual := text.toList.length
  if most.toNat < actual then some (most.toNat, actual) else none

/-- Checks a value against a column of the table with the name. -/
def Column.check (c : Column) (table : String) (value : Value) : Except Error Unit :=
  if value.isNull then
    if c.nullable then .ok () else .error (.nullNotAllowed table c.name)
  else if c.type.isNumeric then
    if value.number?.isSome then .ok () else .error (.notNumeric table c.name)
  else if c.type.isText then
    match c.excess? value with
    | some (most, actual) => .error (.lengthExceeded table c.name most actual)
    | none => .ok ()
  else if c.type.isTemporal then
    if value.namesMoment then .ok () else .error (.badTemporal table c.name)
  else if c.type = .point then
    if value.isPoint then .ok () else .error (.badPoint table c.name)
  else .ok ()

/-- Checks that the table has the column and that the column takes the value. -/
def Table.check (t : Table) (column : String) (value : Value) : Except Error Unit :=
  match t.column? column with
  | some c => c.check t.name value
  | none => .error (.unknownColumn t.name column (Suggestion.suggest? column t.columnNames))

end SqlBuilder
