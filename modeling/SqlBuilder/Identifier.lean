import SqlBuilder.Text.Basic

/-!
Identifiers in SQL text. Only harmless characters are kept, and backticks stand around.
-/

namespace SqlBuilder

namespace Identifier

/-- Letters and digits of ASCII, and the characters of qualified names, calls and comparisons. -/
def isKept (c : Char) : Bool := c.isAlphanum || "_.,()!=<> -".toList.contains c

def sanitize (text : String) : String := String.ofList (text.toList.filter isKept)

def quote (text : String) : String := "`" ++ sanitize text ++ "`"

/-- The first two of the parts that points divide, if neither is empty. -/
def split? (text : String) : Option (String × String) :=
  let chars := text.toList
  let table := chars.takeWhile (· != '.')
  let column := ((chars.dropWhile (· != '.')).drop 1).takeWhile (· != '.')
  if table.isEmpty || column.isEmpty then none
  else some (String.ofList table, String.ofList column)

end Identifier

/-- A column as a statement names it. -/
structure ColumnName where
  qualifier : Option String
  column : String
deriving Repr, DecidableEq

def ColumnName.text (name : ColumnName) : String :=
  match name.qualifier with
  | some qualifier => Identifier.quote qualifier ++ "." ++ Identifier.quote name.column
  | none => Identifier.quote name.column

end SqlBuilder
