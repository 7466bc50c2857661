import SqlBuilder.Text.Basic
import SqlBuilder.Text.Case

/-!
The declared types of columns.
-/

namespace SqlBuilder

/-- A type with rules of its own, or any other tag, which constrains nothing. -/
inductive ColumnType where
  | int
  | tinyInt
  | smallInt
  | mediumInt
  | bigInt
  | float
  | decimal
  | double
  | year
  | char
  | varchar
  | date
  | time
  | dateTime
  | point
  | other (tag : String)
deriving Repr, DecidableEq

namespace ColumnType

def tag : ColumnType → String
  | int => "int"
  | tinyInt => "tinyint"
  | smallInt => "smallint"
  | mediumInt => "mediumint"
  | bigInt => "bigint"
  | float => "float"
  | decimal => "decimal"
  | double => "double"
  | year => "year"
  | char => "char"
  | varchar => "varchar"
  | date => "date"
  | time => "time"
  | dateTime => "datetime"
  | point => "point"
  | other tag => tag

/-- The type with this tag in lower case. -/
def ofLowerTag (tag : String) : ColumnType :=
  match tag with
  | "int" => int
  | "integer" => int
  | "tinyint" => tinyInt
  | "smallint" => smallInt
  | "mediumint" => mediumInt
  | "bigint" => bigInt
  | "float" => float
  | "decimal" => decimal
  | "double" => double
  | "year" => year
  | "char" => char
  | "varchar" => varchar
  | "date" => date
  | "time" => time
  | "datetime" => dateTime
  | "point" => point
  | tag => other tag

/-- Blanks at the ends and the case of letters do not count. -/
def ofTag (tag : String) : ColumnType := ofLowerTag (Text.lower (Text.trim tag))

def isNumeric : ColumnType → Bool
  | int => true
  | tinyInt => true
  | smallInt => true
  | mediumInt => true
  | bigInt => true
  | float => true
  | decimal => true
  | double => true
  | year => true
  | _ => false

def isText : ColumnType → Bool
  | char => true
  | varchar => true
  | _ => false

def isTemporal : ColumnType → Bool
  | date => true
  | time => true
  | dateTime => true
  | _ => false

def isOther : ColumnType → Bool
  | other _ => true
  | _ => false

end ColumnType

end SqlBuilder
