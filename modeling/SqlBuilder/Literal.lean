import SqlBuilder.Error
import SqlBuilder.Value

/-!
Literals, and the two styles of quoting a text.
-/

namespace SqlBuilder

/-- With backslash escapes, or with nothing but the quote itself doubled. -/
inductive Quoting where
  | mysql
  | ansi
deriving Repr, DecidableEq

namespace Quoting

/-- What stands for a character between the quotes. -/
def escape : Quoting → Char → List Char
  | mysql, c =>
    if c = '\x00' then [ '\\', '0']
    else if c = '\n' then [ '\\', 'n']
    else if c = '\r' then [ '\\', 'r']
    else if c = '\x1a' then [ '\\', 'Z']
    else if c = '\\' then [ '\\', '\\']
    else if c = '\'' then [ '\\', '\'']
    else if c = '"' then [ '\\', '"']
    else [c]
  | ansi, c => if c = '\'' then [ '\'', '\''] else [c]

def quote (style : Quoting) (text : String) : String :=
  String.ofList ('\'' :: (text.toList.flatMap style.escape ++ [ '\'']))

def word : Quoting → String
  | mysql => "mysql"
  | ansi => "ansi"

def ofWord? : String → Option Quoting
  | "mysql" => some mysql
  | "ansi" => some ansi
  | _ => none

end Quoting

/-- A value as a statement writes it. -/
inductive Literal where
  | null
  | text (value : String)
  | point (x y : Binary64)
deriving DecidableEq

namespace Literal

def sql (style : Quoting) : Literal → String
  | null => "NULL"
  | text value => style.quote value
  | point x y => "POINT(" ++ x.text .plain ++ "," ++ y.text .plain ++ ")"

/-- A date or time needs a temporal column, if the type of the column is known. -/
def ofCalendar (text : String) : Option ColumnType → Except Error Literal
  | none => .ok (.text text)
  | some type =>
    if type.isTemporal then .ok (.text text) else .error (.unsupportedValue (.temporalFor type))

/-- A list is a literal only as the two coordinates of a point. -/
def ofList (items : List Value) (type : Option ColumnType) : Except Error Literal :=
  match type, items with
  | some .point, [x, y] =>
    match x.number?, y.number? with
    | some x, some y => .ok (.point x y)
    | _, _ => .error (.unsupportedValue .coordinates)
  | _, _ => .error (.unsupportedValue (.list items.length))

/-- The literal for a value of a column, whose type is known or not. -/
def ofValue (value : Value) (type : Option ColumnType) : Except Error Literal :=
  match value with
  | .null => .ok .null
  | .bool b => .ok (.text (if b then "1" else "0"))
  | .integer n => .ok (.text (toString n))
  | .float x => .ok (.text (x.text .plain))
  | .text s => .ok (.text s)
  | .date d => ofCalendar d.text type
  | .time t => ofCalendar t.text type
  | .dateTime d t => ofCalendar (d.text ++ " " ++ t.text) type
  | .list items => ofList items type

end Literal

end SqlBuilder
