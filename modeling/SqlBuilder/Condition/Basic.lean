import SqlBuilder.Text.Basic
import SqlBuilder.Text.Case
import SqlBuilder.Value

/-!
Conditions: tests of columns, joined in groups.
-/

namespace SqlBuilder

/-- What joins the members of a group. A comma joins assignments. -/
inductive Glue where
  | and
  | or
  | comma
deriving Repr, DecidableEq

namespace Glue

def word : Glue → String
  | and => "AND"
  | or => "OR"
  | comma => ","

def separator (g : Glue) : String := " " ++ g.word ++ " "

/-- The connective that a tag names, in any case of letters. -/
def logical? (tag : String) : Option Glue :=
  match Text.upper tag with
  | "AND" => some and
  | "OR" => some or
  | _ => none

end Glue

/-- The column side of a test. Only a full text search may have several columns. -/
inductive ColumnRef where
  | one (name : String)
  | many (names : List String)
deriving Repr, DecidableEq

def ColumnRef.names : ColumnRef → List String
  | one name => [name]
  | many names => names

structure Predicate where
  column : ColumnRef
  operator : String
  value : Value

/-- The operator as it is kept: without blanks at the ends and in upper case. -/
def Predicate.canonicalOperator (operator : String) : String := Text.upper (Text.trim operator)

/-- A raw condition is SQL that is passed on as it is. -/
inductive Condition where
  | predicate (p : Predicate)
  | group (glue : Glue) (children : List Condition)
  | raw (sql : String)

end SqlBuilder
