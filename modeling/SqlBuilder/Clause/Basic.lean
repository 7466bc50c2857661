import SqlBuilder.Condition.Basic
import SqlBuilder.Identifier
import SqlBuilder.Literal

/-!
Clauses: conditions with every column and value settled, and their SQL.
-/

namespace SqlBuilder

/-- `never` stands for membership in an empty list. -/
inductive Clause where
  | compare (column : ColumnName) (operator : String) (value : Literal)
  | between (column : ColumnName) (low high : Literal)
  | member (column : ColumnName) (operator : String) (items : List Literal)
  | never
  | search (columns : List ColumnName) (value : Literal)
  | verbatim (sql : String)
  | group (glue : Glue) (clauses : List Clause)

namespace Clause

mutual

def sql (style : Quoting) : Clause → String
  | compare column operator value => column.text ++ " " ++ operator ++ " " ++ value.sql style
  | between column low high =>
    column.text ++ " BETWEEN " ++ low.sql style ++ " AND " ++ high.sql style
  | member column operator items =>
    column.text ++ " " ++ operator ++ " (" ++
      Text.joinWith "," (items.map (Literal.sql style)) ++ ")"
  | never => "(1=2)"
  | search columns value =>
    "MATCH(" ++ Text.joinWith "," (columns.map ColumnName.text) ++ ") AGAINST(" ++
      value.sql style ++ ")"
  | verbatim sql => "(" ++ sql ++ ")"
  | group glue clauses => "(" ++ Text.joinWith glue.separator (sqlAll style clauses) ++ ")"

def sqlAll (style : Quoting) : List Clause → List String
  | [] => []
  | clause :: rest => sql style clause :: sqlAll style rest

end

/-- The clauses with the connective between neighbours. -/
def joined (style : Quoting) (glue : Glue) (clauses : List Clause) : String :=
  Text.joinWith glue.separator (sqlAll style clauses)

end Clause

end SqlBuilder
