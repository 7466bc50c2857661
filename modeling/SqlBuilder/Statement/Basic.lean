import SqlBuilder.Join.Clause

/-!
Statements and their SQL.
-/

namespace SqlBuilder

inductive SortOrder where
  | ascending
  | descending
deriving Repr, DecidableEq

def SortOrder.word : SortOrder → String
  | ascending => "ASC"
  | descending => "DESC"

/-- The two ways to put a row into a table. -/
inductive InsertVerb where
  | insert
  | replace
deriving Repr, DecidableEq

def InsertVerb.word : InsertVerb → String
  | insert => "INSERT"
  | replace => "REPLACE"

/-- What a selection shows: all columns of a table, or a column, perhaps under another name. -/
inductive Shown where
  | every (table : String)
  | column (name : ColumnName)
  | renamed (name : ColumnName) (label : String)

def Shown.sql : Shown → String
  | every table => Identifier.quote table ++ ".*"
  | column name => name.text
  | renamed name label => name.text ++ " AS " ++ Identifier.quote label

structure Selection where
  shown : List Shown
  table : String
  alias? : Option String
  joins : List JoinClause
  filter : List Clause
  groupBy : List ColumnName
  orderBy : List (ColumnName × SortOrder)
  limit : Option Nat
  offset : Option Nat

/-- An insertion without data takes the default of every column. -/
inductive Statement where
  | insertDefaults (verb : InsertVerb) (table : String)
  | insert (verb : InsertVerb) (table : String) (assignments : List Clause)
  | update (table : String) (assignments filter : List Clause)
  | delete (table : String) (filter : List Clause)
  | select (selection : Selection)

/-- The filter of a statement, if anything is left of it. -/
def whereSql (style : Quoting) (filter : List Clause) : String :=
  if filter.isEmpty then "" else " WHERE " ++ Clause.joined style .and filter

namespace Selection

/-- The greatest row count stands for no limit where only an offset is given. -/
def limitSql : Option Nat → Option Nat → String
  | none, none => ""
  | some limit, none => " LIMIT " ++ toString limit
  | some limit, some offset => " LIMIT " ++ toString limit ++ " OFFSET " ++ toString offset
  | none, some offset => " LIMIT 18446744073709551615 OFFSET " ++ toString offset

/-- A part of a statement that is there only if its list is not empty. -/
def listSql (lead : String) (items : List String) : String :=
  if items.isEmpty then "" else lead ++ Text.joinWith ", " items

def sql (style : Quoting) (s : Selection) : String :=
  "SELECT " ++ Text.joinWith ", " (s.shown.map Shown.sql) ++
    " FROM " ++ Identifier.introduce s.table s.alias? ++
    String.join (s.joins.map fun join => " " ++ join.sql style) ++
    whereSql style s.filter ++
    listSql " GROUP BY " (s.groupBy.map ColumnName.text) ++
    listSql " ORDER BY " (s.orderBy.map fun (name, order) => name.text ++ " " ++ order.word) ++
    limitSql s.limit s.offset

end Selection

def Statement.sql (style : Quoting) : Statement → String
  | insertDefaults verb table => verb.word ++ " INTO " ++ Identifier.quote table ++ "() VALUES()"
  | insert verb table assignments =>
    verb.word ++ " INTO " ++ Identifier.quote table ++ " SET " ++
      Clause.joined style .comma assignments
  | update table assignments filter =>
    "UPDATE " ++ Identifier.quote table ++ " SET " ++ Clause.joined style .comma assignments ++
      whereSql style filter
  | delete table filter => "DELETE FROM " ++ Identifier.quote table ++ whereSql style filter
  | select selection => selection.sql style

end SqlBuilder
