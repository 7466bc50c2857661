import SqlBuilder.Schema.ColumnType

/-!
Tables, their columns and the foreign keys between them.
-/

namespace SqlBuilder

/-- A reference to a column of another table. `owner` is the column that makes it. -/
structure ForeignKey where
  table : String
  column : String
  owner : String
deriving Repr, DecidableEq

/-- `length` is the most characters that a text column takes. -/
structure Column where
  name : String
  type : ColumnType
  nullable : Bool := false
  length : Option UInt32 := none
  foreignKeys : List ForeignKey := []
deriving Repr, DecidableEq

structure Table where
  name : String
  columns : List Column
deriving Repr, DecidableEq

structure Schema where
  tables : List Table := []
deriving Repr, DecidableEq

namespace Column

/-- Adds a foreign key that this column makes. -/
def references (c : Column) (table column : String) : Column :=
  { c with foreignKeys := c.foreignKeys ++ [⟨table, column, c.name⟩] }

/-- Foreign keys without an owner are owned by the column that declares them. -/
def link (c : Column) : Column :=
  { c with foreignKeys := c.foreignKeys.map fun key =>
      if key.owner = "" then { key with owner := c.name } else key }

end Column

namespace Table

/-- The first column with the name. -/
def column? (t : Table) (name : String) : Option Column := t.columns.find? (·.name == name)

def columnNames (t : Table) : List String := t.columns.map (·.name)

/-- All foreign keys in the order of their columns. -/
def foreignKeys (t : Table) : List ForeignKey := t.columns.flatMap (·.foreignKeys)

def foreignKeysTo (t : Table) (target : String) : List ForeignKey :=
  t.foreignKeys.filter (·.table == target)

def link (t : Table) : Table := { t with columns := t.columns.map Column.link }

end Table

namespace Schema

/-- The first table with the name. -/
def table? (s : Schema) (name : String) : Option Table := s.tables.find? (·.name == name)

def addTable (s : Schema) (t : Table) : Schema := ⟨s.tables ++ [t.link]⟩

def link (s : Schema) : Schema := ⟨s.tables.map Table.link⟩

end Schema

end SqlBuilder
