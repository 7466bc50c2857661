import SqlBuilder.Json.Basic
import SqlBuilder.Text.Basic
import SqlBuilder.Text.Case

/-!
Joins with every shorthand written out.
-/

namespace SqlBuilder

inductive JoinKind where
  | inner
  | left
  | right
  | full
  | cross
deriving Repr, DecidableEq

namespace JoinKind

def word : JoinKind → String
  | inner => "INNER"
  | left => "LEFT"
  | right => "RIGHT"
  | full => "FULL"
  | cross => "CROSS"

/-- The kind that a tag names, in any case of letters. An outer join may say so. -/
def ofTag? (tag : String) : Option JoinKind :=
  match Text.upper (Text.trim tag) with
  | "INNER" => some inner
  | "LEFT" => some left
  | "LEFT OUTER" => some left
  | "RIGHT" => some right
  | "RIGHT OUTER" => some right
  | "FULL" => some full
  | "FULL OUTER" => some full
  | "CROSS" => some cross
  | _ => none

end JoinKind

/-- A column of the joined table and the name under which it can be used. -/
structure ProjectedField where
  source : String
  exposed : String
deriving Repr, DecidableEq

/-- One test that links the tables: a column whose counterpart a foreign key gives, a pair of
columns, or SQL that is passed on as it is. -/
inductive OnEntry where
  | column (name : String)
  | pair (origin joined : String)
  | raw (sql : String)
deriving Repr, DecidableEq

/-- `origin` is the table that the join hangs on and `aliasOfOrigin` its name in the statement.
Without `on` entries the link is found from the foreign keys. -/
structure Join where
  table : String
  origin : String
  alias? : Option String := none
  kind : JoinKind := .inner
  aliasOfOrigin : Option String := none
  on : List OnEntry := []
  fields : List ProjectedField := []
  filter : Option Json := none

namespace Join

/-- The name of the joined table in the statement. -/
def name (j : Join) : String := j.alias?.getD j.table

def originName (j : Join) : String := j.aliasOfOrigin.getD j.origin

/-- The first field that is exposed under the name. -/
def projected? (j : Join) (exposed : String) : Option ProjectedField :=
  j.fields.find? (·.exposed == exposed)

end Join

end SqlBuilder
