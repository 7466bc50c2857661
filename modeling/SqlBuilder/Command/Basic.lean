import SqlBuilder.Command.Arguments
import SqlBuilder.Statement.Build

/-!
The commands of the program and how their arguments spell them.
-/

namespace SqlBuilder.Command

/-- What to do. Conditions, joins and data are JSON text. -/
inductive Task where
  | condition (input : String) (table alias? joins : Option String) (assignments : Bool)
  | select (query : SelectQuery) (joins filter : Option String)
  | insert (verb : InsertVerb) (table data : String)
  | update (table filter data : String)
  | delete (table filter : String)
  | tables

/-- Settings that hold for every command. -/
structure Settings where
  schema : Option String := none
  config : Option String := none
  validate : Bool := true
  verbose : Bool := false

structure Invocation where
  settings : Settings
  task : Task

def helpFlag : Flag := { name := "help", letter := some 'h', takes := .nothing }

def isNonempty (value : String) : Bool := value != ""

def globalFlags : List Flag :=
  [ { name := "schema", letter := some 's', accepts := isNonempty },
    { name := "config", letter := some 'c', accepts := isNonempty },
    { name := "no-validate", takes := .nothing },
    { name := "verbose", letter := some 'v', takes := .nothing },
    { name := "version", letter := some 'V', takes := .nothing },
    helpFlag ]

def conditionFlags : List Flag :=
  [ { name := "table", letter := some 't' },
    { name := "alias", letter := some 'a' },
    { name := "joins", letter := some 'j' },
    { name := "set", takes := .nothing },
    helpFlag ]

def selectFlags : List Flag :=
  [ { name := "alias", letter := some 'a' },
    { name := "fields", letter := some 'f', repeats := true },
    { name := "joins", letter := some 'j' },
    { name := "where", letter := some 'w' },
    { name := "order-by", letter := some 'o', takes := .anyValue, repeats := true },
    { name := "limit", letter := some 'l', accepts := Text.isIndex },
    { name := "offset", accepts := Text.isIndex },
    helpFlag ]

def insertFlags : List Flag := [{ name := "replace", takes := .nothing }, helpFlag]

/-- The values of an option that takes lists with commas. -/
def listValues (a : Arguments) (name : String) : List String :=
  (a.values name).flatMap (Text.splitOn ',')

/-- A column to sort by: a dash in front asks for descending order. -/
def orderEntry (text : String) : OrderEntry :=
  match text.toList with
  | '-' :: column => ⟨String.ofList column, .descending⟩
  | _ => ⟨text, .ascending⟩

def numberValue? (a : Arguments) (name : String) : Option Nat :=
  (a.value? name).bind Text.index?

def readCondition (arguments : List String) : Except Halt Task := do
  let a ← readAll conditionFlags 1 arguments
  return .condition (a.operands.headD "") (a.value? "table") (a.value? "alias")
    (a.value? "joins") (a.has "set")

def readSelect (arguments : List String) : Except Halt Task := do
  let a ← readAll selectFlags 1 arguments
  let query : SelectQuery := {
    table := a.operands.headD ""
    alias? := a.value? "alias"
    fields := listValues a "fields"
    orderBy := (listValues a "order-by").map orderEntry
    limit := numberValue? a "limit"
    offset := numberValue? a "offset" }
  return .select query (a.value? "joins") (a.value? "where")

def readInsert (arguments : List String) : Except Halt Task := do
  let a ← readAll insertFlags 2 arguments
  match a.operands with
  | [table, data] => return .insert (if a.has "replace" then .replace else .insert) table data
  | _ => throw .misuse

def readUpdate (arguments : List String) : Except Halt Task := do
  let a ← readAll [helpFlag] 3 arguments
  match a.operands with
  | [table, filter, data] => return .update table filter data
  | _ => throw .misuse

def readDelete (arguments : List String) : Except Halt Task := do
  let a ← readAll [helpFlag] 2 arguments
  match a.operands with
  | [table, filter] => return .delete table filter
  | _ => throw .misuse

def readTables (arguments : List String) : Except Halt Task := do
  let _ ← readAll [helpFlag] 0 arguments
  return .tables

def commandNames : List String :=
  ["where", "select", "insert", "update", "delete", "tables", "help"]

def readTask (name : String) (arguments : List String) : Except Halt Task :=
  match name with
  | "where" => readCondition arguments
  | "select" => readSelect arguments
  | "insert" => readInsert arguments
  | "update" => readUpdate arguments
  | "delete" => readDelete arguments
  | "tables" => readTables arguments
  | _ => .error .help

/-- Values that the environment provides for options that are not given, and the directory of the
user's configuration. -/
structure Environment where
  schema : Option String := none
  config : Option String := none
  userDirectory : Option String := none

/-- The value of a path option, or else the one that the environment provides. -/
def pathOption (a : Arguments) (name : String) (provided : Option String) :
    Except Halt (Option String) :=
  match a.value? name with
  | some path => .ok (some path)
  | none => if provided.any (· == "") then .error .misuse else .ok provided

/-- Reads the arguments of the program: settings, then a command with its own arguments. -/
def readInvocation (environment : Environment) (arguments : List String) :
    Except Halt Invocation := do
  let a ← readArguments globalFlags commandNames 0 true ({}, none) arguments
  match a.command with
  | none => throw .misuse
  | some (name, rest) =>
    let task ← readTask name rest
    let schema ← pathOption a "schema" environment.schema
    let config ← pathOption a "config" environment.config
    return ⟨⟨schema, config, !a.has "no-validate", a.has "verbose"⟩, task⟩

end SqlBuilder.Command
