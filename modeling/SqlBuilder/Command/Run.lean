import SqlBuilder.Command.Basic
import SqlBuilder.Config
import SqlBuilder.Schema.File

/-!
Runs of the program: from arguments and files to what is printed.
-/

namespace SqlBuilder.Command

/-- Why a command failed. -/
inductive Failure where
  | notJson (label : String)
  | schema (path : String) (error : Error)
  | other (error : Error)

def Failure.message : Failure → String
  | notJson label => "invalid " ++ label ++ " JSON: " ++ DecodeFault.message .notJson
  | schema path error => "loading schema " ++ path ++ ": " ++ error.message
  | other error => error.message

/-- A text that cannot be cut ends the program at once. -/
def Failure.exitCode : Failure → Nat
  | other (.severedWord _) => 101
  | _ => 1

structure Outcome where
  exitCode : Nat
  output : String
  errors : String
deriving Repr, DecidableEq

/-- What a command works with. -/
structure Context where
  schema : Schema
  quoting : Quoting
  validate : Bool

def readJson (label text : String) : Except Failure Json :=
  match Json.parse? text with
  | some json => .ok json
  | none => .error (.notJson label)

/-- Input that is left out is null. -/
def readJson? (label : String) : Option String → Except Failure Json
  | some text => readJson label text
  | none => .ok .null

def settle {α : Type} (x : Traced α) : Except Failure α := x.result.mapError Failure.other

def generated (sql : String) : String := "Generated SQL:\n" ++ sql ++ "\n"

/-- One line for a column: its name in a field of twenty, its type, and its foreign keys. -/
def columnLine (c : Column) : String :=
  let name := c.name ++ String.ofList (List.replicate (20 - c.name.toList.length) ' ')
  let length := match c.length with
    | some n => "(" ++ toString n ++ ")"
    | none => ""
  let keys := c.foreignKeys.map fun key => "-> " ++ key.table ++ "." ++ key.column
  "  " ++ name ++ " " ++ c.type.tag ++ length ++ (if c.nullable then " null" else "") ++ " " ++
    Text.joinWith " " keys ++ "\n"

def tableLines (t : Table) : String := t.name ++ "\n" ++ String.join (t.columns.map columnLine)

def schemaLines (s : Schema) : String :=
  if s.tables.isEmpty then "(no schema loaded)\n" else String.join (s.tables.map tableLines)

/-- Joins are looked at only for a condition on a table. -/
def performCondition (c : Context) (input : String) (table alias? joins : Option String)
    (assignments : Bool) : Except Failure String := do
  let input ← readJson "condition" input
  let joinInput ← readJson? "joins" joins
  let joins ← match table with
    | some table => settle (Join.read table alias? joinInput)
    | none => .ok []
  let scope : Scope := {
    table, alias?, joins, validate := c.validate
    glue := if assignments then .comma else .and
    filtering := !assignments }
  let clauses ← settle (Condition.compileInput c.schema scope input)
  return generated (Clause.joined c.quoting scope.glue clauses)

/-- What a task prints. -/
def perform (c : Context) : Task → Except Failure String
  | .condition input table alias? joins assignments =>
    performCondition c input table alias? joins assignments
  | .select query joins filter => do
    let joins ← readJson? "joins" joins
    let filter ← readJson? "where" filter
    let statement ← settle (Statement.ofQuery c.schema c.validate { query with joins, filter })
    return generated (statement.sql c.quoting)
  | .insert verb table data => do
    let data ← readJson "data" data
    let statement ← settle (Statement.ofInsert c.schema c.validate verb table data)
    return generated (statement.sql c.quoting)
  | .update table filter data => do
    let filter ← readJson "filter" filter
    let data ← readJson "data" data
    match ← settle (Statement.ofUpdate c.schema c.validate table filter data) with
    | some statement => return generated (statement.sql c.quoting)
    | none => return "(nothing to update)\n"
  | .delete table filter => do
    let filter ← readJson "filter" filter
    let statement ← settle (Statement.ofDelete c.schema c.validate table filter)
    return generated (statement.sql c.quoting)
  | .tables => return schemaLines c.schema

def failed (errors : String) (failure : Failure) : Outcome :=
  ⟨failure.exitCode, "", errors ++ "Error: " ++ failure.message ++ "\n"⟩

/-- What verbose runs say about the schema. -/
def contextLine (c : Context) : String :=
  "Schema: " ++ toString c.schema.tables.length ++ " table(s), validation " ++
    (if c.validate then "on" else "off") ++ "\n"

def performIn (verbose : Bool) (c : Context) (task : Task) : Outcome :=
  let errors := if verbose then contextLine c else ""
  match perform c task with
  | .ok output => ⟨0, output, errors⟩
  | .error failure => failed errors failure

def halted : Halt → Outcome
  | .misuse => ⟨2, "", "Usage: condsql [OPTIONS] <COMMAND>\n"⟩
  | .version => ⟨0, "condsql 0.3.0\n", ""⟩
  | .help => ⟨0, "Usage: condsql [OPTIONS] <COMMAND>\n", ""⟩

variable {m : Type → Type} [Monad m]

def loadSchema (files : Files m) : Option String → m (Except Failure Schema)
  | none => return .ok {}
  | some path => do
    let schema ← Schema.ofFile files path
    return schema.result.mapError (Failure.schema path)

/-- Loads the configuration and the schema, then performs the task. -/
def execute (files : Files m) (userDirectory : Option String) (i : Invocation) : m Outcome := do
  let config ← Config.load files userDirectory i.settings.config
  match config.result with
  | .error error => return failed "" (.other error)
  | .ok config =>
    let path := i.settings.schema.orElse fun _ => config.schema
    match ← loadSchema files path with
    | .error failure => return failed "" failure
    | .ok schema =>
      let context := ⟨schema, config.quoting, config.validate && i.settings.validate⟩
      return performIn i.settings.verbose context i.task

/-- A run of the program. -/
def run (files : Files m) (environment : Environment) (arguments : List String) : m Outcome :=
  match readInvocation environment arguments with
  | .error halt => return halted halt
  | .ok invocation => execute files environment.userDirectory invocation

end SqlBuilder.Command
