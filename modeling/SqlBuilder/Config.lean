import SqlBuilder.Json.Record
import SqlBuilder.Literal
import SqlBuilder.Storage.Files
import SqlBuilder.Toml.Reader
import SqlBuilder.Traced

/-!
The configuration file: which schema to load, whether to check values, and how to quote.
-/

namespace SqlBuilder

structure Config where
  schema : Option String := none
  validate : Bool := true
  quoting : Quoting := .mysql
deriving Repr, DecidableEq

namespace Config

open Json

/-- A table or array that holds nothing. -/
def isNothing : Json → Bool
  | .object [] => true
  | .array [] => true
  | _ => false

def decodeQuoting (json : Json) : Except DecodeFault Quoting := do
  let word ← decodeVariant isNothing json
  match Quoting.ofWord? word with
  | some style => return style
  | none => throw (.mistyped "a quoting style")

def decode (json : Json) : Except DecodeFault Config := do
  let members ← record .lenient ["schema", "validate", "quoting"] json
  let schema ← fieldOr members ["schema"] (fun json => (decodeText json).map some) none
  let validate ← fieldOr members ["validate"] decodeBool true
  let quoting ← fieldOr members ["quoting"] decodeQuoting .mysql
  return ⟨schema, validate, quoting⟩

def ofTomlText (text : String) : Except Error Config :=
  match Toml.parse? text with
  | none => .error (.config (.undecodable .notToml))
  | some json =>
    match decode json with
    | .ok config => .ok config
    | .error fault => .error (.config (.undecodable fault))

/-- The schema path of a configuration file is relative to the directory of the file. -/
def relativeTo (path : String) (config : Config) : Config :=
  { config with schema := config.schema.map (Path.join (Path.directory path)) }

def ofRead (path : String) : Except ReadFault String → Traced Config
  | .ok text => do
    let config ← ofTomlText text
    Traced.note (.loadedConfig path)
    return config.relativeTo path
  | .error fault => throw (.config (.unreadable path fault))

variable {m : Type → Type} [Monad m]

def ofFile (files : Files m) (path : String) : m (Traced Config) := do
  let text ← files.read path
  return ofRead path text

def fileName : String := "condsql.toml"

/-- The file in the working directory, or else the one in the user's configuration directory. -/
def locate (files : Files m) (userDirectory : Option String) : m (Option String) := do
  if ← files.present fileName then return some fileName
  match userDirectory with
  | none => return none
  | some directory =>
    let path := Path.join (Path.join directory "condsql") fileName
    if ← files.present path then return some path
    return none

/-- The configuration at the path, or at the usual places, or the default one. -/
def load (files : Files m) (userDirectory path : Option String) : m (Traced Config) := do
  let path ← match path with
    | some path => pure (some path)
    | none => locate files userDirectory
  match path with
  | some path => ofFile files path
  | none => return pure {}

end Config

end SqlBuilder
