import SqlBuilder.Schema.Decode
import SqlBuilder.Storage.Files
import SqlBuilder.Traced

/-!
Schema files. The extension `toml` says that a file is TOML; any other file is JSON.
-/

namespace SqlBuilder.Schema

def ofFileText (path text : String) : Traced Schema := do
  let schema ← if Path.extension? path = some "toml" then ofTomlText text else ofJsonText text
  Traced.note (.loadedSchema schema.tables.length path)
  return schema

def ofRead (path : String) : Except ReadFault String → Traced Schema
  | .ok text => ofFileText path text
  | .error fault => throw (.schemaLoad (.unreadable path fault))

def ofFile {m : Type → Type} [Monad m] (files : Files m) (path : String) : m (Traced Schema) := do
  let text ← files.read path
  return ofRead path text

end SqlBuilder.Schema
