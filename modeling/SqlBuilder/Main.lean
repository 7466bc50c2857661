import SqlBuilder.Command.Run

/-!
The command line program.
-/

namespace SqlBuilder.Main

/-- The fault that a system error stands for. -/
def readFault (error : IO.Error) : ReadFault :=
  match error with
  | .noFileOrDirectory .. => .notFound
  | .inappropriateType _ code _ => if code = 21 then .isDirectory else .notDirectory
  | error => .other (toString error)

def readText (path : String) : IO (Except ReadFault String) := do
  try
    return .ok (← IO.FS.readFile path)
  catch error =>
    return .error (readFault error)

def isPresent (path : String) : IO Bool := do
  match ← readText path with
  | .error .notFound => return false
  | _ => return true

/-- The configuration directory that the environment names, or the usual one. -/
def userDirectory : IO (Option String) := do
  match ← IO.getEnv "XDG_CONFIG_HOME" with
  | some directory => if !Path.isRelative directory then return some directory
  | none => pure ()
  return (← IO.getEnv "HOME").map fun home => Path.join home ".config"

end SqlBuilder.Main

open SqlBuilder in
def main (arguments : List String) : IO UInt32 := do
  let environment : Command.Environment := {
    schema := ← IO.getEnv "CONDSQL_SCHEMA"
    config := ← IO.getEnv "CONDSQL_CONFIG"
    userDirectory := ← Main.userDirectory }
  let files : Files IO := ⟨Main.readText, Main.isPresent⟩
  let outcome ← Command.run files environment arguments
  (← IO.getStderr).putStr outcome.errors
  (← IO.getStdout).putStr outcome.output
  return UInt32.ofNat outcome.exitCode
