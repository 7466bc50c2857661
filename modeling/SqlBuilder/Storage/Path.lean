import SqlBuilder.Text.Basic

/-!
Paths of files, with a slash between their parts.
-/

namespace SqlBuilder.Path

def isRelative (path : String) : Bool := path.toList.head? != some '/'

/-- The characters after the last slash. -/
def fileName (path : String) : List Char :=
  (path.toList.reverse.takeWhile (· != '/')).reverse

/-- What follows the last point of the file name, unless the point comes first. -/
def extension? (path : String) : Option String :=
  let name := (fileName path).reverse
  let ending := name.takeWhile (· != '.')
  let stem := (name.dropWhile (· != '.')).drop 1
  if stem.isEmpty then none else some (String.ofList ending.reverse)

/-- A path backwards, without slashes and single points at its end. -/
def trimEnd : List Char → List Char
  | [] => []
  | c :: rest =>
    if c = '/' ∧ rest ≠ [] then trimEnd rest
    else if c = '.' ∧ rest.head? = some '/' then trimEnd rest
    else c :: rest

/-- The directory of a file. It is empty for a file name alone. -/
def directory (path : String) : String :=
  String.ofList (trimEnd (path.toList.reverse.dropWhile (· != '/'))).reverse

/-- The path as seen from the directory. -/
def join (directory path : String) : String :=
  if !isRelative path || directory = "" then path
  else if directory.toList.getLast? = some '/' then directory ++ path
  else directory ++ "/" ++ path

/-- The parts between slashes. -/
def parts (path : String) : List String := Text.splitOn '/' path

end SqlBuilder.Path
