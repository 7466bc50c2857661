import SqlBuilder.Error
import SqlBuilder.Storage.Path

/-!
Where files are read from: anything that can be asked for the text at a path, such as a tree of
files that is held as a value.
-/

namespace SqlBuilder

/-- Ways to look at files, within the effects `m`. -/
structure Files (m : Type → Type) where
  read : String → m (Except ReadFault String)
  present : String → m Bool

/-- Files and directories by the parts of their paths from the root, and the directory that
relative paths start from. -/
structure FileTree where
  location : List String
  files : List (List String × String)
  directories : List (List String)

namespace FileTree

/-- The parts of a path that name something. -/
def properParts (path : String) : List String :=
  (Path.parts path).filter fun part => part != "" && part != "."

/-- All beginnings of a path. -/
def beginnings (parts : List String) : List (List String) :=
  (List.range (parts.length + 1)).map fun count => parts.take count

/-- The tree with these files and these directories below the location, each by its path from
there. -/
def ofList (location : String) (files : List (String × String)) (directories : List String) :
    FileTree :=
  let location := properParts location
  let files := files.map fun (path, text) => (location ++ properParts path, text)
  let directories := directories.map fun path => location ++ properParts path
  let parents := files.map fun file => file.1.dropLast
  ⟨location, files, (location :: directories ++ parents).flatMap beginnings⟩

/-- Follows the parts of a path from a directory, which is given backwards. A file ends the path,
and above the root there is the root. -/
def walk (tree : FileTree) : (here : List String) → List String → Except ReadFault String
  | _, [] => .error .isDirectory
  | here, part :: rest =>
    if part = "" ∨ part = "." then tree.walk here rest
    else if part = ".." then tree.walk here.tail rest
    else if 255 < part.utf8ByteSize then .error .nameTooLong
    else
      let next := part :: here
      if tree.directories.contains next.reverse then tree.walk next rest
      else match tree.files.lookup next.reverse with
        | some text => if rest.isEmpty then .ok text else .error .notDirectory
        | none => .error .notFound

def read (tree : FileTree) (path : String) : Except ReadFault String :=
  if path = "" then .error .notFound
  else if path.toList.contains '\x00' then
    .error (.other "file name contained an unexpected NUL byte")
  else if 4096 ≤ path.utf8ByteSize then .error .nameTooLong
  else
    let start := if Path.isRelative path then tree.location.reverse else []
    tree.walk start (Path.parts path)

def present (tree : FileTree) (path : String) : Bool :=
  match tree.read path with
  | .ok _ => true
  | .error fault => fault = .isDirectory

def asFiles (tree : FileTree) : Files Id := ⟨tree.read, tree.present⟩

end FileTree

end SqlBuilder
