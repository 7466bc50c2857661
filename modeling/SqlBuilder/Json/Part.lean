import SqlBuilder.Json.Reader

/-!
Reading the parts of a document that are asked for. What lies between them has to have the form of
JSON, but it is passed over: it may be nested to any depth, and its numbers and strings need not
have a value.
-/

namespace SqlBuilder.Json

/-- All of a value. Members with one name are all kept. -/
def whole : Read Json := readValue (keeping id) deepest

def passOver (chars : List Char) : Option (Unit × List Char) :=
  readValue passingOver chars.length chars

/-- A list of which each item is read in the given way. -/
def listOf (item : Read Json) : Read Json
  | '[' :: rest => (readList item ']' rest).map fun (items, rest) => (array items, rest)
  | chars => whole chars

/-- The fields of a record, each with its spellings and the way its value is read. -/
abbrev Fields := List (List String × Read Json)

def Fields.reader? (fields : Fields) (name : String) : Option (Read Json) :=
  (List.find? (fun field => field.1.contains name) fields).map Prod.snd

/-- A member of a record. Of one that is no field nothing is kept. -/
def readField (fields : Fields) (chars : List Char) :
    Option (Option (String × Json) × List Char) := do
  let (name, rest) ← readString chars
  match skip rest with
  | ':' :: rest =>
    match fields.reader? name with
    | some value =>
      let (json, rest) ← value (skip rest)
      return (some (name, json), rest)
    | none =>
      let (_, rest) ← passOver (skip rest)
      return (none, rest)
  | _ => none

/-- The fields of a record by their places, and further values up to the closing bracket. The fuel
bounds their number. -/
def readPlaces : Nat → List (Read Json) → Read (List Json)
  | 0, _, _ => none
  | fuel + 1, values, chars => do
    let (first, rest) ← values.headD whole (skip chars)
    match skip rest with
    | ',' :: rest =>
      let (more, rest) ← readPlaces fuel values.tail rest
      return (first :: more, rest)
    | ']' :: rest => return ([first], rest)
    | _ => none

/-- A record: an object with its fields among the members, or an array of their values. -/
def recordOf (fields : Fields) : Read Json
  | '\x7b' :: rest =>
    (readList (readField fields) '\x7d' rest).map fun (ms, rest) =>
      (object (ms.filterMap id), rest)
  | '[' :: rest =>
    match skip rest with
    | ']' :: rest => some (array [], rest)
    | _ =>
      (readPlaces (rest.length + 1) (fields.map Prod.snd) rest).map fun (items, rest) =>
        (array items, rest)
  | chars => whole chars

end SqlBuilder.Json
