import SqlBuilder.Join.Basic
import SqlBuilder.Join.Comparison
import SqlBuilder.Traced

/-!
Reading joins from JSON. An entry is the name of a table, a table with the fields it shows, or a
record of options. Members of an object whose name is an index have no key.
-/

namespace SqlBuilder.Join

/-- Options of an earlier form of records, which are refused. -/
def legacyOptions : List String := ["full_on", "join_field", "join_fields", "full_fields"]

def options : List String := ["table", "alias", "on", "fields", "type", "where", "origin"]

/-- A text is an expression if it has a comparison, otherwise the name of a column. -/
def onText (text : String) : Except Error OnEntry :=
  match Comparison.find text.toList with
  | .present => .ok (.raw text)
  | .absent => .ok (.column (Text.trim text))
  | .severed => .error (.severedWord text)

def readOnMembers : List (String × Json) → Except Error (List OnEntry)
  | [] => .ok []
  | (key, .string text) :: rest => do
    let entry ← if Text.isIndex key then onText text else .ok (.pair key text)
    let entries ← readOnMembers rest
    return entry :: entries
  | (key, value) :: _ => .error (.malformedJoin (.onEntry key value))

mutual

/-- A text, pairs of columns, or a list of these. -/
def readOn : Json → Except Error (List OnEntry)
  | .null => .ok []
  | .string text => (onText text).map fun entry => [entry]
  | .array items => readOnItems items
  | .object members => readOnMembers members
  | value => .error (.malformedJoin (.onOption value))

def readOnItems : List Json → Except Error (List OnEntry)
  | [] => .ok []
  | item :: rest => do
    let first ← readOn item
    let others ← readOnItems rest
    return first ++ others

end

def readFieldItems : List Json → Except Error (List ProjectedField)
  | [] => .ok []
  | .string name :: rest => do
    let fields ← readFieldItems rest
    return ⟨name, name⟩ :: fields
  | value :: _ => .error (.malformedJoin (.field value))

def readFieldMembers : List (String × Json) → Except Error (List ProjectedField)
  | [] => .ok []
  | (key, .string name) :: rest => do
    let fields ← readFieldMembers rest
    return ⟨if Text.isIndex key then name else key, name⟩ :: fields
  | (_, value) :: _ => .error (.malformedJoin (.field value))

/-- Names, or columns with the names they are shown under. -/
def readFields : Json → Except Error (List ProjectedField)
  | .null => .ok []
  | .array items => readFieldItems items
  | .object members => readFieldMembers members
  | value => .error (.malformedJoin (.field value))

abbrev Record := List (String × Json)

/-- The option of a record, which has to be a text if it is there. -/
def textOption (record : Record) (option : String) : Except Error (Option String) :=
  match record.lookup option with
  | none => .ok none
  | some (.string text) => .ok (some text)
  | some _ => .error (.malformedJoin (.optionNotText option ((record.lookup "table").getD .null)))

/-- Legacy options are refused and unknown ones noted. -/
def checkOptions : Record → Traced Unit
  | [] => return ()
  | (option, _) :: rest => do
    if legacyOptions.contains option then throw (.legacyJoinOption option)
    if !options.contains option then Traced.note (.ignoredJoinOption option)
    checkOptions rest

/-- The table, and the alias that a key beside an explicit table gives. -/
def readTable (record : Record) (key : Option String) :
    Except Error (String × Option String) := do
  match ← textOption record "table", key with
  | some table, key => return (table, key)
  | none, some table => return (table, none)
  | none, none => throw (.malformedJoin .anonymous)

def readKind (record : Record) : Except Error JoinKind := do
  match ← textOption record "type" with
  | none => return .inner
  | some tag =>
    match JoinKind.ofTag? tag with
    | some kind => return kind
    | none => throw (.malformedJoin (.unknownKind tag))

/-- The table that a join hangs on and its name in the statement: that of an earlier join, the
origin of the statement under its alias, or any other table. -/
def hangOn (name origin : String) (aliasOfOrigin : Option String) (earlier : List Join) :
    String × Option String :=
  match earlier.find? fun join => join.name == name || join.table == name with
  | some parent => (parent.table, parent.alias?)
  | none => if aliasOfOrigin = some name then (origin, aliasOfOrigin) else (name, none)

def readFilter (record : Record) : Option Json :=
  match record.lookup "where" with
  | some .null => none
  | filter => filter

def readRecord (origin : String) (aliasOfOrigin : Option String) (earlier : List Join)
    (key : Option String) (record : Record) : Traced Join := do
  checkOptions record
  let (table, keyAlias) ← readTable record key
  let alias? ← textOption record "alias"
  let kind ← readKind record
  let parent ← textOption record "origin"
  let (origin, aliasOfOrigin) := match parent with
    | some name => hangOn name origin aliasOfOrigin earlier
    | none => (origin, aliasOfOrigin)
  let on ← readOn ((record.lookup "on").getD .null)
  let fields ← readFields ((record.lookup "fields").getD .null)
  return {
    table, origin, aliasOfOrigin, kind, on, fields
    alias? := alias?.orElse fun _ => keyAlias
    filter := readFilter record }

def readEntry (origin : String) (aliasOfOrigin : Option String) (earlier : List Join)
    (key : Option String) (item : Json) : Traced Join :=
  match key, item with
  | none, .string table => return { table, origin, aliasOfOrigin }
  | some table, .array items => do
    let fields ← readFields (.array items)
    return { table, origin, aliasOfOrigin, fields }
  | key, .object record => readRecord origin aliasOfOrigin earlier key record
  | key, item => throw (.malformedJoin (.unreadable key item))

/-- Entries in order. Each may hang on one before it, and each has to name a table. -/
def readEntries (origin : String) (aliasOfOrigin : Option String) :
    (earlier : List Join) → List (Option String × Json) → Traced (List Join)
  | earlier, [] => return earlier
  | earlier, (key, item) :: rest => do
    let join ← readEntry origin aliasOfOrigin earlier key item
    if Text.isBlankText join.table then throw (.malformedJoin .noTable)
    readEntries origin aliasOfOrigin (earlier ++ [join]) rest

/-- Reads the joins of a statement on the origin table. -/
def read (origin : String) (aliasOfOrigin : Option String) : Json → Traced (List Join)
  | .null => return []
  | .string table => readEntries origin aliasOfOrigin [] [(none, .string table)]
  | .array items => readEntries origin aliasOfOrigin [] (items.map fun item => (none, item))
  | .object members =>
    readEntries origin aliasOfOrigin []
      (members.map fun (key, item) => (if Text.isIndex key then none else some key, item))
  | json => throw (.malformedJoin (.notListing json))

end SqlBuilder.Join
