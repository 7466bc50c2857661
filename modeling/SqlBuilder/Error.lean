import SqlBuilder.Json.Printer
import SqlBuilder.Schema.Basic

/-!
Everything that can go wrong, by cause, and the message for each cause.
-/

namespace SqlBuilder

/-- Why an input cannot be read as a condition. -/
inductive ConditionFault where
  | notMapping (input : Json)
  | entryCount (count : Nat)
  | positionalItem (item : Json)
  | itemCount (count : Nat)
  | subNotMapping
  | operatorNotText (operator : Json)

/-- Why an input cannot be read as joins. -/
inductive JoinFault where
  | notListing (input : Json)
  | unreadable (key : Option String) (item : Json)
  | noTable
  | anonymous
  | unknownKind (tag : String)
  | optionNotText (option : String) (table : Json)
  | onEntry (key : String) (value : Json)
  | onOption (value : Json)
  | field (value : Json)

/-- Why a value cannot be written as a literal. -/
inductive ValueFault where
  | temporalFor (type : ColumnType)
  | coordinates
  | list (count : Nat)
  | object (json : Json)
  | objectFor (column : String)

/-- Why a file cannot be read. -/
inductive ReadFault where
  | notFound
  | isDirectory
  | notDirectory
  | nameTooLong
  | other (reason : String)
deriving Repr, DecidableEq

/-- Why a document does not have the expected form. -/
inductive DecodeFault where
  | notJson
  | notToml
  | missing (field : String)
  | repeated (field : String)
  | mistyped (expected : String)
deriving Repr, DecidableEq

/-- Why a file could not be loaded. -/
inductive LoadFault where
  | unreadable (path : String) (fault : ReadFault)
  | undecodable (fault : DecodeFault)
deriving Repr, DecidableEq

inductive Error where
  | unknownTable (table : String)
  | unknownColumn (table column : String) (suggestion : Option String)
  | missingColumn (table column : String) (suggestion : Option String)
  | nullNotAllowed (table column : String)
  | notNumeric (table column : String)
  | lengthExceeded (table column : String) (most actual : Nat)
  | badTemporal (table column : String)
  | badPoint (table column : String)
  | malformedCondition (fault : ConditionFault)
  | columnNotText
  | operatorNeedsList (operator : String)
  | subGroupOperator (operator : String)
  | nullOperator (operator : String)
  | badBetween (column : String)
  | malformedJoin (fault : JoinFault)
  | legacyJoinOption (option : String)
  | severedWord (text : String)
  | noForeignKey (origin joined : String)
  | ambiguousForeignKey (owner target : String) (candidates : List ForeignKey)
  | unsupportedValue (fault : ValueFault)
  | schemaLoad (fault : LoadFault)
  | config (fault : LoadFault)

def ConditionFault.message : ConditionFault → String
  | notMapping input => "condition must be a mapping or an id, got " ++ input.text
  | entryCount count => "mapping with " ++ toString count ++ " entries is not a condition"
  | positionalItem item => "bad item type at positional key: " ++ item.text
  | itemCount count => "wrong items number in array (" ++ toString count ++ ")"
  | subNotMapping => "\"sub\" must be a mapping"
  | operatorNotText operator => "operator must be a string, got " ++ operator.text

def JoinFault.message : JoinFault → String
  | notListing input => "joins must be a list or a mapping, got " ++ input.text
  | unreadable key item => "cannot read join entry " ++ key.getD "#" ++ ": " ++ item.text
  | noTable => "no table could be determined"
  | anonymous => "anonymous join entry needs a \"table\""
  | unknownKind tag => "unknown join type \"" ++ tag ++ "\""
  | optionNotText option table =>
    "\"" ++ option ++ "\" must be a string in join on " ++ table.text
  | onEntry key value => "bad \"on\" entry " ++ key ++ ": " ++ value.text
  | onOption value => "bad \"on\" option: " ++ value.text
  | field value => "bad projected field: " ++ value.text

def ValueFault.message : ValueFault → String
  | temporalFor type => "date/time value for a " ++ type.tag ++ " column"
  | coordinates => "point coordinates must be numeric"
  | list count => "unknown value type in query (list of " ++ toString count ++ " element(s))"
  | object json => "object values are not supported: " ++ json.text
  | objectFor column => "object value for \"" ++ column ++ "\""

def ReadFault.message : ReadFault → String
  | notFound => "No such file or directory (os error 2)"
  | isDirectory => "Is a directory (os error 21)"
  | notDirectory => "Not a directory (os error 20)"
  | nameTooLong => "File name too long (os error 36)"
  | other reason => reason

def DecodeFault.message : DecodeFault → String
  | notJson => "the text is not JSON"
  | notToml => "the text is not TOML"
  | missing field => "missing field: " ++ field
  | repeated field => "repeated field: " ++ field
  | mistyped expected => "expected " ++ expected

def LoadFault.message : LoadFault → String
  | unreadable path fault => "failed to read " ++ path ++ ": " ++ fault.message
  | undecodable fault => fault.message

/-- A column of a table between quotes. -/
def Error.place (table column : String) : String := "\"" ++ table ++ "." ++ column ++ "\""

def Error.suggested : Option String → String
  | some name => ". Did you mean '" ++ name ++ "'?"
  | none => ""

/-- A foreign key of the table, from column to column. -/
def Error.candidate (owner : String) (key : ForeignKey) : String :=
  owner ++ "." ++ key.owner ++ " -> " ++ key.table ++ "." ++ key.column

def Error.message : Error → String
  | unknownTable table => "Unknown table: '" ++ table ++ "'"
  | unknownColumn table column suggestion =>
    "Database column " ++ place table column ++ " does not exist" ++ suggested suggestion
  | missingColumn table column suggestion =>
    "Column \"" ++ column ++ "\" does not exist in table \"" ++ table ++ "\"" ++
      suggested suggestion
  | nullNotAllowed table column => place table column ++ " cannot be null"
  | notNumeric table column => place table column ++ " must be numeric"
  | lengthExceeded table column most actual =>
    place table column ++ " length exceeded (must be at most " ++ toString most ++
      " characters, got " ++ toString actual ++ ")"
  | badTemporal table column => place table column ++ ": bad date format"
  | badPoint table column => place table column ++ ": bad point format"
  | malformedCondition fault => "Malformed condition: " ++ fault.message
  | columnNotText => "Column name must be a string"
  | operatorNeedsList operator => "Operator \"" ++ operator ++ "\" needs an array"
  | subGroupOperator operator => "Operator \"" ++ operator ++ "\" not supported in sub-group"
  | nullOperator operator => "Bad operator \"" ++ operator ++ "\" for null value"
  | badBetween column =>
    "\"BETWEEN\" on \"" ++ column ++ "\" expects an array of 2 non-null elements"
  | malformedJoin fault => "Malformed join: " ++ fault.message
  | legacyJoinOption option => "Join option \"" ++ option ++ "\" is no longer supported"
  | severedWord text => "A word ends inside a character: " ++ text
  | noForeignKey origin joined =>
    "No foreign key found between \"" ++ origin ++ "\" and \"" ++ joined ++ "\""
  | ambiguousForeignKey owner target candidates =>
    "More than one foreign key links \"" ++ owner ++ "\" and \"" ++ target ++ "\" (" ++
      Text.joinWith ", " (candidates.map (candidate owner)) ++ "); specify \"on\" explicitly"
  | unsupportedValue fault => "Unsupported value shape: " ++ fault.message
  | schemaLoad fault => "Schema load error: " ++ fault.message
  | config fault => "Configuration error: " ++ fault.message

/-- The table with the name, which has to be there. -/
def Schema.getTable (s : Schema) (name : String) : Except Error Table :=
  match s.table? name with
  | some table => .ok table
  | none => .error (.unknownTable name)

end SqlBuilder
