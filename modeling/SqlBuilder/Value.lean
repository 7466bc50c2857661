import SqlBuilder.Calendar.Basic
import SqlBuilder.Json.Basic
import SqlBuilder.Number.Layout
import SqlBuilder.Number.Numeral
import SqlBuilder.Text.Shown

/-!
The values that columns are compared with or set to.
-/

namespace SqlBuilder

inductive Value where
  | null
  | bool (value : Bool)
  | integer (value : Int)
  | float (value : Binary64)
  | text (value : String)
  | date (date : Date)
  | time (time : Time)
  | dateTime (date : Date) (time : Time)
  | list (items : List Value)

namespace Value

def isNull : Value → Bool
  | null => true
  | _ => false

def isTemporal : Value → Bool
  | date _ => true
  | time _ => true
  | dateTime _ _ => true
  | _ => false

/-- The number that the value is or that its text writes. It is finite. -/
def number? : Value → Option Binary64
  | integer value => some (.ofInt value) |>.filter Binary64.isFinite
  | float value => some value |>.filter Binary64.isFinite
  | text value => (Binary64.ofText? (Text.trim value)).filter Binary64.isFinite
  | _ => none

/-- The text that is quoted to write a scalar. -/
def scalarText? : Value → Option String
  | bool value => some (if value then "1" else "0")
  | integer value => some (toString value)
  | float value => some (value.text .plain)
  | text value => some value
  | _ => none

/-- Whether an integer needs all 64 bits for its magnitude. -/
def isWide (n : Int) : Bool := Word.signedBound ≤ n

def describe : Value → String
  | null => "Null"
  | bool value => if value then "Bool(true)" else "Bool(false)"
  | integer value => (if isWide value then "UInt(" else "Int(") ++ toString value ++ ")"
  | float value => "Float(" ++ value.text .described ++ ")"
  | text value => "String(" ++ Text.shown value ++ ")"
  | date d => "Date(" ++ d.text ++ ")"
  | time t => "Time(" ++ t.text ++ t.fractionText ++ ")"
  | dateTime d t => "DateTime(" ++ d.text ++ "T" ++ t.text ++ t.fractionText ++ ")"
  | list items => "list of " ++ toString items.length ++ " element(s)"

mutual

/-- An object is not a value, nor is an array that holds one. -/
def ofJson? : Json → Option Value
  | .null => some null
  | .bool value => some (bool value)
  | .integer value => some (integer value)
  | .float value => some (float value)
  | .string value => some (text value)
  | .array items => (ofItems? items).map list
  | .object _ => none

def ofItems? : List Json → Option (List Value)
  | [] => some []
  | item :: rest => do
    let value ← ofJson? item
    let values ← ofItems? rest
    return value :: values

end

end Value

end SqlBuilder
