import SqlBuilder.Error

/-!
Records in a document: an object with known fields, or an array of their values in order.
-/

namespace SqlBuilder.Json

/-- How strictly a record given as an array is read: whether it may be too long. -/
inductive Strictness where
  | strict
  | lenient
deriving DecidableEq

/-- The members of a record with the given fields. -/
def record (strictness : Strictness) (fields : List String) :
    Json → Except DecodeFault (List (String × Json))
  | object members => .ok members
  | array items =>
    if strictness = .strict ∧ fields.length < items.length then
      .error (.mistyped "no more items than fields")
    else .ok (fields.zip items)
  | _ => .error (.mistyped "a record")

/-- The value of a field that may have several spellings, if it is there. It may be there once. -/
def field? (members : List (String × Json)) (spellings : List String) :
    Except DecodeFault (Option Json) :=
  match members.filter fun member => spellings.contains member.1 with
  | [] => .ok none
  | [member] => .ok (some member.2)
  | _ => .error (.repeated (spellings.headD ""))

def field (members : List (String × Json)) (spellings : List String) :
    Except DecodeFault Json := do
  match ← field? members spellings with
  | some json => return json
  | none => throw (.missing (spellings.headD ""))

def decodeText : Json → Except DecodeFault String
  | string value => .ok value
  | _ => .error (.mistyped "a text")

def decodeBool : Json → Except DecodeFault Bool
  | bool value => .ok value
  | _ => .error (.mistyped "a truth value")

/-- A natural number up to the given one. -/
def decodeNat (most : Nat) : Json → Except DecodeFault Nat
  | integer value =>
    if 0 ≤ value ∧ value ≤ most then .ok value.toNat else .error (.mistyped "a number in range")
  | _ => .error (.mistyped "a number")

/-- Null, or what the decoder reads. -/
def decodeOption {α : Type} (decode : Json → Except DecodeFault α) :
    Json → Except DecodeFault (Option α)
  | null => .ok none
  | json => (decode json).map some

def decodeItems {α : Type} (decode : Json → Except DecodeFault α) :
    List Json → Except DecodeFault (List α)
  | [] => .ok []
  | item :: rest => do
    let first ← decode item
    let others ← decodeItems decode rest
    return first :: others

def decodeList {α : Type} (decode : Json → Except DecodeFault α) :
    Json → Except DecodeFault (List α)
  | array items => decodeItems decode items
  | _ => .error (.mistyped "a list")

/-- The field if it is there, and otherwise the default. -/
def fieldOr {α : Type} (members : List (String × Json)) (spellings : List String)
    (decode : Json → Except DecodeFault α) (default : α) : Except DecodeFault α := do
  match ← field? members spellings with
  | some json => decode json
  | none => return default

/-- The name of a variant: a text, or the only member of an object that holds nothing. -/
def decodeVariant (isNothing : Json → Bool) : Json → Except DecodeFault String
  | string name => .ok name
  | object [(name, value)] =>
    if isNothing value then .ok name else .error (.mistyped "a variant without data")
  | _ => .error (.mistyped "a variant")

end SqlBuilder.Json
