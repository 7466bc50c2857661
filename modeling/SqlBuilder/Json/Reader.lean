import SqlBuilder.Json.Basic
import SqlBuilder.Number.Numeral

/-!
Reading JSON text. A reader takes the characters that are left and gives what it read together
with the characters after it.
-/

namespace SqlBuilder.Json

/-- Reads something from the front of a text. -/
abbrev Read (α : Type) := List Char → Option (α × List Char)

def isSpace (c : Char) : Bool := c = ' ' || c = '\n' || c = '\t' || c = '\r'

def skip (chars : List Char) : List Char := chars.dropWhile isSpace

/-! ### Numbers -/

/-- Whole digits for as long as the number stays below `2 ^ 64`, and how many are left over. -/
def wholeDigits (number : Nat) : List Char → Nat × Nat
  | [] => (number, 0)
  | digit :: rest =>
    let next := 10 * number + Text.digitValue digit
    if next < Word.bound then wholeDigits next rest else (number, rest.length + 1)

/-- Further digits for as long as the number stays below `2 ^ 64`, and how many were taken. -/
def moreDigits (number : Nat) : List Char → Nat × Nat
  | [] => (number, 0)
  | digit :: rest =>
    let next := 10 * number + Text.digitValue digit
    if next < Word.bound then
      let (last, taken) := moreDigits next rest
      (last, taken + 1)
    else (number, 0)

/-- Powers of ten up to `10 ^ 308` are divided out in one step, larger ones step by step until
nothing is left of the number. -/
def scaleDown (x : Binary64) (power : Nat) : Nat → Binary64
  | 0 => x
  | steps + 1 =>
    if power ≤ 308 then x.overPower power
    else if x.isZero then x
    else scaleDown (x.overPower 308) (power - 308) steps

/-- `number * 10 ^ power` with one rounding for the number and one for the scaling. A result that
is too large is not a number. -/
def scale? (number : Nat) (power : Int) : Option Binary64 :=
  let x := Binary64.ofNat number
  if power < 0 then some (scaleDown x (-power).toNat 4)
  else if power ≤ 308 then some (x.timesPower power.toNat) |>.filter Binary64.isFinite
  else if x.isZero then some x
  else none

def signed (negative : Bool) (x : Binary64) : Binary64 := if negative then x.negate else x

/-- Whole numbers that fit 64 bits, with or without a sign, stay exact. Minus zero is a float. -/
def wholeNumber? (negative : Bool) (digits : List Char) : Option Json :=
  let number := Text.digitsValue digits
  if !negative && number < Word.bound then some (integer number)
  else if negative && number ≠ 0 && number ≤ Word.signedBound then some (integer (-number))
  else
    let (kept, dropped) := wholeDigits 0 digits
    (scale? kept dropped).map fun x => float (signed negative x)

def floatNumber? (negative : Bool) (whole fraction : List Char) (power : Int) : Option Json :=
  let (kept, dropped) := wholeDigits 0 whole
  let (kept, taken) := moreDigits kept fraction
  (scale? kept (dropped - taken + power)).map fun x => float (signed negative x)

/-- The digits after a point: at least one of them. -/
def readFraction : Read (Option (List Char))
  | '.' :: rest =>
    let (digits, rest) := Numeral.splitDigits rest
    if digits.isEmpty then none else some (some digits, rest)
  | chars => some (none, chars)

/-- The power of ten after an `e`: at least one digit. -/
def readPower (chars : List Char) : Option (Option Int × List Char) :=
  match chars with
  | c :: rest =>
    if c = 'e' ∨ c = 'E' then
      let (negative, rest) := Numeral.splitSign rest
      let (digits, rest) := Numeral.splitDigits rest
      if digits.isEmpty then none
      else
        let power : Int := Text.digitsValue digits
        some (some (if negative then -power else power), rest)
    else some (none, chars)
  | [] => some (none, [])

/-- A number as it is written. -/
structure WrittenNumber where
  negative : Bool
  whole : List Char
  fraction : Option (List Char)
  power : Option Int

/-- The number itself, unless it is too large. -/
def WrittenNumber.value? (n : WrittenNumber) : Option Json :=
  match n.fraction, n.power with
  | none, none => wholeNumber? n.negative n.whole
  | _, _ => floatNumber? n.negative n.whole (n.fraction.getD []) (n.power.getD 0)

/-- A number has no zero in front of other digits. -/
def readNumber (chars : List Char) : Option (WrittenNumber × List Char) := do
  let (negative, chars) := match chars with
    | '-' :: rest => (true, rest)
    | chars => (false, chars)
  let (whole, chars) := Numeral.splitDigits chars
  guard (!whole.isEmpty && (whole.length == 1 || whole.head? != some '0'))
  let (fraction, chars) ← readFraction chars
  let (power, chars) ← readPower chars
  return (⟨negative, whole, fraction, power⟩, chars)

/-! ### Strings -/

def hexDigit? (c : Char) : Option Nat :=
  if c.isDigit then some (c.toNat - '0'.toNat)
  else if 'a' ≤ c ∧ c ≤ 'f' then some (c.toNat - 'a'.toNat + 10)
  else if 'A' ≤ c ∧ c ≤ 'F' then some (c.toNat - 'A'.toNat + 10)
  else none

def readHex4 : Read Nat
  | a :: b :: c :: d :: rest => do
    let a ← hexDigit? a
    let b ← hexDigit? b
    let c ← hexDigit? c
    let d ← hexDigit? d
    return (4096 * a + 256 * b + 16 * c + d, rest)
  | _ => none

/-- The character of a `\u` escape: two escapes for a character beyond the first plane, and half
of such a pair is refused. -/
def readUnicode (chars : List Char) : Option (Char × List Char) := do
  let (unit, rest) ← readHex4 chars
  if unit < 0xd800 ∨ 0xe000 ≤ unit then return (Char.ofNat unit, rest)
  guard (unit < 0xdc00)
  match rest with
  | '\\' :: 'u' :: rest =>
    let (low, rest) ← readHex4 rest
    guard (0xdc00 ≤ low && low < 0xe000)
    return (Char.ofNat (0x10000 + (unit - 0xd800) * 0x400 + (low - 0xdc00)), rest)
  | _ => none

def escape? : Char → Option Char
  | '"' => some '"'
  | '\\' => some '\\'
  | '/' => some '/'
  | 'b' => some (Char.ofNat 8)
  | 'f' => some (Char.ofNat 12)
  | 'n' => some '\n'
  | 'r' => some '\r'
  | 't' => some '\t'
  | _ => none

/-- A `\u` escape that nobody looks at: half of a pair will do. -/
def readUnit (chars : List Char) : Option (Char × List Char) :=
  (readHex4 chars).map fun (unit, rest) => (Char.ofNat unit, rest)

/-- The next character of a string, or `none` at its closing quote. -/
def readStringChar (unicode : Read Char) : Read (Option Char)
  | '"' :: rest => some (none, rest)
  | '\\' :: 'u' :: rest => (unicode rest).map fun (c, rest) => (some c, rest)
  | '\\' :: c :: rest => (escape? c).map fun c => (some c, rest)
  | c :: rest => if c.toNat < 0x20 then none else some (some c, rest)
  | [] => none

/-- The characters up to the closing quote. The fuel bounds their number. -/
def readStringChars (unicode : Read Char) : Nat → Read (List Char)
  | 0, _ => none
  | fuel + 1, chars => do
    match ← readStringChar unicode chars with
    | (none, rest) => return ([], rest)
    | (some c, rest) =>
      let (more, rest) ← readStringChars unicode fuel rest
      return (c :: more, rest)

/-- A string whose `\u` escapes are read in the given way. -/
def readStringBy (unicode : Read Char) : Read String
  | '"' :: rest =>
    (readStringChars unicode (rest.length + 1) rest).map fun (chars, rest) =>
      (String.ofList chars, rest)
  | _ => none

def readString : Read String := readStringBy readUnicode

/-! ### Arrays, objects and documents -/

/-- Items with commas between them, up to the closing bracket. The fuel bounds their number. -/
def readItems {α : Type} (item : Read α) (close : Char) : Nat → Read (List α)
  | 0, _ => none
  | fuel + 1, chars => do
    let (first, rest) ← item (skip chars)
    match skip rest with
    | ',' :: rest =>
      let (more, rest) ← readItems item close fuel rest
      return (first :: more, rest)
    | c :: rest => if c = close then return ([first], rest) else none
    | [] => none

/-- The items of an array or object, of which the opening bracket is read. -/
def readList {α : Type} (item : Read α) (close : Char) (chars : List Char) :
    Option (List α × List Char) :=
  match skip chars with
  | c :: rest =>
    if c = close then some ([], rest) else readItems item close (chars.length + 1) (c :: rest)
  | [] => none

/-- A name, a colon and a value. -/
def readMember {α : Type} (name : Read String) (value : Read α) (chars : List Char) :
    Option ((String × α) × List Char) := do
  let (name, rest) ← name chars
  match skip rest with
  | ':' :: rest =>
    let (x, rest) ← value (skip rest)
    return ((name, x), rest)
  | _ => none

/-- What is made of the values of a document. -/
structure Maker (α : Type) where
  unicode : Read Char
  plain : Json → α
  number : WrittenNumber → Option α
  array : List α → α
  object : List (String × α) → α

/-- Makes JSON. `members` decides what becomes of the members of an object. -/
def keeping (members : List (String × Json) → List (String × Json)) : Maker Json where
  unicode := readUnicode
  plain := id
  number := WrittenNumber.value?
  array := Json.array
  object := fun ms => Json.object (members ms)

/-- Makes nothing, so that a value is not needed where there is the form of one. -/
def passingOver : Maker Unit where
  unicode := readUnit
  plain := fun _ => ()
  number := fun _ => some ()
  array := fun _ => ()
  object := fun _ => ()

/-- A value with at most `depth` arrays and objects inside each other. -/
def readValue {α : Type} (make : Maker α) : Nat → Read α
  | depth, chars =>
    match chars with
    | 'n' :: 'u' :: 'l' :: 'l' :: rest => some (make.plain null, rest)
    | 't' :: 'r' :: 'u' :: 'e' :: rest => some (make.plain (bool true), rest)
    | 'f' :: 'a' :: 'l' :: 's' :: 'e' :: rest => some (make.plain (bool false), rest)
    | '"' :: _ =>
      (readStringBy make.unicode chars).map fun (s, rest) => (make.plain (string s), rest)
    | '[' :: rest =>
      match depth with
      | 0 => none
      | depth + 1 =>
        (readList (readValue make depth) ']' rest).map fun (items, rest) =>
          (make.array items, rest)
    | '\x7b' :: rest =>
      match depth with
      | 0 => none
      | depth + 1 =>
        let member := readMember (readStringBy make.unicode) (readValue make depth)
        (readList member '\x7d' rest).map fun (ms, rest) => (make.object ms, rest)
    | _ => do
      let (number, rest) ← readNumber chars
      let x ← make.number number
      return (x, rest)

/-- A document is one value with nothing but blanks around it. -/
def readDocument {α : Type} (value : Read α) (text : String) : Option α := do
  let (x, rest) ← value (skip text.toList)
  guard (skip rest).isEmpty
  return x

/-- The deepest nesting that is read. -/
def deepest : Nat := 127

/-- Reads a document. Of members with one name the last value wins. -/
def parse? (text : String) : Option Json := readDocument (readValue (keeping lastWins) deepest) text

end SqlBuilder.Json
