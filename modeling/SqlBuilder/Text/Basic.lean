import SqlBuilder.Number.Word

/-!
Text read and written character by character: joining, blanks at the ends, and digits.
-/

namespace SqlBuilder.Text

/-- The texts in order with the separator between neighbours. -/
def joinWith (separator : String) : List String → String
  | [] => ""
  | [text] => text
  | text :: next :: rest => text ++ separator ++ joinWith separator (next :: rest)

/-- The pieces between occurrences of the separator. There is always at least one. -/
def splitChars (separator : Char) : List Char → List (List Char)
  | [] => [[]]
  | c :: rest =>
    if c = separator then [] :: splitChars separator rest
    else match splitChars separator rest with
      | piece :: pieces => (c :: piece) :: pieces
      | [] => [[c]]

def splitOn (separator : Char) (text : String) : List String :=
  (splitChars separator text.toList).map String.ofList

/-- The white space of Unicode. -/
def isBlank (c : Char) : Bool :=
  let code := c.toNat
  (9 ≤ code && code ≤ 13) || code == 0x20 || code == 0x85 || code == 0xa0 || code == 0x1680 ||
    (0x2000 ≤ code && code ≤ 0x200a) || code == 0x2028 || code == 0x2029 || code == 0x202f ||
    code == 0x205f || code == 0x3000

def trimStart (chars : List Char) : List Char := chars.dropWhile isBlank

def trimChars (chars : List Char) : List Char :=
  (trimStart (trimStart chars).reverse).reverse

/-- The text without blanks at either end. -/
def trim (text : String) : String := String.ofList (trimChars text.toList)

/-- Whether nothing but blanks is in the text. -/
def isBlankText (text : String) : Bool := text.toList.all isBlank

def digitValue (c : Char) : Nat := c.toNat - '0'.toNat

/-- The number that the digits write in base ten. -/
def digitsValue (digits : List Char) : Nat :=
  digits.foldl (fun value c => 10 * value + digitValue c) 0

/-- One or more ASCII digits and nothing else. -/
def natural? (chars : List Char) : Option Nat :=
  if !chars.isEmpty && chars.all Char.isDigit then some (digitsValue chars) else none

/-- A natural number below `2 ^ 64`, with an optional plus sign. -/
def index? (text : String) : Option Nat :=
  let digits := match text.toList with
    | '+' :: rest => rest
    | chars => chars
  (natural? digits).filter (· < Word.bound)

def isIndex (text : String) : Bool := (index? text).isSome

/-- The digits of a number, with zeros in front up to the width. -/
def padded (width n : Nat) : String :=
  let digits := Nat.toDigits 10 n
  String.ofList (List.replicate (width - digits.length) '0' ++ digits)

end SqlBuilder.Text
