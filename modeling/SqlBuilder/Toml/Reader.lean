import SqlBuilder.Calendar.Moment
import SqlBuilder.Json.Reader
import SqlBuilder.Toml.Tree

/-!
Reading TOML text. A document is read into the same tree as JSON: tables become objects, and a
date or time an object that holds its text.
-/

namespace SqlBuilder.Toml

open Json (Read)

def isSpace (c : Char) : Bool := c = ' ' || c = '\t'

def skipSpace (chars : List Char) : List Char := chars.dropWhile isSpace

/-- The text after a line end. -/
def afterLineEnd? : List Char → Option (List Char)
  | '\n' :: rest => some rest
  | '\r' :: '\n' :: rest => some rest
  | _ => none

/-- What may stand in a comment, or unescaped in a text: no controls but the tab. -/
def isPrintable (c : Char) : Bool := c = '\t' || (0x20 ≤ c.toNat && c.toNat ≠ 0x7f)

/-- The text after a comment, if there is one here. -/
def skipComment : List Char → List Char
  | '#' :: rest => rest.dropWhile isPrintable
  | chars => chars

/-- Space and a comment up to the end of the line or of the text. -/
def endLine? (chars : List Char) : Option (List Char) :=
  match skipComment (skipSpace chars) with
  | [] => some []
  | rest => afterLineEnd? rest

/-- Space, line ends and comments between the items of an array. The fuel bounds their number. -/
def skipBetween : Nat → List Char → List Char
  | 0, chars => chars
  | fuel + 1, chars =>
    match skipSpace chars with
    | '#' :: rest => skipBetween fuel (rest.dropWhile isPrintable)
    | rest => match afterLineEnd? rest with
      | some rest => skipBetween fuel rest
      | none => rest

/-- Space and line ends. The fuel bounds their number. -/
def skipLines : Nat → List Char → List Char
  | 0, chars => chars
  | fuel + 1, chars =>
    match afterLineEnd? (skipSpace chars) with
    | some rest => skipLines fuel rest
    | none => skipSpace chars

/-! ### Texts -/

def readHex (count : Nat) (chars : List Char) : Option (Nat × List Char) := do
  let digits ← (chars.take count).mapM Json.hexDigit?
  guard (digits.length == count)
  return (digits.foldl (fun value digit => 16 * value + digit) 0, chars.drop count)

def readCodePoint (count : Nat) (chars : List Char) : Option (Char × List Char) := do
  let (code, rest) ← readHex count chars
  guard (code < 0xd800 || (0xe000 ≤ code && code < 0x110000))
  return (Char.ofNat code, rest)

/-- The character of an escape, of which the backslash is read. -/
def readEscape : Read Char
  | 'b' :: rest => some (Char.ofNat 8, rest)
  | 't' :: rest => some ('\t', rest)
  | 'n' :: rest => some ('\n', rest)
  | 'f' :: rest => some (Char.ofNat 12, rest)
  | 'r' :: rest => some ('\r', rest)
  | '"' :: rest => some ('"', rest)
  | '\\' :: rest => some ('\\', rest)
  | 'u' :: rest => readCodePoint 4 rest
  | 'U' :: rest => readCodePoint 8 rest
  | _ => none

/-- A step through a text: more characters, or the end of the text after some. -/
abbrev TextStep := Read (List Char × Bool)

def basicStep : TextStep
  | '"' :: rest => some (([], true), rest)
  | '\\' :: rest => (readEscape rest).map fun (c, rest) => (([c], false), rest)
  | c :: rest => if isPrintable c then some (([c], false), rest) else none
  | [] => none

def literalStep : TextStep
  | '\'' :: rest => some (([], true), rest)
  | c :: rest => if isPrintable c then some (([c], false), rest) else none
  | [] => none

/-- Three quotes end a text of several lines. Up to two more before them belong to the text. -/
def quotesStep (quote : Char) (chars : List Char) : Option ((List Char × Bool) × List Char) :=
  let count := min 5 (chars.takeWhile (· == quote)).length
  let rest := chars.drop count
  if count < 3 then some ((List.replicate count quote, false), rest)
  else some ((List.replicate (count - 3) quote, true), rest)

def blockStep (quote : Char) (chars : List Char) : Option ((List Char × Bool) × List Char) :=
  match chars with
  | [] => none
  | c :: rest =>
    if c = quote then quotesStep quote chars
    else match afterLineEnd? chars with
      | some rest => some (([ '\n'], false), rest)
      | none => if isPrintable c then some (([c], false), rest) else none

def literalBlockStep : TextStep := blockStep '\''

/-- A backslash at the end of a line joins the next line that is not blank. -/
def basicBlockStep : TextStep
  | '\\' :: rest =>
    match afterLineEnd? (skipSpace rest) with
    | some next => some (([], false), skipLines next.length next)
    | none => (readEscape rest).map fun (c, rest) => (([c], false), rest)
  | chars => blockStep '"' chars

/-- The characters of a text up to its end. The fuel bounds the number of steps. -/
def readSteps (step : TextStep) : Nat → Read (List Char)
  | 0, _ => none
  | fuel + 1, chars => do
    let ((cs, ended), rest) ← step chars
    if ended then return (cs, rest)
    let (more, rest) ← readSteps step fuel rest
    return (cs ++ more, rest)

def readTextWith (step : TextStep) (chars : List Char) : Option (String × List Char) :=
  (readSteps step (chars.length + 1) chars).map fun (cs, rest) => (String.ofList cs, rest)

/-- A text of several lines. A line end right after the opening quotes is not part of it. -/
def readBlockWith (step : TextStep) (chars : List Char) : Option (String × List Char) :=
  readTextWith step ((afterLineEnd? chars).getD chars)

/-! ### Numbers, dates and times -/

/-- Digits with single underscores between them. -/
def digitRun (isDigit : Char → Bool) : List Char → List Char × List Char
  | '_' :: c :: rest =>
    if isDigit c then
      let (digits, rest) := digitRun isDigit rest
      (c :: digits, rest)
    else ([], '_' :: c :: rest)
  | c :: rest =>
    if isDigit c then
      let (digits, rest) := digitRun isDigit rest
      (c :: digits, rest)
    else ([], c :: rest)
  | [] => ([], [])

def readDigitRun (isDigit : Char → Bool) (chars : List Char) :
    Option (List Char × List Char) :=
  if chars.head?.any isDigit then some (digitRun isDigit chars) else none

/-- A whole number in base ten does not start with a zero, unless it is zero. -/
def readWhole : Read (List Char)
  | '0' :: rest => some ([ '0'], rest)
  | chars => readDigitRun Char.isDigit chars

/-- Signed numbers of 64 bits. -/
def inRange (n : Int) : Bool := -(Word.signedBound : Int) ≤ n && n < Word.signedBound

def readDecimalInteger (chars : List Char) : Option (Json × List Char) := do
  let (negative, rest) := Numeral.splitSign chars
  let (digits, rest) ← readWhole rest
  let n : Int := Text.digitsValue digits
  let n := if negative then -n else n
  guard (inRange n)
  return (.integer n, rest)

/-- A number in a base that is a power of two. -/
def readBased (base : Nat) (isDigit : Char → Bool) (chars : List Char) :
    Option (Json × List Char) := do
  let (digits, rest) ← readDigitRun isDigit chars
  let values ← digits.mapM Json.hexDigit?
  let n := values.foldl (fun value digit => base * value + digit) 0
  guard (inRange n)
  return (.integer n, rest)

def readInteger : Read Json
  | '0' :: 'x' :: rest => readBased 16 (fun c => (Json.hexDigit? c).isSome) rest
  | '0' :: 'o' :: rest => readBased 8 (fun c => '0' ≤ c && c ≤ '7') rest
  | '0' :: 'b' :: rest => readBased 2 (fun c => c = '0' || c = '1') rest
  | chars => readDecimalInteger chars

/-- The power of ten of a float: zero unless there is an exponent. -/
def readExponent (chars : List Char) : Option (Option Int × List Char) :=
  match chars with
  | c :: rest =>
    if c = 'e' ∨ c = 'E' then do
      let (negative, rest) := Numeral.splitSign rest
      let (digits, rest) ← readDigitRun Char.isDigit rest
      let power : Int := Text.digitsValue digits
      return (some (if negative then -power else power), rest)
    else some (none, chars)
  | [] => some (none, [])

def readPoint : Read (Option (List Char))
  | '.' :: rest => (readDigitRun Char.isDigit rest).map fun (digits, rest) => (some digits, rest)
  | chars => some (none, chars)

/-- A float has a fraction or an exponent. One that is too large is refused, while one that is too
far below zero is infinite. -/
def readDecimalFloat (chars : List Char) : Option (Json × List Char) := do
  let (negative, rest) := Numeral.splitSign chars
  let (whole, rest) ← readWhole rest
  let (fraction, rest) ← readPoint rest
  let (power, rest) ← readExponent rest
  guard (fraction.isSome || power.isSome)
  let digits := Text.digitsValue (whole ++ fraction.getD [])
  let x := Binary64.ofDecimal negative digits (power.getD 0 - (fraction.getD []).length)
  guard (x != .infinite false)
  return (.float x, rest)

def readSpecialFloat (chars : List Char) : Option (Json × List Char) :=
  match Numeral.splitSign chars with
  | (negative, 'i' :: 'n' :: 'f' :: rest) => some (.float (.infinite negative), rest)
  | (_, 'n' :: 'a' :: 'n' :: rest) => some (.float .nan, rest)
  | _ => none

def readDate (chars : List Char) : Option (Date × List Char) := do
  let (year, rest) ← Calendar.readFixed 4 chars
  let (month, rest) ← Calendar.readFixed 2 (← Calendar.readMark [ '-'] rest)
  let (day, rest) ← Calendar.readFixed 2 (← Calendar.readMark [ '-'] rest)
  return (← Date.of? year month day, rest)

def readTime (chars : List Char) : Option (Time × List Char) := do
  let (hour, rest) ← Calendar.readFixed 2 chars
  let (minute, rest) ← Calendar.readFixed 2 (← Calendar.readMark [ ':'] rest)
  let (second, rest) ← Calendar.readFixed 2 (← Calendar.readMark [ ':'] rest)
  let (nanosecond, rest) ← Calendar.readFraction rest
  return (← Time.of? hour minute second nanosecond, rest)

/-- The text after an offset from universal time, if there is one here. -/
def skipOffset (chars : List Char) : List Char :=
  match chars with
  | 'Z' :: rest => rest
  | 'z' :: rest => rest
  | '−' :: _ => chars
  | _ => if Calendar.isOffset (chars.take 6) then chars.drop 6 else chars

/-- The text after a time that follows a date, if there is one. -/
def skipTimeOfDate (chars : List Char) : List Char :=
  match Calendar.readMark [ 'T', 't', ' '] chars with
  | some rest => match readTime rest with
    | some (_, rest) => skipOffset rest
    | none => chars
  | none => chars

/-- A date, a time or both. -/
def readMoment (chars : List Char) : Option (Json × List Char) :=
  let rest? : Option (List Char) := match readDate chars with
    | some (_, rest) => some (skipTimeOfDate rest)
    | none => (readTime chars).map Prod.snd
  rest?.map fun rest =>
    let text := String.ofList (chars.take (chars.length - rest.length))
    (.object [("datetime", .string text)], rest)

def readScalar (chars : List Char) : Option (Json × List Char) :=
  (readMoment chars).orElse fun _ => (readDecimalFloat chars).orElse fun _ =>
    (readSpecialFloat chars).orElse fun _ => readInteger chars

/-! ### Keys and values -/

def isBareKey (c : Char) : Bool := c.isAlphanum || c = '_' || c = '-'

def readSimpleKey : Read String
  | '"' :: rest => readTextWith basicStep rest
  | '\'' :: rest => readTextWith literalStep rest
  | chars =>
    let name := chars.takeWhile isBareKey
    if name.isEmpty then none else some (String.ofList name, chars.dropWhile isBareKey)

/-- A dotted key: the tables on the way, and the last name. The fuel bounds their number. -/
def readKeyParts : Nat → Read (List String × String)
  | 0, _ => none
  | fuel + 1, chars => do
    let (name, rest) ← readSimpleKey (skipSpace chars)
    match skipSpace rest with
    | '.' :: rest =>
      let ((path, last), rest) ← readKeyParts fuel rest
      return ((name :: path, last), rest)
    | rest => return (([], name), rest)

/-- A key has less than eighty parts. -/
def readKey : Read (List String × String) := readKeyParts 79

/-- The items of an array, which may end with a comma. The fuel bounds their number. -/
def readItems (item : Read Json) : Nat → Read (List Json)
  | 0, _ => none
  | fuel + 1, chars =>
    match skipBetween chars.length chars with
    | ']' :: rest => some ([], rest)
    | chars => do
      let (first, rest) ← item chars
      match skipBetween rest.length rest with
      | ',' :: rest =>
        let (more, rest) ← readItems item fuel rest
        return (first :: more, rest)
      | ']' :: rest => return ([first], rest)
      | _ => none

/-- A key, an equals sign and a value, added to the members. -/
def readAssignment (value : Read Json) (members : Members) (chars : List Char) :
    Option (Members × List Char) := do
  let ((path, name), rest) ← readKey chars
  match rest with
  | '=' :: rest =>
    let (json, rest) ← value (skipSpace rest)
    let members ← addDotted path name json members
    return (members, rest)
  | _ => none

/-- The members of an inline table after the opening brace. The fuel bounds their number. -/
def readInlineMembers (value : Read Json) : Nat → Members → Read Members
  | 0, _, _ => none
  | fuel + 1, members, chars => do
    let (members, rest) ← readAssignment value members chars
    match skipSpace rest with
    | ',' :: rest => readInlineMembers value fuel members rest
    | '\x7d' :: rest => return (members, rest)
    | _ => none

def readInlineTable (value : Read Json) (chars : List Char) : Option (Json × List Char) :=
  match skipSpace chars with
  | '\x7d' :: rest => some (.object [], rest)
  | rest => (readInlineMembers value (rest.length + 1) [] rest).map fun (members, rest) =>
    (.object (membersJson members), rest)

/-- A value with at most `depth` arrays and inline tables inside each other. -/
def readValue : Nat → Read Json
  | depth, chars =>
    match chars with
    | '"' :: '"' :: '"' :: rest =>
      (readBlockWith basicBlockStep rest).map fun (s, rest) => (.string s, rest)
    | '"' :: rest => (readTextWith basicStep rest).map fun (s, rest) => (.string s, rest)
    | '\'' :: '\'' :: '\'' :: rest =>
      (readBlockWith literalBlockStep rest).map fun (s, rest) => (.string s, rest)
    | '\'' :: rest => (readTextWith literalStep rest).map fun (s, rest) => (.string s, rest)
    | 't' :: 'r' :: 'u' :: 'e' :: rest => some (.bool true, rest)
    | 'f' :: 'a' :: 'l' :: 's' :: 'e' :: rest => some (.bool false, rest)
    | '[' :: rest =>
      match depth with
      | 0 => none
      | depth + 1 =>
        (readItems (readValue depth) (rest.length + 1) rest).map fun (items, rest) =>
          (.array items, rest)
    | '\x7b' :: rest =>
      match depth with
      | 0 => none
      | depth + 1 => readInlineTable (readValue depth) rest
    | _ => readScalar chars

/-- The deepest nesting of arrays and inline tables. -/
def deepest : Nat := 79

/-! ### Documents -/

/-- The members read so far, and the table that the last header opened. -/
structure Progress where
  members : Members := []
  path : List String := []

def readArrayHeader (p : Progress) (chars : List Char) : Option (Progress × List Char) := do
  let ((path, name), rest) ← readKey chars
  match rest with
  | ']' :: ']' :: rest =>
    let rest ← endLine? rest
    let members ← changeAt path (addTable name) p.members
    return (⟨members, path ++ [name]⟩, rest)
  | _ => none

def readTableHeader (p : Progress) (chars : List Char) : Option (Progress × List Char) := do
  let ((path, name), rest) ← readKey chars
  match rest with
  | ']' :: rest =>
    let rest ← endLine? rest
    let members ← changeAt path (openTable name) p.members
    return (⟨members, path ++ [name]⟩, rest)
  | _ => none

def readAssignmentLine (p : Progress) (chars : List Char) : Option (Progress × List Char) := do
  let ((path, name), rest) ← readKey chars
  match rest with
  | '=' :: rest =>
    let (json, rest) ← readValue deepest (skipSpace rest)
    let rest ← endLine? rest
    let members ← changeAt p.path (addDotted path name json) p.members
    return (⟨members, p.path⟩, rest)
  | _ => none

def readLine (p : Progress) (chars : List Char) : Option (Progress × List Char) :=
  match chars with
  | '[' :: '[' :: rest => readArrayHeader p rest
  | '[' :: rest => readTableHeader p rest
  | _ => match endLine? chars with
    | some rest => some (p, rest)
    | none => readAssignmentLine p chars

/-- The lines up to the end of the text. The fuel bounds their number. -/
def readLines : Nat → Progress → List Char → Option Members
  | 0, _, _ => none
  | fuel + 1, p, chars =>
    match skipSpace chars with
    | [] => some p.members
    | chars => (readLine p chars).bind fun (p, rest) => readLines fuel p rest

/-- Reads a document. A byte order mark in front is passed over. -/
def parse? (text : String) : Option Json :=
  let chars := match text.toList with
    | c :: rest => if c.toNat = 0xfeff then rest else c :: rest
    | [] => []
  (readLines (chars.length + 1) {} chars).map fun members => .object (membersJson members)

end SqlBuilder.Toml
