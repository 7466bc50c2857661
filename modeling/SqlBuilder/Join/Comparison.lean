/-!
Telling an expression from a column name: an expression has a comparison in it.
-/

namespace SqlBuilder.Comparison

def isSpace (c : Char) : Bool := c = ' ' || c = '\t' || c = '\r' || c = '\n'

/-- The signs `=`, `<` and `>`, and `!` before an equals sign. -/
def startsSign : List Char → Bool
  | '!' :: '=' :: _ => true
  | c :: _ => c = '=' || c = '<' || c = '>'
  | [] => false

def words : List String := ["like", "between", "is", "in"]

/-- A letter in lower case. Beyond ASCII the Kelvin sign is the only one with an ASCII letter as its
lower case. -/
def lowered (c : Char) : Char := if c.toNat = 0x212a then 'k' else c.toLower

/-- The length of a text in bytes. -/
def byteCount : List Char → Nat
  | [] => 0
  | c :: rest => c.utf8Size + byteCount rest

/-- What follows the first bytes of a text, if a character ends there. -/
def dropBytes? : Nat → List Char → Option (List Char)
  | 0, chars => some chars
  | _ + 1, [] => none
  | count + 1, c :: rest =>
    if c.utf8Size ≤ count + 1 then dropBytes? (count + 1 - c.utf8Size) rest else none

/-- What a text starts with: no word, a word and what follows it, or a word that ends inside a
character. -/
inductive Start where
  | noWord
  | word (rest : List Char)
  | severed
deriving Repr, DecidableEq

/-- The letters of a word may have any case, and the word takes as many bytes as it has letters.
Where the text has the bytes, its letters may run out before those of the word. -/
def startOf (word : List Char) (chars : List Char) : Start :=
  if (chars.zip word).all (fun (c, letter) => lowered c == letter) &&
      word.length ≤ byteCount chars then
    match dropBytes? word.length chars with
    | some rest => .word rest
    | none => .severed
  else .noWord

/-- The first of the words that the text starts with. -/
def startOfAny (chars : List Char) : List String → Start
  | [] => .noWord
  | word :: others =>
    match startOf word.toList chars with
    | .noWord => startOfAny chars others
    | start => start

/-- Whether a text has a comparison. It cannot be told of a text with a severed word. -/
inductive Finding where
  | present
  | absent
  | severed
deriving Repr, DecidableEq

/-- A word with space on both sides, at the start of a text. -/
def findWord (chars : List Char) : Finding :=
  if chars.head?.any isSpace then
    match startOfAny (chars.dropWhile isSpace) words with
    | .word rest => if rest.head?.any isSpace then .present else .absent
    | .noWord => .absent
    | .severed => .severed
  else .absent

/-- The first comparison that starts anywhere in the text, or severed word before it. -/
def find : List Char → Finding
  | [] => .absent
  | c :: rest =>
    if startsSign (c :: rest) then .present
    else match findWord (c :: rest) with
      | .absent => find rest
      | finding => finding

end SqlBuilder.Comparison
