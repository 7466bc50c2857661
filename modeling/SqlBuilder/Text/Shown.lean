import SqlBuilder.Text.Basic
import SqlBuilder.Text.Category
import SqlBuilder.Text.Unassigned

/-!
A text shown between double quotes, with escapes for what cannot be seen.
-/

namespace SqlBuilder.Text

/-- The letters of Hangul that only fill a place. -/
def fillers : List Nat := [0x115f, 0x1160, 0x3164, 0xffa0]

def isControl (c : Char) : Bool := c.toNat < 0x20 || (0x7f ≤ c.toNat && c.toNat < 0xa0)

/-- Characters that are left to private agreement. -/
def isPrivate (c : Char) : Bool :=
  (0xe000 ≤ c.toNat && c.toNat ≤ 0xf8ff) || 0xf0000 ≤ c.toNat

/-- What shows nothing by itself: controls, format characters, separators other than the space,
fillers, what is private or not assigned, and marks, which would join the character before
them. -/
def isHidden (c : Char) : Bool :=
  isControl c || (isBlank c && c != ' ') || isFormat c || isMark c || isExtender c ||
    fillers.contains c.toNat || isPrivate c || isUnassigned c

def shownChar (c : Char) : String :=
  if c = '"' then "\\\""
  else if c = '\\' then "\\\\"
  else if c = '\n' then "\\n"
  else if c = '\r' then "\\r"
  else if c = '\t' then "\\t"
  else if c.toNat = 0 then "\\0"
  else if isHidden c then
    "\\u\x7b" ++ String.ofList (Nat.toDigits 16 c.toNat) ++ "\x7d"
  else c.toString

def shown (text : String) : String :=
  "\"" ++ String.join (text.toList.map shownChar) ++ "\""

end SqlBuilder.Text
