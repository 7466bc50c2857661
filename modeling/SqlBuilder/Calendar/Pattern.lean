import SqlBuilder.Calendar.Basic

/-!
Patterns for written dates and times. A number may have blanks before it; the year has up to four
digits, or a sign and any number of digits; the other numbers have one or two digits.
-/

namespace SqlBuilder.Calendar

/-- One part of a pattern. `gap` stands for any blanks or none, `fraction` for an optional decimal
fraction of the second. -/
inductive Part where
  | year
  | month
  | day
  | hour
  | minute
  | second
  | fraction
  | gap
  | mark (c : Char)
deriving DecidableEq

/-- The parts of a date and time as they were written. -/
structure Fields where
  year : Int := 0
  month : Nat := 0
  day : Nat := 0
  hour : Nat := 0
  minute : Nat := 0
  second : Nat := 0
  nanosecond : Nat := 0

def Fields.date? (f : Fields) : Option Date := Date.of? f.year f.month f.day

def Fields.time? (f : Fields) : Option Time := Time.of? f.hour f.minute f.second f.nanosecond

/-- At least one digit and at most `most`. -/
def readDigits (most : Nat) (chars : List Char) : Option (Nat × List Char) :=
  let digits := (chars.take most).takeWhile Char.isDigit
  if digits.isEmpty then none else some (Text.digitsValue digits, chars.drop digits.length)

def readNumber (chars : List Char) : Option (Nat × List Char) :=
  readDigits 2 (Text.trimStart chars)

def readYear (chars : List Char) : Option (Int × List Char) :=
  match Text.trimStart chars with
  | '-' :: rest => (readDigits rest.length rest).map fun (n, rest) => (-(n : Int), rest)
  | '+' :: rest => (readDigits rest.length rest).map fun (n, rest) => ((n : Int), rest)
  | chars => (readDigits 4 chars).map fun (n, rest) => ((n : Int), rest)

/-- Nine digits of a fraction count, further ones are passed over. -/
def readFraction : List Char → Option (Nat × List Char)
  | '.' :: rest =>
    let digits := rest.takeWhile Char.isDigit
    if digits.isEmpty then none
    else
      let kept := digits.take 9
      some (Text.digitsValue kept * tenTo (9 - kept.length), rest.drop digits.length)
  | chars => some (0, chars)

def Part.read (part : Part) (f : Fields) (chars : List Char) : Option (Fields × List Char) :=
  match part with
  | year => (readYear chars).map fun (n, rest) => ({ f with year := n }, rest)
  | month => (readNumber chars).map fun (n, rest) => ({ f with month := n }, rest)
  | day => (readNumber chars).map fun (n, rest) => ({ f with day := n }, rest)
  | hour => (readNumber chars).map fun (n, rest) => ({ f with hour := n }, rest)
  | minute => (readNumber chars).map fun (n, rest) => ({ f with minute := n }, rest)
  | second => (readNumber chars).map fun (n, rest) => ({ f with second := n }, rest)
  | fraction => (readFraction chars).map fun (n, rest) => ({ f with nanosecond := n }, rest)
  | gap => some (f, Text.trimStart chars)
  | mark c => match chars with
    | c' :: rest => if c = c' then some (f, rest) else none
    | [] => none

abbrev Pattern := List Part

/-- The parts in order, up to the end of the text. -/
def Pattern.read? : Pattern → Fields → List Char → Option Fields
  | [], f, chars => if chars.isEmpty then some f else none
  | part :: rest, f, chars => (part.read f chars).bind fun (f, chars) => read? rest f chars

def yearMonthDay : Pattern := [.year, .mark '-', .month, .mark '-', .day]

def dayMonthYear : Pattern := [.day, .mark '/', .month, .mark '/', .year]

def toTheMinute : Pattern := [.hour, .mark ':', .minute]

def toTheSecond : Pattern := toTheMinute ++ [.mark ':', .second]

def toTheFraction : Pattern := toTheSecond ++ [.fraction]

def date? (pattern : Pattern) (text : String) : Option Date :=
  (pattern.read? {} text.toList).bind Fields.date?

def time? (pattern : Pattern) (text : String) : Option Time :=
  (pattern.read? {} text.toList).bind Fields.time?

def dateTime? (pattern : Pattern) (text : String) : Option (Date × Time) := do
  let f ← pattern.read? {} text.toList
  return (← f.date?, ← f.time?)

end SqlBuilder.Calendar
