import SqlBuilder.Calendar.Pattern

/-!
Texts that name a day, a time of day or a moment.
-/

namespace SqlBuilder.Calendar

/-- Exactly `count` digits. -/
def readFixed (count : Nat) (chars : List Char) : Option (Nat × List Char) :=
  let digits := chars.take count
  if digits.length = count ∧ digits.all Char.isDigit then
    some (Text.digitsValue digits, chars.drop count)
  else none

def readMark (marks : List Char) : List Char → Option (List Char)
  | c :: rest => if marks.contains c then some rest else none
  | [] => none

/-- The distance from universal time that ends an internet timestamp: `Z`, or a sign, hours and
minutes. The minus sign may be the mathematical one. -/
def isOffset (chars : List Char) : Bool :=
  match chars with
  | ['Z'] => true
  | ['z'] => true
  | sign :: rest =>
    [ '+', '-', '−'].contains sign &&
      match readFixed 2 rest with
      | some (hours, ':' :: rest) =>
        match readFixed 2 rest with
        | some (minutes, []) => hours < 24 && minutes < 60
        | _ => false
      | _ => false
  | [] => false

/-- An internet timestamp: every number has its full width. -/
def timestamp? (chars : List Char) : Option (Date × Time) := do
  let (year, rest) ← readFixed 4 chars
  let (month, rest) ← readFixed 2 (← readMark [ '-'] rest)
  let (day, rest) ← readFixed 2 (← readMark [ '-'] rest)
  let (hour, rest) ← readFixed 2 (← readMark [ 'T', 't', ' '] rest)
  let (minute, rest) ← readFixed 2 (← readMark [ ':'] rest)
  let (second, rest) ← readFixed 2 (← readMark [ ':'] rest)
  let (nanosecond, rest) ← readFraction rest
  guard (isOffset rest)
  return (← Date.of? year month day, ← Time.of? hour minute second nanosecond)

/-- The ways to write a moment without an offset. -/
def momentPatterns : List Pattern :=
  [ yearMonthDay ++ [ .gap] ++ toTheSecond,
    yearMonthDay ++ [ .gap] ++ toTheFraction,
    yearMonthDay ++ [ .mark 'T'] ++ toTheSecond,
    yearMonthDay ++ [ .mark 'T'] ++ toTheFraction,
    yearMonthDay ++ [ .gap] ++ toTheMinute ]

def datePatterns : List Pattern := [yearMonthDay, dayMonthYear]

def timePatterns : List Pattern := [toTheSecond, toTheFraction, toTheMinute]

/-- Whether the text names a day, a time or a moment in one of the accepted ways. -/
def isMoment (text : String) : Bool :=
  (timestamp? text.toList).isSome ||
    momentPatterns.any (fun pattern => (dateTime? pattern text).isSome) ||
    datePatterns.any (fun pattern => (date? pattern text).isSome) ||
    timePatterns.any (fun pattern => (time? pattern text).isSome)

end SqlBuilder.Calendar
