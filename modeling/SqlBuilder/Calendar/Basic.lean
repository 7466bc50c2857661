import SqlBuilder.Text.Basic

/-!
Dates and times of day, and the text that stands for them in a statement. A value of these types
exists only for a day of the calendar and for a time that a clock can show.
-/

namespace SqlBuilder

namespace Calendar

def isLeapYear (year : Int) : Bool :=
  year % 4 == 0 && (year % 100 != 0 || year % 400 == 0)

def daysIn (year : Int) : Nat → Nat
  | 2 => if isLeapYear year then 29 else 28
  | 4 => 30
  | 6 => 30
  | 9 => 30
  | 11 => 30
  | _ => 31

/-- The days that can be represented. -/
def isDay (year : Int) (month day : Nat) : Bool :=
  -262143 ≤ year && year ≤ 262142 && 1 ≤ month && month ≤ 12 && 1 ≤ day && day ≤ daysIn year month

/-- The times of day. Any minute may have a leap second. -/
def isTime (hour minute second nanosecond : Nat) : Bool :=
  hour < 24 && minute < 60 && second ≤ 60 && nanosecond < 1000000000

end Calendar

structure Date where
  year : Int
  month : Nat
  day : Nat
  valid : Calendar.isDay year month day = true
deriving DecidableEq

structure Time where
  hour : Nat
  minute : Nat
  second : Nat
  nanosecond : Nat
  valid : Calendar.isTime hour minute second nanosecond = true
deriving DecidableEq

def Date.of? (year : Int) (month day : Nat) : Option Date :=
  if h : Calendar.isDay year month day = true then some ⟨year, month, day, h⟩ else none

def Time.of? (hour minute second nanosecond : Nat) : Option Time :=
  if h : Calendar.isTime hour minute second nanosecond = true then
    some ⟨hour, minute, second, nanosecond, h⟩
  else none

/-- Years of four digits stand without a sign, all others with one. -/
def Date.yearText (date : Date) : String :=
  let digits := Text.padded 4 date.year.natAbs
  if date.year < 0 then "-" ++ digits else if 9999 < date.year then "+" ++ digits else digits

def Date.text (date : Date) : String :=
  date.yearText ++ "-" ++ Text.padded 2 date.month ++ "-" ++ Text.padded 2 date.day

/-- The time to the second. -/
def Time.text (time : Time) : String :=
  Text.padded 2 time.hour ++ ":" ++ Text.padded 2 time.minute ++ ":" ++ Text.padded 2 time.second

/-- The fraction of the second in three, six or nine digits, whichever suffice. -/
def Time.fractionText (time : Time) : String :=
  let n := time.nanosecond
  if n = 0 then ""
  else if n % 1000000 = 0 then "." ++ Text.padded 3 (n / 1000000)
  else if n % 1000 = 0 then "." ++ Text.padded 6 (n / 1000)
  else "." ++ Text.padded 9 n

end SqlBuilder
