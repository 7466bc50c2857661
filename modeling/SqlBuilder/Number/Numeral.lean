import SqlBuilder.Number.Binary64
import SqlBuilder.Text.Basic

/-!
Decimal numerals: an optional sign, digits with an optional point, and an optional power of ten.
There is at least one digit before or after the point.
-/

namespace SqlBuilder

namespace Numeral

/-- The sign in front, if there is one, and what follows it. -/
def splitSign : List Char → Bool × List Char
  | '-' :: rest => (true, rest)
  | '+' :: rest => (false, rest)
  | chars => (false, chars)

def splitDigits (chars : List Char) : List Char × List Char :=
  (chars.takeWhile Char.isDigit, chars.dropWhile Char.isDigit)

/-- The digits after a point, and what follows them. -/
def splitFraction : List Char → List Char × List Char
  | '.' :: rest => splitDigits rest
  | chars => ([], chars)

/-- The power of ten that ends a numeral. -/
def power? : List Char → Option Int
  | [] => some 0
  | c :: rest =>
    if c = 'e' ∨ c = 'E' then
      let (negative, digits) := splitSign rest
      (Text.natural? digits).map fun n => if negative then -(n : Int) else n
    else none

/-- The number that an unsigned numeral writes. -/
def magnitude? (negative : Bool) (chars : List Char) : Option Binary64 :=
  let (whole, rest) := splitDigits chars
  let (fraction, rest) := splitFraction rest
  if whole.isEmpty && fraction.isEmpty then none
  else (power? rest).map fun power =>
    .ofDecimal negative (Text.digitsValue (whole ++ fraction)) (power - fraction.length)

/-- The words for what is not a finite number, in any case of letters. -/
def special? (negative : Bool) (chars : List Char) : Option Binary64 :=
  match String.ofList (chars.map Char.toLower) with
  | "nan" => some .nan
  | "inf" => some (.infinite negative)
  | "infinity" => some (.infinite negative)
  | _ => none

end Numeral

/-- Reads a numeral, rounding to the nearest number. -/
def Binary64.ofText? (text : String) : Option Binary64 :=
  let (negative, chars) := Numeral.splitSign text.toList
  (Numeral.magnitude? negative chars).orElse fun _ => Numeral.special? negative chars

end SqlBuilder
