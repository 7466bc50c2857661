import SqlBuilder.Number.Binary64

/-!
The shortest decimal that reads back as a given number. Of the decimals with the fewest digits the
one nearest to the number is taken.
-/

namespace SqlBuilder

/-- Which of two decimals at the same distance is taken. -/
inductive Tie where
  | up
  | even
deriving DecidableEq

/-- The decimal `digits * 10 ^ power`. -/
structure Decimal where
  digits : Nat
  power : Int
deriving Repr, DecidableEq

namespace Decimal

/-- Zeros at the end of the digits moved into the power. The fuel bounds the number of digits. -/
def trimZeros : Nat → Decimal → Decimal
  | 0, d => d
  | fuel + 1, d =>
    if d.digits ≠ 0 ∧ d.digits % 10 = 0 then trimZeros fuel ⟨d.digits / 10, d.power + 1⟩ else d

/-- The reals that round to a positive number, over a common denominator: the number itself, and
the ends of the interval. The ends belong to it when the mantissa is even. -/
structure Interval where
  low : Nat
  value : Nat
  high : Nat
  den : Nat
  closed : Bool

/-- Half a step to each side, and a quarter below a power of two, where the steps halve. -/
def Interval.of (mantissa : Nat) (exponent : Int) : Interval :=
  let below :=
    if mantissa = Binary64.leastNormal ∧ Binary64.leastExponent < exponent then 1 else 2
  let shift := exponent - 2
  let up := twoTo shift.toNat
  { low := (4 * mantissa - below) * up
    value := 4 * mantissa * up
    high := (4 * mantissa + 2) * up
    den := twoTo (-shift).toNat
    closed := mantissa % 2 = 0 }

/-- Whether `n * 10 ^ power` is in the interval. -/
def Interval.holds (i : Interval) (n : Nat) (power : Int) : Bool :=
  let x := n * tenTo power.toNat * i.den
  let one := tenTo (-power).toNat
  if i.closed then i.low * one ≤ x && x ≤ i.high * one else i.low * one < x && x < i.high * one

/-- The neighbours of the value among the multiples of `10 ^ power`: the nearer of those that the
interval holds. -/
def Interval.nearest? (i : Interval) (tie : Tie) (power : Int) : Option Nat :=
  let num := i.value * tenTo (-power).toNat
  let den := i.den * tenTo power.toNat
  let floor := num / den
  let twice := 2 * (num % den)
  match i.holds floor power && floor != 0, i.holds (floor + 1) power with
  | true, true =>
    let upward := den < twice || (twice == den && (tie == .up || floor % 2 == 1))
    some (if upward then floor + 1 else floor)
  | true, false => some floor
  | false, true => some (floor + 1)
  | false, false => none

/-- The place of the first digit: the value is below `10 ^ place` and not far below it. -/
def Interval.place (i : Interval) : Int :=
  if i.den ≤ i.value then (Nat.toDigits 10 (i.value / i.den)).length
  else 1 - ((Nat.toDigits 10 (i.den / i.value)).length : Int)

/-- Seventeen digits are always enough. -/
def shortest (tie : Tie) (mantissa : Nat) (exponent : Int) : Decimal :=
  let interval := Interval.of mantissa exponent
  let place := interval.place
  let found := (List.range 17).findSome? fun (more : Nat) =>
    let power := place - 1 - more
    (interval.nearest? tie power).map fun digits => (⟨digits, power⟩ : Decimal)
  trimZeros 20 (found.getD ⟨0, 0⟩)

end Decimal

end SqlBuilder
