import SqlBuilder.Number.Word

/-!
Binary floating point numbers of 64 bits, held exactly. Every operation works out the exact
result as a ratio and rounds it once, to the nearest number and at a tie to the even one.
-/

namespace SqlBuilder

/-- A finite number is `mantissa * 2 ^ exponent`, up to its sign. -/
inductive Binary64 where
  | nan
  | infinite (negative : Bool)
  | finite (negative : Bool) (mantissa : Nat) (exponent : Int)
deriving Repr, DecidableEq

namespace Binary64

/-- Mantissas have 53 bits. -/
def mantissaBound : Nat := 9007199254740992

/-- Mantissas below this have the least exponent. -/
def leastNormal : Nat := 4503599627370496

def leastExponent : Int := -1074

def greatestExponent : Int := 971

/-- The quotient to the nearest whole number, a tie to the even one. -/
def divideToEven (num den : Nat) : Nat :=
  let quotient := num / den
  let twice := 2 * (num % den)
  if twice < den then quotient
  else if den < twice then quotient + 1
  else quotient + quotient % 2

/-- `num / den / 2 ^ exponent` as a ratio of natural numbers. -/
def scaled (num den : Nat) (exponent : Int) : Nat × Nat :=
  if 0 ≤ exponent then (num, den * twoTo exponent.toNat) else (num * twoTo (-exponent).toNat, den)

/-- The exponent at which the whole part of the ratio has as many bits as a mantissa may. -/
def exponentOf (num den : Nat) : Int :=
  let guess : Int := (num.log2 : Int) - (den.log2 : Int) - 52
  let (n, d) := scaled num den guess
  let exponent := if n / d < leastNormal then guess - 1 else guess
  max exponent leastExponent

/-- The number nearest to `num / den`. -/
def ofRatio (negative : Bool) (num den : Nat) : Binary64 :=
  if num = 0 then finite negative 0 leastExponent
  else
    let exponent := exponentOf num den
    let (n, d) := scaled num den exponent
    let mantissa := divideToEven n d
    let (mantissa, exponent) :=
      if mantissa = mantissaBound then (leastNormal, exponent + 1)
      else (mantissa, exponent)
    if greatestExponent < exponent then infinite negative else finite negative mantissa exponent

def ofNat (n : Nat) : Binary64 := ofRatio false n 1

def ofInt (n : Int) : Binary64 := ofRatio (n < 0) n.natAbs 1

def negate : Binary64 → Binary64
  | nan => nan
  | infinite negative => infinite !negative
  | finite negative mantissa exponent => finite (!negative) mantissa exponent

/-- The number nearest to `digits * 10 ^ power`. Powers far outside the range are answered without
being worked out. -/
def ofDecimal (negative : Bool) (digits : Nat) (power : Int) : Binary64 :=
  let size := (Nat.toDigits 10 digits).length
  if digits = 0 then finite negative 0 leastExponent
  else if 400 < size + power then infinite negative
  else if size + power < -400 then finite negative 0 leastExponent
  else if 0 ≤ power then ofRatio negative (digits * tenTo power.toNat) 1
  else ofRatio negative digits (tenTo (-power).toNat)

def isFinite : Binary64 → Bool
  | finite .. => true
  | _ => false

def isZero : Binary64 → Bool
  | finite _ mantissa _ => mantissa == 0
  | _ => false

/-- The product of the magnitude of a finite number with `10 ^ power`, where the power of ten is
itself rounded first. -/
def timesPower (x : Binary64) (power : Nat) : Binary64 :=
  match x, ofDecimal false 1 power with
  | finite negative m e, finite _ m' e' =>
    let (n, d) := scaled (m * m') 1 (-(e + e'))
    ofRatio negative n d
  | _, y => y

/-- The quotient by `10 ^ power`, where the power of ten is itself rounded first. -/
def overPower (x : Binary64) (power : Nat) : Binary64 :=
  match x, ofDecimal false 1 power with
  | finite negative m e, finite _ m' e' =>
    let (n, d) := scaled m m' (-(e - e'))
    ofRatio negative n d
  | x, _ => x

end Binary64

end SqlBuilder
