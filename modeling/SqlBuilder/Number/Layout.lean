import SqlBuilder.Number.Shortest

/-!
How the digits of a number are laid out as text.
-/

namespace SqlBuilder

/-- The exponents of the first digit that are written positionally, what follows a whole number,
and how an exponent is written. -/
structure Layout where
  positional : Int → Bool
  wholeEnd : String
  plusSign : Bool
  tie : Tie

namespace Layout

/-- Never an exponent, and nothing after a whole number. -/
def plain : Layout := ⟨fun _ => true, "", false, .up⟩

/-- As in JSON text: an exponent below `1e-5` and from `1e16` on, always with its sign. -/
def json : Layout := ⟨fun e => -5 ≤ e && e < 16, ".0", true, .even⟩

/-- As in descriptions of values: an exponent below `1e-4` and from `1e16` on. -/
def described : Layout := ⟨fun e => -4 ≤ e && e < 16, ".0", false, .up⟩

def zeros (n : Nat) : String := String.ofList (List.replicate n '0')

def digitsText (n : Nat) : String := String.ofList (Nat.toDigits 10 n)

/-- The digits in place: zeros fill the gap to the point on either side. -/
def positionalText (layout : Layout) (d : Decimal) : String :=
  let digits := Nat.toDigits 10 d.digits
  let place := (digits.length : Int) + d.power
  if 0 ≤ d.power then digitsText d.digits ++ zeros d.power.toNat ++ layout.wholeEnd
  else if 0 < place then
    String.ofList (digits.take place.toNat) ++ "." ++ String.ofList (digits.drop place.toNat)
  else "0." ++ zeros (-place).toNat ++ digitsText d.digits

/-- One digit before the point, and the exponent after an `e`. -/
def exponentText (layout : Layout) (d : Decimal) (exponent : Int) : String :=
  let digits := Nat.toDigits 10 d.digits
  let fraction := String.ofList (digits.drop 1)
  let sign := if exponent < 0 then "-" else if layout.plusSign then "+" else ""
  String.ofList (digits.take 1) ++ (if fraction.isEmpty then "" else "." ++ fraction) ++
    "e" ++ sign ++ digitsText exponent.natAbs

def magnitudeText (layout : Layout) (mantissa : Nat) (exponent : Int) : String :=
  if mantissa = 0 then "0" ++ layout.wholeEnd
  else
    let d := Decimal.shortest layout.tie mantissa exponent
    let first := ((Nat.toDigits 10 d.digits).length : Int) + d.power - 1
    if layout.positional first then layout.positionalText d else layout.exponentText d first

end Layout

/-- The number as text. -/
def Binary64.text (layout : Layout) : Binary64 → String
  | nan => "NaN"
  | infinite negative => if negative then "-inf" else "inf"
  | finite negative mantissa exponent =>
    (if negative then "-" else "") ++ layout.magnitudeText mantissa exponent

end SqlBuilder
