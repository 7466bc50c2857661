/-!
The bounds of whole numbers of 64 bits, and powers.
-/

namespace SqlBuilder

/-- Unsigned numbers of 64 bits are below this. -/
def Word.bound : Nat := 18446744073709551616

/-- Signed numbers of 64 bits are below this, and not below its negative. -/
def Word.signedBound : Nat := 9223372036854775808

def twoTo (n : Nat) : Nat := Nat.pow 2 n

def tenTo (n : Nat) : Nat := Nat.pow 10 n

end SqlBuilder
