/-! # Decimal numbers

Numbers written in ASCII digits, without a sign and within a bound.
-/

namespace PeerCache.Decimal

/-- The number that digits write. No digits write zero. -/
def value (digits : List Char) : Nat :=
  digits.foldl (fun value digit => 10 * value + (digit.toNat - 48)) 0

/-- The number that a text writes, if it is one below a bound. -/
def below? (bound : Nat) (text : List Char) : Option Nat :=
  if !text.isEmpty && text.all Char.isDigit && value text < bound then some (value text) else none

end PeerCache.Decimal
