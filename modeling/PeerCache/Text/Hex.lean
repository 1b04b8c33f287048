import PeerCache.Text.Utf8

/-! # Hexadecimal digits

Bytes are written two digits to the byte. Escapes in paths use upper-case digits, dumps of values
lower-case ones, and both are read without regard to case.
-/

namespace PeerCache

namespace Hex

/-- The lower-case digit of a value below sixteen. -/
def lowerDigit (value : Nat) : Char :=
  if value < 10 then Char.ofNat (48 + value) else Char.ofNat (87 + value)

/-- The upper-case digit of a value below sixteen. -/
def upperDigit (value : Nat) : Char :=
  if value < 10 then Char.ofNat (48 + value) else Char.ofNat (55 + value)

/-- The value of a digit in either case, given by its ASCII code. -/
def value? (code : Nat) : Option Nat :=
  if 48 ≤ code ∧ code ≤ 57 then some (code - 48)
  else if 65 ≤ code ∧ code ≤ 70 then some (code - 55)
  else if 97 ≤ code ∧ code ≤ 102 then some (code - 87)
  else none

end Hex

namespace Bytes

/-- The lower-case hexadecimal form, two digits to the byte. -/
def toHex (bytes : Bytes) : String :=
  String.ofList (bytes.flatMap fun byte =>
    [Hex.lowerDigit (byte.toNat / 16), Hex.lowerDigit (byte.toNat % 16)])

/-- Pairs of digits as bytes. -/
def ofHexDigits? : List Char → Option Bytes
  | [] => some []
  | high :: low :: rest => do
    let highValue ← Hex.value? high.toNat
    let lowValue ← Hex.value? low.toNat
    let bytes ← ofHexDigits? rest
    return UInt8.ofNat (16 * highValue + lowValue) :: bytes
  | [_] => none

/-- The bytes of a hexadecimal form. -/
def ofHex? (text : String) : Option Bytes := ofHexDigits? text.toList

end Bytes

end PeerCache
