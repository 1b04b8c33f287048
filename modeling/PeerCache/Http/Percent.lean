import PeerCache.Text.Hex

/-! # Percent escapes

A byte that may not stand for itself is written as a percent sign and two hexadecimal digits.
Reading is lenient: a percent sign without two digits after it stands for itself.
-/

namespace PeerCache.Percent

/-- The ASCII letters and digits and the four marks that are never escaped. -/
def isUnreserved (byte : UInt8) : Bool :=
  (48 ≤ byte && byte ≤ 57) || (65 ≤ byte && byte ≤ 90) || (97 ≤ byte && byte ≤ 122)
    || byte == 45 || byte == 46 || byte == 95 || byte == 126

/-- The percent sign and the upper-case digits of a byte. -/
def escape (byte : UInt8) : List Char :=
  ['%', Hex.upperDigit (byte.toNat / 16), Hex.upperDigit (byte.toNat % 16)]

/-- The written form of one byte. -/
def encodeByte (byte : UInt8) : List Char :=
  if isUnreserved byte then [Char.ofNat byte.toNat] else escape byte

/-- A text with every byte escaped that is not unreserved. -/
def encode (text : String) : String := String.ofList ((Bytes.ofText text).flatMap encodeByte)

/-- The byte that two digits stand for, if both are digits. -/
def byte? (high low : UInt8) : Option UInt8 := do
  return UInt8.ofNat (16 * (← Hex.value? high.toNat) + (← Hex.value? low.toNat))

/-- The bytes of a written form. Anything that is no escape stands for itself. -/
def decode : Bytes → Bytes
  | mark :: high :: low :: rest =>
    match if mark = 37 then byte? high low else none with
    | some byte => byte :: decode rest
    | none => mark :: decode (high :: low :: rest)
  | byte :: rest => byte :: decode rest
  | [] => []

end PeerCache.Percent
