import PeerCache.Hash.XxHash32

/-! # Named checksums

A ring may be laid out by any checksum, as long as all nodes use the same one. Besides xxHash32 this
module has the CRC that other caches commonly use, and a few deliberately colliding ones, on which
the behaviour of a ring with shared positions can be observed.
-/

namespace PeerCache

namespace Crc32

/-- One bit of the reflected division by the IEEE polynomial. -/
def shift (remainder : UInt32) : UInt32 :=
  if remainder &&& 1 = 1 then remainder >>> 1 ^^^ 0xEDB88320 else remainder >>> 1

/-- One byte of the division. -/
def feed (remainder : UInt32) (byte : UInt8) : UInt32 :=
  Nat.repeat shift 8 (remainder ^^^ byte.toUInt32)

end Crc32

/-- The CRC-32 of IEEE 802.3. -/
def crc32 : Hasher := fun bytes => bytes.foldl Crc32.feed 0xFFFFFFFF ^^^ 0xFFFFFFFF

/-- The value of the ASCII digits among some bytes, modulo 2³². -/
def decimalValue : Hasher :=
  List.foldl
    (fun value byte =>
      if 48 ≤ byte && byte ≤ 57 then value * 10 + (byte - 48).toUInt32 else value)
    0

/-- A checksum chosen by name. -/
inductive Checksum where
  /-- The default of every ring. -/
  | xxHash32
  /-- The same position for all bytes. -/
  | constant (position : Nat)
  /-- The number of bytes. -/
  | length
  /-- The default, reduced to few positions. -/
  | remainder (modulus : Nat)
  /-- The digits read as a number. -/
  | decimal
  /-- The cyclic redundancy check of IEEE 802.3. -/
  | crc32
deriving DecidableEq, Repr

/-- The function behind a name. -/
def Checksum.hasher : Checksum → Hasher
  | .xxHash32 => PeerCache.xxHash32
  | .constant position => fun _ => UInt32.ofNat position
  | .length => fun bytes => UInt32.ofNat bytes.length
  | .remainder modulus => fun bytes => UInt32.ofNat ((PeerCache.xxHash32 bytes).toNat % modulus)
  | .decimal => decimalValue
  | .crc32 => PeerCache.crc32

end PeerCache
