import PeerCache.Text.Utf8

/-! # The xxHash32 checksum

The 32-bit xxHash of a byte string with seed zero. Sixteen bytes at a time feed four lanes, the
lanes are merged, and the remaining bytes are mixed in by words and then singly. Every step recurses
on the bytes themselves, so the function is total and can be evaluated in proofs.
-/

namespace PeerCache

/-- A checksum that places peers and keys on the ring. -/
abbrev Hasher := Bytes → UInt32

namespace XxHash32

/-- The five odd multipliers of the algorithm. -/
def prime1 : UInt32 := 0x9E3779B1
@[inherit_doc prime1] def prime2 : UInt32 := 0x85EBCA77
@[inherit_doc prime1] def prime3 : UInt32 := 0xC2B2AE3D
@[inherit_doc prime1] def prime4 : UInt32 := 0x27D4EB2F
@[inherit_doc prime1] def prime5 : UInt32 := 0x165667B1

/-- Rotation to the left, for amounts between 1 and 31. -/
def rotateLeft (word amount : UInt32) : UInt32 := word <<< amount ||| word >>> (32 - amount)

/-- Four bytes as a word, least significant byte first. -/
def word (b₀ b₁ b₂ b₃ : UInt8) : UInt32 :=
  b₀.toUInt32 ||| b₁.toUInt32 <<< 8 ||| b₂.toUInt32 <<< 16 ||| b₃.toUInt32 <<< 24

/-- One lane takes in one word. -/
def round (lane input : UInt32) : UInt32 := rotateLeft (lane + input * prime2) 13 * prime1

/-- The four running sums over blocks of sixteen bytes. -/
structure Lanes where
  first : UInt32
  second : UInt32
  third : UInt32
  fourth : UInt32
deriving DecidableEq, Repr

/-- The lanes before any input. -/
def Lanes.start : Lanes := ⟨prime1 + prime2, prime2, 0, 0 - prime1⟩

/-- The lanes folded into one word. -/
def Lanes.merge (lanes : Lanes) : UInt32 :=
  rotateLeft lanes.first 1 + rotateLeft lanes.second 7 + rotateLeft lanes.third 12
    + rotateLeft lanes.fourth 18

/-- The lanes after all whole blocks, and the fewer than sixteen bytes left over. -/
def absorb (lanes : Lanes) : Bytes → Lanes × Bytes
  | a₀ :: a₁ :: a₂ :: a₃ :: b₀ :: b₁ :: b₂ :: b₃ :: c₀ :: c₁ :: c₂ :: c₃ :: d₀ :: d₁ :: d₂ :: d₃
      :: rest =>
    absorb
      { first := round lanes.first (word a₀ a₁ a₂ a₃)
        second := round lanes.second (word b₀ b₁ b₂ b₃)
        third := round lanes.third (word c₀ c₁ c₂ c₃)
        fourth := round lanes.fourth (word d₀ d₁ d₂ d₃) } rest
  | rest => (lanes, rest)

/-- The bytes left over are mixed in by words, then singly. -/
def absorbTail (sum : UInt32) : Bytes → UInt32
  | b₀ :: b₁ :: b₂ :: b₃ :: rest =>
    absorbTail (rotateLeft (sum + word b₀ b₁ b₂ b₃ * prime3) 17 * prime4) rest
  | byte :: rest => absorbTail (rotateLeft (sum + byte.toUInt32 * prime5) 11 * prime1) rest
  | [] => sum

/-- The closing mix spreads every input bit over the whole word. -/
def avalanche (sum : UInt32) : UInt32 :=
  let sum := (sum ^^^ sum >>> 15) * prime2
  let sum := (sum ^^^ sum >>> 13) * prime3
  sum ^^^ sum >>> 16

end XxHash32

open XxHash32 in
/-- The 32-bit xxHash of a byte string, with seed zero. -/
def xxHash32 : Hasher := fun bytes =>
  let (lanes, rest) := absorb Lanes.start bytes
  let start := if bytes.length < 16 then prime5 else lanes.merge
  avalanche (absorbTail (start + UInt32.ofNat bytes.length) rest)

end PeerCache
