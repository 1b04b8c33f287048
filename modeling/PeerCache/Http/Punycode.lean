/-! # Punycode

The ASCII form of a name with other letters. Digits of base 36 tell, delta by delta, which character
is inserted next and where. Only the passage from the ASCII form to the name is needed here, and
only to see whether there is such a name.
-/

namespace PeerCache.Punycode

/-- The value of a digit: letters in either case, then the ten digits. -/
def digit? (char : Char) : Option Nat :=
  let code := char.toNat
  if 97 ≤ code && code ≤ 122 then some (code - 97)
  else if 65 ≤ code && code ≤ 90 then some (code - 65)
  else if 48 ≤ code && code ≤ 57 then some (code - 22)
  else none

/-- What has been read so far. The position of the next digit of a delta is counted in steps of the
base. -/
structure Reader where
  /-- The characters found so far. -/
  name : List Char
  /-- The code of the character that was inserted last. -/
  code : Nat := 128
  /-- Where the next character is inserted, as far as the delta has been read. -/
  index : Nat := 0
  /-- The index before the delta. -/
  start : Nat := 0
  bias : Nat := 72
  /-- The weight of the next digit. -/
  weight : Nat := 1
  position : Nat := 36
deriving DecidableEq, Repr

namespace Reader

/-- Below this value, a digit is the last one of its delta. -/
def threshold (reader : Reader) : Nat := min 26 (max 1 (reader.position - reader.bias))

/-- Divide a delta down to the range in which it counts as small. Answers what is left and by how
much the bias grows. -/
def shrink (delta growth : Nat) : Nat × Nat :=
  if 455 < delta then shrink (delta / 35) (growth + 36) else (delta, growth)
termination_by delta
decreasing_by omega

/-- The bias after a delta that was read for a name of this length. -/
def adapt (delta length : Nat) (isFirst : Bool) : Nat :=
  let damped := if isFirst then delta / 700 else delta / 2
  let (left, growth) := shrink (damped + damped / length) 0
  growth + 36 * left / (left + 38)

/-- Insert the character that a delta stands for, if there is one of that code. -/
def insert? (reader : Reader) : Option Reader :=
  let length := reader.name.length + 1
  let code := reader.code + reader.index / length
  let place := reader.index % length
  if code.isValidChar then
    some {
      name := reader.name.insertIdx place (Char.ofNat code)
      code
      index := place + 1
      start := place + 1
      bias := adapt (reader.index - reader.start) length (reader.start == 0) }
  else none

/-- Whether the numbers of a reader fit into words of 32 bits, as those of a proper form do. -/
def fits (reader : Reader) : Bool := reader.index < UInt32.size && reader.weight < UInt32.size

/-- Read one digit. -/
def feed? (reader : Reader) (char : Char) : Option Reader := do
  let digit ← digit? char
  let grown := { reader with index := reader.index + digit * reader.weight }
  if digit < reader.threshold then
    if grown.fits then grown.insert? else none
  else
    let grown := { grown with
      weight := reader.weight * (36 - reader.threshold)
      position := reader.position + 36 }
    if grown.fits then some grown else none

/-- The name, unless a delta is incomplete. -/
def finish? (reader : Reader) : Option (List Char) :=
  if reader.position = 36 then some reader.name else none

end Reader

/-- The ASCII letters of a name, which stand in front of the last hyphen, and the digits behind it.
Without letters there is no hyphen either. -/
def lettersAndDigits (text : List Char) : List Char × List Char :=
  let digits := (text.reverse.takeWhile (· != '-')).reverse
  let letters := text.take (text.length - digits.length - 1)
  if letters.isEmpty then ([], text) else (letters, digits)

/-- The name of an ASCII form. -/
def decode? (text : List Char) : Option (List Char) := do
  let (letters, digits) := lettersAndDigits text
  if letters.any fun letter => 128 ≤ letter.toNat then none
  else (← digits.foldlM Reader.feed? { name := letters }).finish?

end PeerCache.Punycode
