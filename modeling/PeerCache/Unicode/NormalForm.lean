import PeerCache.Unicode.CombiningClass
import PeerCache.Unicode.Composites

/-! # The composed normal form

Texts that look the same can be written in more than one way. Their normal form is found by taking
all composite characters apart, putting the marks on a character into the order of their classes,
and composing again what can be composed.
-/

namespace PeerCache.Unicode

/-! ## Syllable blocks -/

namespace Syllable

/-- The two parts of a syllable block: a block without its final consonant and that consonant, or an
initial consonant and a vowel. -/
def parts? (char : Char) : Option (Char × Char) :=
  let code := char.toNat
  if 0xAC00 ≤ code && code ≤ 0xD7A3 then
    let index := code - 0xAC00
    if index % 28 = 0 then
      some (Char.ofNat (0x1100 + index / 588), Char.ofNat (0x1161 + index % 588 / 28))
    else some (Char.ofNat (code - index % 28), Char.ofNat (0x11A7 + index % 28))
  else none

/-- The syllable block of two parts. -/
def composite? (first second : Char) : Option Char :=
  let (first, second) := (first.toNat, second.toNat)
  if 0x1100 ≤ first && first ≤ 0x1112 && 0x1161 ≤ second && second ≤ 0x1175 then
    some (Char.ofNat (0xAC00 + (first - 0x1100) * 588 + (second - 0x1161) * 28))
  else if 0xAC00 ≤ first && first ≤ 0xD7A3 && (first - 0xAC00) % 28 = 0
      && 0x11A8 ≤ second && second ≤ 0x11C2 then
    some (Char.ofNat (first + (second - 0x11A7)))
  else none

end Syllable

/-! ## Taking apart -/

/-- The parts of a character, taken apart at most so many times. -/
def takeApartWithin : (times : Nat) → Char → List Char
  | 0, char => [char]
  | times + 1, char =>
    match Syllable.parts? char <|> parts? char with
    | some (first, second) => takeApartWithin times first ++ [second]
    | none => [char]

/-- The parts of a character. No character is composed more than three times. -/
def takeApart (char : Char) : List Char := takeApartWithin 3 char

/-! ## Ordering marks -/

/-- Put a character in front of others. A mark moves behind the marks of lower classes. -/
def insertMark (char : Char) : List Char → List Char
  | [] => [char]
  | next :: rest =>
    if combiningClass next ≠ 0 && combiningClass next < combiningClass char then
      next :: insertMark char rest
    else char :: next :: rest

/-- Put the marks on every character into the order of their classes. -/
def orderMarks (chars : List Char) : List Char := chars.foldr insertMark []

/-! ## Composing -/

/-- Compose a character with those of the others that reach it. Marks in between, which could not be
composed with it, keep marks of their own class and of lower ones away from it. -/
def composeFrom (base : Char) (between : List Char) : List Char → List Char
  | [] => base :: between
  | char :: rest =>
    let isReached := between.all fun mark => combiningClass mark < combiningClass char
    let composed := Syllable.composite? base char <|> composite? base char
    match if isReached then composed else none with
    | some composed => composeFrom composed between rest
    | none =>
      if combiningClass char = 0 then base :: between ++ composeFrom char [] rest
      else composeFrom base (between ++ [char]) rest

/-- Compose what can be composed. -/
def compose : List Char → List Char
  | [] => []
  | char :: rest => composeFrom char [] rest

/-- The composed normal form of a text. -/
def normalForm (chars : List Char) : List Char := compose (orderMarks (chars.flatMap takeApart))

end PeerCache.Unicode
