import PeerCache.Http.Punycode
import PeerCache.Unicode.Direction
import PeerCache.Unicode.Joining
import PeerCache.Unicode.Mark
import PeerCache.Unicode.NameMapping
import PeerCache.Unicode.NormalForm

/-! # Domain names

A domain name consists of labels between dots. It may be written with letters of any script, or with
ASCII letters that spell out such a label behind `xn--`. Either way it is first reduced to
lower-case letters in their normal form, and a label that could be taken for another one is refused.
-/

namespace PeerCache.DomainName

open Unicode

/-- Whether an ASCII character cannot stand in a domain name. -/
def isForbidden (char : Char) : Bool :=
  char.toNat ≤ 32 || char.toNat = 127 || "#%/:<>?@[\\]^|".toList.contains char

/-- What becomes of a character in a name, unless it has no place in one. -/
def reduceChar? (char : Char) : Option (List Char) :=
  if char.toNat < 128 then some [char.toLower] else inName? char

/-- The reduced form of a name. -/
def reduce? (text : List Char) : Option (List Char) := do
  let reduced := normalForm (← text.mapM reduceChar?).flatten
  if reduced.any isForbidden then none else some reduced

/-- Whether a label has letters beyond ASCII. -/
def isBeyondAscii (label : List Char) : Bool := label.any fun char => 128 ≤ char.toNat

/-- Whether a label does not start with a mark, has its joiners in place and is short enough to be
spelled in ASCII. -/
def isWellWritten (label : List Char) : Bool :=
  !label.head?.any isMark && joinersFit [] label && (!isBeyondAscii label || label.length ≤ 1000)

/-- Whether a label is one that a reduced name can have, with letters beyond ASCII. -/
def isReduced (label : List Char) : Bool :=
  isBeyondAscii label && label.all (fun char => char.toNat < 128 || isKept char)
    && normalForm label == label

/-- What a label of a reduced name spells, if it is no longer than such a label can be. -/
def spelled? : List Char → Option (List Char)
  | 'x' :: 'n' :: '-' :: '-' :: text =>
    if text.length ≤ 2000 then (Punycode.decode? text).filter isReduced else none
  | label => some label

/-- The labels of a name in reduced form, unless the text is no domain name. -/
def labels? (text : List Char) : Option (List (List Char)) := do
  let labels := (← reduce? text).splitOn '.'
  let spelled ← labels.mapM spelled?
  if spelled.all isWellWritten && directionsFit spelled then some labels else none

end PeerCache.DomainName
