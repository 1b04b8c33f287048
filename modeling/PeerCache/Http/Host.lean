import PeerCache.Http.DomainName
import PeerCache.Http.Percent
import PeerCache.Text.Decimal

/-! # Hosts

What can stand as the host of an address. The well-known schemes take domain names and numeric
addresses. To other schemes a host is any name without the marks that part an address. Both kinds
take a numeric address of eight groups between brackets.
-/

namespace PeerCache.Host

/-! ## Numeric addresses of four parts -/

/-- The number that digits write in a base of at most sixteen. No digits write zero. -/
def numberIn? (base : Nat) (digits : List Char) : Option Nat :=
  digits.foldlM (fun value char => do
    let digit ← Hex.value? char.toNat
    if digit < base then some (base * value + digit) else none) 0

/-- The number of a part, which is hexadecimal behind `0x`, octal behind a zero, and else decimal.
-/
def number? : List Char → Option Nat
  | [] => none
  | '0' :: 'x' :: digits => numberIn? 16 digits
  | ['0'] => some 0
  | '0' :: digits => numberIn? 8 digits
  | digits => numberIn? 10 digits

/-- Whether parts are a numeric address. Only the last part may exceed a byte, for the bytes of the
parts that are missing. -/
def isQuad (parts : List (List Char)) : Bool :=
  match parts.mapM number? with
  | none => false
  | some numbers =>
    numbers.length ≤ 4 && numbers.dropLast.all (· < 256)
      && numbers.getLast?.getD 0 < Nat.pow 256 (5 - numbers.length)

/-- Whether parts end like a numeric address, so that they are one or nothing. -/
def endsInNumber (parts : List (List Char)) : Bool :=
  match parts.getLast? with
  | none => false
  | some last => !last.isEmpty && last.all Char.isDigit || (number? last).isSome

/-! ## Names -/

/-- Whether a character parts an address, so that no host contains it. -/
def isMark (char : Char) : Bool := "\x00\t\n\r #/:<>?@[\\]^|".toList.contains char

/-- Labels without the empty one behind a dot at the end. -/
def withoutRoot (labels : List (List Char)) : List (List Char) :=
  if 1 < labels.length && labels.getLast? == some [] then labels.dropLast else labels

/-- Whether labels are those of a host: a name that is not empty, or a numeric address. -/
def areOfHost (labels : List (List Char)) : Bool :=
  let parts := withoutRoot labels
  labels != [[]] && (!endsInNumber parts || isQuad parts)

/-- Whether a text is a domain name or a numeric address of four parts. Escapes are read first. -/
def isDomain (text : List Char) : Bool :=
  match Bytes.toText? (Percent.decode (Bytes.ofText (String.ofList text))) with
  | none => false
  | some name => (DomainName.labels? name.toList).any areOfHost

/-! ## Numeric addresses of eight groups -/

/-- Whether a text is a group: one to four hexadecimal digits. -/
def isGroup (text : List Char) : Bool :=
  !text.isEmpty && text.length ≤ 4 && text.all fun char => (Hex.value? char.toNat).isSome

/-- Whether a text is a decimal byte without zeros in front. -/
def isByte (text : List Char) : Bool :=
  (Decimal.below? 256 text).isSome && (text.length = 1 || text.head? != some '0')

/-- The number of groups that texts stand for. The last two groups may be written as four bytes. -/
def groups? : List (List Char) → Option Nat
  | [] => some 0
  | [last] =>
    let bytes := last.splitOn '.'
    if isGroup last then some 1
    else if bytes.length = 4 && bytes.all isByte then some 2
    else none
  | first :: rest => if isGroup first then (groups? rest).map (· + 1) else none

/-- The texts between colons, of which an empty text has none. -/
def betweenColons (text : List Char) : List (List Char) :=
  if text.isEmpty then [] else text.splitOn ':'

/-- A text in front of and behind its first double colon, which stands for groups of zeros. -/
def atGap? : List Char → Option (List Char × List Char)
  | ':' :: ':' :: rest => some ([], rest)
  | char :: rest => (atGap? rest).map fun (front, back) => (char :: front, back)
  | [] => none

/-- Whether a text is a numeric address of eight groups, or of fewer with a gap. -/
def isEightGroups (text : List Char) : Bool :=
  match atGap? text with
  | none => groups? (text.splitOn ':') == some 8
  | some (front, back) =>
    let front := betweenColons front
    front.all isGroup
      && (groups? (betweenColons back)).any fun count => front.length + count ≤ 7

/-! ## Hosts of a kind -/

/-- Whether a text is a host, where a name is of the kind that `isName` accepts. -/
def isHost (isName : List Char → Bool) : List Char → Bool
  | '[' :: rest => rest.getLast? == some ']' && isEightGroups rest.dropLast
  | text => !text.isEmpty && isName text

/-- Whether a text is a host to a scheme that gives names no meaning. -/
def isForeign : List Char → Bool := isHost fun text => !text.any isMark

/-- Whether a text is a host to one of the well-known schemes. -/
def isKnown : List Char → Bool := isHost isDomain

end PeerCache.Host
