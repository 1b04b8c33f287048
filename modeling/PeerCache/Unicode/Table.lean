import PeerCache.Text.Hex

/-! # Tables of characters

A table lists ranges of character codes, and for each the codes that belong to it. It is written in
hexadecimal digits: ranges between blanks, a hyphen between the ends of a range, a colon in front of
the codes and dots between them.
-/

namespace PeerCache.Unicode

/-- A range of codes, and the codes that belong to it. -/
structure Table.Entry where
  first : Nat
  last : Nat
  codes : List Nat
deriving DecidableEq, Repr

/-- Ranges of codes with what belongs to them. -/
structure Table where
  entries : List Table.Entry
deriving DecidableEq, Repr

namespace Table

/-- The code that digits write. -/
def codeOf (digits : List Char) : Nat :=
  digits.foldl (fun code digit => 16 * code + (Hex.value? digit.toNat).getD 0) 0

/-- The entry that a text writes. -/
def Entry.ofText (text : List Char) : Entry :=
  let range := text.takeWhile (· != ':')
  let codes := (text.dropWhile (· != ':')).drop 1
  let first := range.takeWhile (· != '-')
  let last := (range.dropWhile (· != '-')).drop 1
  { first := codeOf first
    last := codeOf (if last.isEmpty then first else last)
    codes := if codes.isEmpty then [] else (codes.splitOn '.').map codeOf }

/-- The table that lines write. -/
def ofLines (lines : List String) : Table :=
  ⟨lines.flatMap fun line => (line.toList.splitOn ' ').map Entry.ofText⟩

/-- The entry whose range has a code. -/
def entry? (table : Table) (code : Nat) : Option Entry :=
  table.entries.find? fun entry => entry.first ≤ code && code ≤ entry.last

/-- Whether some range has a code. -/
def has (table : Table) (code : Nat) : Bool := (table.entry? code).isSome

/-- The entry whose range has a code, where ranges have only every second code from the first one
on. -/
def alternateEntry? (table : Table) (code : Nat) : Option Entry :=
  table.entries.find? fun entry =>
    entry.first ≤ code && code ≤ entry.last && (code - entry.first) % 2 == 0

/-- What belongs to a code, where an entry lists what belongs to the first code of its range. -/
def Entry.shifted (entry : Entry) (code : Nat) : List Nat :=
  entry.codes.map (· + (code - entry.first))

end Table

end PeerCache.Unicode
