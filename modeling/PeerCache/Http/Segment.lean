import PeerCache.Http.Percent

/-! # Path segments

A group name or a key travels as one segment of a path. Escaping keeps separators out of it. The
segments `.` and `..`, which address parsers drop even when they are escaped, are sent with a tilde
in front, and so is a text that starts with a tilde itself; the receiver strips one tilde.
-/

namespace PeerCache.Segment

/-- Whether a text is sent with a tilde in front. -/
def needsGuard (text : String) : Bool :=
  text == "." || text == ".." || text.toList.head? == some '~'

/-- The segment of a text. -/
def encode (text : String) : String :=
  if needsGuard text then "~" ++ Percent.encode text else Percent.encode text

/-- A text without the tilde in front of it, if there is one. -/
def strip (text : String) : String :=
  match text.toList with
  | '~' :: rest => String.ofList rest
  | _ => text

/-- The text of a segment, unless its bytes are not UTF-8 once the escapes are read. -/
def decode? (segment : String) : Option String :=
  (Bytes.toText? (Percent.decode (Bytes.ofText segment))).map strip

end PeerCache.Segment
