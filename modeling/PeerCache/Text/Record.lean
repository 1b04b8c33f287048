import PeerCache.Text.Utf8

/-! # Descriptions of values

The diagnostic text of a value: a title followed by named fields in braces, by one positional field
in parentheses, or by nothing. Texts inside are quoted.
-/

namespace PeerCache.Describe

/-- The lower-case hexadecimal digits of a code point, without leading zeros. -/
def codePoint (char : Char) : String := String.ofList (Nat.toDigits 16 char.toNat)

/-- One character inside quotes: quotes and backslashes are escaped, as are control characters. -/
def escaped (char : Char) : String :=
  if char = '"' then "\\\""
  else if char = '\\' then "\\\\"
  else if char = '\n' then "\\n"
  else if char = '\t' then "\\t"
  else if char = '\r' then "\\r"
  else if char = Char.ofNat 0 then "\\0"
  else if char.toNat < 32 ∨ char.toNat = 127 then "\\u\x7b" ++ codePoint char ++ "\x7d"
  else char.toString

/-- A text between quotes. -/
def quoted (text : String) : String :=
  "\"" ++ String.join (text.toList.map escaped) ++ "\""

/-- A truth value. -/
def bool (value : Bool) : String := if value then "true" else "false"

/-- Items between square brackets. -/
def list (items : List String) : String := "[" ++ ", ".intercalate items ++ "]"

/-- A title with one positional field. -/
def tagged (title field : String) : String := title ++ "(" ++ field ++ ")"

/-- A title with named fields, in the order given. -/
def fields (title : String) (named : List (String × String)) : String :=
  let written := named.map fun field => field.1 ++ ": " ++ field.2
  title ++ " \x7b " ++ ", ".intercalate written ++ " \x7d"

end PeerCache.Describe

namespace PeerCache.Bytes

/-- The diagnostic text of a value, which tells only its length. -/
def describe (bytes : Bytes) : String :=
  Describe.fields "ByteView" [("len", toString bytes.length)]

end PeerCache.Bytes
