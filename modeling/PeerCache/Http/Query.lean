import PeerCache.Http.Percent

/-! # Queries

The part of a request target behind the question mark, read as a form: pairs of a name and a value
between ampersands, in which a plus sign stands for a space and percent escapes stand for bytes.
-/

namespace PeerCache.Query

/-- A name and a value, parted at the first equals sign. Without one, the value is empty. -/
def nameAndValue (part : Bytes) : Bytes × Bytes :=
  (part.takeWhile (· != 61), (part.dropWhile (· != 61)).drop 1)

/-- The text of a name or a value. Bytes that are not UTF-8 are replaced. -/
def decode (written : Bytes) : String :=
  Bytes.toTextLossy (Percent.decode (written.map fun byte => if byte = 43 then 32 else byte))

/-- The pairs of a query. Empty parts are none. -/
def pairs (query : String) : List (String × String) :=
  (((Bytes.ofText query).splitOn 38).filter fun part => !part.isEmpty).map fun part =>
    let (name, value) := nameAndValue part
    (decode name, decode value)

/-- The value of the first pair of a name, empty if there is none. -/
def value (name query : String) : String := ((pairs query).lookup name).getD ""

end PeerCache.Query
