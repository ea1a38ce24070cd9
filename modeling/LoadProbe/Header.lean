import LoadProbe.Text.Blank

/-!
Header fields of a request. Of repeated names the first one counts, whatever the case, and a field
is only read if all of it is printable.
-/
namespace LoadProbe

structure Header where
  name : String
  value : List UInt8
  deriving DecidableEq, Repr

namespace Header

/-- A field whose value is a text. -/
def ofText (name text : String) : Header := ⟨name, text.toUTF8.toList⟩

/-- The bytes of readable values: tab, and printable ones. -/
def isReadable (byte : UInt8) : Bool := byte == 9 || (32 ≤ byte && byte < 127)

/-- The value as text, if all of it is readable. -/
def text? (header : Header) : Option (List Char) :=
  if header.value.all isReadable then some (header.value.map fun byte => Char.ofNat byte.toNat)
  else none

end Header

abbrev Headers := List Header

/-- Whether two names are equal up to case. -/
def sameName (left right : String) : Bool := left.toLower == right.toLower

/-- The trimmed text of the first field of a name; an empty one is as good as none. -/
def Headers.field? (headers : Headers) (name : String) : Option (List Char) :=
  ((headers.find? fun header => sameName header.name name).bind Header.text?).bind fun text =>
    if Text.trim text = [] then none else some (Text.trim text)

end LoadProbe
