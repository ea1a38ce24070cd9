import LoadProbe.Text.Utf8
import LoadProbe.Url.Label

/-!
Domain names in their ASCII form.
-/
namespace LoadProbe.Url.Domain

/-- A name of ASCII characters in lower case, if none is forbidden. -/
def lowered? (name : List Char) : Option (List Char) :=
  if name.any Label.isForbidden then none else some (name.map Char.toLower)

/-- Whether labels in lower case have nothing to decode or to encode. -/
def isPlain (bytes : List UInt8) : Bool :=
  bytes.all (· < 128) &&
    (Text.split '.' (bytes.map fun byte => (Char.ofNat byte.toNat).toLower)).all
      (!Label.mark.isPrefixOf ·)

/-- The ASCII form of a name in any script. -/
def encoded? (name : List Char) : Option (List Char) := do
  let spelt ← spell? name
  let labels ← (Text.split '.' (Text.compose spelt)).mapM Label.read?
  if labels.any Label.hasRightToLeft && !labels.all Label.keepsDirection then none
  else some (['.'].intercalate (labels.map Label.ascii))

/-- The ASCII form of a name. -/
def toAscii? (bytes : List UInt8) : Option (List Char) :=
  if isPlain bytes then lowered? (bytes.map fun byte => Char.ofNat byte.toNat)
  else (Text.decode? bytes).bind encoded?

end LoadProbe.Url.Domain
