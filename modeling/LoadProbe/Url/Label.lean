import LoadProbe.Text.Composed
import LoadProbe.Text.Direction
import LoadProbe.Text.Joining
import LoadProbe.Text.Split
import LoadProbe.Url.Percent
import LoadProbe.Url.Punycode
import LoadProbe.Url.Spelling

/-!
Labels: the parts of a domain name between its dots. A label is shown in any script, and written in
ASCII, after `xn--` if it had to be encoded for that.
-/
namespace LoadProbe.Url

structure Label where
  shown : List Char
  ascii : List Char
  deriving DecidableEq, Repr

namespace Label

/-- The characters that no domain name has: controls, the space, and what ends or splits a host. -/
def isForbidden (c : Char) : Bool := inControls c || " #%/:<>?@[\\]^|".contains c

/-- What a label in ASCII begins with if it stands for one in another script. -/
def mark : List Char := ['x', 'n', '-', '-']

/-- The longest label that is encoded, in characters. -/
def longestShown : Nat := 1000

/-- The longest label that is decoded, in characters after its mark. -/
def longestEncoded : Nat := 2000

def nonJoiner : Char := '\u200c'
def joiner : Char := '\u200d'

/-- Whether a joiner may stand between texts, of which the one before it is in reverse: after a mark
that joins consonants, or where it keeps two cursive letters apart. -/
def mayStand (c : Char) (before after : List Char) : Bool :=
  let passes (d : Char) := Text.joining? d = some .transparent
  (before.head?.map Text.combiningClass == some Text.joinerClass) ||
    (c == nonJoiner && ((before.dropWhile passes).head?.any Text.joinsNext) &&
      ((after.dropWhile passes).head?.any Text.joinsPrevious))

/-- Whether all joiners of a text stand where they may; what comes before it is in reverse. -/
def joinersFit (before : List Char) : List Char → Bool
  | [] => true
  | c :: rest =>
    (!(c == nonJoiner || c == joiner) || mayStand c before rest) && joinersFit (c :: before) rest

/-- Whether a text in any script may be shown as a label. -/
def fits (text : List Char) : Bool :=
  !text.head?.any Text.isMark && joinersFit [] text && text.length ≤ longestShown

/-- Whether a text is spelt and composed as names are. -/
def isSettled (text : List Char) : Bool :=
  spell? text == some text && Text.compose text == text

/-- Reads a label that is spelt and composed. -/
def read? (text : List Char) : Option Label :=
  if text.any isForbidden then none
  else if mark.isPrefixOf text then
    let encoded := text.drop mark.length
    match Punycode.decode? encoded with
    | none => none
    | some shown =>
      if encoded.length ≤ longestEncoded && !shown.all Punycode.isAscii && isSettled shown &&
        !mark.isPrefixOf shown && fits shown then some ⟨shown, text⟩
      else none
  else if text.all Punycode.isAscii then some ⟨text, text⟩
  else if fits text then some ⟨text, mark ++ Punycode.encode text⟩
  else none

/-- Whether any character of a label is written from right to left. -/
def hasRightToLeft (label : Label) : Bool :=
  label.shown.any fun c =>
    Text.direction c = .rightToLeft || Text.direction c = .arabicDigit

/-- Whether a label reads the same beside labels that are written from right to left. -/
def keepsDirection (label : Label) : Bool :=
  let directions := label.shown.map Text.direction
  let last := (directions.reverse.dropWhile (· = .mark)).head?
  match directions.head? with
  | none => true
  | some .rightToLeft =>
    !directions.contains .leftToRight && last != some .neutral &&
      !(directions.contains .digit && directions.contains .arabicDigit)
  | some .leftToRight =>
    !directions.contains .rightToLeft && !directions.contains .arabicDigit &&
      last != some .neutral
  | some _ => false

end Label
end LoadProbe.Url
