import LoadProbe.Url.Basic

/-!
Reading URLs. The parts are cut off from the left: scheme, authority, path, query and fragment.
-/
namespace LoadProbe.Url

/-- A text cut where a test first holds. -/
def cut (stop : Char → Bool) (text : List Char) : List Char × List Char :=
  (text.takeWhile (!stop ·), text.dropWhile (!stop ·))

/-- The text before and after the last of a character. -/
def cutLast? (mark : Char) (text : List Char) : Option (List Char × List Char) :=
  let back := text.reverse.takeWhile (· != mark)
  if back.length = text.length then none
  else some (text.take (text.length - back.length - 1), back.reverse)

/-- A text without controls and spaces at its ends, and without tabs and line ends. -/
def clean (text : List Char) : List Char :=
  let isOuter (c : Char) := c.toNat ≤ 32
  ((text.dropWhile isOuter).reverse.dropWhile isOuter).reverse.filter fun c =>
    c != '\t' && c != '\n' && c != '\r'

def isSchemeChar (c : Char) : Bool := c.isAlphanum || c == '+' || c == '-' || c == '.'

/-- The scheme before the first colon, in lower case, and what follows it. -/
def readScheme? (text : List Char) : Option (List Char × List Char) :=
  match text with
  | first :: _ =>
    match cut (!isSchemeChar ·) text with
    | (scheme, ':' :: rest) =>
      if first.isAlpha then some (scheme.map Char.toLower, rest) else none
    | _ => none
  | [] => none

/-- Whether a slash separates segments here. -/
def isSlash (family : Family) (c : Char) : Bool := c == '/' || (family.isSpecial && c == '\\')

/-- Whether an authority ends here. -/
def endsAuthority (family : Family) (c : Char) : Bool := isSlash family c || c == '?' || c == '#'

/-- User name and password; an empty password is none. -/
def readCredentials (text : List Char) : List Char × Option (List Char) :=
  match cut (· == ':') text with
  | (username, _ :: password@(_ :: _)) =>
    (escape inCredentials username, some (escape inCredentials password))
  | (username, _) => (escape inCredentials username, none)

/-- The host text of an authority: up to the first colon outside square brackets. -/
def cutHost (bracketed : Bool) : List Char → List Char × List Char
  | [] => ([], [])
  | c :: rest =>
    if c = ':' ∧ !bracketed then ([], c :: rest)
    else
      let inside := if c = '[' then true else if c = ']' then false else bracketed
      (c :: (cutHost inside rest).1, (cutHost inside rest).2)

/-- The number of a port, none if it is empty or the default, and the text after it. -/
def readPort (scheme : List Char) (text : List Char) :
    Except Failure (Option UInt16 × List Char) :=
  let digits := text.takeWhile Numeral.isDigit
  let rest := text.dropWhile Numeral.isDigit
  if UInt16.size ≤ Numeral.value digits then .error .invalidPort
  else
    match rest with
    | [] | '\\' :: _ =>
      let port := UInt16.ofNat (Numeral.value digits)
      if digits = [] ∨ some port = defaultPort? scheme then .ok (none, rest)
      else .ok (some port, rest)
    | _ => .error .invalidPort

/-- The parts that an authority names, and what it leaves for the path. -/
def readAuthority (scheme : List Char) (text : List Char) : Except Failure (Url × List Char) := do
  let family := Family.of scheme
  let (front, path) := cut (endsAuthority family) text
  let ((username, password?), place) ←
    match cutLast? '@' front with
    | none => pure (([], none), front)
    | some (credentials, place) =>
      if credentials = [] ∧ place = [] ∧ path ≠ [] then .error .emptyHost
      else pure (readCredentials credentials, place)
  let (hostText, portText) := cutHost false place
  let host ←
    match family with
    | .other => Host.readOpaque hostText
    | _ => if hostText = [] then .error .emptyHost else Host.readSpecial hostText
  if host = .name [] ∧ (portText ≠ [] ∨ username ≠ [] ∨ password?.isSome) then
    .error .emptyHost
  else
    let (port?, rest) ←
      match portText with
      | _ :: digits => readPort scheme digits
      | [] => pure (none, [])
    return ({ scheme, username, password?, host? := some host, port?, path := .segments [] },
      rest ++ path)

/-- Segments that stay or go up, with the escapes of a dot. -/
def isDot (segment : List Char) : Bool :=
  [".", "%2e"].contains (String.ofList (segment.map Char.toLower))

def isDoubleDot (segment : List Char) : Bool :=
  ["..", ".%2e", "%2e.", "%2e%2e"].contains (String.ofList (segment.map Char.toLower))

/-- The letter of a drive with a colon or a bar. -/
def driveLetter? : List Char → Option Char
  | [letter, mark] => if letter.isAlpha ∧ (mark = ':' ∨ mark = '|') then some letter else none
  | _ => none

/-- The segments above the last one; the drive of a file stays. -/
def shorten (family : Family) (above : List (List Char)) : List (List Char) :=
  match above with
  | [only] =>
    if family = .file ∧ (driveLetter? only).isSome ∧ only.getLast? = some ':' then [only] else []
  | _ :: rest => rest
  | [] => []

/-- One segment below others, of which the last comes first. -/
def push (family : Family) (above : List (List Char)) (segment : List Char) : List (List Char) :=
  match above, driveLetter? segment with
  | [], some letter => if family = .file then [[letter, ':']] else [segment]
  | _, _ => segment :: above

/-- Resolves dots in a list of segments, below others of which the last comes first. -/
def resolve (family : Family) (above : List (List Char)) : List (List Char) → List (List Char)
  | [] => above.reverse
  | [last] =>
    if isDoubleDot last then ([] :: shorten family above).reverse
    else if isDot last then ([] :: above).reverse
    else (push family above last).reverse
  | segment :: rest =>
    if isDoubleDot segment then resolve family (shorten family above) rest
    else if isDot segment then resolve family above rest
    else resolve family (push family above segment) rest

/-- Segments without empty ones in front, but never none at all. -/
def dropEmpty : List (List Char) → List (List Char)
  | [] :: second :: rest => dropEmpty (second :: rest)
  | segments => segments

/-- Reads a path with its slash in front, which may be missing. -/
def readSegments (family : Family) (text : List Char) : List (List Char) :=
  let slashed := text.map fun c => if isSlash family c then '/' else c
  let inner :=
    match slashed with
    | '/' :: rest => rest
    | _ => slashed
  let segments := resolve family [] ((Text.split '/' inner).map (escape inPath))
  match family with
  | .other => if text = [] then [] else segments
  | .special => segments
  | .file => dropEmpty segments

/-- Reads the query and the fragment behind a path. -/
def readTail (family : Family) (text : List Char) : Option (List Char) × Option (List Char) :=
  let (query, fragment) := cut (· == '#') text
  let escaped := if family.isSpecial then inSpecialQuery else inQuery
  (query.tail?.map (escape escaped), fragment.tail?.map (escape inFragment))

/-- A URL whose authority was read, with the rest of its parts. -/
def complete (url : Url) (text : List Char) : Url :=
  let family := Family.of url.scheme
  let (path, tail) := cut (fun c => c == '?' || c == '#') text
  let (query?, fragment?) := readTail family tail
  { url with path := .segments (readSegments family path), query?, fragment? }

/-- Reads what follows the scheme of a file. -/
def readFile (scheme text : List Char) : Except Failure Url :=
  let bare : Url := { scheme, host? := some (.name []), path := .segments [] }
  match text.map fun c => if c = '\\' then '/' else c with
  | '/' :: '/' :: _ =>
    let (hostText, path) := cut (endsAuthority .file) (text.drop 2)
    if (driveLetter? hostText).isSome then .ok (complete bare (text.drop 2))
    else if hostText = [] then .ok (complete bare path)
    else
      match Host.readSpecial hostText with
      | .error failure => .error failure
      | .ok host =>
        if host = .name "localhost".toList then .ok (complete bare path)
        else .ok (complete { bare with host? := some host } path)
  | _ => .ok (complete bare text)

/-- Reads a URL that stands alone. -/
def read (text : String) : Except Failure Url :=
  match readScheme? (clean text.toList) with
  | none => .error .noScheme
  | some (scheme, rest) =>
    match Family.of scheme, rest with
    | .file, _ => readFile scheme rest
    | .special, _ =>
      (readAuthority scheme (rest.dropWhile (isSlash .special))).map fun (url, path) =>
        complete url path
    | .other, '/' :: '/' :: after =>
      (readAuthority scheme after).map fun (url, path) => complete url path
    | .other, '/' :: _ => .ok (complete { scheme, path := .segments [] } rest)
    | .other, _ =>
      let (path, tail) := cut (fun c => c == '?' || c == '#') rest
      let (query?, fragment?) := readTail .other tail
      .ok { scheme, path := .plain (escape inControls path), query?, fragment? }

/-- The text of a name or value in a query, where a plus sign is a space. -/
def formText (text : List Char) : List Char :=
  let spaced := text.map fun c => if c = '+' then ' ' else c
  (Text.decode? (unescape spaced)).getD spaced

/-- The names and values of a query. -/
def queryPairs (url : Url) : List (List Char × List Char) :=
  ((Text.split '&' (url.query?.getD [])).filter (· ≠ [])).map fun pair =>
    let (name, value) := cut (· == '=') pair
    (formText name, formText (value.drop 1))

end LoadProbe.Url
