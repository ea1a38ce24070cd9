import LoadProbe.Url.Host

/-!
URLs in their normal form, and their text.
-/
namespace LoadProbe

/-- The path of a URL: segments, or a text that has no structure. -/
inductive Url.Path where
  | segments (items : List (List Char))
  | plain (text : List Char)
  deriving DecidableEq, Repr

/-- A URL; every part is escaped as its place asks. -/
structure Url where
  scheme : List Char
  username : List Char := []
  password? : Option (List Char) := none
  /-- The host; an empty name stands for an authority that names none. -/
  host? : Option Url.Host := none
  port? : Option UInt16 := none
  path : Url.Path
  query? : Option (List Char) := none
  fragment? : Option (List Char) := none
  deriving DecidableEq, Repr

namespace Url

/-- The port that a special scheme implies. -/
def defaultPort? (scheme : List Char) : Option UInt16 :=
  match String.ofList scheme with
  | "http" | "ws" => some 80
  | "https" | "wss" => some 443
  | "ftp" => some 21
  | _ => none

/-- How the parts after the scheme are read. -/
inductive Family where
  /-- A host must follow, and backslashes count as slashes. -/
  | special
  /-- Like a special one, for local files. -/
  | file
  | other
  deriving DecidableEq, Repr

def Family.of (scheme : List Char) : Family :=
  if scheme = "file".toList then .file
  else if (defaultPort? scheme).isSome then .special
  else .other

def Family.isSpecial (family : Family) : Bool := family != .other

def Path.chars : Path → List Char
  | .segments items => items.flatMap ('/' :: ·)
  | .plain text => text

/-- User name and password before a host. -/
def credentials (url : Url) : List Char :=
  let password :=
    match url.password? with
    | some password => ':' :: password
    | none => []
  if url.username ++ password = [] then [] else url.username ++ password ++ ['@']

/-- Slashes, credentials, host and port. Without a host, a path that begins like one gets a dot. -/
def authority (url : Url) : List Char :=
  match url.host?, url.path with
  | some host, _ =>
    let port :=
      match url.port? with
      | some port => ':' :: Numeral.digits port.toNat
      | none => []
    ['/', '/'] ++ url.credentials ++ host.chars ++ port
  | none, .segments ([] :: _ :: _) => ['/', '.']
  | none, _ => []

/-- A part after its mark, if there is one. -/
def marked (mark : Char) : Option (List Char) → List Char
  | some text => mark :: text
  | none => []

def chars (url : Url) : List Char :=
  url.scheme ++ [':'] ++ url.authority ++ url.path.chars ++ marked '?' url.query? ++
    marked '#' url.fragment?

def text (url : Url) : String := String.ofList url.chars

/-- The host, if it is not an empty name. -/
def namedHost? (url : Url) : Option Host := url.host?.filter (· != .name [])

/-- The URL with a password; without a host, and for files, there can be none. -/
def withPassword? (url : Url) (password : List Char) : Option Url :=
  if url.namedHost?.isNone ∨ Family.of url.scheme = .file then none
  else some { url with password? := some (escape inCredentials password) }

end Url
end LoadProbe
