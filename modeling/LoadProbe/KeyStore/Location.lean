import LoadProbe.Explanation
import LoadProbe.Text.Utf8
import LoadProbe.Url.Read

/-!
Where the key-value store is: its host and port, and the password of its sessions, all told to the
client in one URL.
-/
namespace LoadProbe

structure StoreLocation where
  host : String
  port : UInt16
  password? : Option String
  deriving DecidableEq, Repr

namespace StoreLocation

/-- Why there is no URL for a location. -/
inductive Failure where
  | badUrl (cause : Url.Failure)
  /-- The URL has no place for a password. -/
  | noPasswordPlace (url : Url)
  deriving DecidableEq, Repr

def Failure.message : Failure → String
  | .badUrl cause => cause.message
  | .noPasswordPlace url => "cannot set password on " ++ url.text

/-- The URL text before the password is put in. -/
def plainText (location : StoreLocation) : String :=
  "redis://" ++ location.host ++ ":" ++
    String.ofList (Numeral.digits location.port.toNat) ++ "/"

/-- The URL of a location; an empty password is none. -/
def url (location : StoreLocation) : Except Failure Url :=
  match Url.read location.plainText, location.password?.filter (· ≠ "") with
  | .error cause, _ => .error (.badUrl cause)
  | .ok plain, none => .ok plain
  | .ok plain, some password =>
    match plain.withPassword? password.toList with
    | some url => .ok url
    | none => .error (.noPasswordPlace plain)

/-- Why a client refuses the URL of a location. -/
inductive Refusal where
  | noUrl (cause : Failure)
  | unreadable
  | noHost
  | badDatabase
  | badUsername
  | badPassword
  | badProtocol (name : String)
  deriving DecidableEq, Repr

def Refusal.message : Refusal → String
  | .noUrl cause => cause.message
  | .unreadable => "Redis URL did not parse- InvalidClientConfig"
  | .noHost => "Missing hostname- InvalidClientConfig"
  | .badDatabase => "Invalid database number- InvalidClientConfig"
  | .badUsername => "Username is not valid UTF-8 string- InvalidClientConfig"
  | .badPassword => "Password is not valid UTF-8 string- InvalidClientConfig"
  | .badProtocol name => "Invalid protocol version - InvalidClientConfig: " ++ name

/-- What a client takes from a URL to open sessions. -/
structure Target where
  host : Url.Host
  port : UInt16
  database : Int
  username? : Option (List Char)
  password? : Option (List Char)
  deriving DecidableEq, Repr

/-- The number of the database in a path, the first one if the path is empty. -/
def database? (path : List Char) : Option Int :=
  let isSlash (c : Char) := c == '/'
  match ((path.dropWhile isSlash).reverse.dropWhile isSlash).reverse with
  | [] => some 0
  | number => (Numeral.readSigned Numeral.largestSigned number).toOption

/-- The versions of the protocol that a query may name. -/
def protocols : List String := ["2", "resp2", "3", "resp3"]

/-- The protocol that a query names last, if there is no such version. -/
def unknownProtocol? (url : Url) : Option String :=
  let named := url.queryPairs.filter fun (name, _) => name == "protocol".toList
  (named.getLast?.map fun (_, value) => String.ofList value).filter (!protocols.contains ·)

/-- Reads the target of a URL text, as a client does. -/
def readTarget (text : String) : Except Refusal Target :=
  match Url.read text with
  | .error _ => .error .unreadable
  | .ok url => do
    if String.ofList url.scheme ≠ "redis" then throw .unreadable
    let some host := url.namedHost? | throw .noHost
    let some database := database? url.path.chars | throw .badDatabase
    let some username := Text.decode? (Url.unescape url.username) | throw .badUsername
    let some password := Text.decode? (Url.unescape (url.password?.getD [])) |
      throw .badPassword
    if let some name := unknownProtocol? url then throw (.badProtocol name)
    return {
      host
      port := url.port?.getD 6379
      database
      username? := if username = [] then none else some username
      password? := url.password?.map fun _ => password }

/-- The target of a location. -/
def target (location : StoreLocation) : Except Refusal Target :=
  match location.url with
  | .error cause => .error (.noUrl cause)
  | .ok url => readTarget url.text

end StoreLocation
end LoadProbe
