import LoadProbe.Address
import LoadProbe.Url.Domain

/-!
Hosts of a URL: names and addresses. The hosts of special schemes are domain names, of which those
that end in a number are addresses; other schemes have opaque names.
-/
namespace LoadProbe.Url

/-- Why a text is no URL. -/
inductive Failure where
  | noScheme
  | emptyHost
  | invalidPort
  | invalidIpv4
  | invalidIpv6
  | invalidDomain
  | invalidHostCharacter
  deriving DecidableEq, Repr

def Failure.message : Failure → String
  | .noScheme => "relative URL without a base"
  | .emptyHost => "empty host"
  | .invalidPort => "invalid port number"
  | .invalidIpv4 => "invalid IPv4 address"
  | .invalidIpv6 => "invalid IPv6 address"
  | .invalidDomain => "invalid international domain name"
  | .invalidHostCharacter => "invalid domain character"

inductive Host where
  /-- A domain name or an opaque name. -/
  | name (text : List Char)
  | ipv4 (address : Ipv4)
  | ipv6 (address : Ipv6)
  deriving DecidableEq, Repr

namespace Host

def chars : Host → List Char
  | .name text => text
  | .ipv4 address => address.chars
  | .ipv6 address => '[' :: address.chars ++ [']']

/-- The number of one part of an address: hexadecimal after `0x`, octal after `0`, else decimal. -/
def readPart? : List Char → Option Nat
  | [] => none
  | '0' :: 'x' :: digits | '0' :: 'X' :: digits => readRadix? 16 digits
  | '0' :: digit :: digits => readRadix? 8 (digit :: digits)
  | digits => readRadix? 10 digits
where
  readRadix? (radix : Nat) (digits : List Char) : Option Nat :=
    (digits.mapM (Numeral.digit? radix)).map (·.foldl (fun total digit => total * radix + digit) 0)

/-- The parts of a name between dots; a dot at the end is left out. -/
def parts (name : List Char) : List (List Char) :=
  let all := Text.split '.' name
  if all.getLast? = some [] then all.dropLast else all

/-- Whether the last part of a name is a number, so that the name must be an address. -/
def endsInNumber (name : List Char) : Bool :=
  match (parts name).getLast? with
  | none => false
  | some last => (last != [] && last.all Numeral.isDigit) || (readPart? last).isSome

/-- The address of up to four numbers; the last one fills all octets that remain. -/
def ofParts? (numbers : List Nat) : Option Ipv4 :=
  match numbers.reverse with
  | [] => none
  | last :: others =>
    let octets := others.reverse
    let room := 1 <<< (8 * (4 - octets.length))
    if 3 < octets.length ∨ octets.any (255 < ·) ∨ room ≤ last then none
    else some (.ofNat (octets.foldl (fun total octet => total * 256 + octet) 0 * room + last))

/-- The address that a name ending in a number stands for. -/
def readIpv4? (name : List Char) : Option Ipv4 := ((parts name).mapM readPart?).bind ofParts?

/-- The address between square brackets. -/
def readIpv6 (text : List Char) : Except Failure Host :=
  match text.getLast?, Ipv6.read? text.dropLast with
  | some ']', some address => .ok (.ipv6 address)
  | _, _ => .error .invalidIpv6

/-- Reads the host of a special scheme. -/
def readSpecial : List Char → Except Failure Host
  | '[' :: rest => readIpv6 rest
  | text =>
    match Domain.toAscii? (unescape text) with
    | none => .error .invalidDomain
    | some [] => .error .emptyHost
    | some domain =>
      if endsInNumber domain then
        match readIpv4? domain with
        | some address => .ok (.ipv4 address)
        | none => .error .invalidIpv4
      else .ok (.name domain)

/-- The characters that no opaque name has. -/
def isForbidden (c : Char) : Bool := "\x00\t\n\r #/:<>?@[\\]^|".contains c

/-- Reads the host of any other scheme. -/
def readOpaque : List Char → Except Failure Host
  | '[' :: rest => readIpv6 rest
  | text =>
    if text.any isForbidden then .error .invalidHostCharacter
    else .ok (.name (escape inControls text))

end Host
end LoadProbe.Url
