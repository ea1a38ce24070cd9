import LoadProbe.Numeral
import LoadProbe.Text.Split
import LoadProbe.Text.Quoted

/-!
Addresses of the internet protocol, version 4 and 6, and sockets at them. Readers are strict: octets
without leading zeros, and a run of zero groups stands once at most.
-/
namespace LoadProbe

/-- An address of four octets. -/
structure Ipv4 where
  a : UInt8
  b : UInt8
  c : UInt8
  d : UInt8
  deriving DecidableEq, Repr

/-- An address of eight groups of 16 bits. -/
structure Ipv6 where
  groups : List UInt16
  eight : groups.length = 8
  deriving DecidableEq, Repr

inductive IpAddress where
  | v4 (address : Ipv4)
  | v6 (address : Ipv6)
  deriving DecidableEq, Repr

namespace Ipv4

/-- One octet in decimal, without leading zeros. -/
def readOctet? (text : List Char) : Option UInt8 :=
  if text = [] ∨ 3 < text.length ∨ !text.all Numeral.isDigit then none
  else if text.head? = some '0' ∧ text ≠ ['0'] then none
  else if Numeral.value text < 256 then some (UInt8.ofNat (Numeral.value text))
  else none

def read? (text : List Char) : Option Ipv4 :=
  match (Text.split '.' text).mapM readOctet? with
  | some [a, b, c, d] => some ⟨a, b, c, d⟩
  | _ => none

/-- The address of a 32-bit number. -/
def ofNat (value : Nat) : Ipv4 :=
  ⟨UInt8.ofNat (value >>> 24), UInt8.ofNat (value >>> 16), UInt8.ofNat (value >>> 8),
    UInt8.ofNat value⟩

def octets (address : Ipv4) : List UInt8 := [address.a, address.b, address.c, address.d]

def chars (address : Ipv4) : List Char :=
  ['.'].intercalate (address.octets.map fun octet => Numeral.digits octet.toNat)

/-- The address of the host itself. -/
def loopback : Ipv4 := ⟨127, 0, 0, 1⟩

end Ipv4

namespace Ipv6

/-- One group of one to four hexadecimal digits. -/
def readGroup? (text : List Char) : Option UInt16 :=
  if text = [] ∨ 4 < text.length then none
  else (text.mapM (Numeral.digit? 16)).map fun digits =>
    UInt16.ofNat (digits.foldl (fun total digit => total * 16 + digit) 0)

/-- The two groups of an address of version 4. -/
def groupsOf (address : Ipv4) : List UInt16 :=
  [address.a.toUInt16 * 256 + address.b.toUInt16, address.c.toUInt16 * 256 + address.d.toUInt16]

/-- The groups between colons; the last one may be an address of version 4 if `dotted`. -/
def readGroups? (dotted : Bool) : List (List Char) → Option (List UInt16)
  | [] => some []
  | [last] =>
    match readGroup? last with
    | some group => some [group]
    | none => if dotted then (Ipv4.read? last).map groupsOf else none
  | first :: rest => do return (← readGroup? first) :: (← readGroups? dotted rest)

/-- The groups of a text, none if it is empty. -/
def readRun? (dotted : Bool) (text : List Char) : Option (List UInt16) :=
  if text = [] then some [] else readGroups? dotted (Text.split ':' text)

/-- The text before and after the first double colon. -/
def cutRun : List Char → List Char × Option (List Char)
  | ':' :: ':' :: rest => ([], some rest)
  | c :: rest => (c :: (cutRun rest).1, (cutRun rest).2)
  | [] => ([], none)

def ofGroups? (groups : List UInt16) : Option Ipv6 :=
  if eight : groups.length = 8 then some ⟨groups, eight⟩ else none

/-- Reads an address; a double colon stands for one or more zero groups. -/
def read? (text : List Char) : Option Ipv6 :=
  match cutRun text with
  | (all, none) => (readRun? true all).bind ofGroups?
  | (front, some back) => do
    let front ← readRun? false front
    let back ← readRun? true back
    if front.length + back.length < 8 then
      ofGroups? (front ++ List.replicate (8 - (front.length + back.length)) 0 ++ back)
    else none

/-- How many zero groups stand from a place on. -/
def zerosAt (groups : List UInt16) (start : Nat) : Nat :=
  ((groups.drop start).takeWhile (· == 0)).length

/-- Where the longest run of zero groups begins, the first of equals. -/
def longestZeros (groups : List UInt16) : Nat :=
  (List.range groups.length).foldl
    (fun best start => if zerosAt groups best < zerosAt groups start then start else best) 0

def joinGroups (groups : List UInt16) : List Char :=
  [':'].intercalate (groups.map fun group => Text.hexDigits group.toNat)

/-- The groups in hexadecimal; the longest run of two or more zeros is a double colon. -/
def chars (address : Ipv6) : List Char :=
  let start := longestZeros address.groups
  let count := zerosAt address.groups start
  if count < 2 then joinGroups address.groups
  else joinGroups (address.groups.take start) ++ [':', ':'] ++
    joinGroups (address.groups.drop (start + count))

/-- The address of version 4 behind a mapped one. -/
def mapped? (address : Ipv6) : Option Ipv4 :=
  match address.groups with
  | [0, 0, 0, 0, 0, 0xffff, high, low] => some (.ofNat (high.toNat * UInt16.size + low.toNat))
  | _ => none

end Ipv6

namespace IpAddress

/-- Why a text is no address. -/
def failureMessage : String := "invalid IP address syntax"

def read? (text : List Char) : Option IpAddress :=
  match Ipv4.read? text with
  | some address => some (.v4 address)
  | none => (Ipv6.read? text).map .v6

def text : IpAddress → String
  | .v4 address => String.ofList address.chars
  | .v6 address =>
    match address.mapped? with
    | some inner => String.ofList ("::ffff:".toList ++ inner.chars)
    | none => String.ofList address.chars

def isLoopback : IpAddress → Bool
  | .v4 address => address.a == 127
  | .v6 address => address.groups == [0, 0, 0, 0, 0, 0, 0, 1]

/-- Whether all of an address is zero, so that it names no host. -/
def isUnspecified : IpAddress → Bool
  | .v4 address => address == ⟨0, 0, 0, 0⟩
  | .v6 address => address.groups.all (· == 0)

end IpAddress

/-- A port at an address; one of version 6 may have a scope. -/
structure SocketAddress where
  ip : IpAddress
  scope : Nat
  port : UInt16
  deriving DecidableEq, Repr

namespace SocketAddress

/-- Why a text is no socket address. -/
def failureMessage : String := "invalid socket address syntax"

/-- A decimal number below a bound, with any number of leading zeros. -/
def readBelow? (bound : Nat) (digits : List Char) : Option Nat :=
  if digits ≠ [] ∧ digits.all Numeral.isDigit ∧ Numeral.value digits < bound then
    some (Numeral.value digits)
  else none

def readPort? : List Char → Option UInt16
  | ':' :: digits => (readBelow? UInt16.size digits).map UInt16.ofNat
  | _ => none

/-- What stands between square brackets: an address, and its scope after a percent sign. -/
def readBracketed? (inner : List Char) : Option (Ipv6 × Nat) :=
  let address := inner.takeWhile (· != '%')
  match inner.drop address.length with
  | [] => (Ipv6.read? address).map (·, 0)
  | _ :: scope => do return (← Ipv6.read? address, ← readBelow? UInt32.size scope)

def read? : List Char → Option SocketAddress
  | '[' :: rest =>
    let inner := rest.takeWhile (· != ']')
    match rest.drop inner.length with
    | [] => none
    | _ :: port => do
      let (address, scope) ← readBracketed? inner
      return ⟨.v6 address, scope, ← readPort? port⟩
  | text =>
    let address := text.takeWhile (· != ':')
    do return ⟨.v4 (← Ipv4.read? address), 0, ← readPort? (text.drop address.length)⟩

def text (socket : SocketAddress) : String :=
  let port := String.ofList (Numeral.digits socket.port.toNat)
  match socket.ip with
  | .v4 _ => socket.ip.text ++ ":" ++ port
  | .v6 _ =>
    let scope :=
      if socket.scope = 0 then "" else "%" ++ String.ofList (Numeral.digits socket.scope)
    "[" ++ socket.ip.text ++ scope ++ "]:" ++ port

end SocketAddress
end LoadProbe
