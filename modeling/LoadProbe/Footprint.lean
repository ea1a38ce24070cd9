import LoadProbe.Numeral

/-!
Memory footprints: a buffer of whole MiB of which every page is written once.
-/
namespace LoadProbe.Footprint

/-- The bytes of one MiB. -/
def mebibyte : Nat := 1024 * 1024

/-- The bytes of one page. -/
def page : Nat := 4096

/-- A buffer has at most this many bytes. -/
def largest : Nat := Numeral.largestSigned

/-- The bytes that a number of MiB takes, as far as 64 bits count them. -/
def bytesOf (mib : UInt64) : Nat := min (mib.toNat * mebibyte) (UInt64.size - 1)

/-- The message of a buffer that is too large. -/
def overflowMessage : String := "capacity overflow"

/-- The size of the buffer for a number of MiB, if there can be one. -/
def allocate? (mib : UInt64) : Option Nat :=
  if bytesOf mib ≤ largest then some (bytesOf mib) else none

/-- The offsets that are written in a buffer: the start of each page. -/
def touched (bytes : Nat) : List Nat := (List.range ((bytes + (page - 1)) / page)).map (· * page)

/-- Writes one byte of a buffer. A write outside of it fails. -/
def write? (buffer : List UInt8) (offset : Nat) : Option (List UInt8) :=
  if offset < buffer.length then some (buffer.set offset 1) else none

/-- A buffer of zeros after its pages were written, one after the other. -/
def sweep? (bytes : Nat) : Option (List UInt8) :=
  (touched bytes).foldlM write? (List.replicate bytes 0)

end LoadProbe.Footprint
