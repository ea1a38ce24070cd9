import LoadProbe.Explanation
import LoadProbe.Footprint
import LoadProbe.Log
import LoadProbe.Machine.Ending
import LoadProbe.Text.Blank
import LoadProbe.Text.Quoted

/-!
The memory helper: a program that takes a number of MiB, writes to every page of so much memory and
ends. A negative number asks for nothing.
-/
namespace LoadProbe.MemoryHelper

def usage : String := "usage: mem-alloc <MiB>"

/-- The MiB that an argument asks for. -/
def readSize : Option String → Except Explanation UInt64
  | none => .error ⟨usage, []⟩
  | some argument =>
    match Numeral.readInt64 (Text.trim argument.toList) with
    | .ok size => .ok (UInt64.ofNat size.toInt.toNat)
    | .error cause => .error ⟨"invalid size " ++ Text.quote argument, [cause.message]⟩

/-- What a run of the program came to. -/
inductive Result where
  | allocated (mib : UInt64) (bytes : Nat)
  | refused (cause : Explanation)
  /-- There is no buffer of that size; the program stops at once. -/
  | overflowed
  deriving DecidableEq, Repr

def run (argument? : Option String) : Result :=
  match readSize argument? with
  | .error cause => .refused cause
  | .ok mib =>
    match Footprint.allocate? mib with
    | some bytes => .allocated mib bytes
    | none => .overflowed

def Result.ending : Result → Ending
  | .allocated .. => .exited 0
  | .refused _ => .exited 1
  | .overflowed => .exited 101

/-- The event of memory that was taken and given back. -/
def Result.log : Result → List LogEvent
  | .allocated mib bytes =>
    [{ severity := .info, message := "memory allocated and released", source := "mem_alloc",
       fields := [("mib", String.ofList (Numeral.digits mib.toNat)),
         ("bytes", String.ofList (Numeral.digits bytes))] }]
  | _ => []

end LoadProbe.MemoryHelper
