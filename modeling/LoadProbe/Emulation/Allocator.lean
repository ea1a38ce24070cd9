import LoadProbe.Machine.Launch
import LoadProbe.Workload

/-!
Allocators: memory is taken by a helper program of its own or within the service.
-/
namespace LoadProbe

inductive Allocator where
  /-- Starts the program at a path with the MiB as its argument. -/
  | helper (path : String)
  | inProcess
  deriving DecidableEq, Repr

namespace Allocator

/-- The text of an allocator in logs. -/
def debugText : Allocator → String
  | .helper path => "Helper(" ++ Text.quote path ++ ")"
  | .inProcess => "InProcess"

/-- Takes a number of MiB and gives them back. -/
def allocate (allocator : Allocator) (mib : UInt64) (tree : FileTree) :
    Except Explanation Unit × FileTree :=
  match allocator with
  | .helper path =>
    match tree.launch path (String.ofList (Numeral.digits mib.toNat)) with
    | .error cause => (.error ⟨"failed to run memory helper " ++ path, [cause.message]⟩, tree)
    | .ok (ending, tree) =>
      if ending.isSuccess then (.ok (), tree)
      else (.error ⟨"memory helper " ++ path ++ " exited with " ++ ending.message, []⟩, tree)
  | .inProcess =>
    match Footprint.allocate? mib with
    | some _ => (.ok (), tree)
    | none => (.error (taskFailure Footprint.overflowMessage), tree)

end Allocator
end LoadProbe
