import LoadProbe.Distribution
import LoadProbe.Explanation
import LoadProbe.Machine.Files

/-!
Distributions in files.
-/
namespace LoadProbe.Distribution

/-- Why a path gives no distribution. -/
inductive LoadFailure where
  | unreadable (path : String) (cause : FileFailure)
  | faulty (path : String) (fault : Fault)
  deriving DecidableEq, Repr

def LoadFailure.explanation : LoadFailure → Explanation
  | .unreadable path cause =>
    ⟨"failed to read CDF file " ++ path ++ ": " ++ cause.message, [cause.message]⟩
  | .faulty path fault => ⟨fault.message path, []⟩

/-- Reads the distribution of a text that a path names. -/
def readAt (path text : String) : Except LoadFailure Distribution :=
  match read text with
  | .ok distribution => .ok distribution
  | .error fault => .error (.faulty path fault)

/-- Loads the distribution in a file. -/
def load (tree : FileTree) (path : String) : Except LoadFailure Distribution :=
  match tree.readText path with
  | .ok text => readAt path text
  | .error cause => .error (.unreadable path cause)

end LoadProbe.Distribution
