import LoadProbe.Machine.Shell
import LoadProbe.MemoryHelper

/-!
Programs that are started by their path or their name, with one argument.
-/
namespace LoadProbe.FileTree

/-- The entry that a program's path or name stands for; a name is searched where programs are
kept. -/
def findProgram (tree : FileTree) (program : String) : Except FileFailure FileEntry :=
  if program.toList.contains '/' ∨ program = "" then tree.find program
  else if program.toList.contains '\x00' then .error .zeroInPath
  else
    match programPlaces.findSome? fun place => tree.entry? (place ++ [program]) with
    | some entry => .ok entry
    | none => .error .notFound

/-- Runs a known program. -/
def runProgram (tree : FileTree) (script : List Char) (arguments : List String) :
    Program → Ending × FileTree
  | .shell => Shell.run tree script arguments
  | .memoryHelper => ((MemoryHelper.run arguments[1]?).ending, tree)
  | .ending status => (.exited status, tree)

/-- The path of the interpreter that the first line of a script names. -/
def interpreter? : List Char → Option String
  | '#' :: '!' :: rest =>
    let line := Text.trim (rest.takeWhile (· != '\n'))
    some (String.ofList (line.takeWhile (!Text.isBlank ·)))
  | _ => none

/-- Starts a program and tells how it ended. -/
def launch (tree : FileTree) (program argument : String) :
    Except FileFailure (Ending × FileTree) := do
  match ← tree.findProgram program with
  | .directory => .error .denied
  | .program kind => .ok (tree.runProgram [] [program, argument] kind)
  | .file _ false => .error .denied
  | .file content true =>
    let script := (Text.decode? content).getD []
    let some interpreter := interpreter? script | throw .badFormat
    match ← tree.find interpreter with
    | .program kind => .ok (tree.runProgram script [program, argument] kind)
    | _ => .error .denied

end LoadProbe.FileTree
