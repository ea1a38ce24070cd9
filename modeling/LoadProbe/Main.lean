import LoadProbe.Program

/-!
The command line: the first argument names a program, and the others are its own. The program is run
up to where it would take requests; its log and messages are printed, and its status is returned.
-/
namespace LoadProbe

/-- The programs by their names. -/
def Application.all : List (String × Application) :=
  let services := [Service.arithmetic, .store, .emulation].map fun kind =>
    (kind.name, Application.service kind)
  ("mem-alloc", .memoryHelper) :: services

/-- The environment variables that a program reads. -/
def Application.variableNames : Application → List String
  | .memoryHelper => ["RUST_LOG"]
  | .service kind => "RUST_LOG" :: kind.options.map (·.environmentName)

/-- The paths that arguments and the environment may name, and those that are usual. -/
def pathsAmong (arguments : List String) (environment : List (String × String)) : List String :=
  let attached := arguments.map fun argument =>
    String.ofList ((argument.toList.dropWhile (· != '=')).drop 1)
  let usual : EmulationSettings := {}
  arguments ++ attached ++ environment.map (·.2) ++ [usual.memoryPath, usual.durationPath]

/-- A tree of those files that can be read. -/
def readFiles (paths : List String) : IO FileTree :=
  paths.foldlM (fun tree (path : String) => do
    match ← (IO.FS.readBinFile path).toBaseIO with
    | .error _ => return tree
    | .ok content =>
      let base := if path.toList.head? = some '/' then [] else tree.workingDirectory
      let place := base ++ (FileTree.steps path).filter (· ≠ ".")
      return tree.put place (.file content.toList false)) FileTree.bare

/-- This machine, without a way to others. -/
def thisMachine (tree : FileTree) : Machine where
  tree
  way? _ := none
  owns socket := socket.ip.isLoopback || socket.ip == .v4 ⟨0, 0, 0, 0⟩
  store := { reach := .cutOff }

/-- Runs the program that the first word names, and prints what it shows. -/
def runWords (words : List String) : IO UInt32 := do
  let stdout ← IO.getStdout
  let stderr ← IO.getStderr
  match words.head?.bind fun name => Application.all.lookup name with
  | none =>
    stderr.putStrLn ("usage: one of " ++ ", ".intercalate (Application.all.map (·.1)) ++
      ", then its arguments")
    return 2
  | some application =>
    let arguments := words.tail
    let found ← application.variableNames.mapM fun name => return (← IO.getEnv name).map (name, ·)
    let environment := found.filterMap id
    let machine := thisMachine (← readFiles (pathsAmong arguments environment))
    let report := application.run machine arguments environment
    for event in report.log do stderr.putStrLn event.line
    for line in report.output?.toList do stdout.putStrLn line
    for line in report.usage?.toList do stderr.putStrLn line
    for text in report.error?.toList do stderr.putStr text
    return (report.status?.getD 0).toUInt32

end LoadProbe

def main (words : List String) : IO UInt32 := LoadProbe.runWords words
