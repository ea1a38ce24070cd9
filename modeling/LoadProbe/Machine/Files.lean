import LoadProbe.Text.Split
import LoadProbe.Text.Utf8

/-!
The file tree of a machine: what stands at a path, and why it cannot be had. Paths are taken from
the working directory unless they begin with a slash.
-/
namespace LoadProbe

/-- Why the machine refuses a file or a program. -/
inductive FileFailure where
  | notFound
  | denied
  | notDirectory
  | isDirectory
  | nameTooLong
  /-- A program that has no known form. -/
  | badFormat
  /-- A path that holds the character zero. -/
  | zeroInPath
  /-- A text that is no valid UTF-8. -/
  | notText
  deriving DecidableEq, Repr

def FileFailure.message : FileFailure → String
  | .notFound => "No such file or directory (os error 2)"
  | .denied => "Permission denied (os error 13)"
  | .notDirectory => "Not a directory (os error 20)"
  | .isDirectory => "Is a directory (os error 21)"
  | .nameTooLong => "File name too long (os error 36)"
  | .badFormat => "Exec format error (os error 8)"
  | .zeroInPath => "file name contained an unexpected NUL byte"
  | .notText => "stream did not contain valid UTF-8"

/-- Programs of the machine whose behaviour is known. -/
inductive Program where
  | shell
  /-- Allocates the memory that its argument asks for. -/
  | memoryHelper
  /-- Ends at once with a status. -/
  | ending (status : UInt8)
  deriving DecidableEq, Repr

inductive FileEntry where
  | directory
  | file (content : List UInt8) (executable : Bool)
  | program (kind : Program)
  deriving DecidableEq, Repr

/-- The steps from the root to a place in the tree. -/
abbrev Place := List String

structure FileTree where
  entries : List (Place × FileEntry)
  /-- Where paths without a slash in front begin. -/
  workingDirectory : Place
  deriving Repr

namespace FileTree

def entry? (tree : FileTree) (place : Place) : Option FileEntry :=
  if place = [] then some .directory else tree.entries.lookup place

/-- The tree with an entry at a place. -/
def set (tree : FileTree) (place : Place) (entry : FileEntry) : FileTree :=
  { tree with entries := (place, entry) :: tree.entries.filter (·.1 != place) }

/-- The tree with the directories that lead to a place. -/
def withParents (tree : FileTree) (place : Place) : FileTree :=
  (List.range place.length).foldl (fun tree depth =>
    if (tree.entry? (place.take depth)).isNone then tree.set (place.take depth) .directory
    else tree) tree

/-- The tree with an entry and the directories that lead to it. -/
def put (tree : FileTree) (place : Place) (entry : FileEntry) : FileTree :=
  (tree.withParents place).set place entry

/-- The steps of a path; a slash at the end asks for a directory. -/
def steps (path : String) : List String :=
  let names := (Text.split '/' path.toList).map String.ofList
  names.filter (· ≠ "") ++ if names.getLast? = some "" then ["."] else []

/-- Follows steps from a place; only the last one may lead to nothing. -/
def follow (tree : FileTree) (place : Place) : List String → Except FileFailure Place
  | [] => .ok place
  | step :: rest =>
    match tree.entry? place with
    | none => .error .notFound
    | some .directory =>
      if 255 < step.utf8ByteSize then .error .nameTooLong
      else if step = "." then follow tree place rest
      else if step = ".." then follow tree place.dropLast rest
      else follow tree (place ++ [step]) rest
    | some _ => .error .notDirectory

/-- The place that a path leads to. -/
def locate (tree : FileTree) (path : String) : Except FileFailure Place :=
  if path.toList.contains '\x00' then .error .zeroInPath
  else if path = "" then .error .notFound
  else if 4096 ≤ path.utf8ByteSize then .error .nameTooLong
  else follow tree (if path.toList.head? = some '/' then [] else tree.workingDirectory) (steps path)

/-- What stands at a path. -/
def find (tree : FileTree) (path : String) : Except FileFailure FileEntry := do
  match tree.entry? (← tree.locate path) with
  | some entry => .ok entry
  | none => .error .notFound

/-- The text of a file. -/
def readText (tree : FileTree) (path : String) : Except FileFailure String := do
  match ← tree.find path with
  | .directory => .error .isDirectory
  | .program _ => .error .notText
  | .file content _ =>
    match Text.decode? content with
    | some text => .ok (String.ofList text)
    | none => .error .notText

/-- Writes to a file, which is made if there is none, after what it holds or in its place. -/
def write (tree : FileTree) (path : String) (append : Bool) (content : List UInt8) :
    Except FileFailure FileTree := do
  let place ← tree.locate path
  match tree.entry? place with
  | some .directory => .error .isDirectory
  | some (.program _) => .error .denied
  | some (.file before executable) =>
    .ok (tree.set place (.file ((if append then before else []) ++ content) executable))
  | none => .ok (tree.set place (.file content false))

/-- Where the machine keeps its programs, in the order in which they are searched. -/
def programPlaces : List Place := [["usr", "bin"], ["bin"]]

/-- The programs that every machine has. -/
def systemPrograms : List (String × Program) :=
  [("sh", .shell), ("bash", .shell), ("dash", .shell), ("true", .ending 0),
    ("false", .ending 1), ("echo", .ending 0), ("sleep", .ending 0),
    ("test", .ending 0), ("cat", .ending 1), ("ls", .ending 2)]

/-- A machine without files of its own. -/
def bare : FileTree :=
  let tree : FileTree := ⟨[], ["tmp", "work"]⟩
  let withPrograms := programPlaces.foldl (fun tree place =>
    systemPrograms.foldl (fun tree (name, kind) => tree.put (place ++ [name]) (.program kind)) tree)
    tree
  ((withPrograms.put tree.workingDirectory .directory).put ["dev", "null"] (.file [] false)).put
    ["etc"] .directory

end FileTree
end LoadProbe
