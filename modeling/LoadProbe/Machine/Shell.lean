import LoadProbe.Machine.Ending
import LoadProbe.Machine.Files
import LoadProbe.Text.Blank

/-!
Small shell scripts: simple commands in sequence, joined by `&&` and `||`, with parameters, quotes
and output to files. Whatever a script writes to its terminal is lost.
-/
namespace LoadProbe.Shell

/-- A part of a word: plain text, or a parameter that is put in when the word is used. -/
inductive Piece where
  | plain (c : Char)
  | parameter (name : Char)
  deriving DecidableEq, Repr

inductive Token where
  /-- A word, and whether any of it was quoted. -/
  | word (pieces : List Piece) (quoted : Bool)
  | mark (text : String)
  deriving DecidableEq, Repr

/-- Where a character stands: outside of quotes, or within one of the two kinds. -/
inductive Quotes where
  | outside
  | single
  | double
  deriving DecidableEq, Repr

/-- A word that is being read, if one has begun, with its last piece first. -/
structure Reading where
  pieces : List Piece := []
  begun : Bool := false
  quoted : Bool := false

def Reading.tokens (reading : Reading) : List Token :=
  if reading.begun then [.word reading.pieces.reverse reading.quoted] else []

def Reading.add (reading : Reading) (piece : Piece) : Reading :=
  { reading with pieces := piece :: reading.pieces, begun := true }

def Reading.quote (reading : Reading) : Reading := { reading with begun := true, quoted := true }

/-- Whether a character names a parameter after a dollar sign. -/
def isParameter (c : Char) : Bool := Numeral.isDigit c || c == '#' || c == '$' || c == '?' ||
  c == '@' || c == '*'

/-- The tokens of a script. -/
def scan (reading : Reading) (quotes : Quotes) : List Char → List Token
  | [] => reading.tokens
  | '$' :: '\x7b' :: name :: '\x7d' :: rest =>
    if quotes = .single then scan ((reading.add (.plain '$')).add (.plain '\x7b')) quotes
      (name :: '\x7d' :: rest)
    else scan (reading.add (.parameter name)) quotes rest
  | '$' :: name :: rest =>
    if quotes = .single ∨ !isParameter name then
      scan (reading.add (.plain '$')) quotes (name :: rest)
    else scan (reading.add (.parameter name)) quotes rest
  | '\\' :: c :: rest =>
    if quotes = .single then scan (reading.add (.plain '\\')) quotes (c :: rest)
    else if c = '\n' then scan reading quotes rest
    else scan (reading.add (.plain c)).quote quotes rest
  | '&' :: '&' :: rest =>
    if quotes = .outside then reading.tokens ++ .mark "&&" :: scan {} .outside rest
    else scan (reading.add (.plain '&')) quotes ('&' :: rest)
  | '|' :: '|' :: rest =>
    if quotes = .outside then reading.tokens ++ .mark "||" :: scan {} .outside rest
    else scan (reading.add (.plain '|')) quotes ('|' :: rest)
  | '>' :: '>' :: rest =>
    if quotes = .outside then reading.tokens ++ .mark ">>" :: scan {} .outside rest
    else scan (reading.add (.plain '>')) quotes ('>' :: rest)
  | c :: rest =>
    match quotes with
    | .single =>
      if c = '\'' then scan reading .outside rest else scan (reading.add (.plain c)) quotes rest
    | .double =>
      if c = '"' then scan reading .outside rest else scan (reading.add (.plain c)) quotes rest
    | .outside =>
      if c = '\'' then scan reading.quote .single rest
      else if c = '"' then scan reading.quote .double rest
      else if c = '#' ∧ !reading.begun then scan {} .outside (rest.dropWhile (· != '\n'))
      else if c = '\n' ∨ c = ';' then reading.tokens ++ .mark ";" :: scan {} .outside rest
      else if Text.isBlank c then reading.tokens ++ scan {} .outside rest
      else if c = '>' then reading.tokens ++ .mark ">" :: scan {} .outside rest
      else scan (reading.add (.plain c)) quotes rest
termination_by text => text.length
decreasing_by
  all_goals
    first
    | (simp only [List.length_cons]; omega)
    | (have shorter := (List.dropWhile_sublist (fun c => c != '\n') (l := rest)).length_le
       simp only [List.length_cons]
       omega)

/-- A word, and whether it stays when it is empty. -/
structure Word where
  pieces : List Piece
  quoted : Bool

/-- When a command runs. -/
inductive Link where
  | always
  | afterSuccess
  | afterFailure
  deriving DecidableEq, Repr

structure Command where
  link : Link
  words : List Word := []
  /-- The file that takes the output, and whether it goes after what is there. -/
  output? : Option (Bool × Word) := none

/-- The commands of a list of tokens, the one that is being read in front. -/
def commands (current : Command) : List Token → List Command
  | [] => [current]
  | .mark ">" :: .word pieces quoted :: rest =>
    commands { current with output? := some (false, ⟨pieces, quoted⟩) } rest
  | .mark ">>" :: .word pieces quoted :: rest =>
    commands { current with output? := some (true, ⟨pieces, quoted⟩) } rest
  | .mark "&&" :: rest => current :: commands { link := .afterSuccess } rest
  | .mark "||" :: rest => current :: commands { link := .afterFailure } rest
  | .mark _ :: rest => current :: commands { link := .always } rest
  | .word pieces quoted :: rest =>
    commands { current with words := current.words ++ [⟨pieces, quoted⟩] } rest

/-- A running script. -/
structure Session where
  tree : FileTree
  /-- The path of the script and its arguments. -/
  arguments : List String
  status : UInt8 := 0
  ending? : Option Ending := none

namespace Session

/-- What `$$` stands for. -/
def identity : String := "1"

def parameter (session : Session) (name : Char) : String :=
  match name with
  | '#' => String.ofList (Numeral.digits (session.arguments.length - 1))
  | '$' => identity
  | '?' => String.ofList (Numeral.digits session.status.toNat)
  | '@' | '*' => " ".intercalate session.arguments.tail
  | _ => session.arguments.getD (name.toNat - '0'.toNat) ""

def text (session : Session) (pieces : List Piece) : String :=
  String.join (pieces.map fun piece =>
    match piece with
    | .plain c => String.ofList [c]
    | .parameter name => session.parameter name)

/-- The words of a command, without unquoted ones that came out empty. -/
def expand (session : Session) (words : List Word) : List String :=
  (words.map fun word => (session.text word.pieces, word.quoted)).filterMap fun (text, quoted) =>
    if text = "" ∧ !quoted then none else some text

def ended (session : Session) (status : UInt8) : Session := { session with status }

/-- The status of a condition. -/
def ofTest (result : Option Bool) : UInt8 :=
  match result with
  | some true => 0
  | some false => 1
  | none => 2

/-- Compares two whole numbers. -/
def compare? (operator : String) (left right : Int) : Option Bool :=
  match operator with
  | "-eq" => some (left == right)
  | "-ne" => some (left != right)
  | "-lt" => some (left < right)
  | "-le" => some (left ≤ right)
  | "-gt" => some (right < left)
  | "-ge" => some (right ≤ left)
  | _ => none

/-- The result of a condition, none if it makes no sense. -/
def test? : List String → Option Bool
  | [] => some false
  | [text] => some (text ≠ "")
  | ["!", text] => some (text = "")
  | ["-n", text] => some (text ≠ "")
  | ["-z", text] => some (text = "")
  | [left, "=", right] => some (left = right)
  | [left, "!=", right] => some (left ≠ right)
  | [left, operator, right] => do
    let left ← (Numeral.readSigned Numeral.largestSigned left.toList).toOption
    let right ← (Numeral.readSigned Numeral.largestSigned right.toList).toOption
    compare? operator left right
  | _ => none

/-- Sends a signal; only one to the script itself matters. -/
def send (session : Session) (signal : String) (target : String) : Session :=
  let short := if signal.startsWith "SIG" then String.ofList (signal.toList.drop 3) else signal
  match signal? short with
  | none => session.ended 2
  | some number =>
    if target ≠ identity ∨ isHarmless number then session.ended 0
    else { session with ending? := some (.killed number) }

/-- Runs one command and tells what it writes. -/
def perform (session : Session) : List String → Session × String
  | [] => (session.ended 0, "")
  | ["exit"] => ({ session with ending? := some (.exited session.status) }, "")
  | ["exit", status] =>
    match (Numeral.readUnsigned (UInt32.size / 2 - 1) status.toList).toOption with
    | some number => ({ session with ending? := some (.exited (UInt8.ofNat number)) }, "")
    | none => ({ session with ending? := some (.exited 2) }, "")
  | ["kill", target] => (session.send "TERM" target, "")
  | ["kill", "-s", signal, target] => (session.send signal target, "")
  | ["kill", signal, target] => (session.send (String.ofList (signal.toList.drop 1)) target, "")
  | "echo" :: "-n" :: words => (session.ended 0, " ".intercalate words)
  | "echo" :: words => (session.ended 0, " ".intercalate words ++ "\n")
  | "test" :: words => (session.ended (ofTest (test? words)), "")
  | "[" :: words =>
    if words.getLast? = some "]" then (session.ended (ofTest (test? words.dropLast)), "")
    else (session.ended 2, "")
  | ":" :: _ | "true" :: _ | "sleep" :: _ => (session.ended 0, "")
  | "false" :: _ => (session.ended 1, "")
  | _ => (session.ended 127, "")

/-- Runs a command if its link lets it. -/
def step (session : Session) (command : Command) : Session :=
  let idle := session.ending?.isSome ∨ (command.words.isEmpty ∧ command.output?.isNone) ∨
    (command.link = .afterSuccess ∧ session.status ≠ 0) ∨
    (command.link = .afterFailure ∧ session.status = 0)
  if idle then session
  else
    let (after, written) := session.perform (session.expand command.words)
    match command.output? with
    | none => after
    | some (append, path) =>
      match session.tree.write (session.text path.pieces) append written.toUTF8.toList with
      | .ok tree => { after with tree }
      | .error _ => session.ended 2

end Session

/-- Runs a script with its path and arguments. -/
def run (tree : FileTree) (script : List Char) (arguments : List String) : Ending × FileTree :=
  let session := (commands { link := .always } (scan {} .outside script)).foldl Session.step
    { tree, arguments }
  (session.ending?.getD (.exited session.status), session.tree)

end LoadProbe.Shell
