import LoadProbe.Url.Read

/-!
The grammar of a command line: flags, and options with one value, which environment variables may
give as well. An option waits for its value until something else settles it; an argument with no
place in the grammar is reported before a bad value that still waits.
-/
namespace LoadProbe.CommandLine

/-- Why a text is no value of an option. -/
inductive ValueFault where
  | missing
  /-- The text is none of the values that there are. -/
  | unknown
  | invalid (cause : String)
  deriving DecidableEq, Repr

/-- What an option changes in the settings. -/
inductive Action (Settings : Type) where
  | flag (assign : Bool → Settings → Settings)
  | value (assign : String → Settings → Except ValueFault Settings)

structure Opt (Settings : Type) where
  /-- The name after two dashes. -/
  name : String
  /-- The environment variable that counts if the option is not given. -/
  environmentName : String
  action : Action Settings

inductive Failure where
  | help
  | version
  | unexpected (argument : String)
  | missingValue (label : String)
  | repeated (label : String)
  /-- A flag with a value. -/
  | unneededValue (value label : String)
  | unknownValue (value label : String)
  | invalidValue (value label cause : String)
  deriving DecidableEq, Repr

/-- The message of a wrong command line; help and version are no messages. -/
def Failure.message : Failure → String
  | .help | .version => ""
  | .unexpected argument => "error: unexpected argument '" ++ argument ++ "' found"
  | .missingValue label => "error: a value is required for '" ++ label ++ "' but none was supplied"
  | .repeated label => "error: the argument '" ++ label ++ "' cannot be used multiple times"
  | .unneededValue value label =>
    "error: unexpected value '" ++ value ++ "' for '" ++ label ++
      "' found; no more were expected"
  | .unknownValue value label => "error: invalid value '" ++ value ++ "' for '" ++ label ++ "'"
  | .invalidValue value label cause =>
    "error: invalid value '" ++ value ++ "' for '" ++ label ++ "': " ++ cause

/-- The first line of a text. -/
def firstLine (text : String) : String := String.ofList (text.toList.takeWhile (· != '\n'))

variable {Settings : Type}

namespace Opt

/-- The option as messages name it, with a word for its value. -/
def label (opt : Opt Settings) : String :=
  match opt.action with
  | .flag _ => "--" ++ opt.name
  | .value _ =>
    let word := opt.name.toList.map fun c => if c = '-' then '_' else c.toUpper
    "--" ++ opt.name ++ " <" ++ String.ofList word ++ ">"

/-- Puts a text into the settings; a flag takes `true` and `false`. -/
def assign (opt : Opt Settings) (text : String) (settings : Settings) : Except Failure Settings :=
  let result : Except ValueFault Settings :=
    match opt.action, text with
    | .flag assign, "true" => .ok (assign true settings)
    | .flag assign, "false" => .ok (assign false settings)
    | .flag _, _ => .error .unknown
    | .value assign, _ => assign text settings
  match result with
  | .ok settings => .ok settings
  | .error .missing => .error (.missingValue opt.label)
  | .error .unknown =>
    if text = "" then .error (.missingValue opt.label) else .error (.unknownValue text opt.label)
  | .error (.invalid cause) => .error (.invalidValue text opt.label cause)

end Opt

/-- A command line that is being read. -/
structure Progress (Settings : Type) where
  settings : Settings
  /-- The names of the options that were given. -/
  given : List String := []
  /-- An option that is not settled yet, with its value if that was seen. -/
  waiting? : Option (Opt Settings × Option String) := none

namespace Progress

/-- Takes the value of an option, or that a flag is raised. -/
def take (progress : Progress Settings) (opt : Opt Settings) (text : String) :
    Except Failure (Progress Settings) :=
  if progress.given.contains opt.name then .error (.repeated opt.label)
  else
    match opt.assign text progress.settings with
    | .ok settings => .ok { progress with settings, given := opt.name :: progress.given }
    | .error failure => .error failure

/-- Settles the option that waits, if there is one. -/
def settle (progress : Progress Settings) : Except Failure (Progress Settings) :=
  match progress.waiting? with
  | none => .ok progress
  | some (opt, none) => .error (.missingValue opt.label)
  | some (opt, some text) => { progress with waiting? := none }.take opt text

/-- What a name after two dashes means. -/
def readLong (opts : List (Opt Settings)) (name : String) (value? : Option String)
    (progress : Progress Settings) : Except Failure (Progress Settings) :=
  match name, value?, opts.find? fun opt => opt.name == name with
  | "help", none, _ => do let _ ← progress.settle; .error .help
  | "version", none, _ => do let _ ← progress.settle; .error .version
  | "help", some value, _ | "version", some value, _ =>
    .error (.unneededValue value ("--" ++ name))
  | _, _, none => .error (.unexpected ("--" ++ name))
  | _, value?, some opt =>
    match opt.action, value? with
    | .flag _, some value => .error (.unneededValue value opt.label)
    | .flag _, none => do (← progress.settle).take opt "true"
    | .value _, some value => do (← progress.settle).take opt value
    | .value _, none => do return { (← progress.settle) with waiting? := some (opt, none) }

/-- What a letter after one dash means. -/
def readShort (letter : Char) (progress : Progress Settings) :
    Except Failure (Progress Settings) :=
  match letter with
  | 'h' => do let _ ← progress.settle; .error .help
  | 'V' => do let _ ← progress.settle; .error .version
  | _ => .error (.unexpected (String.ofList ['-', letter]))

/-- What any other argument means: the value that an option waits for. -/
def readPlain (argument : String) (progress : Progress Settings) :
    Except Failure (Progress Settings) :=
  match progress.waiting? with
  | some (opt, none) => .ok { progress with waiting? := some (opt, some argument) }
  | _ => .error (.unexpected argument)

/-- Reads one argument. -/
def readArgument (opts : List (Opt Settings)) (argument : String) (progress : Progress Settings) :
    Except Failure (Progress Settings) :=
  match argument.toList with
  | '-' :: '-' :: long =>
    match Url.cut (· == '=') long with
    | (name, []) => readLong opts (String.ofList name) none progress
    | (name, _ :: value) =>
      readLong opts (String.ofList name) (some (String.ofList value)) progress
  | '-' :: letter :: _ => readShort letter progress
  | _ => readPlain argument progress

/-- Reads arguments; after two dashes alone there can be none. -/
def readArguments (opts : List (Opt Settings)) (progress : Progress Settings) :
    List String → Except Failure (Progress Settings)
  | [] => progress.settle
  | "--" :: [] => progress.settle
  | "--" :: argument :: _ => .error (.unexpected argument)
  | argument :: rest => do readArguments opts (← readArgument opts argument progress) rest

/-- Reads the environment for the options that were not given. -/
def readEnvironment (environment : List (String × String)) (progress : Progress Settings) :
    List (Opt Settings) → Except Failure (Progress Settings)
  | [] => .ok progress
  | opt :: rest =>
    match progress.given.contains opt.name, environment.lookup opt.environmentName with
    | false, some text => do readEnvironment environment (← progress.take opt text) rest
    | _, _ => readEnvironment environment progress rest

end Progress

/-- Reads a command line and the environment over settings that stand without them. -/
def read (opts : List (Opt Settings)) (settings : Settings) (arguments : List String)
    (environment : List (String × String)) : Except Failure Settings := do
  let progress ← Progress.readArguments opts { settings } arguments
  return (← Progress.readEnvironment environment progress opts).settings

end LoadProbe.CommandLine
