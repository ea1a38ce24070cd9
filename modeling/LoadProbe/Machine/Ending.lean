import LoadProbe.Numeral

/-!
How processes end: on their own with a status, or by a signal.
-/
namespace LoadProbe

inductive Ending where
  | exited (status : UInt8)
  | killed (signal : Nat)
  deriving DecidableEq, Repr

/-- The names of the signals from one on. -/
def signalNames : List String :=
  ["HUP", "INT", "QUIT", "ILL", "TRAP", "ABRT", "BUS", "FPE", "KILL", "USR1", "SEGV", "USR2",
    "PIPE", "ALRM", "TERM", "STKFLT", "CHLD", "CONT", "STOP", "TSTP", "TTIN", "TTOU", "URG", "XCPU",
    "XFSZ", "VTALRM", "PROF", "WINCH", "IO", "PWR", "SYS"]

/-- The signal of a name or a number. -/
def signal? (text : String) : Option Nat :=
  match (Numeral.readUnsigned 64 text.toList).toOption with
  | some number => some number
  | none => (signalNames.findIdx? (· == text)).map (· + 1)

/-- The signals that end no process. -/
def isHarmless (signal : Nat) : Bool :=
  signal == 0 || (signal? "CHLD").any (· == signal) || (signal? "CONT").any (· == signal) ||
    (signal? "URG").any (· == signal) || (signal? "WINCH").any (· == signal)

namespace Ending

def isSuccess (ending : Ending) : Bool := ending == .exited 0

def message : Ending → String
  | .exited status => "exit status: " ++ String.ofList (Numeral.digits status.toNat)
  | .killed signal =>
    let name :=
      match signalNames[signal - 1]? with
      | some name => " (SIG" ++ name ++ ")"
      | none => ""
    "signal: " ++ String.ofList (Numeral.digits signal) ++ name

end Ending
end LoadProbe
