/-! How processes end, and the signals that can end them. -/
namespace Replay.Interpreter

inductive Ending where
  | exit (status : Nat)
  /-- A signal ended it; its memory may have been dumped. -/
  | signal (number : Nat) (dumped : Bool)
  deriving DecidableEq, Repr

def signalNames : List String :=
  ["HUP", "INT", "QUIT", "ILL", "TRAP", "ABRT", "BUS", "FPE", "KILL", "USR1", "SEGV", "USR2",
   "PIPE", "ALRM", "TERM", "STKFLT", "CHLD", "CONT", "STOP", "TSTP", "TTIN", "TTOU", "URG",
   "XCPU", "XFSZ", "VTALRM", "PROF", "WINCH", "IO", "PWR", "SYS"]

def signalName? (number : Nat) : Option String :=
  if number = 0 then none else signalNames[number - 1]?

namespace Ending

def isSuccess (e : Ending) : Bool := e == .exit 0

def describe : Ending → String
  | exit n => "exit status: " ++ String.ofList (Nat.toDigits 10 n)
  | signal n dumped =>
    "signal: " ++ String.ofList (Nat.toDigits 10 n) ++
      ((signalName? n).map fun name => " (SIG" ++ name ++ ")").getD "" ++
      if dumped then " (core dumped)" else ""

end Ending

end Replay.Interpreter
