import Replay.Interpreter.Config
import Replay.Interpreter.Ending
import Replay.Session.Basic
import Replay.Trace.Parse
import Replay.Text.Blank
import Replay.Text.Utf8

/-!
Interpreters that are programs: the code goes in, a trace comes out. Of a process only its outcome
matters; which outcomes make a trace, and which of several troubles is told, is decided here.
-/
namespace Replay.Interpreter

/-- Why the code could not be sent in full. -/
inductive WriteFault where
  /-- The process took no more. -/
  | brokenPipe
  | other (f : SystemFault)
  deriving DecidableEq, Repr

structure Output where
  ending : Ending
  stdout : List UInt8
  stderr : List UInt8

inductive Outcome where
  | notSpawned (f : SystemFault)
  /-- The exchange was not over at the deadline. -/
  | late
  | exchanged (written : Except WriteFault Unit) (output : Except SystemFault Output)

/-- The trace on the standard output of a process that ended well. -/
def traceOf (stdout : List UInt8) : Answer :=
  match Trace.parse (Replay.Text.utf8Lossy stdout) with
  | .ok events => .ok events
  | .error e =>
    .error (.interpreter "Interpreter produced an invalid trace" (some (.error (.malformed e))))

/-- The answer of a program run. A broken pipe is no trouble, for a program need not read its input;
other trouble with the input is told only of a program that ended well. -/
def Config.answer (c : Config) : Outcome → Answer
  | .notSpawned f => .error (.interpreter ("Failed to spawn " ++ c.program) (some (.system f)))
  | .late => .error (.timeout c.timeout)
  | .exchanged _ (.error f) =>
    .error (.interpreter "Failed to read interpreter output" (some (.system f)))
  | .exchanged written (.ok output) =>
    if output.ending.isSuccess then
      match written with
      | .error (.other f) =>
        .error (.interpreter "Failed to send code to interpreter" (some (.system f)))
      | _ => traceOf output.stdout
    else
      let stderr := Replay.Text.trim (Replay.Text.utf8Lossy output.stderr)
      .error (.interpreter ("Interpreter exited with " ++ output.ending.describe ++ ": " ++ stderr)
        none)

/-- The answer of an interpreter that runs a program, where `launch` tells what becomes of the
program of a configuration when it is sent some code. -/
def Config.interpret (launch : Config → String → Outcome) (c : Config) (code : String) : Answer :=
  c.answer (launch c code)

end Replay.Interpreter
