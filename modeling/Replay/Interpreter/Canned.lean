import Replay.Session.Basic

/-! An interpreter that gives the same answer whatever the code. -/
namespace Replay.Interpreter

structure Canned where
  /-- The trace, or the message of the failure. -/
  outcome : Except String Trace
  /-- How long an answer is to take, in milliseconds. -/
  delay : Nat
  calls : Nat

namespace Canned

def answer (c : Canned) : Answer :=
  match c.outcome with
  | .ok events => .ok events
  | .error message => .error (.interpreter message none)

def longest : Nat := 30 * 365 * 86400 * 1000

def time (c : Canned) : Nat := min c.delay longest

/-- The answer to a call, the time it takes, and the interpreter as it is afterwards. -/
def interpret (c : Canned) : Answer × Nat × Canned :=
  (c.answer, c.time, { c with calls := c.calls + 1 })

end Canned

end Replay.Interpreter
