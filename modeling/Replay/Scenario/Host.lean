import Replay.Report
import Replay.World.Script

/-!
A scripted host, with which levels are rehearsed: listeners and modules that log what happens to
them and carry out deeds laid down beforehand. This is the memory they share.
-/
namespace Replay.Scenario

structure ProbeState where
  seen : Nat
  /-- Its surface, once it is initialised. -/
  surface : Option Surface
  drawn : List ElementId

structure Host where
  /-- The log, last line first. -/
  log : List String
  /-- The subscription a tag names. -/
  tags : List (String × SubscriptionId)
  /-- How often each listener was called, in the order of their making. -/
  heard : List Nat
  probes : List (InstanceId × ProbeState)
  marks : List SubscriptionId
  /-- How many times the interpreter was asked. -/
  asked : Nat
  /-- What the last deed of the host itself came to. -/
  outcome : Json

namespace Host

def blank : Host := ⟨[], [], [], [], [], 0, .null⟩

def write (line : String) (h : Host) : Host := { h with log := line :: h.log }

def probe (h : Host) (i : InstanceId) : ProbeState :=
  (h.probes.lookup i).getD ⟨0, none, []⟩

def setProbe (h : Host) (i : InstanceId) (p : ProbeState) : Host :=
  { h with probes := (i, p) :: h.probes.filter (·.1 ≠ i) }

def setTag (h : Host) (tag : String) (id : SubscriptionId) : Host :=
  { h with tags := (tag, id) :: h.tags.filter (·.1 ≠ tag) }

end Host

def say (line : String) : Code Host Unit := Code.remember (Host.write line)

def probeKind : String := "oracle_driver::probe::Probe"

/-- What a look at a module tells: how many variables or events it has, or why it failed. -/
def describe (h : Host) (id : String) : Except Error View → String
  | .ok (.tracker m) => id ++ " " ++ displayNatural m.count
  | .ok (.foreign i) => id ++ " " ++ displayNatural (h.probe i).seen
  | .error e => e.message

def peek (id : String) : Code Host String := do
  let found ← Code.look id variablesKind
  let found ← match found with
    | .error (.wrongModuleKind _ _) => Code.look id probeKind
    | other => pure other
  return describe (← Code.consult) id found

end Replay.Scenario
