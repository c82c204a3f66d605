import Replay.Scenario.Host
import Replay.World.Basic

/-! Probes: modules that log every call, and can be told to listen, to look at other modules, to
draw and to panic. -/
namespace Replay.Scenario

structure Probe where
  id : String
  dependencies : List String
  /-- The kinds of notices to listen to. -/
  listensTo : List Notice.Kind
  /-- The kind of event to panic at. -/
  panicsAt : Option Event.Kind
  /-- The module to look at behind each event. -/
  peeksAt : Option String
  /-- Whether to draw an element for each event. -/
  draws : Bool

namespace Probe

def wipe (i : InstanceId) : Code Host Unit := do
  for e in ((← Code.consult).probe i).drawn do
    Code.removeElement e
  Code.remember fun h => h.setProbe i { h.probe i with drawn := [] }

def init (p : Probe) (i : InstanceId) (root own : Surface) : Code Host Unit := do
  let ids ← Code.registered
  say (p.id ++ " init surface=" ++ own.scope ++ " root=" ++ root.scope ++ " registry=" ++
    ",".intercalate ids)
  Code.remember fun h => h.setProbe i { h.probe i with surface := some own }
  for kind in p.listensTo do
    discard (Code.subscribe kind fun n => (say (p.id ++ " heard " ++ n.display)).script)

def handle (p : Probe) (i : InstanceId) (event : Event) (history : Trace) : Code Host Unit := do
  if p.panicsAt = some event.kind then
    say (p.id ++ " panics")
    Code.panic
  else
    Code.remember fun h => h.setProbe i { h.probe i with seen := (h.probe i).seen + 1 }
    say (p.id ++ " event " ++ event.kind.display ++ " history=" ++ displayNatural history.length)
    match ((← Code.consult).probe i).surface with
    | none => pure ()
    | some s =>
      match p.peeksAt with
      | some id => say (p.id ++ " peek " ++ (← peek id))
      | none => pure ()
      if p.draws then
        let e ← Code.createElement s ⟨.variableBox, p.id, event.display, none⟩
        Code.remember fun h => h.setProbe i { h.probe i with drawn := (h.probe i).drawn ++ [e] }

def respond (p : Probe) (i : InstanceId) : Call → Code Host Unit
  | .init root own => p.init i root own
  | .handle event history => p.handle i event history
  | .reset => do
    say (p.id ++ " reset")
    Code.remember fun h => h.setProbe i { h.probe i with seen := 0 }
    wipe i
  | .destroy => do
    say (p.id ++ " destroy")
    wipe i
  | .update elapsed => say (p.id ++ " update " ++ displayNatural elapsed.toNat)

def toModule (p : Probe) : ForeignModule Host where
  id := p.id
  dependencies := p.dependencies
  kind := probeKind
  respond i c := (p.respond i c).script

end Probe

end Replay.Scenario
