import Replay.Scenario.Host

/-! Deeds that hosts and listeners carry out, and listeners that log what they hear. -/
namespace Replay.Scenario

/-- What can be done through what a world offers. A listener's own deed may be limited to the first
few calls. -/
inductive Deed where
  | nothing
  | panic
  | subscribe (kind : Notice.Kind) (tag : String) (deed : Deed) (limit : Option Nat)
  | unsubscribe (tag : String)
  | clear
  | publish (json : String)
  | peek (id : String)
  | pause
  | setSpeed (speed : UInt64)
  | setCode (code : String)
  | state
  | currentState
  | start
  | resume

namespace Deed

def name : Deed → String
  | nothing => "log"
  | panic => "panic"
  | subscribe .. => "subscribe"
  | unsubscribe _ => "unsubscribe"
  | clear => "clear"
  | publish _ => "publish"
  | peek _ => "peek"
  | pause => "pause"
  | setSpeed _ => "set_speed"
  | setCode _ => "set_code"
  | state => "state"
  | currentState => "current_state"
  | start => "start"
  | resume => "resume"

def isLogged : Deed → Bool
  | nothing | panic => false
  | _ => true

/-- An outcome as it is logged: nothing to tell is `ok`, and a text stands without quotes. -/
def shown : Json → String
  | .null => "ok"
  | .text s => s
  | j => j.print

def count (n : Nat) : Json := wordToJson n

def perform : Deed → Code Host Json
  | nothing => pure .null
  | panic => Code.panic
  | subscribe kind tag deed limit => do
    let place := (← Code.consult).heard.length
    Code.remember fun h => { h with heard := h.heard ++ [0] }
    let id ← Code.subscribe kind fun n => Code.script do
      say (tag ++ " heard " ++ n.display)
      let calls := (← Code.consult).heard[place]?.getD 0
      Code.remember fun h => { h with heard := h.heard.set place (calls + 1) }
      if limit.all (calls < ·) then
        let outcome ← deed.perform
        if deed.isLogged then say (tag ++ " " ++ deed.name ++ " " ++ shown outcome)
    Code.remember (·.setTag tag id)
    return count id.number
  | unsubscribe tag => do
    match (← Code.consult).tags.lookup tag with
    | some id => return .bool (← Code.unsubscribe id)
    | none => return .bool false
  | clear => do
    Code.clearBus
    return .null
  | publish json =>
    match Notice.parse json with
    | .ok n => do return count (← Code.publish n)
    | .error e => return (Error.malformed e).report
  | peek id => do return .text (← Scenario.peek id)
  | pause => do
    Code.pause
    return .null
  | setSpeed speed => do
    Code.setSpeed speed
    return .null
  | setCode code => do
    Code.setCode code
    return .null
  | state => do
    let s ← Code.session
    return .text (s.state.name ++ " " ++ displayNatural s.index)
  | currentState => do return (← Code.session).current.report
  | start => do return count (← Code.start).number
  | resume => do return count (← Code.resume).number

def script (d : Deed) : Script Host := Code.script do
  let outcome ← d.perform
  Code.remember fun h => { h with outcome }

end Deed

/-- A hook that logs what was loaded and then carries out some deeds. -/
def hook (deeds : List Deed) (ids : List String) : Script Host := Code.script do
  let registered ← Code.registered
  say ("hook modules=" ++ ",".intercalate ids ++ " registry=" ++ displayNatural registered.length)
  for d in deeds do
    discard d.perform

end Replay.Scenario
