import Replay.World.Visualiser

/-!
Polling runs. A start fetches its trace and then plays it; playing is looking at the timeline, which
delivers at most one event, and waiting. Every look makes sure first that the run is not out of
date.
-/
namespace Replay

namespace World

variable {σ : Type}

def modifySession (f : Session → Session) : Act σ Unit :=
  modify fun w => { w with session := f w.session }

/-- Looks at the timeline for a generation. The result is how long to wait before the next look, or
nothing when there is no more to do. -/
def look (generation : Nat) : Act σ (Option UInt64) := do
  let s := (← get).session
  if s.generation ≠ generation then return none
  match s.events[s.index]? with
  | none =>
    modifySession Session.pause
    return none
  | some event =>
    if s.paused then return some s.config.pausePoll
    broadcast event (s.events.take (s.index + 1))
    modifySession fun now =>
      if now.generation = generation then { now with index := s.index + 1 } else now
    return some (← get).session.speed

def play (generation : Nat) : Act σ Run.Stage := do
  match ← look generation with
  | some delay => return .waiting delay
  | none => return .finished (.ok ())

/-- Takes an answer of the interpreter. One that comes too late is passed on and nothing more; after
a failure the session is paused with no trace. -/
def receive (generation : Nat) (answer : Answer) : Act σ Run.Stage := do
  let s := (← get).session
  if s.generation ≠ generation then return .finished (answer.map fun _ => ())
  match answer with
  | .error e =>
    modifySession Session.pause
    reset
    return .finished (.error e)
  | .ok events =>
    modifySession fun s => { s with events, loaded := true, index := 0 }
    reset
    play generation

/-- What a poll of an outstanding run comes to; `answer` is what the interpreter has answered, if it
has. -/
def progress (run : Run) (answer : Option Answer) : Act σ Run.Stage :=
  match run.purpose, run.stage with
  | .start generation _, .unpolled | .start generation _, .fetching =>
    match answer with
    | some a => receive generation a
    | none => pure .fetching
  | .start generation _, _ | .resume generation, _ => play generation
  | .nothing, _ => pure (.finished (.ok ()))

/-- Polls a run. One that is over by then gives up what it holds, also if a panic ends it. -/
def poll (r : RunId) (answer : Option Answer) : Act σ Unit := do
  match (← get).session.run? r with
  | none => pure ()
  | some run =>
    if run.stage.isOutstanding then
      let stage ← ExceptT.mk fun w =>
        match (progress run answer).run w with
        | (.error .panic, after) => (.ok .panicked, after)
        | result => result
      modifySession fun s => if stage.isOutstanding then s.setStage r stage else s.close r stage

/-- Loads the level of a session and takes its code. -/
def initSession (l : Level) (hook : Hook σ) :
    Act σ (Except Error (List (String × InstanceId))) := do
  let result ← initLevel l hook
  match result with
  | .ok _ => modifySession (·.setCode l.code)
  | .error _ => pure ()
  return result

end World

end Replay
