import Replay.Error
import Replay.Playback
import Replay.Trace.State

/-!
Sessions: the timeline of one level, and the runs that were made to fetch and play its traces. A run
is made by a start or a resumption and then polled, or dropped, by whoever owns it; nothing here
decides when.
-/
namespace Replay

/-- The number of a run, in the order of making. -/
structure RunId where
  number : Nat
  deriving DecidableEq, Repr

/-- What an interpreter answers. -/
abbrev Answer := Except Error Trace

namespace Run

inductive Purpose where
  /-- Fetch the trace of the code, then play it. -/
  | start (generation : Nat) (code : String)
  /-- Play on in a generation that nobody plays. -/
  | resume (generation : Nat)
  /-- There is nothing to do. -/
  | nothing

inductive Stage where
  | unpolled
  /-- The interpreter was asked and has not answered. -/
  | fetching
  /-- Between two looks at the timeline; `delay` is how long the wait is. -/
  | waiting (delay : UInt64)
  | finished (result : Except Error Unit)
  | panicked
  | dropped

namespace Stage

/-- Whether a run is neither over nor dropped. -/
def isOutstanding : Stage → Bool
  | unpolled | fetching | waiting _ => true
  | finished _ | panicked | dropped => false

end Stage

end Run

structure Run where
  purpose : Run.Purpose
  stage : Run.Stage

/-- The generation a run plays for. -/
def Run.generation? (r : Run) : Option Nat :=
  match r.purpose with
  | .start g _ | .resume g => some g
  | .nothing => none

structure Session where
  config : Playback.Config
  events : Trace
  loaded : Bool
  /-- The number of events delivered. -/
  index : Nat
  paused : Bool
  speed : UInt64
  code : String
  /-- Counts the starts; runs of earlier generations are out of date. -/
  generation : Nat
  /-- The generation that a run is playing. -/
  player : Option Nat
  runs : List Run

namespace Session

def new (config : Playback.Config) : Session where
  config := config
  events := []
  loaded := false
  index := 0
  paused := true
  speed := config.speed
  code := ""
  generation := 0
  player := none
  runs := []

def run? (s : Session) (r : RunId) : Option Run := s.runs[r.number]?

def setStage (s : Session) (r : RunId) (stage : Run.Stage) : Session :=
  { s with runs := s.runs.modify r.number fun run => { run with stage } }

def make (s : Session) (purpose : Run.Purpose) : RunId × Session :=
  (⟨s.runs.length⟩, { s with runs := s.runs ++ [⟨purpose, .unpolled⟩] })

/-- Begins anew with the code as it is: earlier runs are out of date from here on. -/
def start (s : Session) : RunId × Session :=
  let generation := s.generation + 1
  { s with
    generation
    events := []
    loaded := false
    index := 0
    paused := false
    player := some generation }.make (.start generation s.code)

/-- Lets a paused session go on, by a run of its own if none is playing. -/
def resume (s : Session) : RunId × Session :=
  if !s.paused then s.make .nothing
  else if s.player.isSome then { s with paused := false }.make .nothing
  else if !s.loaded || s.events.length ≤ s.index then s.make .nothing
  else { s with paused := false, player := some s.generation }.make (.resume s.generation)

def pause (s : Session) : Session := { s with paused := true }

def setSpeed (s : Session) (speed : UInt64) : Session := { s with speed }

def setCode (s : Session) (code : String) : Session := { s with code }

/-- Gives up the playing of a generation, unless another one is playing. -/
def release (s : Session) (generation : Nat) : Session :=
  if s.player = some generation then { s with player := none } else s

def close (s : Session) (r : RunId) (stage : Run.Stage) : Session :=
  let s := s.setStage r stage
  match (s.run? r).bind Run.generation? with
  | some g => s.release g
  | none => s

/-- Drops a run that is not over. -/
def drop (s : Session) (r : RunId) : Session :=
  match s.run? r with
  | some run => if run.stage.isOutstanding then s.close r .dropped else s
  | none => s

def state (s : Session) : Playback.State :=
  if !s.loaded then .idle
  else if s.events.length ≤ s.index then .finished
  else if s.paused then .paused
  else .playing

def isRunning (s : Session) : Bool := s.player.isSome

/-- What each place holds after the events delivered so far. -/
def current (s : Session) : Snapshot := Trace.stateAt s.events s.index

end Session

end Replay
