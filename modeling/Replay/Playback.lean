import Replay.Json.Record

/-! Playback: how fast a trace is played, and what a learner sees of its progress. -/
namespace Replay.Playback

open Json

/-- All times are in milliseconds. -/
structure Config where
  /-- The delay between two events; with none the loop only gives way to others. -/
  speed : UInt64 := 200
  /-- How often a paused loop looks whether it may go on. -/
  pausePoll : UInt64 := 100
  deriving DecidableEq, Inhabited

namespace Config

def toJson (c : Config) : Json :=
  .object [("speed_ms", natural c.speed), ("pause_poll_ms", natural c.pausePoll)]

/-- The parts of a configuration that are read so far. -/
structure Draft where
  speed : Option UInt64
  pausePoll : Option UInt64

def record : Record Draft Config where
  title := "struct PlaybackConfig"
  fields :=
    [.of "speed_ms" (Reader.natural "u64") (·.speed) (fun n d => { d with speed := some n }) true,
     .of "pause_poll_ms" (Reader.natural "u64") (·.pausePoll)
       (fun n d => { d with pausePoll := some n }) true]
  blank := ⟨none, none⟩
  build d :=
    let standard : Config := {}
    .ok ⟨d.speed.getD standard.speed, d.pausePoll.getD standard.pausePoll⟩

def reader : Reader Config := record.reader

end Config

inductive State where
  /-- No trace is loaded. -/
  | idle
  | playing
  | paused
  /-- Every event is delivered. -/
  | finished
  deriving DecidableEq, Repr

namespace State

def name : State → String
  | idle => "idle"
  | playing => "playing"
  | paused => "paused"
  | finished => "finished"

/-- The name with a capital, as summaries have it. -/
def title : State → String
  | idle => "Idle"
  | playing => "Playing"
  | paused => "Paused"
  | finished => "Finished"

def toJson (s : State) : Json := .text s.name

def reader : Reader State :=
  Reader.variant ([idle, playing, paused, finished].map fun s => (s.name, .unit s))

end State

end Replay.Playback
