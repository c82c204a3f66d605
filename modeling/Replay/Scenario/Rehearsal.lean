import Replay.Interpreter.Canned
import Replay.Scenario.Theatre
import Replay.Session.Clock

/-! A host that plays a session on a virtual clock. -/
namespace Replay.Scenario

structure Rehearsal where
  clocked : Clocked Host
  level : Level
  hook : Option (List Deed)
  /-- The answers of the interpreter; the last one is given from there on. -/
  answers : List Interpreter.Canned

inductive RehearsalStep where
  | bus (s : BusStep)
  | init
  | start (held : Bool)
  | resume (held : Bool)
  | launch (run : RunId)
  | drop (run : RunId)
  | pause
  | setSpeed (speed : UInt64)
  | setCode (code : String)
  | wait (time : Nat)
  | reset
  | level
  | summary

namespace Rehearsal

def begin (builtin : Bool) (probes : List (String × Probe)) (config : Playback.Config)
    (level : Level) (hook : Option (List Deed)) (answers : List Interpreter.Canned) : Rehearsal :=
  ⟨.start (Stage.new (Theatre.catalog builtin probes) .recording config), level, hook, answers⟩

/-- The interpreter logs each call with the code. -/
def interpret (answers : List Interpreter.Canned) : Interpreting Host := fun h code =>
  let canned := (answers[h.asked]?.or answers.getLast?).getD ⟨.ok [], 0, 0⟩
  (⟨canned.answer, canned.time⟩,
    { h.write ("interpret " ++ displayNatural h.asked ++ " " ++ code) with asked := h.asked + 1 })

/-- Does something to the stage; the runs made by listeners meanwhile are launched. -/
def onStage (r : Rehearsal) (f : Stage → StepResult × Stage) : StepResult × Rehearsal :=
  let (result, world) := f r.clocked.world
  let made := Clocked.runsSince world.session r.clocked.world.session.runs.length
  (result, { r with clocked := { r.clocked with world, ready := r.clocked.ready ++ made } })

/-- Makes a run and, if that is wanted, keeps it from being polled. -/
def makeRun (r : Rehearsal) (d : Deed) (held : Bool) : StepResult × Rehearsal :=
  let made : RunId := ⟨r.clocked.world.session.runs.length⟩
  let (result, after) := r.onStage (Stage.deed · d)
  (result, if held then { after with clocked := after.clocked.hold made } else after)

def summary (r : Rehearsal) : String :=
  let c := r.clocked.world.session.config
  "LevelSession \x7b id: <id>, level: " ++ Text.quoted r.level.id ++
    ", config: PlaybackConfig \x7b speed_ms: " ++ displayNatural c.speed.toNat ++
    ", pause_poll_ms: " ++ displayNatural c.pausePoll.toNat ++ " \x7d, state: " ++
    r.clocked.world.session.state.title ++ " \x7d"

/-- A step, without what the runs do after it. -/
def act (r : Rehearsal) : RehearsalStep → StepResult × Rehearsal
  | .bus s => r.onStage s.step
  | .init => r.onStage fun s =>
    s.act (fun result => .ofError Theatre.moduleIds result)
      (World.initSession r.level (Theatre.hookOf r.hook))
  | .start held => r.makeRun .start held
  | .resume held => r.makeRun .resume held
  | .launch run => (.done, { r with clocked := r.clocked.launch run })
  | .drop run => (.done, { r with clocked := r.clocked.drop run })
  | .pause => r.onStage (Stage.deed · .pause)
  | .setSpeed speed => r.onStage (Stage.deed · (.setSpeed speed))
  | .setCode code => r.onStage (Stage.deed · (.setCode code))
  | .wait time => (.done, { r with clocked := r.clocked.wait (interpret r.answers) time })
  | .reset => r.onStage (Stage.run · World.reset)
  | .level => (.value (.text r.level.id), r)
  | .summary => (.value (.text r.summary), r)

def step (r : Rehearsal) (s : RehearsalStep) : StepResult × Rehearsal :=
  let (result, after) := r.act s
  (result, { after with clocked := after.clocked.settle (interpret r.answers) })

def standing (c : Clocked Host) (id : RunId) (run : Run) : Json :=
  match run.stage with
  | .unpolled | .fetching | .waiting _ => .text (if c.held.contains id then "held" else "live")
  | .finished (.ok _) => .text "ok"
  | .finished (.error e) => e.report
  | .panicked => StepResult.panicked.report
  | .dropped => .text "dropped"

def standings (r : Rehearsal) : List Json :=
  r.clocked.world.session.runs.mapIdx fun n run => standing r.clocked ⟨n⟩ run

end Rehearsal

end Replay.Scenario
