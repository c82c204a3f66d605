import Replay.Scenario.Stage

/-! Hosts that deal with modules: through a registry, or with the variables module in hand. -/
namespace Replay.Scenario

/-- A host that keeps handles to module instances under labels. -/
structure Cast where
  stage : Stage
  labels : List (String × InstanceId)
  /-- The events broadcast so far. -/
  history : Trace

inductive CastStep where
  | handle (label : String) (body : Body Host)
  | register (label : String) (body : Body Host)
  | registerHandle (label : String)
  | get (id : String)
  | has (id : String)
  | all
  | clear
  | summary
  | broadcast (json : String)
  /-- A look at a module of a kind, while the handle with a label is held if there is one. -/
  | look (id kind hold : String)
  /-- Taking something out of a module: a variable, or what a probe has seen. -/
  | take (id kind name hold : String)

namespace Cast

def start : Cast := ⟨Stage.new ∅ .blind {}, [], []⟩

def addHandle (c : Cast) (label : String) (b : Body Host) : InstanceId × Cast :=
  let (i, stage) := c.stage.addInstance b
  (i, { c with stage, labels := (label, i) :: c.labels.filter (·.1 ≠ label) })

/-- The stage while the handle with a label, if there is one, is in the middle of a call. -/
def holding (c : Cast) (hold : String) : Stage :=
  match c.labels.lookup hold with
  | some i => { c.stage with busy := i :: c.stage.busy }
  | none => c.stage

def handleSummary (id : String) : String := "ModuleHandle \x7b id: " ++ Text.quoted id ++ " \x7d"

def look (s : Stage) (id kind : String) : StepResult :=
  match s.reach id kind with
  | .error e => .error e
  | .ok (_, .tracker m) => .value (Deed.count m.count)
  | .ok (i, .foreign _) => .value (Deed.count (s.memory.probe i).seen)

def take (s : Stage) (id kind name : String) : StepResult × Stage :=
  match s.reach id kind with
  | .error e => (.error e, s)
  | .ok (_, .tracker _) =>
    let (removed, after) := s.removeVariable id name
    (.ofError (fun v => .bool v.isSome) removed, after)
  | .ok (i, .foreign _) =>
    let p := s.memory.probe i
    (.value (Deed.count p.seen), { s with memory := s.memory.setProbe i { p with seen := 0 } })

def step (c : Cast) : CastStep → StepResult × Cast
  | .handle label b => (.done, (c.addHandle label b).2)
  | .register label b =>
    let (i, c) := c.addHandle label b
    (.value (.text b.id), { c with stage := c.stage.register i })
  | .registerHandle label =>
    match c.labels.lookup label with
    | some i => (.done, { c with stage := c.stage.register i })
    | none => (.value (.object [("error", .text "bad_input")]), c)
  | .get id =>
    match c.stage.registry.get id with
    | .error e => (.error e, c)
    | .ok i =>
      let labels := (c.labels.filter (·.2 = i)).map (·.1)
      (.value (Json.texts (labels.mergeSort (· ≤ ·))), c)
  | .has id => (.value (.bool (c.stage.registry.has id)), c)
  | .all => (.value (Json.texts (c.stage.registry.ids.map handleSummary)), c)
  | .clear => (.done, { c with stage := { c.stage with registry := .empty } })
  | .summary => (.value (.text c.stage.registry.summary), c)
  | .broadcast json =>
    match Event.parse json with
    | .error e => (.error (.malformed e), c)
    | .ok event =>
      let history := c.history ++ [event]
      let (result, stage) := c.stage.run (World.broadcast event history)
      (result, { c with stage, history })
  | .look id kind hold => (look (c.holding hold) id kind, c)
  | .take id kind name hold =>
    let (result, stage) := take (c.holding hold) id kind name
    (result, { c with stage := { stage with busy := c.stage.busy } })

end Cast

/-- A host that has the variables module in hand, and the surfaces it gave to it. -/
structure Solo where
  stage : Stage
  surfaces : List SurfaceHandle

inductive SoloStep where
  | init
  | event (json : String)
  | reset
  | destroy
  | update (elapsed : UInt64)
  | remove (name : String)
  | get (name : String)
  | dropSurface

namespace Solo

def module : InstanceId := ⟨0⟩

/-- Two listeners log what the module tells. -/
def start : Solo :=
  let stage := Stage.new ∅ .blind {}
  let (root, renderer) := SurfaceHandle.create .recording none "root"
  let stage : Stage := { stage with
    renderer
    instances := [.tracker .blank]
    visualiser := { stage.visualiser with root := root.surface } }
  let (_, stage) := stage.deed (.subscribe .declared "d" .nothing none)
  let (_, stage) := stage.deed (.subscribe .changed "c" .nothing none)
  ⟨stage, []⟩

def tracker (s : Solo) : Variables :=
  match s.stage.body? module with
  | some (.tracker m) => m
  | _ => .blank

def call (s : Solo) (c : Call) : StepResult × Solo :=
  let (result, stage) := s.stage.run (World.call module c)
  (result, { s with stage })

def variableText : Option Variable → Json
  | some v => .text v.toJson.print
  | none => .null

def step (s : Solo) : SoloStep → StepResult × Solo
  | .init =>
    let root := s.stage.visualiser.root
    let (h, renderer) := SurfaceHandle.create s.stage.renderer (some root.id) Variables.name
    { s with
      stage := { s.stage with renderer }
      surfaces := h :: s.surfaces }.call (.init root h.surface)
  | .event json =>
    match Event.parse json with
    | .error e => (.error (.malformed e), s)
    | .ok event => s.call (.handle event [event])
  | .reset => s.call .reset
  | .destroy => s.call .destroy
  | .update elapsed => s.call (.update elapsed)
  | .remove name =>
    let (removed, m, renderer) := s.tracker.remove s.stage.renderer name
    (.value (variableText removed),
      { s with stage := { s.stage.setBody module (.tracker m) with renderer } })
  | .get name => (.value (variableText (s.tracker.get? name)), s)
  | .dropSurface =>
    match s.surfaces with
    | [] => (.value (.bool false), s)
    | h :: rest =>
      (.value (.bool true),
        { stage := { s.stage with renderer := (h.release s.stage.renderer).2 }, surfaces := rest })

end Solo

end Replay.Scenario
