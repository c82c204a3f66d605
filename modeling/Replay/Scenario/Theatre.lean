import Replay.Scenario.Stage

/-! A host that loads levels into a stage and plays events to their modules. -/
namespace Replay.Scenario

structure Theatre where
  stage : Stage
  /-- The events played so far, replays apart. -/
  history : Trace
  /-- The modules of the last level that was loaded. -/
  kept : List (String × InstanceId)

inductive TheatreStep where
  | bus (s : BusStep)
  | initLevel (l : Level) (hook : Option (List Deed))
  | event (json : String)
  | replay (json : String) (count : Option Nat)
  | reset
  | cleanup
  | update (elapsed : UInt64)
  | remove (name : String)
  | peek (id : String)
  | context
  | kept
  | summary
  | drop

namespace Theatre

/-- What a catalog offers: the modules that come with the library, if wanted, and some probes by
name. -/
def catalog (builtin : Bool) (probes : List (String × Probe)) : Catalog Host :=
  probes.foldl (fun c (name, p) => c.insert name (.foreign p.toModule))
    (if builtin then .builtin else ∅)

def start (builtin : Bool) (probes : List (String × Probe)) : Theatre :=
  ⟨Stage.new (catalog builtin probes) .recording {}, [], []⟩

def hookOf : Option (List Deed) → Hook Host
  | some deeds => hook deeds
  | none => fun _ => .done

def run (t : Theatre) (a : Act Host Unit) : StepResult × Theatre :=
  let (result, stage) := t.stage.run a
  (result, { t with stage })

/-- Plays the first `count` events of a trace, each with those before it, until one panics. -/
def playAll (events : Trace) (count : Nat) : Act Host Unit :=
  (List.range (min count events.length)).forM fun n =>
    match events[n]? with
    | some event => World.broadcast event (events.take (n + 1))
    | none => pure ()

def moduleIds (modules : List (String × InstanceId)) : Json := Json.texts (modules.map (·.1))

/-- What became of a module that was loaded: whether it is still the registered one, and whether
it is destroyed, where that can be told. -/
def fate (s : Stage) (id : String) (i : InstanceId) : Json :=
  let same := match s.registry.get id with
    | .ok j => i == j
    | .error _ => false
  let destroyed := match s.body? i with
    | some (.tracker m) => Json.bool m.destroyed
    | _ => .null
  .list [.text id, .bool same, destroyed]

def step (t : Theatre) : TheatreStep → StepResult × Theatre
  | .bus s =>
    let (result, stage) := s.step t.stage
    (result, { t with stage })
  | .initLevel l hook =>
    let (result, stage) := (World.initLevel l (hookOf hook)).run t.stage
    match result with
    | .ok (.ok modules) => (.value (moduleIds modules), { t with stage, kept := modules })
    | .ok (.error e) => (.error e, { t with stage })
    | .error _ => (.panicked, { t with stage })
  | .event json =>
    match Event.parse json with
    | .error e => (.error (.malformed e), t)
    | .ok event =>
      let history := t.history ++ [event]
      { t with history }.run (World.broadcast event history)
  | .replay json count =>
    match Trace.parse json with
    | .error e => (.error (.malformed e), t)
    | .ok events => t.run (playAll events (count.getD events.length))
  | .reset => t.run World.reset
  | .cleanup => t.run World.cleanup
  | .update elapsed => t.run (World.update elapsed)
  | .remove name =>
    let (removed, stage) := t.stage.removeVariable Variables.name name
    (.ofError (fun v => .bool v.isSome) removed, { t with stage })
  | .peek id => (.value (.text (t.stage.peek id)), t)
  | .context =>
    let root := t.stage.visualiser.root
    (.value (.list [root.id.toJson, .text root.scope, Json.texts t.stage.registry.ids,
      Json.texts t.stage.visualiser.catalog.names]), t)
  | .kept => (.value (.list (t.kept.map fun (id, i) => fate t.stage id i)), t)
  | .summary => (.value (.text t.stage.summary), t)
  | .drop => t.run World.dismantle

end Theatre

end Replay.Scenario
