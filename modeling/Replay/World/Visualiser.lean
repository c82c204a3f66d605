import Replay.World.Action
import Replay.World.Order

/-!
Loading a level into a world and taking it out again. What belongs to a level is its modules, their
surfaces, and the subscriptions made while it was loaded.
-/
namespace Replay

/-- What a level does once its modules are initialised: foreign code that is given their ids. -/
abbrev Hook (σ : Type) := List String → Script σ

namespace World

variable {σ : Type}

/-- The scope of the root surface. -/
def rootScope : String := "visualiser"

/-- A world with nothing loaded but a root surface. -/
def new (catalog : Catalog σ) (renderer : Renderer) (config : Playback.Config) (nesting : Nat)
    (memory : σ) : World σ :=
  let (root, renderer) := SurfaceHandle.create renderer none rootScope
  { bus := .empty
    renderer
    instances := []
    registry := .empty
    busy := []
    visualiser := ⟨catalog, root.surface, [], [], none⟩
    session := .new config
    memory
    nesting
    journal := [] }

def modifyVisualiser (f : Visualiser σ → Visualiser σ) : Act σ Unit :=
  modify fun w => { w with visualiser := f w.visualiser }

def unsubscribeAll (b : Bus (Notice → Script σ)) (ids : List SubscriptionId) :
    Bus (Notice → Script σ) :=
  ids.foldl (fun b id => (b.unsubscribe id).2) b

def releaseAll (r : Renderer) (mounts : List SurfaceHandle) : Renderer :=
  mounts.foldl (fun r h => (h.release r).2) r

def isBare (w : World σ) : Bool :=
  w.registry.entries.isEmpty && w.visualiser.mounts.isEmpty &&
    w.visualiser.levelSubscriptions.isEmpty

/-- Takes out the level: its subscriptions first, then its modules, then their surfaces. Where there
is nothing to take out nothing is done. -/
def cleanup : Act σ Unit := do
  let w ← get
  if w.isBare then return
  set { w with
    bus := unsubscribeAll w.bus w.visualiser.levelSubscriptions
    visualiser := { w.visualiser with levelSubscriptions := [] } }
  callAll .destroy w.registry.all
  modify fun w => { w with
    renderer := releaseAll w.renderer w.visualiser.mounts
    registry := .empty
    visualiser := { w.visualiser with mounts := [], levelId := none } }

/-- Makes the modules a level asks for, in the order of initialisation. -/
def makeModules (c : Catalog σ) (l : Level) : Except Error (List (Body σ)) := do
  let bodies ← l.modules.mapM c.make
  LoadOrder.arrange Body.id Body.dependencies l.id bodies

/-- Registers all modules, so that they see each other while they are initialised. -/
def registerAll : List (Body σ) → Act σ (List (String × InstanceId))
  | [] => pure []
  | b :: rest => do
    let w ← get
    let (i, w) := w.addInstance b
    set (w.register i)
    let later ← registerAll rest
    return (b.id, i) :: later

def withdrawn (w : World σ) (mount : SurfaceHandle) : World σ :=
  { w with renderer := (mount.release w.renderer).2 }

/-- Carries out an action on a surface that nobody else keeps: where a panic cuts the action off,
the surface is released before the panic goes on. -/
def lending (mount : SurfaceHandle) (act : Act σ Unit) : Act σ Unit :=
  ExceptT.mk fun w =>
    match act.run w with
    | (.error .panic, after) => (.error .panic, after.withdrawn mount)
    | outcome => outcome

def initialise (id : String) (i : InstanceId) : Act σ Unit := do
  let w ← get
  let (mount, renderer) := SurfaceHandle.create w.renderer (some w.visualiser.root.id) id
  set { w with renderer }
  lending mount (call i (.init w.visualiser.root mount.surface))
  modifyVisualiser fun v => { v with mounts := v.mounts ++ [mount] }

def initialiseAll : List (String × InstanceId) → Act σ Unit
  | [] => pure ()
  | (id, i) :: rest => do
    initialise id i
    initialiseAll rest

/-- Loads a level in the place of the one before, and tells its modules in the order of
initialisation. A level that cannot be loaded leaves none loaded. -/
def initLevel (l : Level) (hook : Hook σ) : Act σ (Except Error (List (String × InstanceId))) := do
  cleanup
  let w ← get
  let mark := w.bus.mark
  match makeModules w.visualiser.catalog l with
  | .error e => return .error e
  | .ok bodies =>
    let modules ← registerAll bodies
    initialiseAll modules
    run (hook (modules.map (·.1)))
    modify fun w => { w with visualiser := { w.visualiser with
      levelSubscriptions := w.bus.since mark
      levelId := some l.id } }
    return .ok modules

/-- Resets every module. -/
def reset : Act σ Unit := do
  let w ← get
  callAll .reset w.registry.all

def update (elapsed : UInt64) : Act σ Unit := do
  let w ← get
  callAll (.update elapsed) w.registry.all

/-- Takes out the level and the root surface. -/
def dismantle : Act σ Unit := do
  cleanup
  modify fun w => { w with renderer := w.renderer.removeSurface w.visualiser.root.id }

/-- What typed access to the variables module sees. -/
def tracker (w : World σ) : Except Error Variables :=
  match w.reach Variables.name variablesKind with
  | .ok (_, .tracker m) => .ok m
  | .ok (_, .foreign _) => .error (.wrongModuleKind Variables.name variablesKind)
  | .error e => .error e

/-- Takes a variable out of the variables module registered under an id. -/
def removeVariable (w : World σ) (id name : String) : Except Error (Option Variable) × World σ :=
  match w.reach id variablesKind with
  | .ok (i, .tracker m) =>
    let (removed, m, renderer) := m.remove w.renderer name
    (.ok removed, { w.setBody i (.tracker m) with renderer })
  | .ok (_, .foreign _) => (.error (.wrongModuleKind id variablesKind), w)
  | .error e => (.error e, w)

def summary (w : World σ) : String :=
  let level := match w.visualiser.levelId with
    | some id => "Some(" ++ Text.quoted id ++ ")"
    | none => "None"
  "Visualiser \x7b level_id: " ++ level ++ ", registry: " ++ w.registry.summary ++
    ", catalog: " ++ w.visualiser.catalog.summary ++ " \x7d"

end World

end Replay
