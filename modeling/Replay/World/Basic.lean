import Replay.World.Script

/-!
The world a level is played in: the bus, the renderer, all module instances, which of them are
registered and which are in the middle of a call, the session, and the memory of foreign code.
-/
namespace Replay

/-- What a module instance is. -/
inductive Body (σ : Type) where
  | tracker (m : Variables)
  | foreign (m : ForeignModule σ)

namespace Body

variable {σ : Type}

def id : Body σ → String
  | tracker _ => Variables.name
  | foreign m => m.id

def dependencies : Body σ → List String
  | tracker _ => []
  | foreign m => m.dependencies

def kind : Body σ → String
  | tracker _ => variablesKind
  | foreign m => m.kind

def view (i : InstanceId) : Body σ → View
  | tracker m => .tracker m
  | foreign _ => .foreign i

end Body

/-- The makers of modules by the names levels use. -/
abbrev Catalog (σ : Type) := Std.TreeMap String (Body σ)

namespace Catalog

variable {σ : Type}

def builtin : Catalog σ := (∅ : Std.TreeMap String (Body σ)).insert Variables.name (.tracker .blank)

def make (catalog : Catalog σ) (name : String) : Except Error (Body σ) :=
  match catalog[name]? with
  | some body => .ok body
  | none => .error (.unknownModule name)

def names (c : Catalog σ) : List String := c.keys

def summary (c : Catalog σ) : String :=
  "ModuleCatalog \x7b modules: " ++ Text.quotedList c.names ++ " \x7d"

end Catalog

/-- The registered modules by id, in the order in which the ids were first registered. -/
structure Registry where
  entries : List (String × InstanceId)

namespace Registry

def empty : Registry := ⟨[]⟩

/-- Registers an instance; one with the same id gives up its place to it. -/
def register (r : Registry) (id : String) (i : InstanceId) : Registry :=
  if r.entries.any (·.1 = id) then
    ⟨r.entries.map fun entry => if entry.1 = id then (id, i) else entry⟩
  else ⟨r.entries ++ [(id, i)]⟩

def get (r : Registry) (id : String) : Except Error InstanceId :=
  match r.entries.lookup id with
  | some i => .ok i
  | none => .error (.moduleNotFound id)

def has (r : Registry) (id : String) : Bool := r.entries.any (·.1 = id)

def ids (r : Registry) : List String := r.entries.map (·.1)

def all (r : Registry) : List InstanceId := r.entries.map (·.2)

def summary (r : Registry) : String :=
  "ModuleRegistry \x7b modules: " ++ Text.quotedList r.ids ++ " \x7d"

end Registry

/-- What happened to the modules: the calls they got and the notices that were published. -/
inductive Entry where
  | call (i : InstanceId) (c : Call)
  | notice (n : Notice)
  deriving DecidableEq

/-- What a visualiser adds to the registry and the bus of the world. -/
structure Visualiser (σ : Type) where
  catalog : Catalog σ
  root : Surface
  /-- A surface for each loaded module, in the order of loading. -/
  mounts : List SurfaceHandle
  /-- The subscriptions made while the level was loaded. -/
  levelSubscriptions : List SubscriptionId
  levelId : Option String

structure World (σ : Type) where
  bus : Bus (Notice → Script σ)
  renderer : Renderer
  /-- All instances ever made; an instance is named by its place. -/
  instances : List (Body σ)
  registry : Registry
  /-- The instances in the middle of a call, innermost first. -/
  busy : List InstanceId
  visualiser : Visualiser σ
  session : Session
  memory : σ
  /-- How deep publications may be nested. -/
  nesting : Nat
  /-- All calls and notices, last first: laws about the course of events speak of these. -/
  journal : List Entry

namespace World

variable {σ : Type}

def body? (w : World σ) (i : InstanceId) : Option (Body σ) := w.instances[i.number]?

def isBusy (w : World σ) (i : InstanceId) : Bool := w.busy.contains i

def addInstance (w : World σ) (b : Body σ) : InstanceId × World σ :=
  (⟨w.instances.length⟩, { w with instances := w.instances ++ [b] })

def setBody (w : World σ) (i : InstanceId) (b : Body σ) : World σ :=
  { w with instances := w.instances.set i.number b }

/-- Typed access: the instance registered under the id has to be free, and of the kind. -/
def reach (w : World σ) (id kind : String) : Except Error (InstanceId × Body σ) :=
  match w.registry.get id with
  | .error e => .error e
  | .ok i =>
    if w.isBusy i then .error (.moduleBusy id)
    else match w.body? i with
      | some b => if b.kind = kind then .ok (i, b) else .error (.wrongModuleKind id kind)
      | none => .error (.moduleNotFound id)

def register (w : World σ) (i : InstanceId) : World σ :=
  match w.body? i with
  | some b => { w with registry := w.registry.register b.id i }
  | none => w

end World

end Replay
