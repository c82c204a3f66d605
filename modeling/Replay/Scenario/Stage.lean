import Replay.Scenario.Listener
import Replay.Scenario.Probe
import Replay.World.Visualiser

/-! What a scripted host does in a world, step by step, and what each step comes to. -/
namespace Replay.Scenario

abbrev Stage := World Host

/-- What a step came to: something to tell, an error, or a panic of a module. -/
inductive StepResult where
  | value (j : Json)
  | error (e : Error)
  | panicked

namespace StepResult

def done : StepResult := value .null

def ofHalt {α : Type} (f : α → StepResult) : Except Halt α → StepResult
  | .ok a => f a
  | .error _ => panicked

def ofError {α : Type} (f : α → Json) : Except Error α → StepResult
  | .ok a => value (f a)
  | .error e => error e

def report : StepResult → Json
  | value j => j
  | error e => e.report
  | panicked => .object [("error", .text "panic")]

end StepResult

namespace Stage

/-- Publications may be nested this deeply on a stage. -/
def nesting : Nat := 1000000

def new (catalog : Catalog Host) (renderer : Renderer) (config : Playback.Config) : Stage :=
  World.new catalog renderer config nesting .blank

/-- Carries out an action. -/
def act {α : Type} (s : Stage) (f : α → StepResult) (a : Act Host α) : StepResult × Stage :=
  let (result, after) := a.run s
  (.ofHalt f result, after)

/-- Carries out an action that has nothing to tell. -/
def run (s : Stage) (a : Act Host Unit) : StepResult × Stage := s.act (fun _ => .done) a

def deed (s : Stage) (d : Deed) : StepResult × Stage :=
  let (result, after) := (World.run d.script).run s
  (.ofHalt (fun _ => .value after.memory.outcome) result, after)

def mark (s : Stage) : StepResult × Stage :=
  let mark := s.bus.mark
  (.value (Deed.count mark.number),
    { s with memory := { s.memory with marks := s.memory.marks ++ [mark] } })

def since (s : Stage) (place : Nat) : StepResult × Stage :=
  match s.memory.marks[place]? with
  | some mark => (.value (.list ((s.bus.since mark).map fun id => Deed.count id.number)), s)
  | none => (.value (.object [("error", .text "bad_input")]), s)

def peek (s : Stage) (id : String) : String :=
  let look (kind : String) : Except Error View := (s.reach id kind).map fun (i, b) => b.view i
  let found := match look variablesKind with
    | .error (.wrongModuleKind _ _) => look probeKind
    | other => other
  describe s.memory id found

/-- The lines logged so far, oldest first, and the stage with an empty log. -/
def takeLog (s : Stage) : List String × Stage :=
  (s.memory.log.reverse, { s with memory := { s.memory with log := [] } })

def listenerCounts (s : Stage) : List Nat := [s.bus.count .declared, s.bus.count .changed]

end Stage

/-- Something that happens to the bus of a stage. -/
inductive BusStep where
  | deed (d : Deed)
  | mark
  | since (place : Nat)

def BusStep.step (s : Stage) : BusStep → StepResult × Stage
  | .deed d => s.deed d
  | .mark => s.mark
  | .since place => s.since place

end Replay.Scenario
