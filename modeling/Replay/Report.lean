import Replay.Error
import Replay.Trace.State
import Replay.Trace.Display

/-! Reports: errors and snapshots as JSON, for those who watch from outside. -/
namespace Replay

namespace Error

def name : Error → String
  | unknownModule _ => "UnknownModule"
  | moduleNotFound _ => "ModuleNotFound"
  | wrongModuleKind .. => "ModuleTypeMismatch"
  | moduleBusy _ => "ModuleBusy"
  | missingDependency .. => "MissingDependency"
  | dependencyCycle _ => "DependencyCycle"
  | invalidLevel .. => "InvalidLevel"
  | interpreter .. => "Interpreter"
  | timeout _ => "Timeout"
  | malformed _ => "Serialization"
  | system _ => "Io"

def categoryName : Json.ReadError.Category → String
  | .grammar => "syntax"
  | .ending => "eof"
  | .data => "data"

def report (e : Error) : Json :=
  let category := match e with
    | .malformed r => [("category", Json.text (categoryName r.category))]
    | _ => []
  let source := match e with
    | .interpreter _ (some c) => [("source", Json.text c.message)]
    | _ => []
  .object (category ++ [("configuration", .bool e.isConfiguration), ("error", .text e.name),
    ("message", .text e.message)] ++ source)

end Error

def Tracked.report (v : Tracked) : List Json := [.text v.value.display, .text v.source.display]

/-- Each place with the value it holds and where that came from. -/
def Snapshot.report (s : Snapshot) : Json :=
  .list (s.toList.map fun (location, v) => .list (.text location.display :: v.report))

end Replay
