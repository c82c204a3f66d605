import Replay.Trace.Parse
import Replay.Render.Element

/-! Declared variables and the boxes that show them. -/
namespace Replay

open Json

structure Variable where
  name : String
  data : Tracked
  deriving DecidableEq

namespace Variable

/-- The box of a variable has its name, its value and where the value came from. -/
def spec (v : Variable) : Element.Spec :=
  ⟨.variableBox, v.name, v.data.value.display, some v.data.source.display⟩

def toJson (v : Variable) : Json := .object [("name", .text v.name), ("data", v.data.toJson)]

/-- The parts of a variable that are read so far. -/
structure Draft where
  name : Option String
  data : Option Tracked

def record : Record Draft Variable where
  title := "struct Variable"
  fields :=
    [.of "name" Reader.string (·.name) (fun s d => { d with name := some s }) false,
     .of "data" Tracked.reader (·.data) (fun v d => { d with data := some v }) false]
  blank := ⟨none, none⟩
  build d := return ⟨← need "name" d.name, ← need "data" d.data⟩

def reader : Reader Variable := record.reader

end Variable

end Replay
