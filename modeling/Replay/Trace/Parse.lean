import Replay.Trace.Wire
import Replay.Trace.Display
import Replay.Json.Record

/-! Reading traces and their parts from JSON text. -/
namespace Replay

open Json

def Json.Reader.whole {α : Type} (f : Json → α) : Reader α
  | room, node => f <$> Reader.any room node

def Source.reader : Reader Source := Reader.whole Source.ofJson

def Value.reader : Reader Value := Reader.whole Value.ofJson

def Event.reader : Reader Event := Reader.whole Event.ofJson

/-- The parts of a tracked value that are read so far. -/
structure TrackedDraft where
  value : Option Value
  source : Option Source

def Tracked.record : Record TrackedDraft Tracked where
  title := "struct TrackedValue"
  fields :=
    [.of "value" Value.reader (·.value) (fun v d => { d with value := some v }) false,
     .of "source" Source.reader (·.source) (fun s d => { d with source := some s }) false]
  blank := ⟨none, none⟩
  build d := return ⟨← need "value" d.value, ← need "source" d.source⟩

def Tracked.reader : Reader Tracked := Tracked.record.reader

/-- The parts of a slot that are read so far. -/
structure SlotDraft where
  array : Option UInt64
  index : Option UInt64

def Location.slotRecord : Record SlotDraft Location where
  title := "struct variant Location::ArraySlot"
  fields :=
    [.of "id" (Reader.natural "u64") (·.array) (fun n d => { d with array := some n }) false,
     .of "index" (Reader.natural "usize") (·.index) (fun n d => { d with index := some n }) false]
  blank := ⟨none, none⟩
  build d := return .slot (← need "id" d.array) (← need "index" d.index)

def Location.reader : Reader Location :=
  Reader.variant
    [("Variable", .value fun room node => .variable <$> Reader.string room node),
     ("ArraySlot", .record slotRecord.reader)]

def Location.toJson : Location → Json
  | .variable name => (Source.variable name).toJson
  | .slot array index => (Source.slot array index).toJson

/-- Types nest in one another, so reading one opens as many objects as it has levels; `levels`
bounds them and is as large as `room` can be. -/
def ElementType.readerWithin : (levels : Nat) → Reader ElementType
  | 0 => fun _ _ => .error (.flaw .tooDeep)
  | levels + 1 =>
    Reader.variant
      [("Integer", .unit .integer), ("Float", .unit .float), ("Boolean", .unit .boolean),
       ("String", .unit .string),
       ("Array", .value fun room node => .array <$> readerWithin levels room node),
       ("Nil", .unit .nil)]

def ElementType.reader : Reader ElementType := readerWithin (Reader.maxOpen + 1)

def FunctionKind.reader : Reader FunctionKind :=
  Reader.variant [("Native", .value fun room node => .native <$> Reader.string room node)]

def Event.Kind.all : List Event.Kind := [.init, .assign, .compare, .unknown]

def Event.Kind.toJson (k : Event.Kind) : Json := .text k.display

def Event.Kind.reader : Reader Event.Kind :=
  Reader.variant (all.map fun k => (k.display, .unit k))

/-- The event a JSON text describes. -/
def Event.parse (text : String) : Except ReadError Event := Reader.run Event.reader text

namespace Trace

def reader : Reader Trace := Reader.list Event.reader

/-- The trace a JSON text describes: a list of events. -/
def parse (text : String) : Except ReadError Trace := Reader.run reader text

end Trace

end Replay
