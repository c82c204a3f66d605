import Replay.Json.Record

/-! What a renderer is asked to show: surfaces to mount things on, and the elements on them. -/
namespace Replay

open Json

structure SurfaceId where
  number : Nat
  deriving DecidableEq, Repr, Inhabited

structure ElementId where
  number : Nat
  deriving DecidableEq, Repr, Inhabited

def wordToJson (n : Nat) : Json := natural (.ofNat n)

def wordReader : Reader Nat := fun room node => UInt64.toNat <$> Reader.natural "u64" room node

def SurfaceId.toJson (s : SurfaceId) : Json := wordToJson s.number

def SurfaceId.reader : Reader SurfaceId := fun room node => SurfaceId.mk <$> wordReader room node

def ElementId.toJson (e : ElementId) : Json := wordToJson e.number

def ElementId.reader : Reader ElementId := fun room node => ElementId.mk <$> wordReader room node

namespace Element

inductive Kind where
  /-- A box with the name and the value of a variable. -/
  | variableBox
  deriving DecidableEq, Repr

def Kind.name : Kind → String
  | variableBox => "variable_box"

def Kind.toJson (k : Kind) : Json := .text k.name

def Kind.reader : Reader Kind := Reader.variant [(Kind.variableBox.name, .unit .variableBox)]

/-- The content of an element. -/
structure Spec where
  kind : Kind
  label : String
  text : String
  /-- Where the content came from. -/
  source : Option String
  deriving DecidableEq, Repr

namespace Spec

def toJson (s : Spec) : Json :=
  .object ([("kind", s.kind.toJson), ("label", .text s.label), ("text", .text s.text)] ++
    (s.source.map fun t => ("source", .text t)).toList)

/-- The parts of a content that are read so far; a source may be read as absent. -/
structure Draft where
  kind : Option Kind
  label : Option String
  text : Option String
  source : Option (Option String)

def record : Record Draft Spec where
  title := "struct ElementSpec"
  fields :=
    [.of "kind" Kind.reader (·.kind) (fun k d => { d with kind := some k }) false,
     .of "label" Reader.string (·.label) (fun s d => { d with label := some s }) false,
     .of "text" Reader.string (·.text) (fun s d => { d with text := some s }) false,
     .of "source" (Reader.optional Reader.string) (·.source)
       (fun s d => { d with source := some s }) false]
  blank := ⟨none, none, none, none⟩
  build d := return {
    kind := ← need "kind" d.kind
    label := ← need "label" d.label
    text := ← need "text" d.text
    source := d.source.getD none }

def reader : Reader Spec := record.reader

end Spec

end Element

end Replay
