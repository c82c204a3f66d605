import Replay.Trace.Parse

/-! Notices: what modules tell each other on the bus. -/
namespace Replay

open Json

inductive Notice where
  /-- A variable came into being. -/
  | declared (name : String) (value : Tracked)
  /-- A variable got another value. -/
  | changed (name : String) (old new : Tracked)
  deriving DecidableEq

inductive Notice.Kind where
  | declared
  | changed
  deriving DecidableEq, Repr

namespace Notice

def kind : Notice → Kind
  | declared .. => .declared
  | changed .. => .changed

def Kind.name : Kind → String
  | declared => "VARIABLE_DECLARED"
  | changed => "VARIABLE_CHANGED"

def Kind.toJson (k : Kind) : Json := .text k.name

def Kind.variants : List (String × Payload Kind) :=
  [(Kind.declared.name, .unit .declared), (Kind.changed.name, .unit .changed)]

def Kind.reader : Reader Kind := Reader.variant variants

/-- The short form: the name and the values without their sources. -/
def display : Notice → String
  | declared name value => Kind.declared.name ++ " " ++ name ++ " " ++ value.value.display
  | changed name old new =>
    Kind.changed.name ++ " " ++ name ++ " " ++ old.value.display ++ " -> " ++ new.value.display

def data : Notice → Json
  | declared name value => .object [("name", .text name), ("data", value.toJson)]
  | changed name old new =>
    .object [("name", .text name), ("old_data", old.toJson), ("new_data", new.toJson)]

def toJson (n : Notice) : Json := .object [("type", n.kind.toJson), ("data", n.data)]

/-- The parts of a notice that are read so far. -/
structure Draft where
  name : Option String
  first : Option Tracked
  second : Option Tracked

def nameField : Record.Field Draft :=
  .of "name" Reader.string (·.name) (fun s d => { d with name := some s }) false

def firstField (name : String) (value : Reader Tracked) : Record.Field Draft :=
  .of name value (·.first) (fun v d => { d with first := some v }) false

def secondField (name : String) (value : Reader Tracked) : Record.Field Draft :=
  .of name value (·.second) (fun v d => { d with second := some v }) false

/-- The data of a notice of the given kind; `value` reads the values in it. -/
def record (value : Reader Tracked) : Kind → Record Draft Notice
  | .declared => {
      title := "struct variant ModuleEvent::VariableDeclared"
      fields := [nameField, firstField "data" value]
      blank := ⟨none, none, none⟩
      build := fun d => do return .declared (← need "name" d.name) (← need "data" d.first) }
  | .changed => {
      title := "struct variant ModuleEvent::VariableChanged"
      fields := [nameField, firstField "old_data" value, secondField "new_data" value]
      blank := ⟨none, none, none⟩
      build := fun d => do
        return .changed (← need "name" d.name) (← need "old_data" d.first)
          (← need "new_data" d.second) }

/-- The data of a notice is an object; its fields in a list do not do. -/
def dataReader (value : Reader Tracked) (k : Kind) : Reader Notice
  | room, .object members ending => (record value k).readObject room members ending
  | _, node => Reader.wrongKind (record value k).title node

/-- What is known of a notice: its data cannot be read before its kind is known, and are kept. -/
inductive Progress where
  | nothing
  | kind (k : Kind)
  | data (kept : Node)
  | whole (n : Notice)

open Reader in
def readMembers (room : Nat) : List (Text × Node) → Progress → Except ReadError Progress
  | [], p => .ok p
  | (key, node) :: rest, p => do
    let key ← content key
    if key = "type" then
      match p with
      | .nothing => readMembers room rest (.kind (← Kind.reader room node))
      | .data kept =>
        let k ← Kind.reader room node
        readMembers room rest (.whole (← dataReader Tracked.record.keptReader k room kept))
      | .kind _ | .whole _ => refuse (.repeated key)
    else if key = "data" then
      match p with
      | .nothing =>
        let _ ← any room node
        readMembers room rest (.data node)
      | .kind k => readMembers room rest (.whole (← dataReader Tracked.reader k room node))
      | .data _ | .whole _ => refuse (.repeated key)
    else
      check node.skip?
      readMembers room rest p

def title : String := "adjacently tagged enum ModuleEvent"

open Reader in
def readItems (room : Nat) (nodes : List Node) (ending : Ending) : Except ReadError Notice := do
  match nodes with
  | [] =>
    check ending.readList?
    refuse (.wrongLength 0 title)
  | [tag] =>
    let _ ← bareName Kind.variants room tag
    check ending.readList?
    refuse (.wrongLength 1 title)
  | tag :: data :: rest =>
    let k ← bareName Kind.variants room tag
    let n ← dataReader Tracked.reader k room data
    check (Record.afterLast rest ending)
    return n

open Reader in
def reader : Reader Notice
  | room, .object members ending => do
    let room ← enter room
    let p ← readMembers room members .nothing
    check ending.readObject?
    match p with
    | .whole n => return n
    | .kind _ => refuse (.missing "data")
    | .nothing | .data _ => refuse (.missing "type")
  | room, .list nodes ending => do
    let room ← enter room
    readItems room nodes ending
  | _, node => wrongKind title node

/-- The notice a JSON text describes. -/
def parse (text : String) : Except ReadError Notice := Reader.run reader text

end Notice

end Replay
