import Replay.Error
import Replay.Json.Record
import Replay.Text.Blank
import Replay.Text.Utf8

/-! Levels: what a learner is asked for, the code to begin with and the modules to load. -/
namespace Replay

structure Level where
  id : String
  title : String
  objective : String
  code : String
  /-- The names of the modules, in the order of loading. -/
  modules : List String
  deriving DecidableEq, Inhabited

/-- The first entry that equals an earlier one; `seen` holds the entries before the list. -/
def firstRepeated (seen : List String) : List String → Option String
  | [] => none
  | name :: rest => if name ∈ seen then some name else firstRepeated (name :: seen) rest

namespace Level

open Json

/-- A level needs an id that is not blank, and lists each module once. -/
def validate (l : Level) : Except Error Unit :=
  if Replay.Text.isBlankText l.id then .error (.invalidLevel l.title "level id is empty")
  else match firstRepeated [] l.modules with
    | some name => .error (.invalidLevel l.id ("module " ++ name ++ " is listed more than once"))
    | none => .ok ()

def toJson (l : Level) : Json :=
  .object [("id", .text l.id), ("title", .text l.title), ("objective", .text l.objective),
    ("initialCode", .text l.code), ("modules", texts l.modules)]

/-- The parts of a level that are read so far. -/
structure Draft where
  id : Option String
  title : Option String
  objective : Option String
  code : Option String
  modules : Option (List String)

def record : Record Draft Level where
  title := "struct LevelConfig"
  fields :=
    [.of "id" Reader.string (·.id) (fun s d => { d with id := some s }) false,
     .of "title" Reader.string (·.title) (fun s d => { d with title := some s }) false,
     .of "objective" Reader.string (·.objective) (fun s d => { d with objective := some s }) false,
     .of "initialCode" Reader.string (·.code) (fun s d => { d with code := some s }) false,
     .of "modules" (Reader.list Reader.string) (·.modules)
       (fun s d => { d with modules := some s }) false]
  blank := ⟨none, none, none, none, none⟩
  build d := return {
    id := ← need "id" d.id
    title := ← need "title" d.title
    objective := ← need "objective" d.objective
    code := ← need "initialCode" d.code
    modules := ← need "modules" d.modules }

/-- The level a JSON text describes, if it is a valid one. -/
def parse (text : String) : Except Error Level := do
  let l ← liftRead (Reader.run record.reader text)
  l.validate
  return l

/-- The level that the bytes of a file describe; `none` is the file that is not there. -/
def load : Option (List UInt8) → Except Error Level
  | none => .error (.system (.refused .notFound))
  | some bytes => match Replay.Text.utf8? bytes with
    | some json => parse json
    | none => .error (.system .notUtf8)

end Level

end Replay
